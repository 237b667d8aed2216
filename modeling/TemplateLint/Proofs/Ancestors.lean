import Mathlib.Data.List.Infix
import TemplateLint.Proofs.ShownFolders

/-!
# The directories above a path

A path that is named from the root ends in the root or in a component.  In the second case the
directory above it has its components but that one.  So the directories above a path are named by
the beginnings of its components, each once and the longest first.
Main exports: `Path.parent?_cases`, `Path.Climbs`, `Path.climbs_ancestors`,
`Path.Climbs.map_components`.
-/

namespace TemplateLint.Path

/-! ## The end of a path -/

/-- The components behind the root. -/
def steps (bytes : List UInt8) : List Component :=
  (splitSeparators bytes).filterMap component?

theorem components_of_isAbsolute {path : Path} (absolute : path.isAbsolute = true) :
    path.components = .root :: steps path.bytes := by
  have starts : start path.bytes = [.root] := if_pos absolute
  rw [components_eq, starts]
  rfl

theorem steps_append (front : List UInt8) {part : List UInt8} (whole : separator ∉ part) :
    steps (front ++ separator :: part) = steps front ++ (component? part).toList := by
  rw [steps, splitSeparators_append, splitSeparators_eq_singleton whole, List.filterMap_append]
  cases denotes : component? part <;> simp [steps, denotes]

/-- The bytes end in a part that denotes a component. -/
structure EndsIn (bytes front : List UInt8) (component : Component) : Prop where
  part : ∃ name, bytes = front ++ separator :: name ∧ separator ∉ name ∧
    component? name = some component

theorem EndsIn.steps_eq {bytes front : List UInt8} {component : Component}
    (ends : EndsIn bytes front component) : steps bytes = steps front ++ [component] := by
  obtain ⟨name, rfl, whole, denotes⟩ := ends.part
  rw [steps_append front whole, denotes]
  rfl

/-- Bytes from the root on, read backwards, and what is left of them when nothing at the end is
without meaning: the same components, and one of them at the end, unless there is only the root. -/
structure Trims (reversed trimmed : List UInt8) : Prop where
  rooted : trimmed.getLast? = some separator
  shorter : trimmed.length ≤ reversed.length
  steps : steps trimmed.reverse = steps reversed.reverse
  ends : trimmed = [separator] ∨ ∃ front component, EndsIn trimmed.reverse front component

theorem Trims.of_less {reversed more trimmed : List UInt8} (trims : Trims reversed trimmed)
    (longer : reversed.length ≤ more.length)
    (same : Path.steps reversed.reverse = Path.steps more.reverse) : Trims more trimmed :=
  ⟨trims.rooted, Nat.le_trans trims.shorter longer, trims.steps.trans same, trims.ends⟩

/-- What does not end in a separator or in a dot of its own ends in a component. -/
theorem endsIn_of_name {byte : UInt8} {rest : List UInt8} (rooted : rest.getLast? = some separator)
    (name : byte ≠ separator) (proper : byte = dot → rest.head? ≠ some separator) :
    ∃ front component, EndsIn (byte :: rest).reverse front component := by
  have parted : separator ∈ rest := List.mem_of_getLast? rooted
  obtain ⟨taken, front, rfl, whole⟩ := List.eq_append_cons_of_mem parted
  have denotes : component? (taken.reverse ++ [byte]) ≠ none := by
    rw [Ne, component?_eq_none]
    rintro (empty | single)
    · simp at empty
    · have alone : taken.reverse = [] ∧ byte = dot := by
        simpa using List.append_inj' (show taken.reverse ++ [byte] = [] ++ [dot] from single) rfl
      refine proper alone.2 ?_
      rw [List.reverse_eq_nil_iff.mp alone.1]
      rfl
  obtain ⟨component, found⟩ := Option.ne_none_iff_exists'.mp denotes
  refine ⟨front.reverse, component, ⟨taken.reverse ++ [byte], by simp, ?_, found⟩⟩
  simp [whole, name.symm]

theorem trimEnd_trims {reversed : List UInt8} (rooted : reversed.getLast? = some separator) :
    Trims reversed (trimEnd 1 reversed) := by
  induction reversed with
  | nil => cases rooted
  | cons byte rest inductionHypothesis =>
      cases rest with
      | nil =>
          obtain rfl : byte = separator := Option.some.inj rooted
          exact ⟨rfl, Nat.le_refl _, rfl, Or.inl rfl⟩
      | cons next rest =>
          have below : (next :: rest).getLast? = some separator := by
            rwa [List.getLast?_cons_cons] at rooted
          have trims := inductionHypothesis below
          have longer : ¬ (byte :: next :: rest).length ≤ 1 := by simp
          rw [trimEnd, if_neg longer]
          split_ifs with parts dotted empty
          · refine trims.of_less (by simp) ?_
            rw [List.reverse_cons (a := byte), parts, steps_append _ (List.not_mem_nil)]
            simp [component?]
          · -- the dot stands alone, or else the root would be a dot
            have alone : next = separator := by
              rcases empty with same | short
              · exact same
              · obtain rfl : rest = [] := by simpa using short
                exact Option.some.inj below
            refine trims.of_less (by simp) ?_
            have single : separator ∉ [dot] := by decide
            have dots : (byte :: next :: rest).reverse = rest.reverse ++ separator :: [dot] := by
              simp [dotted, alone]
            rw [dots, alone, List.reverse_cons, steps_append _ single,
              steps_append _ List.not_mem_nil]
            rfl
          · have proper : byte = dot → (next :: rest).head? ≠ some separator :=
              fun _ same => empty (Or.inl (Option.some.inj same))
            exact ⟨rooted, Nat.le_refl _, rfl, Or.inr (endsIn_of_name below parts proper)⟩
          · exact ⟨rooted, Nat.le_refl _, rfl,
              Or.inr (endsIn_of_name below parts fun same => absurd same dotted)⟩

theorem dropName_append {name front : List UInt8} (whole : separator ∉ name) :
    dropName 1 (name ++ separator :: front) = separator :: front := by
  induction name with
  | nil =>
      rw [List.nil_append, dropName, if_pos rfl, ite_self]
  | cons byte name inductionHypothesis =>
      rw [List.mem_cons, not_or] at whole
      have longer : ¬ (byte :: (name ++ separator :: front)).length ≤ 1 := by simp
      rw [List.cons_append, dropName, if_neg longer, if_neg (Ne.symm whole.1),
        inductionHypothesis whole.2]

/-! ## The directory above -/

/-- The root has nothing above it; otherwise the last component is left out. -/
theorem parent?_cases {path : Path} (absolute : path.isAbsolute = true) :
    (path.parent? = none ∧ path.components = [.root]) ∨
      ∃ parent component, path.parent? = some parent ∧ parent.isAbsolute = true ∧
        path.components = parent.components ++ [component] ∧
        parent.bytes.length < path.bytes.length := by
  have body : path.bodyStart = 1 := if_pos absolute
  have rooted : path.bytes.reverse.getLast? = some separator := by
    rw [List.getLast?_reverse]
    simpa [isAbsolute] using absolute
  have trims := trimEnd_trims rooted
  have same : Path.steps path.bytes = Path.steps (trimEnd 1 path.bytes.reverse).reverse := by
    rw [trims.steps, List.reverse_reverse]
  rw [components_of_isAbsolute absolute, same, parent?, body]
  rcases trims.ends with top | ⟨front, component, ends⟩
  · left
    rw [top]
    simp only [List.length_singleton, Nat.le_refl, if_true, absolute, Bool.true_or, true_and]
    rfl
  · right
    obtain ⟨name, spelled, whole, denotes⟩ := ends.part
    have named : name ≠ [] := by
      rintro rfl
      cases denotes
    have backwards : trimEnd 1 path.bytes.reverse = name.reverse ++ separator :: front.reverse := by
      rw [List.reverse_eq_iff.mp spelled]
      simp
    have filled : 0 < name.length := List.length_pos_iff.mpr named
    have longer : ¬ (trimEnd 1 path.bytes.reverse).length ≤ 1 := by
      rw [backwards, List.length_append, List.length_cons, List.length_reverse]
      omega
    have below : (separator :: front.reverse).getLast? = some separator := by
      have last := trims.rooted
      rwa [backwards, List.getLast?_append_of_ne_nil _ (List.cons_ne_nil _ _)] at last
    have trimsAbove := trimEnd_trims below
    have above : (⟨(trimEnd 1 (separator :: front.reverse)).reverse⟩ : Path).isAbsolute = true := by
      simp [isAbsolute, trimsAbove.rooted]
    refine ⟨⟨(trimEnd 1 (separator :: front.reverse)).reverse⟩, component, ?_, above, ?_, ?_⟩
    · simp only [if_neg longer]
      rw [backwards, dropName_append (by simpa using whole)]
    · rw [components_of_isAbsolute above, ends.steps_eq, trimsAbove.steps, List.reverse_cons,
        List.reverse_reverse, steps_append _ List.not_mem_nil]
      simp [component?]
    · have first := trims.shorter
      have second := trimsAbove.shorter
      rw [backwards] at first
      simp only [List.length_append, List.length_cons, List.length_reverse] at first second ⊢
      omega

/-! ## All directories above -/

/-- The paths lead from a path to the root, each to the directory above it. -/
inductive Climbs : Path → List Path → Prop where
  | top {path : Path} (root : path.components = [.root]) : Climbs path [path]
  | up {path parent : Path} {component : Component} {above : List Path}
      (next : path.components = parent.components ++ [component]) (climbs : Climbs parent above) :
      Climbs path (path :: above)

theorem climbs_ancestorsFrom {path : Path} {fuel : Nat} (absolute : path.isAbsolute = true)
    (enough : path.bytes.length ≤ fuel) : Climbs path (path.ancestorsFrom fuel) := by
  induction fuel generalizing path with
  | zero =>
      have empty : path.bytes = [] := List.eq_nil_of_length_eq_zero (Nat.le_zero.mp enough)
      rw [isAbsolute, empty] at absolute
      cases absolute
  | succ fuel inductionHypothesis =>
      rw [ancestorsFrom]
      rcases parent?_cases absolute with ⟨alone, root⟩ | ⟨parent, component, found, rooted, next, less⟩
      · rw [alone]
        exact .top root
      · rw [found]
        exact .up next (inductionHypothesis rooted (by omega))

theorem climbs_ancestors {path : Path} (absolute : path.isAbsolute = true) :
    Climbs path path.ancestors :=
  climbs_ancestorsFrom absolute (Nat.le_refl _)

namespace Climbs

variable {path directory : Path} {paths : List Path}

/-- The directories are named by the beginnings of the components, the longest first. -/
theorem map_components (climbs : Climbs path paths) :
    paths.map components = path.components.inits.tail.reverse := by
  induction climbs with
  | top root =>
      rw [List.map_singleton, root]
      rfl
  | @up path parent component above next climbs inductionHypothesis =>
      have begun : parent.components.inits ≠ [] := by
        cases parent.components <;> simp
      rw [List.map_cons, inductionHypothesis, next, List.inits_append,
        List.tail_append_of_ne_nil begun]
      simp

theorem components_ne_nil (climbs : Climbs path paths) : path.components ≠ [] := by
  cases climbs with
  | top root => simp [root]
  | up next climbs => simp [next]

/-- Every beginning of the components names one of the directories. -/
theorem mem_map_components (climbs : Climbs path paths) {front : List Component} :
    front ∈ paths.map components ↔ front ≠ [] ∧ front <+: path.components := by
  obtain ⟨first, rest, same⟩ := List.exists_cons_of_ne_nil climbs.components_ne_nil
  rw [climbs.map_components, List.mem_reverse, same, List.inits, List.tail_cons, List.mem_map]
  simp only [List.mem_inits]
  constructor
  · rintro ⟨more, within, rfl⟩
    exact ⟨List.cons_ne_nil first more, (List.prefix_cons_inj first).mpr within⟩
  · rintro ⟨filled, within⟩
    obtain ⟨head, more, rfl⟩ := List.exists_cons_of_ne_nil filled
    obtain ⟨rfl, behind⟩ := List.cons_prefix_cons.mp within
    exact ⟨more, behind, rfl⟩

theorem prefix_of_mem (climbs : Climbs path paths) (member : directory ∈ paths) :
    directory.components <+: path.components :=
  (climbs.mem_map_components.mp (List.mem_map_of_mem member)).2

/-- Each directory has fewer components than those before it. -/
theorem pairwise (climbs : Climbs path paths) :
    paths.Pairwise fun near far => far.components.length < near.components.length := by
  induction climbs with
  | top root => exact List.pairwise_singleton _ _
  | up next climbs inductionHypothesis =>
      refine List.pairwise_cons.mpr ⟨fun far member => ?_, inductionHypothesis⟩
      have bound := (climbs.prefix_of_mem member).length_le
      rw [next, List.length_append, List.length_singleton]
      omega

end Climbs

end TemplateLint.Path
