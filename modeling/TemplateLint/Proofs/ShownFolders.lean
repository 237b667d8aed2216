import TemplateLint.Proofs.Answering
import TemplateLint.Proofs.RepairedText
import TemplateLint.Proofs.Restarts

/-!
# Folders as they are shown

The choices for folders are kept by what is shown of them, while folders are the same when their
components are.  Of the spellings of one folder no two are shown alike, so a choice holds for the
spelling it was made in.  Two folders may be shown alike, but only where bytes are no text: then a
choice for one of them holds for the other one as well.
Main exports: `Path.eq_of_same_of_display`, `Path.IsPlain`, `Store.AnswersAsShown`,
`Store.answersAsShown`.
-/

namespace TemplateLint

namespace Path

/-! ## Parts -/

/-- Bytes without a separator, and what follows the first one. -/
theorem exists_part (bytes : List UInt8) :
    separator ∉ bytes ∨ ∃ part rest, bytes = part ++ separator :: rest ∧ separator ∉ part := by
  by_cases parted : separator ∈ bytes
  · exact Or.inr (List.eq_append_cons_of_mem parted)
  · exact Or.inl parted

theorem splitSeparators_eq_singleton {part : List UInt8} (whole : separator ∉ part) :
    splitSeparators part = [part] := by
  induction part with
  | nil => rfl
  | cons byte rest inductionHypothesis =>
      rw [List.mem_cons, not_or] at whole
      rw [splitSeparators, if_neg (Ne.symm whole.1), inductionHypothesis whole.2]

theorem splitSeparators_eq (bytes : List UInt8) :
    splitSeparators bytes = bytes.splitOn separator := by
  induction length : bytes.length using Nat.strong_induction_on generalizing bytes with
  | _ bound inductionHypothesis =>
      rcases exists_part bytes with whole | ⟨part, rest, rfl, whole⟩
      · rw [splitSeparators_eq_singleton whole, List.splitOn_eq_singleton whole]
      · have shorter : rest.length < bound := by
          rw [← length, List.length_append, List.length_cons]
          omega
        rw [splitSeparators_append, splitSeparators_eq_singleton whole,
          inductionHypothesis _ shorter rest rfl, List.splitOn_append_cons_self_of_not_mem whole]
        rfl

/-- The parts make up the path. -/
theorem bytes_eq_of_splitSeparators {first second : List UInt8}
    (same : splitSeparators first = splitSeparators second) : first = second := by
  rw [splitSeparators_eq, splitSeparators_eq] at same
  calc first = [separator].intercalate (first.splitOn separator) :=
        (List.intercalate_splitOn separator).symm
    _ = [separator].intercalate (second.splitOn separator) := by rw [same]
    _ = second := List.intercalate_splitOn separator

/-- The parts of what is shown are what is shown of the parts. -/
theorem splitOn_repair (bytes : List UInt8) :
    (Utf8.repair bytes).splitOn '/' = (splitSeparators bytes).map Utf8.repair := by
  induction length : bytes.length using Nat.strong_induction_on generalizing bytes with
  | _ bound inductionHypothesis =>
      have unparted {part : List UInt8} (whole : separator ∉ part) : '/' ∉ Utf8.repair part := by
        intro member
        exact whole (Utf8.mem_of_mem_repair (by decide) (by decide) member)
      rcases exists_part bytes with whole | ⟨part, rest, rfl, whole⟩
      · rw [splitSeparators_eq_singleton whole, List.splitOn_eq_singleton (unparted whole)]
        rfl
      · have shorter : rest.length < bound := by
          rw [← length, List.length_append, List.length_cons]
          omega
        have slash : Char.ofNat separator.toNat = '/' := by decide
        rw [Utf8.repair_append (by decide), slash,
          List.splitOn_append_cons_self_of_not_mem (unparted whole),
          inductionHypothesis _ shorter rest rfl, splitSeparators_append,
          splitSeparators_eq_singleton whole]
        rfl

/-! ## One folder, shown alike -/

/-- What is shown as a dot is a dot. -/
theorem repair_eq_dot {part : List UInt8} : Utf8.repair part = ['.'] ↔ part = [dot] := by
  constructor
  · intro shown
    obtain ⟨others, rfl, nothing⟩ := Utf8.repair_eq_cons (by decide) (by decide) shown
    rw [Utf8.repair_eq_nil.mp nothing]
    rfl
  · intro same
    rw [same]
    decide +kernel

theorem component?_eq_none {part : List UInt8} :
    component? part = none ↔ part = [] ∨ part = [dot] := by
  unfold component?
  split_ifs with empty single double
  · simp [empty]
  · simp [single]
  · simp [double]
  · simp [empty, single]

theorem component?_injective {first second : List UInt8} {component : Component}
    (one : component? first = some component) (two : component? second = some component) :
    first = second := by
  unfold component? at one two
  split_ifs at one two with _ _ up _ _ upToo
  · rw [up, upToo]
  · cases one
    cases two
  · cases one
    cases two
  · cases one
    cases two
    rfl

/-- Nothing is shown like a part that denotes nothing. -/
theorem part_eq_of_none {part other : List UInt8} (nothing : component? part = none)
    (shown : Utf8.repair part = Utf8.repair other) : part = other := by
  rcases component?_eq_none.mp nothing with rfl | rfl
  · exact (Utf8.repair_eq_nil.mp (shown.symm.trans (Utf8.repair_eq_nil.mpr rfl))).symm
  · exact (repair_eq_dot.mp (shown.symm.trans (repair_eq_dot.mpr rfl))).symm

/-- Parts that denote the same, and are shown alike one by one, are the same. -/
theorem parts_eq {first second : List (List UInt8)}
    (denote : first.filterMap component? = second.filterMap component?)
    (shown : first.map Utf8.repair = second.map Utf8.repair) : first = second := by
  induction first generalizing second with
  | nil =>
      have empty : second.map Utf8.repair = [] := shown.symm
      exact (List.map_eq_nil_iff.mp empty).symm
  | cons part rest inductionHypothesis =>
      cases second with
      | nil => cases shown
      | cons other others =>
          obtain ⟨here, later⟩ := List.cons.inj shown
          cases found : component? part with
          | none =>
              have same := part_eq_of_none found here
              rw [← same, List.filterMap_cons_none found, List.filterMap_cons_none found] at denote
              rw [same, inductionHypothesis denote later]
          | some component =>
              cases foundToo : component? other with
              | none =>
                  have same := part_eq_of_none foundToo here.symm
                  rw [same, found] at foundToo
                  cases foundToo
              | some another =>
                  rw [List.filterMap_cons_some found, List.filterMap_cons_some foundToo] at denote
                  obtain ⟨rfl, behind⟩ := List.cons.inj denote
                  rw [component?_injective found foundToo, inductionHypothesis behind later]

theorem head_repair (bytes : List UInt8) :
    bytes.head? = some separator ↔ (Utf8.repair bytes).head? = some '/' := by
  have slash : Char.ofNat separator.toNat = '/' := by decide
  constructor
  · intro first
    obtain ⟨rest, rfl⟩ := List.head?_eq_some_iff.mp first
    rw [Utf8.repair_cons, Utf8.readChar_ascii (by decide), slash]
    rfl
  · intro shown
    obtain ⟨rest, whole⟩ := List.head?_eq_some_iff.mp shown
    obtain ⟨others, rfl, -⟩ := Utf8.repair_eq_cons (by decide) (by decide) whole
    rfl

/-- Paths that are shown alike start alike. -/
theorem start_eq_of_repair {first second : List UInt8}
    (shown : Utf8.repair first = Utf8.repair second) : start first = start second := by
  have roots : first.head? = some separator ↔ second.head? = some separator := by
    rw [head_repair, head_repair, shown]
  have dots (bytes : List UInt8) : (splitSeparators bytes).head? = some [dot] ↔
      ((Utf8.repair bytes).splitOn '/').head? = some ['.'] := by
    rw [splitOn_repair, List.head?_map, Option.map_eq_some_iff]
    simp only [repair_eq_dot, exists_eq_right]
  have heres : (splitSeparators first).head? = some [dot] ↔
      (splitSeparators second).head? = some [dot] := by
    rw [dots, dots, shown]
  simp only [start, beq_iff_eq, roots, heres]

/-- Two spellings of one folder are shown differently. -/
theorem eq_of_same_of_display {first second : Path} (same : first.Same second)
    (shown : first.display = second.display) : first = second := by
  have repaired : Utf8.repair first.bytes = Utf8.repair second.bytes := by
    rw [display, display, Utf8.display_eq, Utf8.display_eq] at shown
    exact String.ofList_injective shown
  have parts : (splitSeparators first.bytes).map Utf8.repair =
      (splitSeparators second.bytes).map Utf8.repair := by
    rw [← splitOn_repair, ← splitOn_repair, repaired]
  rw [Same, components_eq, components_eq, start_eq_of_repair repaired] at same
  have bytes := bytes_eq_of_splitSeparators (parts_eq (List.append_cancel_left same) parts)
  cases first
  cases second
  rw [Path.mk.injEq]
  exact bytes

/-! ## Plain spelling -/

/-- The bytes that spell a component. -/
def Component.spelling : Component → List UInt8
  | .root => []
  | .here => [dot]
  | .up => [dot, dot]
  | .entry name => name

/-- The path of the components, with one separator between two of them. -/
def spell : List Component → Path
  | [.root] => ⟨[separator]⟩
  | components => ⟨[separator].intercalate (components.map Component.spelling)⟩

/-- The path has nothing that its components do without. -/
def IsPlain (path : Path) : Prop :=
  path = spell path.components

instance (path : Path) : Decidable path.IsPlain :=
  inferInstanceAs (Decidable (path = spell path.components))

/-- A folder has one plain spelling. -/
theorem IsPlain.eq_of_same {first second : Path} (one : first.IsPlain) (two : second.IsPlain)
    (same : first.Same second) : first = second := by
  have components : first.components = second.components := same
  rw [one, two, components]

example : (ofString "/srv/app").IsPlain ∧ ¬ (ofString "/srv//app/.").IsPlain := by
  decide +kernel

end Path

/-! ## Answers about folders -/

namespace Store

/-- A call was about that. -/
def Chosen (calls : List Suppression) (scope : Scope) : Prop :=
  ∃ call ∈ calls, call.scope = scope

/-- A folder is reported by what is shown of it. -/
theorem isSuppressed_after (store : Store) (calls : List Suppression) (folder : Path) :
    (store.after calls).isSuppressed (some folder) = true ↔
      store.isSuppressed (some folder) = true ∨ Chosen calls .everywhere ∨
        ∃ recorded, Chosen calls (.folder recorded) ∧ recorded.display = folder.display := by
  have covers := cover_after store calls (.folder folder)
  rw [isSuppressed_iff_cover, isSuppressed_iff_cover]
  refine covers.trans (or_congr_right ?_)
  constructor
  · intro reported
    obtain ⟨call, member, covering⟩ := reported
    cases about : call.scope with
    | everywhere => exact Or.inl ⟨call, member, about⟩
    | folder recorded =>
        rw [about] at covering
        exact Or.inr ⟨recorded, ⟨call, member, about⟩, covering.symm⟩
  · intro chosen
    rcases chosen with ⟨call, member, about⟩ | ⟨recorded, ⟨call, member, about⟩, shown⟩
    · refine ⟨call, member, ?_⟩
      rw [about]
      trivial
    · refine ⟨call, member, ?_⟩
      rw [about]
      exact shown.symm

/-- How a store answers about a folder after calls. -/
structure AnswersAsShown (store : Store) (calls : List Suppression) (folder : Path) : Prop where
  /-- A choice for the folder counts in the spelling that it was made in, and so does one for
  another folder that is shown alike. -/
  answers : (store.after calls).isSuppressed (some folder) = true ↔
    store.isSuppressed (some folder) = true ∨ Chosen calls .everywhere ∨
      ∃ recorded, Chosen calls (.folder recorded) ∧
        (recorded = folder ∨ ¬ recorded.Same folder ∧ recorded.display = folder.display)
  /-- Another folder is only shown alike when the bytes of one of them are no text. -/
  mistaken : ∀ recorded : Path, ¬ recorded.Same folder → recorded.display = folder.display →
    ¬ (Utf8.IsText recorded.bytes ∧ Utf8.IsText folder.bytes)
  /-- Between plain spellings in text, the choices that count are those for the same folder. -/
  intended : folder.IsPlain ∧ Utf8.IsText folder.bytes →
    (∀ recorded, Chosen calls (.folder recorded) →
      recorded.IsPlain ∧ Utf8.IsText recorded.bytes) →
    ((store.after calls).isSuppressed (some folder) = true ↔
      store.isSuppressed (some folder) = true ∨ Chosen calls .everywhere ∨
        ∃ recorded, Chosen calls (.folder recorded) ∧ recorded.Same folder)

theorem answersAsShown (store : Store) (calls : List Suppression) (folder : Path) :
    AnswersAsShown store calls folder := by
  have apart (recorded : Path) (text : Utf8.IsText recorded.bytes)
      (textToo : Utf8.IsText folder.bytes) (shown : recorded.display = folder.display) :
      recorded = folder := by
    cases recorded
    cases folder
    rw [Path.mk.injEq]
    exact text.display_injective textToo shown
  constructor
  case answers =>
    rw [isSuppressed_after]
    refine or_congr_right (or_congr_right (exists_congr fun recorded => and_congr_right' ?_))
    constructor
    · intro shown
      by_cases same : recorded.Same folder
      · exact Or.inl (Path.eq_of_same_of_display same shown)
      · exact Or.inr ⟨same, shown⟩
    · intro counts
      rcases counts with spelled | ⟨-, shown⟩
      · rw [spelled]
      · exact shown
  case mistaken =>
    intro recorded other shown texts
    apply other
    rw [apart recorded texts.1 texts.2 shown]
    rfl
  case intended =>
    intro plain plainly
    rw [isSuppressed_after]
    refine or_congr_right (or_congr_right (exists_congr fun recorded => and_congr_right ?_))
    intro chosen
    obtain ⟨spelled, text⟩ := plainly recorded chosen
    constructor
    · intro shown
      rw [apart recorded text plain.2 shown]
      rfl
    · intro same
      rw [spelled.eq_of_same plain.1 same]

end Store

namespace Sample

/-- A call that suppresses a folder, and finds no files. -/
def hidden (bytes : List UInt8) : Suppression :=
  ⟨.folder ⟨bytes⟩, Disk.empty⟩

end Sample

open Sample in
/-- One folder in two spellings, and two folders that are shown alike. -/
theorem sample_shown :
    let spelled := Store.inMemory.after [hidden (Utf8.encode "/srv/app")]
    let shown := Store.inMemory.after [hidden [0x2f, 0xff]]
    (Path.ofString "/srv/app").Same (Path.ofString "/srv/app/") ∧
      spelled.isSuppressed (some (Path.ofString "/srv/app")) = true ∧
      spelled.isSuppressed (some (Path.ofString "/srv/app/")) = false ∧
      ¬ (⟨[0x2f, 0xff]⟩ : Path).Same ⟨[0x2f, 0xfe]⟩ ∧
      shown.isSuppressed (some ⟨[0x2f, 0xfe]⟩) = true := by
  decide +kernel

end TemplateLint
