import Mathlib.Data.List.Infix
import TemplateLint.Report.Delimited

/-!
# Tags in a text

The reader of the delimited layout looks for the last place of a tag.  That is the place where the
tag was put as long as the tag does not occur in what follows it; and a tag occurs in a sequence of
fields and tags only inside a field when the tags do not overlap.
Main exports: `Alike`, `Clear`, `Apart`, `infix_of_clear`, `infix_of_apart`, `strip?_eq_some`,
`longest?_append`, `longest?_eq_some`.
-/

namespace TemplateLint.Report

namespace Delimited

/-! ## Overlaps -/

/-- One text begins with the other. -/
def Alike (one other : List Char) : Bool :=
  one.isPrefixOf other || other.isPrefixOf one

/-- No place in the text looks like the beginning of the tag. -/
def Clear (tag : List Char) : List Char → Bool
  | [] => true
  | c :: rest => !Alike tag (c :: rest) && Clear tag rest

/-- No part at the end of the tag looks like the beginning of the text. -/
def Apart (tag text : List Char) : Bool :=
  Clear text tag.tail

section overlaps

variable {tag text after : List Char}

theorem alike_of_append {one other rest after : List Char}
    (same : one ++ rest = other ++ after) : Alike one other = true := by
  rw [Alike, Bool.or_eq_true, List.isPrefixOf_iff_prefix, List.isPrefixOf_iff_prefix]
  exact List.prefix_or_prefix_of_prefix ⟨rest, rfl⟩ ⟨after, same.symm⟩

theorem not_alike_of_clear {part : List Char} (clear : Clear tag text = true) (filled : part ≠ [])
    (ends : part <:+ text) : Alike tag part = false := by
  induction text with
  | nil => exact absurd (List.suffix_nil.mp ends) filled
  | cons c text inductionHypothesis =>
      obtain ⟨unlike, clear⟩ := Bool.and_eq_true_iff.mp clear
      rcases List.suffix_cons_iff.mp ends with rfl | later
      · simpa using unlike
      · exact inductionHypothesis clear later

/-- A tag that occurs in a text after clear text occurs in the text. -/
theorem infix_of_clear (clear : Clear tag text = true) (occurs : tag <:+: text ++ after) :
    tag <:+: after := by
  induction text with
  | nil => exact occurs
  | cons c text inductionHypothesis =>
      obtain ⟨unlike, clear⟩ := Bool.and_eq_true_iff.mp clear
      obtain ⟨before, rest, same⟩ := occurs
      cases before with
      | nil =>
          have alike : Alike tag (c :: text) = true := by
            apply alike_of_append
            simpa using same
          rw [alike] at unlike
          cases unlike
      | cons d before =>
          apply inductionHypothesis clear
          rw [List.cons_append, List.cons_append, List.cons_append] at same
          exact ⟨before, rest, (List.cons.inj same).2⟩

/-- A tag does not begin in a field and end in a tag apart from it. -/
theorem infix_of_apart {field next : List Char} (apart : Apart tag next = true)
    (occurs : tag <:+: field ++ (next ++ after)) : tag <:+: field ∨ tag <:+: next ++ after := by
  induction field with
  | nil => exact Or.inr occurs
  | cons c field inductionHypothesis =>
      obtain ⟨before, rest, same⟩ := occurs
      cases before with
      | cons d before =>
          rw [List.cons_append, List.cons_append, List.cons_append] at same
          rcases inductionHypothesis ⟨before, rest, (List.cons.inj same).2⟩ with inside | later
          · exact Or.inl (inside.trans (List.suffix_cons c field).isInfix)
          · exact Or.inr later
      | nil =>
          -- The tag begins here: it ends in the field, or its end would begin like the next tag.
          rw [List.nil_append] at same
          rcases List.append_eq_append_iff.mp same with ⟨middle, whole, -⟩ | ⟨middle, whole, tail⟩
          · exact Or.inl ⟨[], middle, by rw [whole]; rfl⟩
          · cases middle with
            | nil => exact Or.inl ⟨[], [], by simp [whole]⟩
            | cons d middle =>
                have alike : Alike next (d :: middle) = true := alike_of_append tail
                have ends : d :: middle <:+ tag.tail := by
                  rw [whole]
                  exact List.suffix_append field (d :: middle)
                rw [not_alike_of_clear apart (by simp) ends] at alike
                cases alike

end overlaps

/-! ## Reading tags -/

theorem strip?_eq_some {tag chars rest : List Char} :
    strip? tag chars = some rest ↔ chars = tag ++ rest := by
  induction tag generalizing chars with
  | nil => simp [strip?]
  | cons t tag inductionHypothesis =>
      cases chars with
      | nil => simp [strip?]
      | cons c chars =>
          by_cases same : t = c
          · simp [strip?, same, inductionHypothesis]
          · have other : ¬ c = t := fun equal => same equal.symm
            simp [strip?, same, other]

section longest

variable {α : Type} {tag before rest chars : List Char} {accept : List Char → Option α} {value : α}

/-- What the search finds: the tag stands after the text, and the rest is accepted. -/
theorem longest?_eq_some (found : longest? tag accept chars = some (before, value)) :
    ∃ rest, chars = before ++ (tag ++ rest) ∧ accept rest = some value := by
  induction chars generalizing before with
  | nil => cases found
  | cons c chars inductionHypothesis =>
      rw [longest?] at found
      split at found
      · next further result later =>
          cases found
          obtain ⟨rest, rfl, accepts⟩ := inductionHypothesis later
          exact ⟨rest, rfl, accepts⟩
      · obtain ⟨rest, stripped, found⟩ := Option.bind_eq_some_iff.mp found
        obtain ⟨result, accepts, found⟩ := Option.bind_eq_some_iff.mp found
        cases found
        refine ⟨rest, ?_, accepts⟩
        rw [List.nil_append]
        exact strip?_eq_some.mp stripped

/-- A later place of the tag is taken if there is one. -/
theorem longest?_cons (tag : List Char) (accept : List Char → Option α) (c : Char)
    (chars : List Char) :
    longest? tag accept (c :: chars) =
      ((longest? tag accept chars).map fun found => (c :: found.1, found.2)).or
        (((strip? tag (c :: chars)).bind accept).map fun value => ([], value)) := by
  rw [longest?]
  cases longest? tag accept chars with
  | some found => rfl
  | none =>
      cases strip? tag (c :: chars) with
      | none => rfl
      | some rest => cases value : accept rest <;> simp [value]

/-- A tag that does not overlap itself is found where it stands when it does not occur after
that. -/
theorem longest?_append (filled : tag ≠ []) (clear : Clear tag tag.tail = true)
    (absent : ¬ tag <:+: rest) (accepts : accept rest = some value) :
    longest? tag accept (before ++ (tag ++ rest)) = some (before, value) := by
  induction before with
  | nil =>
      obtain ⟨t, more, rfl⟩ := List.exists_cons_of_ne_nil filled
      have later : longest? (t :: more) accept (more ++ rest) = none := by
        cases found : longest? (t :: more) accept (more ++ rest) with
        | none => rfl
        | some result =>
            obtain ⟨further, other⟩ := result
            obtain ⟨left, same, -⟩ := longest?_eq_some found
            have occurs : t :: more <:+: more ++ rest := ⟨further, left, by rw [same]; simp⟩
            exact absurd (infix_of_clear clear occurs) absent
      have stripped : strip? (t :: more) (t :: (more ++ rest)) = some rest :=
        strip?_eq_some.mpr rfl
      rw [List.nil_append, List.cons_append, longest?, later]
      simp [stripped, accepts]
  | cons c before inductionHypothesis =>
      rw [List.cons_append, longest?, inductionHypothesis]

end longest

end Delimited

/-! ## The tags of the layout -/

def fileTag : List Char := "<filename>".toList
def lineTag : List Char := "</filename><line>".toList
def codeTag : List Char := "</line><code>".toList
def messageTag : List Char := "</code><message>".toList
def endTag : List Char := "</message>".toList

namespace Delimited

theorem nonEmpty?_eq_some {chars filled : List Char} :
    nonEmpty? chars = some filled ↔ chars = filled ∧ chars ≠ [] := by
  unfold nonEmpty?
  split
  · next empty => simp [empty]
  · next present => simp [present]

theorem number?_eq_some {chars digits rest : List Char}
    (found : number? chars = some (digits, rest)) : chars = digits ++ rest := by
  unfold number? at found
  simp only at found
  split at found
  · cases found
  · cases found
    rw [List.prefix_iff_eq_append.mp (List.takeWhile_prefix Text.isDecimal)]

/-! The readers, written with the named tags. -/

theorem codeAndMessage?_eq (chars : List Char) :
    codeAndMessage? chars = (longest? messageTag nonEmpty? chars).bind fun parts =>
      (nonEmpty? parts.1).bind fun code => some (code, parts.2) := rfl

theorem afterFile?_eq (chars : List Char) :
    afterFile? chars = (number? chars).bind fun line => (strip? [':'] line.2).bind fun place =>
      (number? place).bind fun column => (strip? codeTag column.2).bind fun inner =>
        (codeAndMessage? inner).bind fun parts => some (line.1, column.1, parts.1, parts.2) := rfl

theorem fields?_eq (line : List Char) :
    fields? line = (dropEnd? line).bind fun body => (strip? fileTag body).bind fun inner =>
      (longest? lineTag afterFile? inner).bind fun parts =>
        some ⟨parts.1, parts.2.1, parts.2.2.1, parts.2.2.2.1, parts.2.2.2.2⟩ := rfl

theorem dropReturn_return (line : List Char) : dropReturn (line ++ ['\r']) = line := by
  simp [dropReturn]

theorem dropReturn_endTag (body : List Char) : dropReturn (body ++ endTag) = body ++ endTag := by
  have last : (body ++ endTag).getLast? = some '>' := by
    rw [List.getLast?_append]
    rfl
  rw [dropReturn, last, if_neg (by decide)]

theorem dropEnd?_eq_some {line body : List Char} :
    dropEnd? line = some body ↔ dropReturn line = body ++ endTag := by
  have reading : dropEnd? line =
      (strip? endTag.reverse (dropReturn line).reverse).map List.reverse := rfl
  rw [reading, Option.map_eq_some_iff]
  constructor
  · rintro ⟨reversed, stripped, rfl⟩
    have same := strip?_eq_some.mp stripped
    rw [← List.reverse_reverse (dropReturn line), same, List.reverse_append,
      List.reverse_reverse]
  · intro same
    refine ⟨body.reverse, strip?_eq_some.mpr ?_, List.reverse_reverse body⟩
    rw [same, List.reverse_append]

end Delimited

end TemplateLint.Report
