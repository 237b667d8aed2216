import Mathlib.Data.List.TakeWhile
import TemplateLint.Text.Phrase

/-!
# What phrases stand for

A phrase stands for the texts that spell its parts one after the other.  The search takes as much
as it can for blanks and numbers; this loses nothing when no part begins like what the part before
it takes, so that the search finds a phrase exactly where one of its texts stands.
Main exports: `Phrase.Spells`, `Phrase.Occurs`, `Phrase.IsDefinite`, `Phrase.occursIn_iff`.
-/

namespace TemplateLint.Text

/-! ## Blanks and digits -/

/-- No code point lies in a range of both lists. -/
def rangesApart (one other : List (Nat × Nat)) : Bool :=
  one.all fun range => other.all fun far => range.2 < far.1 || far.2 < range.1

theorem inRanges_of_apart {one other : List (Nat × Nat)} {c : Char}
    (apart : rangesApart one other = true) (inside : inRanges one c = true) :
    inRanges other c = false := by
  rw [inRanges, List.any_eq_true] at inside
  obtain ⟨range, member, within⟩ := inside
  rw [inRanges, List.any_eq_false]
  intro far present
  have disjoint := List.all_eq_true.mp (List.all_eq_true.mp apart range member) far present
  simp only [Bool.and_eq_true, Bool.or_eq_true, decide_eq_true_eq] at within disjoint ⊢
  omega

/-- No blank is a digit. -/
theorem not_isDecimal_of_isBlank {c : Char} (blank : isBlank c = true) : isDecimal c = false :=
  inRanges_of_apart (by decide) blank

theorem not_isBlank_of_isDecimal {c : Char} (digit : isDecimal c = true) : isBlank c = false := by
  by_contra blank
  rw [not_isDecimal_of_isBlank (by simpa using blank)] at digit
  cases digit

namespace PhrasePart

/-- The text is one that the part stands for. -/
def Spells : PhrasePart → List Char → Prop
  | word chars, text => text = chars
  | blanks, text => text ≠ [] ∧ ∀ c ∈ text, isBlank c = true
  | anyBlanks, text => ∀ c ∈ text, isBlank c = true
  | number, text => text ≠ [] ∧ ∀ c ∈ text, isDecimal c = true

/-- The part goes on over such a character. -/
def takes : PhrasePart → Char → Bool
  | word _, _ => false
  | blanks, c => isBlank c
  | anyBlanks, c => isBlank c
  | number, c => isDecimal c

/-- The next part does not begin like what the part takes. -/
def endsBefore : PhrasePart → PhrasePart → Bool
  | word _, _ => true
  | part, word (c :: _) => !part.takes c
  | blanks, number => true
  | anyBlanks, number => true
  | number, blanks => true
  | _, _ => false

theorem not_takes_of_endsBefore {part next : PhrasePart} {text after : List Char} {c : Char}
    (ends : part.endsBefore next = true) (spells : next.Spells text)
    (head : (text ++ after).head? = some c) : part.takes c = false := by
  cases next with
  | word chars =>
      cases chars with
      | nil => cases part <;> first | rfl | cases ends
      | cons first rest =>
          cases spells
          cases head
          cases part <;> simp_all [endsBefore, takes]
  | anyBlanks => cases part <;> first | rfl | cases ends
  | blanks =>
      obtain ⟨filled, spaces⟩ := spells
      obtain ⟨first, rest, rfl⟩ := List.exists_cons_of_ne_nil filled
      cases head
      have blank := spaces c (by simp)
      cases part with
      | word chars => rfl
      | number => exact not_isDecimal_of_isBlank blank
      | _ => cases ends
  | number =>
      obtain ⟨filled, digits⟩ := spells
      obtain ⟨first, rest, rfl⟩ := List.exists_cons_of_ne_nil filled
      cases head
      have digit := digits c (by simp)
      cases part with
      | word chars => rfl
      | number => cases ends
      | _ => exact not_isBlank_of_isDecimal digit

end PhrasePart

namespace Phrase

/-- The text spells the parts one after the other. -/
def Spells : Phrase → List Char → Prop
  | [], text => text = []
  | part :: rest, text =>
      ∃ first later, text = first ++ later ∧ part.Spells first ∧ Spells rest later

/-- A text that the phrase stands for is part of the text. -/
def Occurs (phrase : Phrase) (text : List Char) : Prop :=
  ∃ before here after, text = before ++ here ++ after ∧ phrase.Spells here

/-- Every part ends before the next one. -/
def IsDefinite : Phrase → Bool
  | part :: next :: rest => part.endsBefore next && IsDefinite (next :: rest)
  | _ => true

/-! ## One part -/

theorem afterWord?_eq_some {word text rest : List Char} :
    afterWord? word text = some rest ↔ text = word ++ rest := by
  induction word generalizing text with
  | nil => simp [afterWord?]
  | cons first word inductionHypothesis =>
      cases text with
      | nil => simp [afterWord?]
      | cons c text =>
          by_cases same : first = c
          · simp [afterWord?, same, inductionHypothesis]
          · have other : ¬ c = first := fun equal => same equal.symm
            simp [afterWord?, same, other]

/-- What a class of characters takes from the front, and what is left. -/
theorem dropWhile_spec (takes : Char → Bool) (text : List Char) :
    ∃ taken, text = taken ++ text.dropWhile takes ∧ ∀ c ∈ taken, takes c = true :=
  ⟨text.takeWhile takes, (List.takeWhile_append_dropWhile ..).symm,
    fun _ member => List.mem_takeWhile_imp member⟩

theorem dropWhile_append {takes : Char → Bool} {taken rest : List Char}
    (all : ∀ c ∈ taken, takes c = true)
    (ends : ∀ c, rest.head? = some c → takes c = false) :
    (taken ++ rest).dropWhile takes = rest := by
  rw [List.dropWhile_append_of_pos all]
  cases rest with
  | nil => rfl
  | cons c rest => simp [ends c rfl]

/-- What is left after a part follows a text of the part. -/
theorem spells_of_afterPart? {part : PhrasePart} {text rest : List Char}
    (left : afterPart? text part = some rest) :
    ∃ here, text = here ++ rest ∧ part.Spells here := by
  cases part with
  | word chars => exact ⟨chars, afterWord?_eq_some.mp left, rfl⟩
  | anyBlanks =>
      obtain ⟨taken, same, blank⟩ := dropWhile_spec isBlank text
      cases left
      exact ⟨taken, same, blank⟩
  | blanks =>
      cases text with
      | nil => cases left
      | cons c text =>
          simp only [afterPart?] at left
          split at left
          · next first =>
              obtain ⟨taken, same, blank⟩ := dropWhile_spec isBlank text
              cases left
              refine ⟨c :: taken, congrArg (c :: ·) same, by simp, ?_⟩
              simpa [first] using blank
          · cases left
  | number =>
      cases text with
      | nil => cases left
      | cons c text =>
          simp only [afterPart?] at left
          split at left
          · next first =>
              obtain ⟨taken, same, digits⟩ := dropWhile_spec isDecimal text
              cases left
              refine ⟨c :: taken, congrArg (c :: ·) same, by simp, ?_⟩
              simpa [first] using digits
          · cases left

/-- A part takes its text and nothing of what follows, unless that begins alike. -/
theorem afterPart?_append {part : PhrasePart} {here rest : List Char} (spells : part.Spells here)
    (ends : ∀ c, rest.head? = some c → part.takes c = false) :
    afterPart? (here ++ rest) part = some rest := by
  cases part with
  | word chars => exact afterWord?_eq_some.mpr (congrArg (· ++ rest) spells)
  | anyBlanks => exact congrArg some (dropWhile_append spells ends)
  | blanks =>
      obtain ⟨filled, blank⟩ := spells
      obtain ⟨c, more, rfl⟩ := List.exists_cons_of_ne_nil filled
      have first : isBlank c = true := blank c (by simp)
      have left := dropWhile_append (fun d member => blank d (List.mem_cons_of_mem c member)) ends
      simp [afterPart?, first, skipBlanks, left]
  | number =>
      obtain ⟨filled, digits⟩ := spells
      obtain ⟨c, more, rfl⟩ := List.exists_cons_of_ne_nil filled
      have first : isDecimal c = true := digits c (by simp)
      have left := dropWhile_append (fun d member => digits d (List.mem_cons_of_mem c member)) ends
      simp [afterPart?, first, left]

/-- A part is found wherever a text of it stands, whatever follows. -/
theorem exists_afterPart? {part : PhrasePart} {here : List Char} (spells : part.Spells here)
    (rest : List Char) : ∃ left, afterPart? (here ++ rest) part = some left := by
  cases part with
  | word chars => exact ⟨rest, afterPart?_append spells (fun _ _ => rfl)⟩
  | anyBlanks => exact ⟨_, rfl⟩
  | blanks =>
      obtain ⟨filled, blank⟩ := spells
      obtain ⟨c, more, rfl⟩ := List.exists_cons_of_ne_nil filled
      exact ⟨skipBlanks (more ++ rest), by simp [afterPart?, blank c]⟩
  | number =>
      obtain ⟨filled, digits⟩ := spells
      obtain ⟨c, more, rfl⟩ := List.exists_cons_of_ne_nil filled
      exact ⟨(more ++ rest).dropWhile isDecimal, by simp [afterPart?, digits c]⟩

/-! ## All parts -/

theorem match?_cons (part : PhrasePart) (rest : Phrase) (text : List Char) :
    match? (part :: rest) text = (afterPart? text part).bind (match? rest) := rfl

theorem spells_of_match? {phrase : Phrase} {text rest : List Char}
    (left : phrase.match? text = some rest) : ∃ here, text = here ++ rest ∧ phrase.Spells here := by
  induction phrase generalizing text with
  | nil =>
      cases left
      exact ⟨[], rfl, rfl⟩
  | cons part phrase inductionHypothesis =>
      rw [match?_cons] at left
      obtain ⟨middle, taken, remains⟩ := Option.bind_eq_some_iff.mp left
      obtain ⟨first, rfl, spellsFirst⟩ := spells_of_afterPart? taken
      obtain ⟨later, rfl, spellsLater⟩ := inductionHypothesis remains
      exact ⟨first ++ later, by simp, first, later, rfl, spellsFirst, spellsLater⟩

theorem exists_match? {phrase : Phrase} {here : List Char} (definite : phrase.IsDefinite = true)
    (spells : phrase.Spells here) (after : List Char) :
    ∃ rest, phrase.match? (here ++ after) = some rest := by
  induction phrase generalizing here with
  | nil =>
      cases spells
      exact ⟨after, rfl⟩
  | cons part phrase inductionHypothesis =>
      obtain ⟨first, later, rfl, spellsFirst, spellsLater⟩ := spells
      rw [match?_cons, List.append_assoc]
      cases phrase with
      | nil =>
          obtain ⟨left, taken⟩ := exists_afterPart? spellsFirst (later ++ after)
          exact ⟨left, by rw [taken]; rfl⟩
      | cons next phrase =>
          obtain ⟨ends, definite⟩ := Bool.and_eq_true_iff.mp definite
          have taken : afterPart? (first ++ (later ++ after)) part = some (later ++ after) := by
            apply afterPart?_append spellsFirst
            intro c head
            obtain ⟨begins, rest, rfl, spellsNext, -⟩ := spellsLater
            rw [List.append_assoc] at head
            exact PhrasePart.not_takes_of_endsBefore ends spellsNext head
          rw [taken]
          exact inductionHypothesis definite spellsLater

/-! ## Anywhere in a text -/

theorem find?_isSome_iff {phrase : Phrase} {text : List Char} :
    (phrase.find? text).isSome = true ↔
      ∃ before rest, text = before ++ rest ∧ (phrase.match? rest).isSome = true := by
  induction text with
  | nil =>
      constructor
      · intro found
        exact ⟨[], [], rfl, found⟩
      · rintro ⟨before, rest, same, found⟩
        obtain ⟨rfl, rfl⟩ := List.append_eq_nil_iff.mp same.symm
        exact found
  | cons c text inductionHypothesis =>
      cases here : phrase.match? (c :: text) with
      | some after =>
          simp only [find?, here]
          exact ⟨fun _ => ⟨[], c :: text, rfl, by simp [here]⟩, fun _ => rfl⟩
      | none =>
          simp only [find?, here, inductionHypothesis]
          constructor
          · rintro ⟨before, rest, rfl, found⟩
            exact ⟨c :: before, rest, rfl, found⟩
          · rintro ⟨before, rest, same, found⟩
            cases before with
            | nil =>
                rw [List.nil_append] at same
                rw [← same, here] at found
                cases found
            | cons d before =>
                cases same
                exact ⟨before, rest, rfl, found⟩

/-- The search finds a definite phrase exactly where one of its texts stands. -/
theorem occursIn_iff {phrase : Phrase} (definite : phrase.IsDefinite = true) {text : List Char} :
    phrase.occursIn text = true ↔ phrase.Occurs text := by
  rw [occursIn, find?_isSome_iff]
  constructor
  · rintro ⟨before, rest, rfl, found⟩
    obtain ⟨after, left⟩ := Option.isSome_iff_exists.mp found
    obtain ⟨here, rfl, spells⟩ := spells_of_match? left
    exact ⟨before, here, after, by simp, spells⟩
  · rintro ⟨before, here, after, rfl, spells⟩
    obtain ⟨rest, left⟩ := exists_match? definite spells after
    exact ⟨before, here ++ after, by simp, by rw [left]; rfl⟩

end Phrase

end TemplateLint.Text
