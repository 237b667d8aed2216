import TemplateLint.Proofs.Tags

/-!
# Patterns and their matches

A pattern is matched by trying: where a run may have several lengths, the longer ones come first,
and the first way that works out is taken.  The matches in a text are looked for from left to
right, each from the end of the one before.  When all pieces of a pattern stay in their line, what
it captures of a line is what a reader of lines makes of it.
Main exports: `Pattern.first?`, `Pattern.finds`, `Pattern.Reads`, `Pattern.finds_line`.
-/

namespace TemplateLint.Report

open Delimited

/-! ## What a pattern matches -/

/-- A piece of a pattern. -/
inductive Piece where
  | literal (chars : List Char)
  /-- A run of characters of a kind, as long as it can be but not shorter than that; captured. -/
  | run (least : Nat) (takes : Char → Bool)
  /-- The character, or nothing. -/
  | maybe (c : Char)
  | lineEnd

/-- A pattern, which matches at the beginning of a line. -/
abbrev Pattern := List Piece

/-- The text begins where a line ends. -/
def endsLine : List Char → Bool
  | [] => true
  | c :: _ => c == '\n'

/-- The ways to split a run off a text, the longest run first. -/
def splits (takes : Char → Bool) : List Char → List (List Char × List Char)
  | [] => [([], [])]
  | c :: text =>
      if takes c then
        (splits takes text).map (fun (run, rest) => (c :: run, rest)) ++ [([], c :: text)]
      else [([], c :: text)]

/-- The run with what comes of the rest, unless the run is too short. -/
def keepRun {α : Type} (least : Nat) (value : List Char → Option α)
    (parts : List Char × List Char) : Option (List Char × α) :=
  if parts.1.length < least then none else (value parts.2).map fun found => (parts.1, found)

namespace Pattern

/-- The first way in which the pieces match at the beginning of a text: what the runs captured, and
the text after the match. -/
def first? : Pattern → List Char → Option (List (List Char) × List Char)
  | [], text => some ([], text)
  | .literal chars :: pieces, text => (strip? chars text).bind (first? pieces)
  | .run least takes :: pieces, text =>
      ((splits takes text).findSome? (keepRun least (first? pieces))).map
        fun (run, captures, rest) => (run :: captures, rest)
  | .maybe c :: pieces, text => ((strip? [c] text).bind (first? pieces)).or (first? pieces text)
  | .lineEnd :: pieces, text => if endsLine text then first? pieces text else none

/-- The match at the beginning of a text, which must be the beginning of a line. -/
def matchAt? (pattern : Pattern) (fresh : Bool) (text : List Char) :
    Option (List (List Char) × List Char) :=
  if fresh then pattern.first? text else none

/-- What the matches in a text capture.  After a match of nothing one character is passed over. -/
def finds (pattern : Pattern) (fresh : Bool) : List Char → List (List (List Char))
  | [] => ((pattern.matchAt? fresh []).map Prod.fst).toList
  | c :: others =>
      match pattern.matchAt? fresh (c :: others) with
      | none => pattern.finds (c == '\n') others
      | some (captures, rest) =>
          let part := (c :: others).take (others.length + 1 - rest.length)
          if rest.length ≤ others.length then
            captures :: pattern.finds (part.getLast? == some '\n') rest
          else captures :: pattern.finds (c == '\n') others
termination_by text => text.length
decreasing_by all_goals simp only [List.length_cons]; omega

end Pattern

/-! ## Ends of lines -/

theorem eq_of_endsLine {c : Char} {rest : List Char} (ends : endsLine (c :: rest) = true) :
    c = '\n' := by
  simpa [endsLine] using ends

theorem endsLine_cons {c : Char} {rest : List Char} (other : c ≠ '\n') :
    endsLine (c :: rest) = false := by
  simpa [endsLine] using other

/-- A tag does not reach into the next line. -/
theorem strip?_append {tag text tail : List Char} (plain : '\n' ∉ tag)
    (ends : endsLine tail = true) :
    strip? tag (text ++ tail) = (strip? tag text).map (· ++ tail) := by
  induction tag generalizing text with
  | nil => rfl
  | cons t tag inductionHypothesis =>
      rw [List.mem_cons, not_or] at plain
      cases text with
      | nil =>
          cases tail with
          | nil => rfl
          | cons c tail =>
              have other : ¬ t = c := by
                rw [eq_of_endsLine ends]
                exact Ne.symm plain.1
              simp [strip?, other]
      | cons c text =>
          rw [List.cons_append, strip?, strip?]
          split
          · exact inductionHypothesis plain.2
          · rfl

/-! ## Runs -/

section runs

variable {takes : Char → Bool} {text tail : List Char}

theorem append_of_mem_splits {parts : List Char × List Char}
    (member : parts ∈ splits takes text) : parts.1 ++ parts.2 = text := by
  induction text generalizing parts with
  | nil =>
      rw [List.mem_singleton.mp member]
      rfl
  | cons c text inductionHypothesis =>
      rw [splits] at member
      split at member
      · rcases List.mem_append.mp member with longer | none
        · obtain ⟨further, later, rfl⟩ := List.mem_map.mp longer
          rw [List.cons_append, inductionHypothesis later]
        · rw [List.mem_singleton.mp none]
          rfl
      · rw [List.mem_singleton.mp member]
        rfl

/-- A run that takes no line feed does not reach into the next line. -/
theorem splits_append (plain : takes '\n' = false) (ends : endsLine tail = true) :
    splits takes (text ++ tail) =
      (splits takes text).map fun (run, rest) => (run, rest ++ tail) := by
  induction text with
  | nil =>
      cases tail with
      | nil => rfl
      | cons c tail => simp [splits, eq_of_endsLine ends, plain]
  | cons c text inductionHypothesis =>
      rw [List.cons_append, splits, splits]
      split
      · simp [inductionHypothesis]
      · rfl

/-- When nothing may follow a shortened run, only the whole run counts. -/
theorem findSome?_splits {α : Type} {value : List Char × List Char → Option α}
    (rejects : ∀ run c rest, takes c = true → value (run, c :: rest) = none) :
    (splits takes text).findSome? value = value (text.takeWhile takes, text.dropWhile takes) := by
  induction text generalizing value with
  | nil => simp [splits]
  | cons c text inductionHypothesis =>
      by_cases taken : takes c = true
      · have further := @inductionHypothesis (fun (run, rest) => value (c :: run, rest))
          fun run d rest => rejects (c :: run) d rest
        simp only [splits, taken, if_true, List.findSome?_append, List.findSome?_map,
          List.findSome?_singleton, rejects [] c text taken, Option.or_none, List.takeWhile_cons,
          List.dropWhile_cons]
        exact further
      · simp [splits, taken]

theorem keepRun_cons {α : Type} {least : Nat} {value : List Char → Option α} {c : Char}
    {run rest : List Char} :
    keepRun least value (c :: run, rest) =
      (keepRun (least - 1) value (run, rest)).map fun found => (c :: found.1, found.2) := by
  unfold keepRun
  by_cases short : run.length < least - 1
  · have still : (c :: run).length < least := by
      rw [List.length_cons]
      omega
    rw [if_pos still, if_pos short]
    rfl
  · have still : ¬ (c :: run).length < least := by
      rw [List.length_cons]
      omega
    rw [if_neg still, if_neg short, Option.map_map]
    rfl

/-- A run over anything in the line before a tag reaches as far as it can. -/
theorem findSome?_splits_all {α : Type} {tag : List Char} (filled : tag ≠ [])
    (all : ∀ c ∈ text, takes c = true) (accept : List Char → Option α) (least : Nat) :
    (splits takes text).findSome? (keepRun least fun rest => (strip? tag rest).bind accept) =
      (longest? tag accept text).bind fun found =>
        if found.1.length < least then none else some found := by
  induction text generalizing least with
  | nil =>
      obtain ⟨t, rest, rfl⟩ := List.exists_cons_of_ne_nil filled
      simp [splits, longest?, strip?, keepRun]
  | cons c text inductionHypothesis =>
      have taken : takes c = true := all c (by simp)
      have later : ∀ d ∈ text, takes d = true := fun d member => all d (by simp [member])
      have further : ((splits takes text).findSome? fun parts =>
          keepRun least (fun rest => (strip? tag rest).bind accept) (c :: parts.1, parts.2)) =
          ((longest? tag accept text).bind fun found =>
            if found.1.length < least - 1 then none else some found).map
              fun found => (c :: found.1, found.2) := by
        rw [← inductionHypothesis later, List.map_findSome?]
        congr 1
        funext parts
        exact keepRun_cons
      rw [splits, if_pos taken, List.findSome?_append, List.findSome?_map, List.findSome?_singleton]
      simp only [Function.comp_def]
      rw [further, longest?_cons]
      cases found : longest? tag accept text with
      | some parts =>
          obtain ⟨before, value⟩ := parts
          -- If the longest run is too short, so is the empty one that is tried last.
          by_cases short : before.length < least - 1
          · have some : 0 < least := by omega
            have still : before.length + 1 < least := by omega
            simp [short, some, still, keepRun]
          · have still : ¬ before.length + 1 < least := by omega
            simp [short, still]
      | none =>
          rw [Option.bind_none, Option.map_none, Option.none_or, Option.none_or, keepRun]
          cases (strip? tag (c :: text)).bind accept <;> simp

end runs

/-! ## Patterns on a line -/

namespace Pattern

/-- In a line the pattern finds what the reader accepts, and it captures what that comes to. -/
def Reads {α : Type} (pattern : Pattern) (accept : List Char → Option α)
    (captures : α → List (List Char)) : Prop :=
  ∀ text tail, '\n' ∉ text → endsLine tail = true →
    pattern.first? (text ++ tail) = (accept text).map fun value => (captures value, tail)

namespace Reads

variable {α : Type} {pattern : Pattern} {accept : List Char → Option α}
  {captures : α → List (List Char)}

/-- Readers that capture the same may stand for each other. -/
theorem of_eq {β : Type} {other : List Char → Option β} {further : β → List (List Char)}
    (reads : Reads pattern accept captures)
    (same : ∀ text, (accept text).map captures = (other text).map further) :
    Reads pattern other further := by
  intro text tail oneLine ends
  have mapped := congrArg (Option.map fun captures => (captures, tail)) (same text)
  rw [Option.map_map, Option.map_map] at mapped
  exact (reads text tail oneLine ends).trans mapped

theorem literal {chars : List Char} (reads : Reads pattern accept captures)
    (plain : '\n' ∉ chars) :
    Reads (.literal chars :: pattern) (fun text => (strip? chars text).bind accept) captures := by
  intro text tail oneLine ends
  simp only [first?, strip?_append plain ends]
  cases stripped : strip? chars text with
  | none => rfl
  | some rest =>
      rw [strip?_eq_some.mp stripped] at oneLine
      exact reads rest tail (fun member => oneLine (List.mem_append_right _ member)) ends

theorem first?_run {takes : Char → Bool} (reads : Reads pattern accept captures)
    (plain : takes '\n' = false) (least : Nat) {text tail : List Char} (oneLine : '\n' ∉ text)
    (ends : endsLine tail = true) :
    first? (.run least takes :: pattern) (text ++ tail) =
      ((splits takes text).findSome? (keepRun least accept)).map
        fun found => (found.1 :: captures found.2, tail) := by
  have value {parts : List Char × List Char} (member : parts ∈ splits takes text) :
      keepRun least pattern.first? (parts.1, parts.2 ++ tail) =
        (keepRun least accept parts).map fun found => (found.1, captures found.2, tail) := by
    have rest : '\n' ∉ parts.2 := fun inRest =>
      oneLine (append_of_mem_splits member ▸ List.mem_append_right _ inRest)
    unfold keepRun
    split
    · rfl
    · rw [reads parts.2 tail rest ends, Option.map_map, Option.map_map]
      rfl
  have found : (splits takes text).findSome?
        (fun parts => keepRun least pattern.first? (parts.1, parts.2 ++ tail)) =
      ((splits takes text).findSome? (keepRun least accept)).map
        fun found => (found.1, captures found.2, tail) := by
    rw [List.map_findSome?, ← List.head?_filterMap, ← List.head?_filterMap]
    exact congrArg List.head? (List.filterMap_congr fun parts member => value member)
  rw [first?, splits_append plain ends, List.findSome?_map]
  simp only [Function.comp_def]
  rw [found, Option.map_map]
  rfl

/-- A run over anything but line feeds, before a tag. -/
theorem run {takes : Char → Bool} {tag : List Char} (reads : Reads pattern accept captures)
    (all : ∀ c, takes c = true ↔ c ≠ '\n') (filled : tag ≠ []) (plain : '\n' ∉ tag)
    (least : Nat) :
    Reads (.run least takes :: .literal tag :: pattern)
      (fun text => (longest? tag accept text).bind fun found =>
        if found.1.length < least then none else some found)
      (fun found => found.1 :: captures found.2) := by
  intro text tail oneLine ends
  have stops : takes '\n' = false := by
    rw [← Bool.not_eq_true, all]
    exact fun other => other rfl
  have taken : ∀ c ∈ text, takes c = true := by
    intro c member
    rw [all]
    rintro rfl
    exact oneLine member
  rw [first?_run (reads.literal plain) stops least oneLine ends,
    findSome?_splits_all filled taken]

/-- A number, before something that does not begin with a digit. -/
theorem number (reads : Reads pattern accept captures)
    (rejects : ∀ c rest, Text.isDecimal c = true → accept (c :: rest) = none) :
    Reads (.run 1 Text.isDecimal :: pattern)
      (fun text => (number? text).bind fun found =>
        (accept found.2).map fun value => (found.1, value))
      (fun found => found.1 :: captures found.2) := by
  intro text tail oneLine ends
  have rest : text.drop (text.takeWhile Text.isDecimal).length =
      text.dropWhile Text.isDecimal := by
    have whole := List.prefix_iff_eq_append.mp (List.takeWhile_prefix Text.isDecimal (l := text))
    apply List.append_cancel_left
    exact whole.trans List.takeWhile_append_dropWhile.symm
  have only : (splits Text.isDecimal text).findSome? (keepRun 1 accept) =
      (number? text).bind fun found => (accept found.2).map fun value => (found.1, value) := by
    rw [findSome?_splits, number?, keepRun, rest]
    · cases digits : text.takeWhile Text.isDecimal with
      | nil => rfl
      | cons c digits => simp
    · intro run c rest taken
      simp [keepRun, rejects c rest taken]
  rw [first?_run reads (by decide) 1 oneLine ends, only]

end Reads

/-! ## The matches in a text -/

variable {pattern : Pattern} {fresh : Bool}

/-- Where nothing matches, the search goes on after the next character. -/
theorem finds_of_none {c : Char} {rest : List Char}
    (fails : pattern.matchAt? fresh (c :: rest) = none) :
    pattern.finds fresh (c :: rest) = pattern.finds (c == '\n') rest := by
  rw [finds, fails]

/-- Where something matches, the search goes on after the match. -/
theorem finds_of_some {part rest : List Char} {captures : List (List Char)} (filled : part ≠ [])
    (found : pattern.matchAt? fresh (part ++ rest) = some (captures, rest)) :
    pattern.finds fresh (part ++ rest) =
      captures :: pattern.finds (part.getLast? == some '\n') rest := by
  obtain ⟨c, others, rfl⟩ := List.exists_cons_of_ne_nil filled
  have shorter : rest.length ≤ (others ++ rest).length := by simp
  have taken : (c :: (others ++ rest)).take ((others ++ rest).length + 1 - rest.length) =
      c :: others := by
    have passed : (others ++ rest).length + 1 - rest.length = (c :: others).length := by
      rw [List.length_append, List.length_cons]
      omega
    rw [passed, ← List.cons_append, List.take_left]
  rw [List.cons_append] at found ⊢
  rw [finds, found]
  simp only [if_pos shorter, taken]

/-- In the middle of a line nothing is found. -/
theorem finds_stale (pattern : Pattern) {line : List Char} (tail : List Char)
    (oneLine : '\n' ∉ line) : pattern.finds false (line ++ tail) = pattern.finds false tail := by
  induction line with
  | nil => rfl
  | cons c line inductionHypothesis =>
      rw [List.mem_cons, not_or] at oneLine
      have other : (c == '\n') = false := by
        rw [beq_eq_false_iff_ne]
        exact Ne.symm oneLine.1
      rw [List.cons_append, finds_of_none rfl, other, inductionHypothesis oneLine.2]

section lines

variable {α : Type} {accept : List Char → Option α} {captures : α → List (List Char)}

/-- A line is searched as its reader says. -/
theorem finds_line (reads : Reads pattern accept captures) (empty : accept [] = none)
    {line tail : List Char} (oneLine : '\n' ∉ line) (ends : endsLine tail = true) :
    pattern.finds true (line ++ tail) =
      ((accept line).map captures).toList ++ pattern.finds false tail := by
  have read : pattern.matchAt? true (line ++ tail) =
      (accept line).map fun value => (captures value, tail) := reads line tail oneLine ends
  cases found : accept line with
  | some value =>
      have filled : line ≠ [] := by
        rintro rfl
        rw [empty] at found
        cases found
      have inLast : (line.getLast? == some '\n') = false := by
        rw [beq_eq_false_iff_ne]
        exact fun last => oneLine (List.mem_of_getLast? last)
      rw [found] at read
      rw [finds_of_some filled read, inLast]
      rfl
  | none =>
      rw [found] at read
      cases line with
      | nil =>
          rw [List.nil_append] at read ⊢
          cases tail with
          | nil =>
              rw [finds, finds, read]
              rfl
          | cons c rest =>
              rw [finds_of_none read, finds_of_none rfl]
              rfl
      | cons c line =>
          rw [List.mem_cons, not_or] at oneLine
          have other : (c == '\n') = false := by
            rw [beq_eq_false_iff_ne]
            exact Ne.symm oneLine.1
          rw [List.cons_append] at read ⊢
          rw [finds_of_none read, other, finds_stale _ _ oneLine.2]
          rfl

/-- The matches in a text are those in its lines. -/
theorem finds_eq_lines (reads : Reads pattern accept captures) (empty : accept [] = none)
    (text : List Char) :
    pattern.finds true text =
      (text.splitOn '\n').filterMap fun line => (accept line).map captures := by
  induction length : text.length using Nat.strong_induction_on generalizing text with
  | _ bound inductionHypothesis =>
      by_cases member : '\n' ∈ text
      · obtain ⟨line, rest, rfl, oneLine⟩ := List.eq_append_cons_of_mem member
        have shorter : rest.length < bound := by
          rw [← length, List.length_append, List.length_cons]
          omega
        have later := inductionHypothesis rest.length shorter rest rfl
        rw [finds_line reads empty oneLine rfl, finds_of_none rfl, beq_self_eq_true, later,
          List.splitOn_append_cons_self_of_not_mem oneLine, List.filterMap_cons]
        cases (accept line).map captures <;> rfl
      · have whole : pattern.finds true (text ++ []) = _ := finds_line reads empty member rfl
        have nothing : pattern.finds false [] = [] := by
          rw [finds]
          rfl
        rw [List.append_nil, nothing, List.append_nil] at whole
        rw [whole, List.splitOn_eq_singleton member]
        cases found : (accept text).map captures <;> simp [found]

end lines

end Pattern

end TemplateLint.Report
