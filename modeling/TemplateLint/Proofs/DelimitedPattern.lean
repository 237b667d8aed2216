import TemplateLint.Proofs.Patterns

/-!
# The pattern of delimited reports

The layout of a problem as a pattern whose runs compete for the texts of the tags.  The reader of
lines takes the end of a line away first, while the pattern meets it last; all the readers in
between may do either.  So what the pattern finds in a text is what the reader makes of its lines.
Main exports: `Pattern.delimited`, `ended`, `Pattern.reads_fields`, `delimited_eq_finds`.
-/

namespace TemplateLint.Report

open Delimited

/-- The characters of a line. -/
def isInLine (c : Char) : Bool := c != '\n'

/-- The end of a problem: its last tag, and perhaps a carriage return. -/
def Pattern.lastPieces : Pattern := [.literal endTag, .maybe '\r', .lineEnd]

/-- Code and message, up to the end of the line. -/
def Pattern.codePieces : Pattern :=
  .run 1 isInLine :: .literal messageTag :: .run 1 isInLine :: lastPieces

/-- A problem: its file, line, column, code and message are captured. -/
def Pattern.delimited : Pattern :=
  [.literal fileTag, .run 0 isInLine, .literal lineTag, .run 1 Text.isDecimal, .literal [':'],
    .run 1 Text.isDecimal, .literal codeTag] ++ codePieces

/-- The fields as they are captured. -/
def Delimited.Fields.captures (fields : Fields) : List (List Char) :=
  [fields.file, fields.line, fields.column, fields.code, fields.message]

/-- The problem that captures tell of. -/
def Problem.ofCaptures? : List (List Char) → Option Problem
  | [_, line, column, code, message] => Problem.ofFields? line column code message
  | _ => none

/-! ## Ends of problems -/

/-- What may stand at the end of a problem on its line. -/
def endings : List (List Char) := [endTag, endTag ++ ['\r']]

theorem dropEnd?_eq_some_iff {text body : List Char} :
    dropEnd? text = some body ↔ ∃ ending ∈ endings, text = body ++ ending := by
  rw [dropEnd?_eq_some]
  constructor
  · intro same
    unfold dropReturn at same
    split at same
    · next returns =>
        have whole := List.dropLast_append_getLast? '\r' returns
        refine ⟨endTag ++ ['\r'], by simp [endings], ?_⟩
        rw [← whole, same, List.append_assoc]
    · exact ⟨endTag, by simp [endings], same⟩
  · rintro ⟨ending, member, rfl⟩
    rcases List.mem_cons.mp member with rfl | member
    · exact dropReturn_endTag body
    · rw [List.mem_singleton.mp member, ← List.append_assoc, dropReturn_return]

/-- What is left of an end is none. -/
theorem dropEnd?_part {ending middle rest : List Char} (member : ending ∈ endings)
    (filled : middle ≠ []) (whole : ending = middle ++ rest) : dropEnd? rest = none := by
  have all : ∀ ending ∈ endings, ∀ rest ∈ ending.tails, rest ≠ ending → dropEnd? rest = none := by
    decide
  apply all ending member rest
  · rw [List.mem_tails, whole]
    exact List.suffix_append middle rest
  · intro same
    rw [same] at whole
    exact filled (List.self_eq_append_left.mp whole)

/-! ## Readers before and after the end is taken away -/

section ended

variable {α : Type} (accept : List Char → Option α)

/-- What a reader makes of a line without its end. -/
def ended (text : List Char) : Option α :=
  (dropEnd? text).bind accept

theorem ended_append {ending : List Char} (member : ending ∈ endings) (body : List Char) :
    ended accept (body ++ ending) = accept body := by
  rw [ended, dropEnd?_eq_some_iff.mpr ⟨ending, member, rfl⟩, Option.bind_some]

/-- A text without an end has none in any part that comes last. -/
theorem ended_none {before rest : List Char} (endless : dropEnd? (before ++ rest) = none) :
    ended accept rest = none := by
  cases found : dropEnd? rest with
  | none => rw [ended, found, Option.bind_none]
  | some body =>
      obtain ⟨ending, member, rfl⟩ := dropEnd?_eq_some_iff.mp found
      rw [← List.append_assoc, dropEnd?_eq_some_iff.mpr ⟨ending, member, rfl⟩] at endless
      cases endless

theorem strip?_ended (tag text : List Char) :
    (strip? tag text).bind (ended accept) =
      ended (fun body => (strip? tag body).bind accept) text := by
  cases found : dropEnd? text with
  | none =>
      rw [ended, found, Option.bind_none]
      cases stripped : strip? tag text with
      | none => rfl
      | some rest =>
          rw [strip?_eq_some.mp stripped] at found
          exact ended_none accept found
  | some body =>
      obtain ⟨ending, member, rfl⟩ := dropEnd?_eq_some_iff.mp found
      rw [ended_append _ member]
      cases stripped : strip? tag body with
      | some rest =>
          rw [strip?_eq_some.mp stripped, List.append_assoc, strip?_eq_some.mpr rfl,
            Option.bind_some, ended_append accept member, Option.bind_some]
      | none =>
          cases beyond : strip? tag (body ++ ending) with
          | none => rfl
          | some rest =>
              -- The tag reaches into the end, and what is left of that is no end.
              rcases List.append_eq_append_iff.mp (strip?_eq_some.mp beyond) with
                ⟨middle, whole, part⟩ | ⟨middle, whole, -⟩
              · have filled : middle ≠ [] := by
                  rintro rfl
                  rw [List.append_nil] at whole
                  rw [whole, strip?_eq_some.mpr (List.append_nil body).symm] at stripped
                  cases stripped
                rw [Option.bind_some, Option.bind_none, ended, dropEnd?_part member filled part,
                  Option.bind_none]
              · rw [whole, strip?_eq_some.mpr rfl] at stripped
                cases stripped

theorem longest?_ended {tag : List Char} (filled : tag ≠ []) (text : List Char) :
    longest? tag (ended accept) text = ended (longest? tag accept) text := by
  induction text with
  | nil => rfl
  | cons c text inductionHypothesis =>
      rw [longest?_cons, inductionHypothesis, strip?_ended]
      cases found : dropEnd? (c :: text) with
      | none =>
          have later : ended (longest? tag accept) text = none :=
            ended_none _ (show dropEnd? ([c] ++ text) = none from found)
          rw [later, ended, ended, found]
          rfl
      | some body =>
          obtain ⟨ending, member, whole⟩ := dropEnd?_eq_some_iff.mp found
          cases body with
          | nil =>
              have later : ended (longest? tag accept) text = none := by
                rw [ended, dropEnd?_part member (List.cons_ne_nil c []) whole.symm,
                  Option.bind_none]
              obtain ⟨t, rest, rfl⟩ := List.exists_cons_of_ne_nil filled
              rw [later, whole, ended_append _ member, ended_append _ member]
              rfl
          | cons d body =>
              rw [List.cons_append] at whole
              obtain ⟨rfl, rfl⟩ := List.cons.inj whole
              rw [ended_append _ member, ← List.cons_append, ended_append _ member,
                ended_append _ member, longest?_cons]

/-- The end of a problem does not begin with a digit. -/
theorem number?_append {ending : List Char} (member : ending ∈ endings) (body : List Char) :
    number? (body ++ ending) =
      (number? body).map fun found => (found.1, found.2 ++ ending) := by
  have stops : ending.takeWhile Text.isDecimal = [] := by
    have all : ∀ ending ∈ endings, ending.takeWhile Text.isDecimal = [] := by decide
    exact all ending member
  have same : (body ++ ending).takeWhile Text.isDecimal = body.takeWhile Text.isDecimal := by
    rw [List.takeWhile_append]
    split
    · next whole =>
        rw [stops, List.append_nil]
        exact ((List.takeWhile_prefix Text.isDecimal).eq_of_length whole).symm
    · rfl
  have bound : (body.takeWhile Text.isDecimal).length ≤ body.length :=
    (List.takeWhile_prefix Text.isDecimal).length_le
  rw [number?, number?, same]
  split
  · rfl
  · rw [List.drop_append_of_le_length bound]
    rfl

theorem number?_ended (text : List Char) :
    ((number? text).bind fun found => (ended accept found.2).map fun value => (found.1, value)) =
      ended (fun body => (number? body).bind fun found =>
        (accept found.2).map fun value => (found.1, value)) text := by
  cases found : dropEnd? text with
  | none =>
      rw [ended, found, Option.bind_none]
      cases digits : number? text with
      | none => rfl
      | some parts =>
          rw [number?_eq_some digits] at found
          rw [Option.bind_some, ended_none accept found]
          rfl
  | some body =>
      obtain ⟨ending, member, rfl⟩ := dropEnd?_eq_some_iff.mp found
      rw [ended_append _ member, number?_append member]
      cases number? body with
      | none => rfl
      | some parts =>
          rw [Option.map_some, Option.bind_some, Option.bind_some, ended_append _ member]

end ended

/-! ## The pattern on a line -/

theorem isInLine_iff (c : Char) : isInLine c = true ↔ c ≠ '\n' :=
  bne_iff_ne

/-- Nothing is left of a line but a carriage return. -/
def atEnd? (text : List Char) : Option Unit :=
  if text = [] ∨ text = ['\r'] then some () else none

namespace Pattern

theorem reads_atEnd : Reads [.maybe '\r', .lineEnd] atEnd? (fun _ => []) := by
  intro text tail oneLine ends
  unfold atEnd?
  cases text with
  | nil =>
      have stays : strip? ['\r'] tail = none := by
        cases tail with
        | nil => rfl
        | cons c rest =>
            rw [eq_of_endsLine ends]
            rfl
      simp [first?, stays, ends]
  | cons c text =>
      rw [List.mem_cons, not_or] at oneLine
      have inside : endsLine (c :: (text ++ tail)) = false := endsLine_cons (Ne.symm oneLine.1)
      by_cases returns : c = '\r'
      · subst returns
        cases text with
        | nil =>
            rw [List.nil_append] at inside
            simp [first?, strip?, inside, ends]
        | cons d text =>
            rw [List.mem_cons, not_or] at oneLine
            have after : endsLine (d :: (text ++ tail)) = false :=
              endsLine_cons (Ne.symm oneLine.2.1)
            rw [List.cons_append] at inside
            simp [first?, strip?, inside, after]
      · have other : ¬ '\r' = c := Ne.symm returns
        simp [first?, strip?, inside, returns, other]

/-- The last tag of a line is the one that is dropped with its end. -/
theorem longest?_endTag (text : List Char) :
    longest? endTag atEnd? text = (dropEnd? text).map fun body => (body, ()) := by
  cases found : dropEnd? text with
  | some body =>
      obtain ⟨ending, member, rfl⟩ := dropEnd?_eq_some_iff.mp found
      rcases List.mem_cons.mp member with rfl | member
      · rw [← List.append_nil endTag]
        exact longest?_append (by decide) (by decide) (by decide) rfl
      · rw [List.mem_singleton.mp member]
        exact longest?_append (by decide) (by decide) (by decide) rfl
  | none =>
      cases sought : longest? endTag atEnd? text with
      | none => rfl
      | some parts =>
          obtain ⟨rest, rfl, left⟩ := longest?_eq_some sought
          have ending : endTag ++ rest ∈ endings := by
            unfold atEnd? at left
            split at left
            · next last => rcases last with rfl | rfl <;> simp [endings]
            · cases left
          rw [dropEnd?_eq_some_iff.mpr ⟨_, ending, rfl⟩] at found
          cases found

theorem reads_message : Reads (.run 1 isInLine :: lastPieces) (ended nonEmpty?)
    (fun message => [message]) := by
  have reads := reads_atEnd.run isInLine_iff (by decide : endTag ≠ []) (by decide) 1
  refine reads.of_eq fun text => ?_
  rw [longest?_endTag, ended]
  cases dropEnd? text with
  | none => rfl
  | some body => cases body <;> simp [nonEmpty?]

theorem reads_code : Reads codePieces (ended codeAndMessage?)
    (fun parts => [parts.1, parts.2]) := by
  have reads := reads_message.run isInLine_iff (by decide : messageTag ≠ []) (by decide) 1
  refine reads.of_eq fun text => ?_
  rw [longest?_ended _ (by decide), ended, ended]
  cases dropEnd? text with
  | none => rfl
  | some body =>
      rw [Option.bind_some, Option.bind_some, codeAndMessage?_eq]
      cases longest? messageTag nonEmpty? body with
      | none => rfl
      | some parts =>
          obtain ⟨code, message⟩ := parts
          cases code <;> simp [nonEmpty?]

theorem rejects_digit {α : Type} {t : Char} {tag : List Char} (plain : Text.isDecimal t = false)
    (accept : List Char → Option α) (c : Char) (rest : List Char)
    (digit : Text.isDecimal c = true) : (strip? (t :: tag) (c :: rest)).bind accept = none := by
  have other : ¬ t = c := by
    rintro rfl
    rw [plain] at digit
    cases digit
  rw [strip?, if_neg other, Option.bind_none]

theorem reads_afterFile : Reads
    ([.run 1 Text.isDecimal, .literal [':'], .run 1 Text.isDecimal, .literal codeTag] ++
      codePieces) (ended afterFile?)
    (fun parts => [parts.1, parts.2.1, parts.2.2.1, parts.2.2.2]) := by
  have column := (reads_code.literal (by decide : '\n' ∉ codeTag)).number
    (rejects_digit (by decide) _)
  have line := (column.literal (by decide : '\n' ∉ [':'])).number (rejects_digit (by decide) _)
  refine line.of_eq fun text => ?_
  simp only [strip?_ended, number?_ended]
  have same : afterFile? = fun body => (number? body).bind fun line =>
      ((strip? [':'] line.2).bind fun place => (number? place).bind fun column =>
        ((strip? codeTag column.2).bind codeAndMessage?).map fun parts =>
          (column.1, parts)).map fun parts => (line.1, parts) := by
    funext body
    simp only [afterFile?_eq, Option.map_eq_bind, Option.bind_assoc, Function.comp_def,
      Option.bind_some]
  rw [same]

/-- The pattern finds in a line what the reader of lines does. -/
theorem reads_fields : Reads delimited fields? Fields.captures := by
  have file := reads_afterFile.run isInLine_iff (by decide : lineTag ≠ []) (by decide) 0
  refine (file.literal (by decide : '\n' ∉ fileTag)).of_eq fun text => ?_
  simp only [longest?_ended _ (by decide : lineTag ≠ []), Nat.not_lt_zero, if_false,
    Option.bind_fun_some, strip?_ended]
  rw [fields?_eq, ended]
  simp only [Option.map_eq_bind, Option.bind_assoc, Function.comp_def, Option.bind_some]
  rfl

end Pattern

/-- The problems of a report are those that the pattern finds in it. -/
theorem delimited_eq_finds (text : String) :
    Report.delimited text =
      (Pattern.delimited.finds true text.toList).filterMap Problem.ofCaptures? := by
  rw [Pattern.finds_eq_lines Pattern.reads_fields rfl, List.filterMap_filterMap, Report.delimited,
    Report.lines]
  congr 1
  funext line
  rw [problem?]
  cases fields? line <;> rfl

end TemplateLint.Report
