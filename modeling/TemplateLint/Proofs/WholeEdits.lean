import TemplateLint.Proofs.Verdicts

/-!
# What the edit of a whole document makes of it

An editor ends a line at a line feed, at a carriage return, and at both together.  The range of a
document is told in lines that end at line feeds only.  So its edit replaces all of the text,
unless a carriage return stands alone in it: then as many line ends stay behind the new text.
Main exports: `lineEnds`, `loneReturns`, `Position.restOf`, `TextEdit.apply`, `ReplacesWhole`,
`Host.replacesWhole`.
-/

namespace TemplateLint

/-! ## Texts as an editor sees them -/

/-- A line ends at the character: a line feed, or a carriage return without one behind it. -/
def EndsLineAt (c : Char) (rest : List Char) : Prop :=
  c = '\n' ∨ (c = '\r' ∧ rest.head? ≠ some '\n')

instance (c : Char) (rest : List Char) : Decidable (EndsLineAt c rest) :=
  inferInstanceAs (Decidable (c = '\n' ∨ (c = '\r' ∧ rest.head? ≠ some '\n')))

/-- How many lines end in a text. -/
def lineEnds : List Char → Nat
  | [] => 0
  | c :: rest => (if EndsLineAt c rest then 1 else 0) + lineEnds rest

/-- How many carriage returns have no line feed behind them. -/
def loneReturns : List Char → Nat
  | [] => 0
  | c :: rest => (if c = '\r' ∧ rest.head? ≠ some '\n' then 1 else 0) + loneReturns rest

/-- The UTF-16 units of a text. -/
def width : List Char → Nat
  | [] => 0
  | c :: rest => units16 c + width rest

/-- What stands from the beginning of a line on. -/
def fromLine : Nat → List Char → List Char
  | 0, text => text
  | _ + 1, [] => []
  | line + 1, c :: rest => if EndsLineAt c rest then fromLine line rest else fromLine (line + 1) rest

/-- What stands from a column of the first line on.  A column past the end of the line means that
end, and one in the middle of a character the place before it. -/
def fromColumn : Nat → List Char → List Char
  | _, [] => []
  | column, c :: rest =>
      if c = '\r' ∨ c = '\n' ∨ column < units16 c then c :: rest
      else fromColumn (column - units16 c) rest

/-- What stands from a place on. -/
def Position.restOf (place : Position) (text : List Char) : List Char :=
  fromColumn place.character (fromLine place.line text)

/-- The text that an edit makes of a text. -/
def TextEdit.apply (edit : TextEdit) (text : String) : String :=
  let chars := text.toList
  let before := chars.take (chars.length - (edit.range.first.restOf chars).length)
  String.ofList (before ++ edit.newText.toList ++ edit.range.last.restOf chars)

/-! ## Line ends -/

theorem lineEnds_eq (text : List Char) : lineEnds text = text.count '\n' + loneReturns text := by
  induction text with
  | nil => rfl
  | cons c rest inductionHypothesis =>
      rw [lineEnds, loneReturns, inductionHypothesis, List.count_cons]
      by_cases feed : c = '\n'
      · simp [EndsLineAt, feed]
        omega
      · simp [EndsLineAt, feed]
        omega

theorem lineEnds_fromLine (line : Nat) (text : List Char) :
    lineEnds (fromLine line text) = lineEnds text - line := by
  induction text generalizing line with
  | nil => cases line <;> simp [fromLine, lineEnds]
  | cons c rest inductionHypothesis =>
      cases line with
      | zero => rfl
      | succ line =>
          rw [fromLine, lineEnds]
          split
          · rw [inductionHypothesis]
            omega
          · rw [inductionHypothesis]
            omega

/-- No line ends before a column. -/
theorem lineEnds_fromColumn (column : Nat) (text : List Char) :
    lineEnds (fromColumn column text) = lineEnds text := by
  induction text generalizing column with
  | nil => rfl
  | cons c rest inductionHypothesis =>
      rw [fromColumn]
      split
      · rfl
      · next inside =>
          simp only [not_or] at inside
          rw [inductionHypothesis, lineEnds]
          simp [EndsLineAt, inside]

/-- In a text without a line end the column behind it leaves nothing. -/
theorem fromColumn_width {text : List Char} (within : lineEnds text = 0) :
    fromColumn (width text) text = [] := by
  induction text with
  | nil => rfl
  | cons c rest inductionHypothesis =>
      rw [lineEnds, Nat.add_eq_zero_iff] at within
      obtain ⟨here, later⟩ := within
      have other : ¬ EndsLineAt c rest := by simpa using here
      have noFeed : c ≠ '\n' := fun feed => other (Or.inl feed)
      have noReturn : c ≠ '\r' := by
        intro returns
        cases rest with
        | nil => exact other (Or.inr ⟨returns, by simp⟩)
        | cons next rest =>
            -- the line feed behind it would end the line
            have feed : next = '\n' := by simpa [EndsLineAt, returns] using other
            simp [lineEnds, EndsLineAt, feed] at later
      have passed : ¬ (c = '\r' ∨ c = '\n' ∨ width (c :: rest) < units16 c) := by
        simp [noFeed, noReturn, width]
      rw [fromColumn, if_neg passed, width, Nat.add_sub_cancel_left]
      exact inductionHypothesis later

/-! ## The end of a text -/

theorem after_line (start : Position) (text : List Char) :
    (Position.after start text).line = start.line + text.count '\n' := by
  induction text generalizing start with
  | nil => rfl
  | cons c rest inductionHypothesis =>
      rw [Position.after, List.count_cons]
      split
      · next feed =>
          rw [inductionHypothesis]
          simp [feed]
          omega
      · next other =>
          rw [inductionHypothesis]
          simp [other]

/-- When all line ends are line feeds, with or without a carriage return, the column at the end is
the width of what stands from the last line on. -/
theorem after_character {text : List Char} (together : loneReturns text = 0) (start : Position) :
    (Position.after start text).character =
      (if '\n' ∈ text then 0 else start.character) +
        width (fromLine (text.count '\n') text) := by
  induction text generalizing start with
  | nil => simp [Position.after, fromLine, width]
  | cons c rest inductionHypothesis =>
      rw [loneReturns, Nat.add_eq_zero_iff] at together
      obtain ⟨here, later⟩ := together
      rw [Position.after]
      split
      · next feed =>
          have ends : EndsLineAt '\n' rest := Or.inl rfl
          rw [inductionHypothesis later, feed, List.count_cons_self, fromLine, if_pos ends]
          simp
      · next other =>
          have inside : ¬ EndsLineAt c rest := by
            intro ends
            rcases ends with feed | alone
            · exact other feed
            · simp [alone] at here
          rw [inductionHypothesis later, List.count_cons_of_ne other]
          by_cases feeds : '\n' ∈ rest
          · obtain ⟨line, more⟩ := Nat.exists_eq_add_one.mpr (List.count_pos_iff.mpr feeds)
            rw [more, fromLine, if_neg inside]
            simp [feeds]
          · have last : rest.count '\n' = 0 := List.count_eq_zero.mpr feeds
            rw [last, fromLine, fromLine]
            simp [feeds, Ne.symm other, width]
            omega

/-- Behind the end of a text that is told in line feeds there are as many line ends as carriage
returns stand alone in it. -/
theorem lineEnds_restOf (text : List Char) :
    lineEnds ((Position.after ⟨0, 0⟩ text).restOf text) = loneReturns text := by
  have feeds : (Position.after ⟨0, 0⟩ text).line = text.count '\n' := by simp [after_line]
  rw [Position.restOf, lineEnds_fromColumn, lineEnds_fromLine, lineEnds_eq, feeds]
  omega

example : (Position.after ⟨0, 0⟩ "a\rb\r\nc".toList).restOf "a\rb\r\nc".toList =
    "\r\nc".toList := by decide

/-- Nothing stands behind it when none does. -/
theorem restOf_eq_nil {text : List Char} :
    (Position.after ⟨0, 0⟩ text).restOf text = [] ↔ loneReturns text = 0 := by
  constructor
  · intro nothing
    rw [← lineEnds_restOf, nothing]
    rfl
  · intro together
    have feeds : (Position.after ⟨0, 0⟩ text).line = text.count '\n' := by simp [after_line]
    have units : (Position.after ⟨0, 0⟩ text).character =
        width (fromLine (text.count '\n') text) := by
      simp [after_character together]
    have within : lineEnds (fromLine (text.count '\n') text) = 0 := by
      rw [lineEnds_fromLine, lineEnds_eq, together]
      omega
    rw [Position.restOf, feeds, units]
    exact fromColumn_width within

/-! ## The edit of a whole document -/

theorem fromLine_suffix (line : Nat) (text : List Char) : fromLine line text <:+ text := by
  induction text generalizing line with
  | nil => cases line <;> exact List.suffix_rfl
  | cons c rest inductionHypothesis =>
      cases line with
      | zero => exact List.suffix_rfl
      | succ line =>
          rw [fromLine]
          split
          · exact (inductionHypothesis line).trans (List.suffix_cons c rest)
          · exact (inductionHypothesis (line + 1)).trans (List.suffix_cons c rest)

theorem fromColumn_suffix (column : Nat) (text : List Char) : fromColumn column text <:+ text := by
  induction text generalizing column with
  | nil => exact List.suffix_rfl
  | cons c rest inductionHypothesis =>
      rw [fromColumn]
      split
      · exact List.suffix_rfl
      · exact (inductionHypothesis _).trans (List.suffix_cons c rest)

theorem Position.restOf_suffix (place : Position) (text : List Char) :
    place.restOf text <:+ text :=
  (fromColumn_suffix _ _).trans (fromLine_suffix _ _)

theorem Position.restOf_start (text : List Char) : (⟨0, 0⟩ : Position).restOf text = text := by
  cases text with
  | nil => rfl
  | cons c rest =>
      have wide : 0 < units16 c := by
        unfold units16
        split <;> omega
      simp [restOf, fromLine, fromColumn, wide]

/-- Line and column have 32 bits. -/
def Position.Fits (place : Position) : Prop :=
  place.line < 0x100000000 ∧ place.character < 0x100000000

instance (place : Position) : Decidable place.Fits :=
  inferInstanceAs (Decidable (_ ∧ _))

theorem Position.cut_of_fits {place : Position} (fits : place.Fits) : place.cut = place := by
  rw [cut, Nat.mod_eq_of_lt fits.1, Nat.mod_eq_of_lt fits.2]

/-- Of the old text there stays what stands behind its end as the edit tells it. -/
theorem Document.apply_fullRange {document : Document}
    (fits : (Position.after ⟨0, 0⟩ document.text.toList).Fits) (formatted : String) :
    TextEdit.apply ⟨document.fullRange, formatted⟩ document.text =
      formatted ++ String.ofList
        ((Position.after ⟨0, 0⟩ document.text.toList).restOf document.text.toList) := by
  simp only [TextEdit.apply, fullRange, endPosition, Position.cut_of_fits fits,
    Position.restOf_start]
  simp

/-- What the edits make of a document for which the tool printed a text.  There are none if that is
the text of the document, and else there is one that puts it in place of all but the end of the old
text.  Of that end as many lines stay as carriage returns stood alone, and nothing when none did. -/
structure ReplacesWhole (document : Document) (formatted : String) (edits : List TextEdit) :
    Prop where
  unchanged : edits = [] ↔ formatted = document.text
  changed : formatted ≠ document.text → ∃ edit left, edits = [edit] ∧
    edit.apply document.text = formatted ++ String.ofList left ∧ left <:+ document.text.toList ∧
      lineEnds left = loneReturns document.text.toList ∧
      (edit.apply document.text = formatted ↔ loneReturns document.text.toList = 0)

theorem Document.editsTo_replacesWhole {document : Document}
    (fits : (Position.after ⟨0, 0⟩ document.text.toList).Fits) (formatted : String) :
    ReplacesWhole document formatted (document.editsTo formatted) := by
  constructor
  case unchanged =>
    rw [editsTo]
    split <;> simp [*]
  case changed =>
    intro differs
    have applied := apply_fullRange fits formatted
    refine ⟨⟨document.fullRange, formatted⟩, _, if_neg differs, applied,
      Position.restOf_suffix _ _, lineEnds_restOf _, ?_⟩
    rw [applied, ← restOf_eq_nil]
    simp

/-- When a formatting succeeds, its edits make of the document what the tool printed, but for the
lines that carriage returns alone have ended. -/
theorem Host.replacesWhole {host : Host} {locator : Locator} {invocation : Invocation}
    {world after : World} {formatted : String} (wanted : invocation.shouldFormat = true)
    (ran : host.formatText locator invocation world = (.ok formatted, after))
    (fits : (Position.after ⟨0, 0⟩ invocation.document.text.toList).Fits) :
    ∃ edits, host.formatDocument locator invocation world = (.ok edits, after) ∧
      ReplacesWhole invocation.document formatted edits := by
  refine ⟨invocation.document.editsTo formatted, ?_, Document.editsTo_replacesWhole fits formatted⟩
  rw [formatDocument, if_pos wanted, ran]
  rfl

/-! ### Line ends of all kinds -/

namespace Sample

/-- Every program prints `x`. -/
def printing : Host :=
  { environ := []
    behave := fun disk _ => (⟨"x".toUTF8, "".toUTF8, .exited 0⟩, disk) }

/-- The interpreter `/p`. -/
def python : Path := ⟨[47, 112]⟩

/-- The interpreter is all that is there. -/
def alone : World := ⟨⟨[([[112]], .file .empty true)], [], fun _ => none⟩, [], ⟨python, false⟩⟩

/-- A text is to be formatted. -/
def formats (text : String) : Invocation :=
  ⟨⟨⟨"untitled", none, .plain "page", none, none⟩, "html", none, text⟩,
    (Settings.empty.set "useVenv" (.bool true)).set "formatLanguages" (.array [.text "html"]),
    none, none⟩

/-- It becomes `x`. -/
theorem formatText_formats (text : String) :
    printing.formatText (.fixed (.found python)) (formats text) alone =
      (.ok "x", { alone with
        launches := [⟨python, (formats text).arguments .format, [], text⟩] }) := by
  have resolved : printing.resolve (.fixed (.found python)) (formats text) alone =
      (.ok ⟨python, .activeEnvironment⟩, alone) := by rfl
  have started : printing.start ((formats text).command .format python) alone =
      (.ok ⟨"x".toUTF8, "".toUTF8, .exited 0⟩, { alone with
        launches := [⟨python, (formats text).arguments .format, [], text⟩] }) := by rfl
  have printed : (ToolOutput.ofOutcome ⟨"x".toUTF8, "".toUTF8, .exited 0⟩).stdout = "x" :=
    decodeLossy_toUTF8 "x"
  rw [Host.formatText, Host.run_started resolved started]
  rw [conclude_eq_ok.mpr ⟨printed.symm, Or.inl (Or.inl rfl)⟩]

end Sample

open Sample in
/-- Lines end in two ways, and a character is two units wide. -/
theorem sample_replacesWhole :
    ∃ after, printing.formatText (.fixed (.found python)) (formats "a\r\nb\n😀") alone =
        (.ok "x", after) ∧
      (Position.after ⟨0, 0⟩ "a\r\nb\n😀".toList).Fits ∧
      ∃ edits, printing.formatDocument (.fixed (.found python)) (formats "a\r\nb\n😀") alone =
          (.ok edits, after) ∧ ReplacesWhole (formats "a\r\nb\n😀").document "x" edits := by
  have wanted : (formats "a\r\nb\n😀").shouldFormat = true := by decide
  have fits : (Position.after ⟨0, 0⟩ "a\r\nb\n😀".toList).Fits := by decide
  exact ⟨_, formatText_formats _, fits, Host.replacesWhole wanted (formatText_formats _) fits⟩

open Sample in
/-- A carriage return stands alone: the line behind it stays. -/
theorem sample_leaves :
    ∃ edit after, printing.formatText (.fixed (.found python)) (formats "a\rb") alone =
        (.ok "x", after) ∧
      printing.formatDocument (.fixed (.found python)) (formats "a\rb") alone =
        (.ok [edit], after) ∧
      edit.apply "a\rb" = "x\rb" ∧ edit.apply "a\rb" ≠ "x" := by
  have wanted : (formats "a\rb").shouldFormat = true := by decide
  refine ⟨⟨⟨⟨0, 0⟩, ⟨0, 3⟩⟩, "x"⟩, _, formatText_formats _, ?_, by decide, by decide⟩
  rw [Host.formatDocument, if_pos wanted, formatText_formats]
  rfl

end TemplateLint
