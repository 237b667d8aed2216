import Mathlib.Tactic.SplitIfs
import TemplateLint.Json.Printer
import TemplateLint.Json.Reader

/-!
# Written values are read back

Reading takes a written value apart again, character by character and item by item, whatever comes
after it: texts, truth values, arrays of texts, and the members of an object.
Main exports: `Json.string?_quoted`, `Json.scanValue_texts`, `Json.scanMemberList_more`.
-/

namespace TemplateLint

/-! ## Strings -/

theorem Text.hexValue?_hexDigit {value : Nat} (small : value < 16) :
    Text.hexValue? (Text.hexDigit value) = some value := by
  have all : ∀ value < 16, Text.hexValue? (Text.hexDigit value) = some value := by decide
  exact all value small

namespace Json

/-- The escape of a control character is read as that character. -/
theorem unicodeEscape?_control {c : Char} (control : c.toNat < 32) (rest : List Char) :
    unicodeEscape?
        ('0' :: '0' :: Text.hexDigit (c.toNat / 16) :: Text.hexDigit (c.toNat % 16) :: rest) =
      some (c, rest) := by
  have zero : Text.hexValue? '0' = some 0 := by decide
  have high := Text.hexValue?_hexDigit (show c.toNat / 16 < 16 by omega)
  have low := Text.hexValue?_hexDigit (show c.toNat % 16 < 16 by omega)
  have code : ((0 * 16 + 0) * 16 + c.toNat / 16) * 16 + c.toNat % 16 = c.toNat := by omega
  simp only [unicodeEscape?, fourHex?, zero, high, low, Option.bind_eq_bind, Option.bind_some,
    code]
  rw [if_neg (by omega), if_neg (by omega), Char.ofNat_toNat]

/-- An escape is read as the character that it stands for. -/
theorem stringChars?_of_escaped {fuel : Nat} {chars rest : List Char} {c : Char}
    (read : escaped? chars = some (c, rest)) :
    stringChars? (fuel + 1) ('\\' :: chars) =
      (stringChars? fuel rest).map fun (content, rest) => (c :: content, rest) := by
  simp only [stringChars?, read, Option.bind_eq_bind, Option.bind_some]
  cases stringChars? fuel rest <;> rfl

/-- A character is read as itself, whether or not it was escaped. -/
theorem stringChars?_escape (fuel : Nat) (c : Char) (rest : List Char) :
    stringChars? (fuel + 1) (escape c ++ rest) =
      (stringChars? fuel rest).map fun (content, rest) => (c :: content, rest) := by
  unfold escape
  split_ifs with quote backslash newline carriage tab backspace feed control
  · exact stringChars?_of_escaped (by rw [quote]; rfl)
  · exact stringChars?_of_escaped (by rw [backslash]; rfl)
  · exact stringChars?_of_escaped (by rw [newline]; rfl)
  · exact stringChars?_of_escaped (by rw [carriage]; rfl)
  · exact stringChars?_of_escaped (by rw [tab]; rfl)
  · exact stringChars?_of_escaped (by rw [backspace]; rfl)
  · exact stringChars?_of_escaped (by rw [feed]; rfl)
  · exact stringChars?_of_escaped (unicodeEscape?_control control rest)
  · rw [List.singleton_append]
    simp only [stringChars?, control, if_false, Option.bind_eq_bind]
    cases stringChars? fuel rest <;> rfl

theorem stringChars?_quoted (chars rest : List Char) {fuel : Nat} (enough : chars.length < fuel) :
    stringChars? fuel (chars.flatMap escape ++ '"' :: rest) = some (chars, rest) := by
  induction chars generalizing fuel with
  | nil =>
      cases fuel with
      | zero => cases enough
      | succ fuel => rfl
  | cons c chars inductionHypothesis =>
      cases fuel with
      | zero => cases enough
      | succ fuel =>
          have more : chars.length < fuel := by simpa using enough
          rw [List.flatMap_cons, List.append_assoc, stringChars?_escape, inductionHypothesis more]
          rfl

theorem length_le_flatMap_escape (chars : List Char) :
    chars.length ≤ (chars.flatMap escape).length := by
  induction chars with
  | nil => exact Nat.le_refl 0
  | cons c chars inductionHypothesis =>
      have one : 1 ≤ (escape c).length := by
        unfold escape
        split_ifs <;> simp
      simp only [List.flatMap_cons, List.length_append, List.length_cons]
      omega

/-- Text between quotes is read as it was written. -/
theorem string?_quoted (text : String) (rest : List Char) :
    string? (text.toList.flatMap escape ++ '"' :: rest) = some (text, rest) := by
  have longer := length_le_flatMap_escape text.toList
  have enough : text.toList.length <
      (text.toList.flatMap escape ++ '"' :: rest).length + 1 := by
    rw [List.length_append]
    omega
  rw [string?, stringChars?_quoted text.toList rest enough]
  simp

/-! ## Values -/

/-- Blanks before a line break are skipped with it. -/
theorem skipBlanks_lineBreak (depth : Nat) {c : Char} (visible : isBlank c = false)
    (rest : List Char) : skipBlanks (lineBreak depth ++ c :: rest) = c :: rest := by
  have blanks : ∀ count, (List.replicate count ' ' ++ c :: rest).dropWhile isBlank = c :: rest := by
    intro count
    induction count with
    | zero => simp [visible]
    | succ count inductionHypothesis =>
        rw [List.replicate_succ, List.cons_append, List.dropWhile_cons]
        exact inductionHypothesis
  rw [skipBlanks, lineBreak, List.cons_append, List.dropWhile_cons]
  exact blanks _

theorem skipBlanks_quoted (depth : Nat) (text : String) (rest : List Char) :
    skipBlanks (lineBreak depth ++ (quoted text ++ rest)) = quoted text ++ rest :=
  skipBlanks_lineBreak depth rfl _

theorem scanValue_quoted (fuel depth : Nat) (text : String) (rest : List Char) :
    scanValue (fuel + 1) depth (quoted text ++ rest) = some (.text text, rest) := by
  have read := string?_quoted text rest
  simp only [quoted, List.cons_append, List.append_assoc, List.nil_append, scanValue, read]
  rfl

theorem scanValue_bool (fuel depth level : Nat) (flag : Bool) (rest : List Char) :
    scanValue (fuel + 1) depth (prettyChars level (.bool flag) ++ rest) =
      some (.bool flag, rest) := by
  cases flag <;> simp [prettyChars, scanValue]

theorem skipBlanks_bool (level : Nat) (flag : Bool) (rest : List Char) :
    skipBlanks (prettyChars level (.bool flag) ++ rest) =
      prettyChars level (.bool flag) ++ rest := by
  cases flag <;> simp [prettyChars, skipBlanks, isBlank]

theorem skipBlanks_array (level : Nat) (items : List Json) (rest : List Char) :
    skipBlanks (prettyChars level (.array items) ++ rest) =
      prettyChars level (.array items) ++ rest := by
  cases items <;> simp [prettyChars, skipBlanks, isBlank]

section steps

variable {fuel depth : Nat} {chars more rest : List Char} {item : Json}
  {items : List Json} {members : Members} {name : String}

/-- The last item of an array stands before a line break and the bracket. -/
theorem scanItems_last (level : Nat)
    (read : scanValue fuel depth chars = some (item, lineBreak level ++ ']' :: rest)) :
    scanItems (fuel + 1) depth chars = some ([item], rest) := by
  have close : skipBlanks (lineBreak level ++ ']' :: rest) = ']' :: rest :=
    skipBlanks_lineBreak level rfl rest
  simp only [scanItems, read, Option.bind_eq_bind, Option.bind_some, close]

theorem scanItems_more (read : scanValue fuel depth chars = some (item, ',' :: more))
    (others : scanItems fuel depth (skipBlanks more) = some (items, rest)) :
    scanItems (fuel + 1) depth chars = some (item :: items, rest) := by
  have comma : skipBlanks (',' :: more) = ',' :: more := rfl
  simp only [scanItems, read, Option.bind_eq_bind, Option.bind_some, comma, others]

/-- The last member of an object stands before a line break and the brace. -/
theorem scanMemberList_last (level : Nat)
    (read : scanValue fuel depth (skipBlanks chars) = some (item, lineBreak level ++ '}' :: rest)) :
    scanMemberList (fuel + 1) depth (quoted name ++ ':' :: ' ' :: chars) =
      some ([(name, item)], rest) := by
  have key := string?_quoted name (':' :: ' ' :: chars)
  have colon : skipBlanks (':' :: ' ' :: chars) = ':' :: ' ' :: chars := rfl
  have blank : skipBlanks (' ' :: chars) = skipBlanks chars := rfl
  have close : skipBlanks (lineBreak level ++ '}' :: rest) = '}' :: rest :=
    skipBlanks_lineBreak level rfl rest
  simp only [quoted, List.cons_append, List.append_assoc, List.nil_append, scanMemberList, key,
    Option.bind_eq_bind, Option.bind_some, colon, blank, read, close]

theorem scanMemberList_more
    (read : scanValue fuel depth (skipBlanks chars) = some (item, ',' :: more))
    (others : scanMemberList fuel depth (skipBlanks more) = some (members, rest)) :
    scanMemberList (fuel + 1) depth (quoted name ++ ':' :: ' ' :: chars) =
      some ((name, item) :: members, rest) := by
  have key := string?_quoted name (':' :: ' ' :: chars)
  have colon : skipBlanks (':' :: ' ' :: chars) = ':' :: ' ' :: chars := rfl
  have blank : skipBlanks (' ' :: chars) = skipBlanks chars := rfl
  have comma : skipBlanks (',' :: more) = ',' :: more := rfl
  simp only [quoted, List.cons_append, List.append_assoc, List.nil_append, scanMemberList, key,
    Option.bind_eq_bind, Option.bind_some, colon, blank, read, comma, others]

/-- An object that begins with a quote has members. -/
theorem scanMembers_quote (starts : skipBlanks chars = '"' :: more) :
    scanMembers (fuel + 1) depth chars = scanMemberList fuel depth ('"' :: more) := by
  simp [scanMembers, starts]

end steps

/-- Texts that stand a line each in an array are read one after the other. -/
theorem scanItems_texts (depth level : Nat) (first : String) (others : List String)
    (rest : List Char) {fuel : Nat} (enough : others.length + 1 < fuel) :
    scanItems fuel depth
        (skipBlanks (prettyItems level ((first :: others).map Json.text) ++ rest)) =
      some ((first :: others).map Json.text, rest) := by
  induction others generalizing first fuel with
  | nil =>
      obtain ⟨fuel, rfl⟩ : ∃ more, fuel = more + 2 := ⟨fuel - 2, by simp at enough; omega⟩
      simp only [List.map_cons, List.map_nil, prettyItems, prettyChars, List.append_assoc,
        skipBlanks_quoted]
      exact scanItems_last level (scanValue_quoted fuel depth first _)
  | cons second others inductionHypothesis =>
      obtain ⟨fuel, rfl⟩ : ∃ more, fuel = more + 2 := ⟨fuel - 2, by simp at enough; omega⟩
      simp only [List.map_cons, prettyItems, prettyChars, List.append_assoc, skipBlanks_quoted]
      exact scanItems_more (scanValue_quoted fuel depth first _)
        (inductionHypothesis second (by simp at enough; omega))

theorem scanValue_texts (depth level : Nat) (texts : List String) (rest : List Char) {fuel : Nat}
    (enough : texts.length + 1 < fuel) :
    scanValue fuel (depth + 1) (prettyChars level (.array (texts.map Json.text)) ++ rest) =
      some (.array (texts.map Json.text), rest) := by
  obtain ⟨fuel, rfl⟩ : ∃ more, fuel = more + 1 := ⟨fuel - 1, by omega⟩
  cases texts with
  | nil => simp [prettyChars, scanValue, skipBlanks, isBlank]
  | cons first others =>
      have items : scanItems fuel depth
          (skipBlanks (prettyItems level ((first :: others).map Json.text) ++ rest)) =
            some ((first :: others).map Json.text, rest) :=
        scanItems_texts depth level first others rest (by simp at enough; omega)
      obtain ⟨tail, starts⟩ : ∃ tail,
          skipBlanks (prettyItems level ((first :: others).map Json.text) ++ rest) =
            '"' :: tail := by
        cases others <;>
          simp only [List.map_cons, List.map_nil, prettyItems, prettyChars, List.append_assoc] <;>
          exact ⟨_, skipBlanks_lineBreak (level + 1) rfl _⟩
      rw [starts] at items
      simp only [List.map_cons] at starts items ⊢
      simp [prettyChars, scanValue, starts, items]

theorem length_le_prettyItems (level : Nat) (texts : List String) :
    texts.length ≤ (prettyItems level (texts.map Json.text)).length := by
  induction texts with
  | nil => exact Nat.zero_le _
  | cons first others inductionHypothesis =>
      cases others with
      | nil => simp [prettyItems]; omega
      | cons second others =>
          simp only [List.map_cons, prettyItems, List.length_append, List.length_cons] at *
          omega

/-- An array of texts has at least as many characters as items. -/
theorem length_le_prettyChars (level : Nat) (texts : List String) :
    texts.length ≤ (prettyChars level (.array (texts.map Json.text))).length := by
  cases texts with
  | nil => exact Nat.zero_le _
  | cons first others =>
      have items := length_le_prettyItems level (first :: others)
      simp only [List.map_cons, prettyChars, List.length_cons] at items ⊢
      omega

end Json

end TemplateLint
