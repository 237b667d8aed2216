import Mathlib.Data.Rat.Cast.Order
import TemplateLint.Proofs.CommandLines
import TemplateLint.Proofs.DelimitedReports

/-!
# Which number the tool is given

A number of the settings is an integer of 64 bits or a double, and either denotes one rational
number.  An integer that fits a signed word of 64 bits is passed on as it is, in whichever way it
was written, and a number with a fraction is not passed on.  An integer that does not fit is passed
on all the same, as the closest one that does.
Main exports: `Double.value`, `Number.value`, `Double.toInt?_eq_some_iff`, `Number.PassedAs`,
`Number.passedAs_iff`, `Text.denoted?`, `PassesNumbers`, `Settings.passesNumbers`.
-/

namespace TemplateLint

/-! ## What numbers denote -/

namespace Double

/-- The number that a double denotes. -/
def value (double : Double) : ℚ :=
  (if double.negative then -1 else 1) * (double.mantissa * 2 ^ double.exponent)

theorem ratio_snd_pos (double : Double) : 0 < double.ratio.2 := by
  unfold ratio
  split
  · exact Nat.one_pos
  · exact Nat.pow_pos Nat.two_pos

/-- The two numbers of the ratio are the magnitude of the double. -/
theorem ratio_eq (double : Double) :
    (double.ratio.1 : ℚ) / double.ratio.2 = double.mantissa * 2 ^ double.exponent := by
  unfold ratio
  split
  · next whole =>
      obtain ⟨power, same⟩ := Int.eq_ofNat_of_zero_le whole
      simp [same]
  · next fraction =>
      obtain ⟨power, same⟩ := Int.eq_ofNat_of_zero_le (show 0 ≤ -double.exponent by omega)
      have exponent : double.exponent = -(power : Int) := by omega
      simp [exponent, div_eq_mul_inv]

/-- A quotient of naturals is an integer exactly when it leaves no remainder. -/
theorem natCast_div_eq_intCast_iff {num den : Nat} (positive : 0 < den) {whole : Int} :
    (num : ℚ) / den = whole ↔ num % den = 0 ∧ ((num / den : Nat) : Int) = whole := by
  have nonzero : (den : ℚ) ≠ 0 := by exact_mod_cast positive.ne'
  rw [div_eq_iff nonzero]
  constructor
  · intro product
    have own : (num : Int) = whole * den := by exact_mod_cast product
    have divides : den ∣ num := Int.natCast_dvd_natCast.mp ⟨whole, by rw [own, mul_comm]⟩
    refine ⟨Nat.mod_eq_zero_of_dvd divides, ?_⟩
    rw [Int.natCast_div, own]
    exact Int.mul_ediv_cancel whole (by exact_mod_cast positive.ne')
  · rintro ⟨remainder, rfl⟩
    have product : num / den * den = num := Nat.div_mul_cancel (Nat.dvd_of_mod_eq_zero remainder)
    exact_mod_cast product.symm

/-- A double is taken for an integer exactly when it denotes that integer. -/
theorem toInt?_eq_some_iff {double : Double} {whole : Int} :
    double.toInt? = some whole ↔ double.value = whole := by
  have magnitude : ∀ whole : Int, double.mantissa * 2 ^ double.exponent = (whole : ℚ) ↔
      double.ratio.1 % double.ratio.2 = 0 ∧
        ((double.ratio.1 / double.ratio.2 : Nat) : Int) = whole := by
    intro whole
    rw [← ratio_eq]
    exact natCast_div_eq_intCast_iff double.ratio_snd_pos
  simp only [toInt?, beq_iff_eq, Option.ite_none_right_eq_some, Option.some.injEq, value]
  cases double.negative with
  | false => simpa using (magnitude whole).symm
  | true =>
      rw [if_pos rfl, if_pos rfl, neg_one_mul, neg_eq_iff_eq_neg, neg_eq_iff_eq_neg,
        ← Int.cast_neg, magnitude]

end Double

namespace Number

/-- The number that a number of the settings denotes. -/
def value : Number → ℚ
  | .integer whole => whole
  | .double dyadic => dyadic.value

/-- What is passed on for a number. -/
inductive PassedAs (number : Number) : Option Int → Prop where
  /-- An integer of 64 bits is passed on itself. -/
  | itself {whole : Int} (denotes : number.value = whole) (above : leastSigned ≤ whole)
      (below : whole ≤ greatestSigned) : PassedAs number (some whole)
  /-- A larger one is not left out, but passed on as the greatest. -/
  | greatest {whole : Int} (denotes : number.value = whole) (beyond : greatestSigned < whole) :
      PassedAs number (some greatestSigned)
  /-- A smaller one is passed on as the least. -/
  | least {whole : Int} (denotes : number.value = whole) (beyond : whole < leastSigned) :
      PassedAs number (some leastSigned)
  /-- A number with a fraction is left out. -/
  | leftOut (fraction : ∀ whole : Int, number.value ≠ whole) : PassedAs number none

/-- A number is read as the closest integer of 64 bits to the integer that it denotes. -/
theorem toSigned?_eq_some_iff {number : Number} {closest : Int} :
    number.toSigned? = some closest ↔
      ∃ whole : Int, number.value = whole ∧ closest = clampSigned whole := by
  cases number with
  | integer whole => simp [toSigned?, value, eq_comm]
  | double dyadic =>
      simp only [toSigned?, Option.map_eq_some_iff, Double.toInt?_eq_some_iff, value]
      exact exists_congr fun whole => and_congr_right fun _ => eq_comm

theorem toSigned?_eq_none_iff {number : Number} :
    number.toSigned? = none ↔ ∀ whole : Int, number.value ≠ whole := by
  rw [Option.eq_none_iff_forall_ne_some]
  simp only [ne_eq, toSigned?_eq_some_iff, not_exists, not_and]
  constructor
  · exact fun never whole denotes => never (clampSigned whole) whole denotes rfl
  · exact fun never _ whole denotes => absurd denotes (never whole)

theorem passedAs_iff {number : Number} {passed : Option Int} :
    number.PassedAs passed ↔ number.toSigned? = passed := by
  constructor
  · rintro (⟨denotes, above, below⟩ | ⟨denotes, beyond⟩ | ⟨denotes, beyond⟩ | ⟨fraction⟩)
    · exact toSigned?_eq_some_iff.mpr ⟨_, denotes, by unfold clampSigned; omega⟩
    · have ordered : leastSigned ≤ greatestSigned := by decide
      exact toSigned?_eq_some_iff.mpr ⟨_, denotes, by unfold clampSigned; omega⟩
    · exact toSigned?_eq_some_iff.mpr ⟨_, denotes, by unfold clampSigned; omega⟩
    · exact toSigned?_eq_none_iff.mpr fraction
  · intro read
    cases passed with
    | none => exact .leftOut (toSigned?_eq_none_iff.mp read)
    | some closest =>
        obtain ⟨whole, denotes, rfl⟩ := toSigned?_eq_some_iff.mp read
        have ordered : leastSigned ≤ greatestSigned := by decide
        by_cases high : greatestSigned < whole
        · have own : clampSigned whole = greatestSigned := by unfold clampSigned; omega
          exact own ▸ .greatest denotes high
        · by_cases low : whole < leastSigned
          · have own : clampSigned whole = leastSigned := by unfold clampSigned; omega
            exact own ▸ .least denotes low
          · have own : clampSigned whole = whole := by unfold clampSigned; omega
            exact own.symm ▸ .itself denotes (by omega) (by omega)

/-- A double without a fraction is read as the integer it denotes, one with a fraction is not. -/
example : (double ⟨false, 0x10000000000000, -50⟩).toSigned? = some 4 ∧
    (double ⟨false, 0x12000000000000, -50⟩).toSigned? = none := by
  decide +kernel

end Number

/-! ## What a word denotes -/

namespace Text

/-- The integer that a word of the command line denotes: decimal digits, behind a minus sign when
it is negative. -/
def denoted? (word : String) : Option Int :=
  match word.toList with
  | '-' :: digits => (asciiNat? digits).map fun magnitude => -(magnitude : Int)
  | digits => (asciiNat? digits).map fun magnitude => (magnitude : Int)

theorem asciiNat?_decimal (number : Nat) : asciiNat? (decimal number) = some number := by
  have read := Report.readDigits_decimal number
  cases digits : decimal number with
  | nil => exact absurd digits (Report.decimal_ne_nil number)
  | cons first rest => rwa [digits] at read

theorem denoted?_integerText (whole : Int) : denoted? (integerText whole) = some whole := by
  cases whole with
  | ofNat number =>
      have unsigned : ∀ digits, decimal number ≠ '-' :: digits := by
        intro digits same
        have sign : isDecimal '-' = true :=
          Report.isDecimal_of_mem_decimal (same ▸ List.mem_cons_self)
        exact absurd sign (by decide)
      unfold denoted? integerText
      rw [String.toList_ofList]
      split
      · next digits same => exact absurd same (unsigned digits)
      · rw [asciiNat?_decimal]
        rfl
  | negSucc number =>
      unfold denoted? integerText
      simp only [String.toList_ofList, asciiNat?_decimal]
      rfl

end Text

/-! ## What the tool is given -/

/-- The words of a flag that is given a number: its name and a word that denotes the number, and no
words when there is none. -/
def Flag.Carries (flag : Flag) : Option Int → List String → Prop
  | none, words => words = []
  | some whole, words => ∃ word, words = [flag.name, word] ∧ Text.denoted? word = some whole

/-- Numbers of the settings reach the tool. -/
structure PassesNumbers (settings : Settings) : Prop where
  /-- A number is read as what is passed on for it. -/
  read : ∀ key number passed, settings.get? key = some (.number number) →
    (settings.number? key = passed ↔ number.PassedAs passed)
  /-- What is no number is not read. -/
  absent : ∀ key, (∀ number, settings.get? key ≠ some (.number number)) →
    settings.number? key = none
  /-- A flag with a number carries the one that is passed on for its setting. -/
  number : ∀ flag : Flag, flag.kind = .number → ∀ languageId tabSize,
    flag.Carries (settings.number? (flag.setting.getD "")) (flag.render settings languageId tabSize)
  /-- So does the indentation, unless the editor has a width and the user asks for it. -/
  indentation : ∀ flag : Flag, flag.kind = .indentation → ∀ languageId tabSize,
    (settings.isOn "useEditorIndentation" = true → tabSize = none) →
      flag.Carries (settings.number? (flag.setting.getD ""))
        (flag.render settings languageId tabSize)
  /-- The width of the editor is carried as it is. -/
  width : ∀ flag : Flag, flag.kind = .indentation → ∀ languageId (width : Nat),
    settings.isOn "useEditorIndentation" = true →
      flag.Carries (some (width : Int)) (flag.render settings languageId (some width))

namespace Settings

theorem carries_integerText (flag : Flag) (passed : Option Int) :
    flag.Carries passed
      (match passed.map fun whole => [Text.integerText whole] with
        | none => []
        | some value => flag.name :: value) := by
  cases passed with
  | none => rfl
  | some whole => exact ⟨_, rfl, Text.denoted?_integerText whole⟩

/-- A number of the settings reaches the tool as it is exactly when it is an integer of 64 bits. -/
theorem passesNumbers (settings : Settings) : PassesNumbers settings where
  read := by
    intro key number passed held
    rw [number?, held]
    exact Number.passedAs_iff.symm
  absent := by
    intro key none
    rw [Option.eq_none_iff_forall_ne_some]
    intro whole read
    obtain ⟨number, held, -⟩ := number?_eq_some_iff.mp read
    exact none number held
  number := by
    intro flag kind languageId tabSize
    rw [Flag.render, Flag.value?, kind]
    exact carries_integerText flag _
  indentation := by
    intro flag kind languageId tabSize other
    have editor : (if settings.isOn "useEditorIndentation" then tabSize else none) = none := by
      split
      · next on => exact other on
      · rfl
    rw [Flag.render, Flag.value?, kind]
    simp only [editor, Option.map_none, Option.none_or]
    exact carries_integerText flag _
  width := by
    intro flag kind languageId width on
    rw [Flag.render, Flag.value?, kind]
    simp only [on, if_true, Option.map_some, Option.some_or]
    exact carries_integerText flag (some (width : Int))

end Settings

namespace Sample

/-- The length of a line is the least integer that does not fit. -/
def roomy : Settings :=
  ⟨[("maxLineLength", .number (.integer 9223372036854775808))]⟩

end Sample

/-- It is not left out: the tool is given a number that the user has not set. -/
theorem sample_saturates :
    Sample.roomy.get? "maxLineLength" = some (.number (.integer 9223372036854775808)) ∧
      (Number.integer 9223372036854775808).value ≠ (9223372036854775807 : Int) ∧
      Sample.roomy.number? "maxLineLength" = some 9223372036854775807 ∧
      Mode.lint.words Sample.roomy "html" none =
        ["--lint", "--max-line-length", "9223372036854775807"] ∧
      Text.denoted? "9223372036854775807" = some 9223372036854775807 := by
  refine ⟨rfl, ?_, rfl, by decide +kernel, by decide +kernel⟩
  rw [Number.value, Ne, Int.cast_inj]
  decide

end TemplateLint
