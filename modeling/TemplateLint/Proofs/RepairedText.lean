import Mathlib.Data.Nat.Init
import TemplateLint.Proofs.Files

/-!
# Repaired text

Bytes are read one character at a time, and an ASCII byte is always a character of its own: no
ill-formed sequence takes it in, and nothing else is read as it.  Well-formed bytes need no repair.
Main exports: `Utf8.readChar`, `Utf8.repair_append`, `Utf8.repair_eq_cons`, `Utf8.repair_encode`,
`Utf8.display_eq`, `Utf8.IsText`, `Utf8.IsText.display_injective`.
-/

namespace TemplateLint.Utf8

/-! ## One character -/

/-- The first character of bytes, and the bytes after it. -/
def readChar (first : UInt8) (rest : List UInt8) : Char × List UInt8 :=
  if first < 0x80 then (Char.ofNat first.toNat, rest)
  else
    match Lead.of? first with
    | none => (replacement, rest)
    | some lead =>
        let taken := takeFollowers lead.followers lead.low lead.high lead.bits rest
        (taken.1.elim replacement Char.ofNat, taken.2)

theorem repair_cons (first : UInt8) (rest : List UInt8) :
    repair (first :: rest) = (readChar first rest).1 :: repair (readChar first rest).2 := by
  rw [repair, readChar]
  split
  · rfl
  · cases Lead.of? first with
    | none => rfl
    | some lead =>
        simp only
        cases (takeFollowers lead.followers lead.low lead.high lead.bits rest).1 with
        | none => rfl
        | some code => rfl

theorem takeFollowers_suffix (n : Nat) (low high : UInt8) (bits : Nat) (bytes : List UInt8) :
    (takeFollowers n low high bits bytes).2 <:+ bytes := by
  induction n generalizing low high bits bytes with
  | zero => exact List.suffix_rfl
  | succ n inductionHypothesis =>
      cases bytes with
      | nil => exact List.suffix_rfl
      | cons byte rest =>
          rw [takeFollowers]
          split
          · exact (inductionHypothesis ..).trans (List.suffix_cons byte rest)
          · exact List.suffix_rfl

theorem readChar_suffix (first : UInt8) (rest : List UInt8) : (readChar first rest).2 <:+ rest := by
  unfold readChar
  split
  · exact List.suffix_rfl
  · split
    · exact List.suffix_rfl
    · exact takeFollowers_suffix ..

theorem readChar_ascii {first : UInt8} (ascii : first < 0x80) (rest : List UInt8) :
    readChar first rest = (Char.ofNat first.toNat, rest) := by
  rw [readChar, if_pos ascii]

/-! ### What the bytes after the first one come to -/

theorem takeFollowers_code {n : Nat} {low high : UInt8} {bits code : Nat} {bytes : List UInt8}
    (taken : (takeFollowers n low high bits bytes).1 = some code) : bits * Nat.pow 64 n ≤ code := by
  induction n generalizing low high bits bytes with
  | zero =>
      rw [takeFollowers] at taken
      cases taken
      simp
  | succ n inductionHypothesis =>
      cases bytes with
      | nil => cases taken
      | cons byte rest =>
          rw [takeFollowers] at taken
          split at taken
          · have bound := inductionHypothesis taken
            calc bits * Nat.pow 64 (n + 1) = bits * (Nat.pow 64 n * 64) := rfl
              _ = bits * 64 * Nat.pow 64 n := by rw [Nat.mul_comm (Nat.pow 64 n), Nat.mul_assoc]
              _ ≤ (bits * 64 + (byte.toNat - 0x80)) * Nat.pow 64 n :=
                  Nat.mul_le_mul_right _ (Nat.le_add_right ..)
              _ ≤ code := bound
          · cases taken

/-- The bounds of the second byte leave no code point that a single byte could have stood for. -/
theorem Lead.of?_eq_some {first : UInt8} {lead : Lead} (found : Lead.of? first = some lead) :
    ∃ n, lead.followers = n + 1 ∧ 0x80 ≤ lead.low ∧
      0x80 ≤ (lead.bits * 64 + (lead.low.toNat - 0x80)) * Nat.pow 64 n := by
  unfold Lead.of? at found
  split_ifs at found with two three surrogate more four others last
  all_goals cases found
  · simp only [Bool.and_eq_true, decide_eq_true_eq, UInt8.le_iff_toNat_le] at two
    have low : 0xc2 ≤ first.toNat := two.1
    exact ⟨0, rfl, UInt8.le_refl _, by simp; omega⟩
  · exact ⟨1, rfl, by decide, by decide⟩
  · exact ⟨1, rfl, by decide, by decide⟩
  · simp only [Bool.and_eq_true, decide_eq_true_eq, UInt8.le_iff_toNat_le] at more
    have low : 0xe1 ≤ first.toNat := more.1
    exact ⟨1, rfl, UInt8.le_refl _, by simp; omega⟩
  · exact ⟨2, rfl, by decide, by decide⟩
  · simp only [Bool.and_eq_true, decide_eq_true_eq, UInt8.le_iff_toNat_le] at others
    have low : 0xf1 ≤ first.toNat := others.1
    exact ⟨2, rfl, UInt8.le_refl _, by simp; omega⟩
  · exact ⟨2, rfl, by decide, by decide⟩

theorem Lead.code {first : UInt8} {lead : Lead} {bytes : List UInt8} {code : Nat}
    (found : Lead.of? first = some lead)
    (taken : (takeFollowers lead.followers lead.low lead.high lead.bits bytes).1 = some code) :
    0x80 ≤ code := by
  obtain ⟨n, followers, -, bound⟩ := Lead.of?_eq_some found
  rw [followers] at taken
  cases bytes with
  | nil => cases taken
  | cons byte rest =>
      rw [takeFollowers] at taken
      split at taken
      · next within =>
          have low : lead.low.toNat ≤ byte.toNat := by
            simp only [Bool.and_eq_true, decide_eq_true_eq] at within
            exact UInt8.le_iff_toNat_le.mp within.1
          calc 0x80 ≤ (lead.bits * 64 + (lead.low.toNat - 0x80)) * Nat.pow 64 n := bound
            _ ≤ (lead.bits * 64 + (byte.toNat - 0x80)) * Nat.pow 64 n := by
                apply Nat.mul_le_mul_right
                omega
            _ ≤ code := takeFollowers_code taken
      · cases taken

/-- A byte below the bounds ends the bytes that are taken. -/
theorem takeFollowers_append {n : Nat} {low high byte : UInt8} (bound : 0x80 ≤ low)
    (ascii : byte < 0x80) (bits : Nat) (bytes rest : List UInt8) :
    takeFollowers n low high bits (bytes ++ byte :: rest) =
      ((takeFollowers n low high bits bytes).1,
        (takeFollowers n low high bits bytes).2 ++ byte :: rest) := by
  induction n generalizing low high bits bytes with
  | zero => rfl
  | succ n inductionHypothesis =>
      cases bytes with
      | nil =>
          have outside : ¬ low ≤ byte := by
            intro within
            exact absurd (UInt8.lt_of_lt_of_le ascii (UInt8.le_trans bound within))
              (UInt8.lt_irrefl byte)
          simp [takeFollowers, outside]
      | cons next bytes =>
          rw [List.cons_append, takeFollowers, takeFollowers]
          split
          · exact inductionHypothesis (by decide) _ bytes
          · rfl

/-! ### ASCII bytes -/

/-- A character takes in no ASCII byte behind its first one. -/
theorem readChar_append {byte : UInt8} (ascii : byte < 0x80) (first : UInt8)
    (bytes rest : List UInt8) :
    readChar first (bytes ++ byte :: rest) =
      ((readChar first bytes).1, (readChar first bytes).2 ++ byte :: rest) := by
  unfold readChar
  split
  · rfl
  · split
    · rfl
    · next lead found =>
        obtain ⟨n, -, bound, -⟩ := Lead.of?_eq_some found
        rw [takeFollowers_append bound ascii]

/-- A number that is no code point is read as a null. -/
theorem toNat_ofNat (code : Nat) :
    (Char.ofNat code).toNat = code ∨ (Char.ofNat code).toNat = 0 := by
  by_cases valid : code.isValidChar
  · rw [Char.ofNat, dif_pos valid]
    exact Or.inl rfl
  · rw [Char.ofNat, dif_neg valid]
    exact Or.inr rfl

/-- Only an ASCII byte is read as its character. -/
theorem readChar_beyond {first : UInt8} (beyond : ¬ first < 0x80) (rest : List UInt8) :
    (readChar first rest).1.toNat = 0 ∨ 0x80 ≤ (readChar first rest).1.toNat := by
  have large : 0x80 ≤ replacement.toNat := by decide
  rw [readChar, if_neg beyond]
  split
  · exact Or.inr large
  · next lead found =>
      simp only
      cases taken : (takeFollowers lead.followers lead.low lead.high lead.bits rest).1 with
      | none => exact Or.inr large
      | some code =>
          rw [Option.elim_some]
          rcases toNat_ofNat code with same | none
          · rw [same]
            exact Or.inr (Lead.code found taken)
          · exact Or.inl none

/-! ## Whole texts -/

/-- An ASCII byte parts what is before it from what is behind it. -/
theorem repair_append {byte : UInt8} (ascii : byte < 0x80) (bytes rest : List UInt8) :
    repair (bytes ++ byte :: rest) = repair bytes ++ Char.ofNat byte.toNat :: repair rest := by
  induction length : bytes.length using Nat.strong_induction_on generalizing bytes with
  | _ bound inductionHypothesis =>
      cases bytes with
      | nil =>
          rw [List.nil_append, repair_cons, readChar_ascii ascii]
          simp [repair]
      | cons first bytes =>
          have shorter : (readChar first bytes).2.length < bound := by
            have limit := (readChar_suffix first bytes).length_le
            rw [← length, List.length_cons]
            omega
          rw [List.cons_append, repair_cons, readChar_append ascii, repair_cons, List.cons_append,
            inductionHypothesis _ shorter _ rfl]

/-- What is shown with an ASCII character in front begins with its byte. -/
theorem repair_eq_cons {bytes : List UInt8} {c : Char} {rest : List Char} (proper : 0 < c.toNat)
    (ascii : c.toNat < 0x80) (shown : repair bytes = c :: rest) :
    ∃ others, bytes = UInt8.ofNat c.toNat :: others ∧ repair others = rest := by
  cases bytes with
  | nil => simp [repair] at shown
  | cons first others =>
      rw [repair_cons] at shown
      obtain ⟨rfl, behind⟩ := List.cons.inj shown
      by_cases single : first < 0x80
      · rw [readChar_ascii single] at behind ascii proper ⊢
        rcases toNat_ofNat first.toNat with same | none
        · rw [same, UInt8.ofNat_toNat]
          exact ⟨others, rfl, behind⟩
        · exact absurd none (Nat.ne_of_gt proper)
      · have other := readChar_beyond single others
        omega

/-- An ASCII character is shown of its byte only. -/
theorem mem_of_mem_repair {bytes : List UInt8} {c : Char} (proper : 0 < c.toNat)
    (ascii : c.toNat < 0x80) (member : c ∈ repair bytes) : UInt8.ofNat c.toNat ∈ bytes := by
  induction length : bytes.length using Nat.strong_induction_on generalizing bytes with
  | _ bound inductionHypothesis =>
      cases bytes with
      | nil => simp [repair] at member
      | cons first rest =>
          have behind := readChar_suffix first rest
          rw [repair_cons] at member
          rcases List.mem_cons.mp member with same | later
          · have shown := repair_cons first rest
            rw [← same] at shown
            obtain ⟨others, whole, -⟩ := repair_eq_cons proper ascii shown
            rw [whole]
            exact List.mem_cons_self
          · have shorter : (readChar first rest).2.length < bound := by
              have limit := behind.length_le
              rw [← length, List.length_cons]
              omega
            exact List.mem_cons_of_mem first
              (behind.subset (inductionHypothesis _ shorter later rfl))

theorem repair_eq_nil {bytes : List UInt8} : repair bytes = [] ↔ bytes = [] := by
  cases bytes with
  | nil => simp [repair]
  | cons first rest => simp [repair_cons]

/-! ## Well-formed text -/

theorem takeFollowers_cons {n : Nat} (low high : UInt8) {byte : UInt8} (bits : Nat)
    (rest : List UInt8) (least : low.toNat ≤ byte.toNat) (most : byte.toNat ≤ high.toNat) :
    takeFollowers (n + 1) low high bits (byte :: rest) =
      takeFollowers n 0x80 0xbf (bits * 64 + (byte.toNat - 0x80)) rest := by
  rw [takeFollowers]
  simp [UInt8.le_iff_toNat_le, least, most]

theorem of?_two {first : UInt8} (least : 0xc2 ≤ first.toNat) (most : first.toNat ≤ 0xdf) :
    Lead.of? first = some ⟨1, 0x80, 0xbf, first.toNat - 0xc0⟩ := by
  have within : (0xc2 ≤ first && first ≤ 0xdf) = true := by
    simp [UInt8.le_iff_toNat_le, least, most]
  rw [Lead.of?, if_pos within]

theorem of?_three {first : UInt8} (least : 0xe0 ≤ first.toNat) (most : first.toNat ≤ 0xef) :
    Lead.of? first = some ⟨2, if first.toNat = 0xe0 then 0xa0 else 0x80,
      if first.toNat = 0xed then 0x9f else 0xbf, first.toNat - 0xe0⟩ := by
  by_cases lowest : first.toNat = 0xe0
  · obtain rfl : first = 0xe0 := UInt8.toNat_inj.mp lowest
    rfl
  · by_cases surrogate : first.toNat = 0xed
    · obtain rfl : first = 0xed := UInt8.toNat_inj.mp surrogate
      rfl
    · have above : ¬ first.toNat ≤ 0xdf := by omega
      have proper : 0xe1 ≤ first.toNat := by omega
      simp [Lead.of?, UInt8.le_iff_toNat_le, ← UInt8.toNat_inj, above, proper, most, lowest,
        surrogate]

theorem of?_four {first : UInt8} (least : 0xf0 ≤ first.toNat) (most : first.toNat ≤ 0xf4) :
    Lead.of? first = some ⟨3, if first.toNat = 0xf0 then 0x90 else 0x80,
      if first.toNat = 0xf4 then 0x8f else 0xbf, first.toNat - 0xf0⟩ := by
  by_cases lowest : first.toNat = 0xf0
  · obtain rfl : first = 0xf0 := UInt8.toNat_inj.mp lowest
    rfl
  · by_cases highest : first.toNat = 0xf4
    · obtain rfl : first = 0xf4 := UInt8.toNat_inj.mp highest
      rfl
    · have above : ¬ first.toNat ≤ 0xdf := by omega
      have beyond : ¬ first.toNat ≤ 0xef := by omega
      have lower : first.toNat ≠ 0xe0 := by omega
      have inner : first.toNat ≠ 0xed := by omega
      have proper : 0xf1 ≤ first.toNat := by omega
      have within : first.toNat ≤ 0xf3 := by omega
      simp [Lead.of?, UInt8.le_iff_toNat_le, ← UInt8.toNat_inj, above, beyond, lower, inner, proper,
        within, lowest, highest]

theorem readChar_lead {first : UInt8} {lead : Lead} (found : Lead.of? first = some lead)
    (beyond : 0x80 ≤ first.toNat) {bytes rest : List UInt8} {code : Nat}
    (taken : takeFollowers lead.followers lead.low lead.high lead.bits bytes = (some code, rest)) :
    readChar first bytes = (Char.ofNat code, rest) := by
  have large : ¬ first < 0x80 := by
    rw [UInt8.lt_iff_toNat_lt]
    exact Nat.not_lt.mpr beyond
  rw [readChar, if_neg large, found]
  simp [taken]

/-- The byte may stand behind the first one, and the second one at that. -/
def Follows (byte : UInt8) : Prop :=
  0x80 ≤ byte.toNat ∧ byte.toNat ≤ 0xbf

theorem readChar_two {first second : UInt8} (least : 0xc2 ≤ first.toNat)
    (most : first.toNat ≤ 0xdf) (next : Follows second) (rest : List UInt8) :
    readChar first (second :: rest) =
      (Char.ofNat ((first.toNat - 0xc0) * 64 + (second.toNat - 0x80)), rest) := by
  apply readChar_lead (of?_two least most) (Nat.le_trans (by decide) least)
  rw [takeFollowers_cons 0x80 0xbf _ _ next.1 next.2, takeFollowers]

theorem readChar_three {first second third : UInt8} (least : 0xe0 ≤ first.toNat)
    (most : first.toNat ≤ 0xef) (next : Follows second) (last : Follows third)
    (long : first.toNat = 0xe0 → 0xa0 ≤ second.toNat)
    (scalar : first.toNat = 0xed → second.toNat ≤ 0x9f) (rest : List UInt8) :
    readChar first (second :: third :: rest) =
      (Char.ofNat (((first.toNat - 0xe0) * 64 + (second.toNat - 0x80)) * 64 +
        (third.toNat - 0x80)), rest) := by
  apply readChar_lead (of?_three least most) (Nat.le_trans (by decide) least)
  have low : (if first.toNat = 0xe0 then 0xa0 else 0x80 : UInt8).toNat ≤ second.toNat := by
    split
    · next lowest => exact long lowest
    · exact next.1
  have high : second.toNat ≤ (if first.toNat = 0xed then 0x9f else 0xbf : UInt8).toNat := by
    split
    · next surrogate => exact scalar surrogate
    · exact next.2
  rw [takeFollowers_cons _ _ _ _ low high, takeFollowers_cons 0x80 0xbf _ _ last.1 last.2, takeFollowers]

theorem readChar_four {first second third fourth : UInt8} (least : 0xf0 ≤ first.toNat)
    (most : first.toNat ≤ 0xf4) (next : Follows second) (after : Follows third)
    (last : Follows fourth) (long : first.toNat = 0xf0 → 0x90 ≤ second.toNat)
    (scalar : first.toNat = 0xf4 → second.toNat ≤ 0x8f) (rest : List UInt8) :
    readChar first (second :: third :: fourth :: rest) =
      (Char.ofNat ((((first.toNat - 0xf0) * 64 + (second.toNat - 0x80)) * 64 +
        (third.toNat - 0x80)) * 64 + (fourth.toNat - 0x80)), rest) := by
  apply readChar_lead (of?_four least most) (Nat.le_trans (by decide) least)
  have low : (if first.toNat = 0xf0 then 0x90 else 0x80 : UInt8).toNat ≤ second.toNat := by
    split
    · next lowest => exact long lowest
    · exact next.1
  have high : second.toNat ≤ (if first.toNat = 0xf4 then 0x8f else 0xbf : UInt8).toNat := by
    split
    · next highest => exact scalar highest
    · exact next.2
  rw [takeFollowers_cons _ _ _ _ low high, takeFollowers_cons 0x80 0xbf _ _ after.1 after.2,
    takeFollowers_cons 0x80 0xbf _ _ last.1 last.2, takeFollowers]

theorem toNat_ofNat_lt {code : Nat} (small : code < 256) : (UInt8.ofNat code).toNat = code :=
  UInt8.toNat_ofNat_of_lt' small

theorem follows_ofNat (code : Nat) : Follows (UInt8.ofNat (code % 64 + 128)) := by
  rw [Follows, toNat_ofNat_lt (by omega)]
  omega

/-- An encoded character is read as it was. -/
theorem repair_encodeChar (c : Char) (rest : List UInt8) :
    repair (String.utf8EncodeChar c ++ rest) = c :: repair rest := by
  have back : Char.ofNat c.val.toNat = c := Char.ofNat_toNat c
  have valid : c.val.toNat < 0xd800 ∨ 0xdfff < c.val.toNat ∧ c.val.toNat < 0x110000 := c.valid
  rw [String.utf8EncodeChar]
  generalize c.val.toNat = code at back valid
  split_ifs with one two three
  · have first : (UInt8.ofNat code).toNat = code := toNat_ofNat_lt (by omega)
    have ascii : UInt8.ofNat code < 0x80 := by
      rw [UInt8.lt_iff_toNat_lt, first]
      exact Nat.lt_succ_of_le one
    rw [List.singleton_append, repair_cons, readChar_ascii ascii, first, back]
  · have first : (UInt8.ofNat (code / 64 % 32 + 192)).toNat = code / 64 % 32 + 192 :=
      toNat_ofNat_lt (by omega)
    have second : (UInt8.ofNat (code % 64 + 128)).toNat = code % 64 + 128 :=
      toNat_ofNat_lt (by omega)
    have least : 0xc2 ≤ (UInt8.ofNat (code / 64 % 32 + 192)).toNat := by omega
    have most : (UInt8.ofNat (code / 64 % 32 + 192)).toNat ≤ 0xdf := by omega
    have same : (code / 64 % 32 + 192 - 0xc0) * 64 + (code % 64 + 128 - 0x80) = code := by omega
    rw [List.cons_append, List.singleton_append, repair_cons,
      readChar_two least most (follows_ofNat code), first, second, same, back]
  · have first : (UInt8.ofNat (code / 4096 % 16 + 224)).toNat = code / 4096 % 16 + 224 :=
      toNat_ofNat_lt (by omega)
    have second : (UInt8.ofNat (code / 64 % 64 + 128)).toNat = code / 64 % 64 + 128 :=
      toNat_ofNat_lt (by omega)
    have third : (UInt8.ofNat (code % 64 + 128)).toNat = code % 64 + 128 :=
      toNat_ofNat_lt (by omega)
    have least : 0xe0 ≤ (UInt8.ofNat (code / 4096 % 16 + 224)).toNat := by omega
    have most : (UInt8.ofNat (code / 4096 % 16 + 224)).toNat ≤ 0xef := by omega
    have same : ((code / 4096 % 16 + 224 - 0xe0) * 64 + (code / 64 % 64 + 128 - 0x80)) * 64 +
        (code % 64 + 128 - 0x80) = code := by omega
    rw [List.cons_append, List.cons_append, List.singleton_append, repair_cons,
      readChar_three least most (follows_ofNat _) (follows_ofNat _) (by omega) (by omega), first,
      second, third, same, back]
  · have first : (UInt8.ofNat (code / 262144 % 8 + 240)).toNat = code / 262144 % 8 + 240 :=
      toNat_ofNat_lt (by omega)
    have second : (UInt8.ofNat (code / 4096 % 64 + 128)).toNat = code / 4096 % 64 + 128 :=
      toNat_ofNat_lt (by omega)
    have third : (UInt8.ofNat (code / 64 % 64 + 128)).toNat = code / 64 % 64 + 128 :=
      toNat_ofNat_lt (by omega)
    have fourth : (UInt8.ofNat (code % 64 + 128)).toNat = code % 64 + 128 :=
      toNat_ofNat_lt (by omega)
    have least : 0xf0 ≤ (UInt8.ofNat (code / 262144 % 8 + 240)).toNat := by omega
    have most : (UInt8.ofNat (code / 262144 % 8 + 240)).toNat ≤ 0xf4 := by omega
    have same : (((code / 262144 % 8 + 240 - 0xf0) * 64 + (code / 4096 % 64 + 128 - 0x80)) * 64 +
        (code / 64 % 64 + 128 - 0x80)) * 64 + (code % 64 + 128 - 0x80) = code := by omega
    rw [List.cons_append, List.cons_append, List.cons_append, List.singleton_append, repair_cons,
      readChar_four least most (follows_ofNat _) (follows_ofNat _) (follows_ofNat _) (by omega)
        (by omega), first, second, third, fourth, same, back]

theorem repair_encode (chars : List Char) :
    repair (chars.flatMap String.utf8EncodeChar) = chars := by
  induction chars with
  | nil => simp [repair]
  | cons c rest inductionHypothesis =>
      rw [List.flatMap_cons, repair_encodeChar, inductionHypothesis]

/-! ## What is shown -/

theorem toList_loop (bytes : ByteArray) (index : Nat) (seen : List UInt8) :
    ByteArray.toList.loop bytes index seen = seen.reverse ++ bytes.data.toList.drop index := by
  fun_induction ByteArray.toList.loop bytes index seen with
  | case1 index seen within inductionHypothesis =>
      have inside : index < bytes.data.toList.length := by simpa using within
      have next := List.drop_eq_getElem_cons inside
      rw [inductionHypothesis, next]
      simp [ByteArray.get!, within]
  | case2 index seen beyond =>
      have all : bytes.data.toList.drop index = [] := by
        apply List.drop_eq_nil_of_le
        simpa using Nat.not_lt.mp beyond
      rw [all, List.append_nil]

theorem toList_mk (bytes : List UInt8) : (⟨bytes.toArray⟩ : ByteArray).toList = bytes := by
  rw [ByteArray.toList, toList_loop]
  simp

theorem mk_eq_toByteArray (bytes : List UInt8) :
    (⟨bytes.toArray⟩ : ByteArray) = bytes.toByteArray := by
  apply ByteArray.ext
  exact List.data_toByteArray.symm

/-- The bytes of a text that was read without repair are those it was read from. -/
theorem toUTF8_of_decode? {bytes : ByteArray} {text : String} (decoded : decode? bytes = some text) :
    text.toUTF8 = bytes := by
  unfold decode? String.fromUTF8? at decoded
  split at decoded
  · cases decoded
    rfl
  · cases decoded

/-- The bytes are the encoded text. -/
theorem decode?_eq_some {bytes : List UInt8} {text : String} :
    decode? ⟨bytes.toArray⟩ = some text ↔ bytes = text.toList.flatMap String.utf8EncodeChar := by
  have encoded : text.toUTF8 = (text.toList.flatMap String.utf8EncodeChar).toByteArray :=
    String.utf8Encode_toList.symm
  rw [mk_eq_toByteArray, ← List.toByteArray_inj, ← encoded]
  constructor
  · exact fun decoded => (toUTF8_of_decode? decoded).symm
  · intro same
    rw [same]
    exact decode?_toUTF8 text

/-- Whatever is shown has been repaired, though what is well-formed is not changed by that. -/
theorem display_eq (bytes : List UInt8) : display bytes = String.ofList (repair bytes) := by
  rw [display, decodeLossy]
  cases decoded : decode? ⟨bytes.toArray⟩ with
  | none => rw [toList_mk]
  | some text => rw [decode?_eq_some.mp decoded, repair_encode, String.ofList_toList]

/-- The bytes are well-formed. -/
def IsText (bytes : List UInt8) : Prop :=
  (decode? ⟨bytes.toArray⟩).isSome = true

instance (bytes : List UInt8) : Decidable (IsText bytes) :=
  inferInstanceAs (Decidable (_ = true))

/-- Different texts are shown differently. -/
theorem IsText.display_injective {first second : List UInt8} (one : IsText first)
    (two : IsText second) (shown : display first = display second) : first = second := by
  obtain ⟨text, decoded⟩ := Option.isSome_iff_exists.mp one
  obtain ⟨other, decodedToo⟩ := Option.isSome_iff_exists.mp two
  have same : text = other := by
    rw [display, display, decodeLossy_of_decode? decoded, decodeLossy_of_decode? decodedToo] at shown
    exact shown
  rw [decode?_eq_some.mp decoded, decode?_eq_some.mp decodedToo, same]

end TemplateLint.Utf8
