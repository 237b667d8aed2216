import TemplateLint.Proofs.FormattedFiles
import TemplateLint.Proofs.RepairedText
import TemplateLint.Proofs.Verdicts

/-!
# From what the tool prints to what is written

What the tool prints is read as text, and from there on it is passed on as it is.  Well-formed bytes
come out as they went in.  Ill-formed ones do not: a replacement character stands where they were,
and the run counts as an answer all the same.
Main exports: `Utf8.repair_exact`, `ReadsAs`, `readsAs_decodeLossy`, `Host.Prints`, `Cli.told`,
`Cli.Passes.formatSources_append`, `Cli.WritesPrinted`, `Cli.writesPrinted`.
-/

namespace TemplateLint

namespace Utf8

/-! ## Reading without repair -/

section followers

variable {n : Nat} {low high : UInt8} {bits code : Nat} {bytes rest : List UInt8}

theorem takeFollowers_zero (taken : takeFollowers 0 low high bits bytes = (some code, rest)) :
    bits = code ∧ bytes = rest := by
  simpa [takeFollowers] using taken

theorem takeFollowers_succ
    (taken : takeFollowers (n + 1) low high bits bytes = (some code, rest)) :
    ∃ byte others, bytes = byte :: others ∧ low.toNat ≤ byte.toNat ∧ byte.toNat ≤ high.toNat ∧
      takeFollowers n 0x80 0xbf (bits * 64 + (byte.toNat - 0x80)) others = (some code, rest) := by
  cases bytes with
  | nil => cases taken
  | cons byte others =>
      rw [takeFollowers] at taken
      split at taken
      · next within =>
          simp only [Bool.and_eq_true, decide_eq_true_eq, UInt8.le_iff_toNat_le] at within
          exact ⟨byte, others, rfl, within.1, within.2, taken⟩
      · cases taken

end followers

/-- A first byte announces one, two or three bytes. -/
theorem Lead.of?_bounds {first : UInt8} {lead : Lead} (found : Lead.of? first = some lead) :
    (0xc2 ≤ first.toNat ∧ first.toNat ≤ 0xdf) ∨ (0xe0 ≤ first.toNat ∧ first.toNat ≤ 0xef) ∨
      (0xf0 ≤ first.toNat ∧ first.toNat ≤ 0xf4) := by
  unfold Lead.of? at found
  simp only [Bool.and_eq_true, decide_eq_true_eq, beq_iff_eq, UInt8.le_iff_toNat_le,
    ← UInt8.toNat_inj, UInt8.reduceToNat] at found
  split_ifs at found
  · omega
  · omega
  · omega
  · omega
  · omega
  · omega
  · omega

section bounds

variable {p : Prop} [Decidable p] (special usual : UInt8) {n : Nat}

theorem le_of_ite_le (order : usual.toNat ≤ special.toNat)
    (bound : (if p then special else usual).toNat ≤ n) :
    (p → special.toNat ≤ n) ∧ usual.toNat ≤ n := by
  split at bound
  · exact ⟨fun _ => bound, Nat.le_trans order bound⟩
  · next other => exact ⟨fun holds => absurd holds other, bound⟩

theorem le_of_le_ite (order : special.toNat ≤ usual.toNat)
    (bound : n ≤ (if p then special else usual).toNat) :
    (p → n ≤ special.toNat) ∧ n ≤ usual.toNat := by
  split at bound
  · exact ⟨fun _ => bound, Nat.le_trans bound order⟩
  · next other => exact ⟨fun holds => absurd holds other, bound⟩

end bounds

theorem val_ofNat {code : Nat} (valid : code.isValidChar) :
    (Char.ofNat code).val.toNat = code := by
  rw [Char.ofNat, dif_pos valid]
  rfl

theorem ofNat_eq {code : Nat} (byte : UInt8) (same : code = byte.toNat) :
    UInt8.ofNat code = byte := by
  rw [same, UInt8.ofNat_toNat]

/-! ### What encodes a code point -/

theorem encodeChar_two {first second : UInt8} (least : 0xc2 ≤ first.toNat)
    (most : first.toNat ≤ 0xdf) (next : Follows second) :
    String.utf8EncodeChar
        (Char.ofNat ((first.toNat - 0xc0) * 64 + (second.toNat - 0x80))) = [first, second] := by
  obtain ⟨low, high⟩ := next
  have valid : ((first.toNat - 0xc0) * 64 + (second.toNat - 0x80)).isValidChar :=
    Or.inl (by omega)
  rw [String.utf8EncodeChar, val_ofNat valid, if_neg (by omega), if_pos (by omega),
    ofNat_eq first (by omega), ofNat_eq second (by omega)]

theorem encodeChar_three {first second third : UInt8} (least : 0xe0 ≤ first.toNat)
    (most : first.toNat ≤ 0xef) (next : Follows second) (last : Follows third)
    (long : first.toNat = 0xe0 → 0xa0 ≤ second.toNat)
    (scalar : first.toNat = 0xed → second.toNat ≤ 0x9f) :
    String.utf8EncodeChar (Char.ofNat (((first.toNat - 0xe0) * 64 + (second.toNat - 0x80)) * 64 +
      (third.toNat - 0x80))) = [first, second, third] := by
  obtain ⟨low, high⟩ := next
  obtain ⟨low', high'⟩ := last
  have valid : (((first.toNat - 0xe0) * 64 + (second.toNat - 0x80)) * 64 +
      (third.toNat - 0x80)).isValidChar := by
    unfold Nat.isValidChar
    omega
  rw [String.utf8EncodeChar, val_ofNat valid, if_neg (by omega), if_neg (by omega),
    if_pos (by omega), ofNat_eq first (by omega), ofNat_eq second (by omega),
    ofNat_eq third (by omega)]

theorem encodeChar_four {first second third fourth : UInt8} (least : 0xf0 ≤ first.toNat)
    (most : first.toNat ≤ 0xf4) (next : Follows second) (after : Follows third)
    (last : Follows fourth) (long : first.toNat = 0xf0 → 0x90 ≤ second.toNat)
    (scalar : first.toNat = 0xf4 → second.toNat ≤ 0x8f) :
    String.utf8EncodeChar (Char.ofNat ((((first.toNat - 0xf0) * 64 + (second.toNat - 0x80)) * 64 +
      (third.toNat - 0x80)) * 64 + (fourth.toNat - 0x80))) = [first, second, third, fourth] := by
  obtain ⟨low, high⟩ := next
  obtain ⟨low', high'⟩ := after
  obtain ⟨low'', high''⟩ := last
  have valid : ((((first.toNat - 0xf0) * 64 + (second.toNat - 0x80)) * 64 +
      (third.toNat - 0x80)) * 64 + (fourth.toNat - 0x80)).isValidChar := by
    unfold Nat.isValidChar
    omega
  rw [String.utf8EncodeChar, val_ofNat valid, if_neg (by omega), if_neg (by omega),
    if_neg (by omega), ofNat_eq first (by omega), ofNat_eq second (by omega),
    ofNat_eq third (by omega), ofNat_eq fourth (by omega)]

/-- Bytes that are read as one code point encode it. -/
theorem encodeChar_lead {first : UInt8} {lead : Lead} {bytes rest : List UInt8} {code : Nat}
    (found : Lead.of? first = some lead)
    (taken : takeFollowers lead.followers lead.low lead.high lead.bits bytes = (some code, rest)) :
    first :: bytes = String.utf8EncodeChar (Char.ofNat code) ++ rest := by
  rcases Lead.of?_bounds found with ⟨least, most⟩ | ⟨least, most⟩ | ⟨least, most⟩
  · obtain rfl := Option.some.inj (found.symm.trans (of?_two least most))
    obtain ⟨second, others, rfl, low, high, taken⟩ := takeFollowers_succ taken
    obtain ⟨rfl, rfl⟩ := takeFollowers_zero taken
    rw [encodeChar_two least most ⟨low, high⟩]
    rfl
  · obtain rfl := Option.some.inj (found.symm.trans (of?_three least most))
    obtain ⟨second, others, rfl, low, high, taken⟩ := takeFollowers_succ taken
    obtain ⟨third, others, rfl, low', high', taken⟩ := takeFollowers_succ taken
    obtain ⟨rfl, rfl⟩ := takeFollowers_zero taken
    obtain ⟨long, above⟩ := le_of_ite_le 0xa0 0x80 (by decide) low
    obtain ⟨scalar, below⟩ := le_of_le_ite 0x9f 0xbf (by decide) high
    rw [encodeChar_three least most ⟨above, below⟩ ⟨low', high'⟩ long scalar]
    rfl
  · obtain rfl := Option.some.inj (found.symm.trans (of?_four least most))
    obtain ⟨second, others, rfl, low, high, taken⟩ := takeFollowers_succ taken
    obtain ⟨third, others, rfl, low', high', taken⟩ := takeFollowers_succ taken
    obtain ⟨fourth, others, rfl, low'', high'', taken⟩ := takeFollowers_succ taken
    obtain ⟨rfl, rfl⟩ := takeFollowers_zero taken
    obtain ⟨long, above⟩ := le_of_ite_le 0x90 0x80 (by decide) low
    obtain ⟨scalar, below⟩ := le_of_le_ite 0x8f 0xbf (by decide) high
    rw [encodeChar_four least most ⟨above, below⟩ ⟨low', high'⟩ ⟨low'', high''⟩ long scalar]
    rfl

/-- A character that is read and does not stand for an ill-formed sequence is what the bytes
encode. -/
theorem readChar_exact {first : UInt8} {rest : List UInt8}
    (proper : (readChar first rest).1 ≠ replacement) :
    first :: rest =
      String.utf8EncodeChar (readChar first rest).1 ++ (readChar first rest).2 := by
  by_cases ascii : first < 0x80
  · have small : first.toNat < 0x80 := UInt8.lt_iff_toNat_lt.mp ascii
    have valid : first.toNat.isValidChar := Or.inl (by omega)
    rw [readChar_ascii ascii, String.utf8EncodeChar, val_ofNat valid, if_pos (by omega),
      ofNat_eq first rfl]
    rfl
  · cases found : Lead.of? first with
    | none =>
        rw [readChar, if_neg ascii, found] at proper
        exact absurd rfl proper
    | some lead =>
        rcases taken : takeFollowers lead.followers lead.low lead.high lead.bits rest with
          ⟨- | code, behind⟩
        · simp [readChar, ascii, found, taken] at proper
        · simpa [readChar, ascii, found, taken] using encodeChar_lead found taken

/-- When nothing was ill-formed, what was read encodes to the bytes. -/
theorem repair_exact {bytes : List UInt8} (proper : replacement ∉ repair bytes) :
    (repair bytes).flatMap String.utf8EncodeChar = bytes := by
  induction length : bytes.length using Nat.strong_induction_on generalizing bytes with
  | _ bound inductionHypothesis =>
      cases bytes with
      | nil => simp [repair]
      | cons first rest =>
          rw [repair_cons, List.mem_cons, not_or] at proper
          have shorter : (readChar first rest).2.length < bound := by
            have limit := (readChar_suffix first rest).length_le
            rw [← length, List.length_cons]
            omega
          rw [repair_cons, List.flatMap_cons, inductionHypothesis _ shorter proper.2 rfl]
          exact (readChar_exact fun same => proper.1 same.symm).symm

end Utf8

/-! ## Bytes and the text they are read as -/

/-- The text is read off the bytes: it is what they spell, where they are well-formed. -/
structure ReadsAs (printed : ByteArray) (text : String) : Prop where
  repaired : text = Utf8.decodeLossy printed
  /-- The text is exactly the bytes if they are well-formed, and only then. -/
  faithful : text.toUTF8 = printed ↔ (Utf8.decode? printed).isSome = true
  /-- Otherwise it shows that something is missing. -/
  marked : Utf8.decode? printed = none → Utf8.replacement ∈ text.toList

theorem readsAs_decodeLossy (printed : ByteArray) :
    ReadsAs printed (Utf8.decodeLossy printed) := by
  refine ⟨rfl, ⟨fun same => ?_, fun wellFormed => ?_⟩, fun illFormed => ?_⟩
  · rw [← same, decode?_toUTF8]
    rfl
  · obtain ⟨text, decoded⟩ := Option.isSome_iff_exists.mp wellFormed
    rw [Utf8.decodeLossy_of_decode? decoded, Utf8.toUTF8_of_decode? decoded]
  · by_contra proper
    obtain ⟨bytes, rfl⟩ : ∃ bytes : List UInt8, printed = ⟨bytes.toArray⟩ :=
      ⟨printed.data.toList, by rw [Array.toArray_toList]⟩
    have shown : Utf8.decodeLossy ⟨bytes.toArray⟩ = String.ofList (Utf8.repair bytes) :=
      Utf8.display_eq bytes
    rw [shown, String.toList_ofList] at proper
    -- then the bytes would be the encoding of what was read
    have decoded : Utf8.decode? ⟨bytes.toArray⟩ = some (String.ofList (Utf8.repair bytes)) := by
      rw [Utf8.decode?_eq_some, String.toList_ofList, Utf8.repair_exact proper]
    rw [illFormed] at decoded
    cases decoded

/-! ## One document -/

namespace Host

variable {host : Host} {locator : Locator} {invocation : Invocation} {world middle after : World}
  {text : String}

/-- The tool is run to format a document, and the text is what it prints. -/
def Prints (host : Host) (locator : Locator) (invocation : Invocation) (before after : World)
    (text : String) : Prop :=
  ∃ interpreter middle outcome,
    host.resolve locator invocation before = (.ok interpreter, middle) ∧
      host.start (invocation.command .format interpreter.path) middle = (.ok outcome, after) ∧
      ReadsAs outcome.stdout text

theorem formatText_prints
    (formatted : host.formatText locator invocation world = (.ok text, after)) :
    host.Prints locator invocation world after text := by
  obtain ⟨interpreter, middle, outcome, resolved, started, concluded⟩ := started_of_run formatted
  obtain ⟨rfl, -⟩ := conclude_eq_ok.mp concluded
  exact ⟨interpreter, middle, outcome, resolved, started, readsAs_decodeLossy _⟩

/-- Whatever bytes a run prints, a text is read from them. -/
theorem formatText_of_started {interpreter : Interpreter} {outcome : Outcome}
    (resolved : host.resolve locator invocation world = (.ok interpreter, middle))
    (started : host.start (invocation.command .format interpreter.path) middle =
      (.ok outcome, after))
    (ended : (ToolOutput.ofOutcome outcome).Sanctioned ∨ (ToolOutput.ofOutcome outcome).Mixed) :
    host.formatText locator invocation world = (.ok (Utf8.decodeLossy outcome.stdout), after) := by
  rw [formatText, run_started resolved started, conclude_eq_ok.mpr ⟨rfl, ended⟩]
  rfl

/-- The edits of a document carry what the tool has printed, and there are none only if that is the
text already there or the document is not formatted. -/
theorem formatDocument_prints {edits : List TextEdit}
    (formatted : host.formatDocument locator invocation world = (.ok edits, after)) :
    (invocation.shouldFormat = false ∧ edits = []) ∨
      ∃ text, host.Prints locator invocation world after text ∧
        edits = invocation.document.editsTo text := by
  unfold formatDocument at formatted
  split at formatted
  · rcases ran : host.formatText locator invocation world with ⟨failure | text, left⟩
    · rw [ran] at formatted
      cases formatted
    · rw [ran] at formatted
      cases formatted
      exact Or.inr ⟨text, formatText_prints ran, rfl⟩
  · next unwanted =>
      cases formatted
      exact Or.inl ⟨Bool.eq_false_iff.mpr unwanted, rfl⟩

end Host

/-! ## Files and the standard output -/

namespace Cli

/-- What is told of a source on the standard output: the text itself if it came from the standard
input, and else the news when its file has changed. -/
def told (coloured : Bool) (pair : Source × String) : String :=
  match pair.1.file with
  | none => pair.2
  | some _ =>
      if pair.2 = pair.1.document.text then ""
      else Style.apply coloured .green "Reformatted" ++ " " ++ pair.1.name ++ "\n"

section told

variable {session : Session} {settings : Settings} {source : Source} {output : String}
  {disk next : Disk}

theorem deliver_told (delivers : source.Delivers output disk next) (coloured : Bool)
    (progress : Progress) :
    ∃ count, deliver coloured false source output progress disk =
      .ok (⟨progress.stdout ++ told coloured (source, output), count⟩, next) := by
  unfold Source.Delivers at delivers
  unfold deliver told
  simp only [Bool.false_eq_true, if_false]
  cases named : source.file with
  | none =>
      simp only [named] at delivers
      exact ⟨_, by rw [delivers]⟩
  | some file =>
      simp only [named] at delivers
      split_ifs at delivers with same
      · exact ⟨progress.count, by simp [same, delivers]⟩
      · refine ⟨progress.count + 1, ?_⟩
        simp only [ne_eq, same, not_false_eq_true, if_true, if_false, delivers, bind, Except.bind,
          String.append_assoc]

namespace Passes

variable {world last : World} {done : List (Source × String)}

/-- Sources that go well are told one after the other, and then come the others. -/
theorem formatSources_append (passes : Passes session settings world done last)
    (progress : Progress) (rest : List Source) :
    ∃ count, formatSources session false settings progress world (done.map Prod.fst ++ rest) =
      formatSources session false settings
        ⟨progress.stdout ++ String.join (done.map (told session.coloured)), count⟩ last rest := by
  induction passes generalizing progress with
  | nil world => exact ⟨progress.count, by simp⟩
  | @cons world ran last source output disk done formatted delivered others inductionHypothesis =>
      obtain ⟨first, told⟩ := deliver_told delivered session.coloured progress
      obtain ⟨count, later⟩ := inductionHypothesis
        ⟨progress.stdout ++ Cli.told session.coloured (source, output), first⟩
      refine ⟨count, ?_⟩
      rw [List.map_cons, List.cons_append, formatSources, formatted]
      simp only [told]
      rw [later, List.map_cons, String.join_cons, String.append_assoc]

/-- Each output was printed in a run on the way. -/
theorem prints (passes : Passes session settings world done last) :
    ∀ pair ∈ done, ∃ before after, after.launches <:+ last.launches ∧
      session.host.Prints .active (pair.1.invocation settings) before after pair.2 := by
  induction passes with
  | nil world =>
      intro pair member
      cases member
  | @cons world ran last source output disk done formatted delivered others inductionHypothesis =>
      intro pair member
      rcases List.mem_cons.mp member with rfl | later
      · obtain ⟨groups, started, -⟩ := others.launches
        exact ⟨world, ran, ⟨_, started.symm⟩, Host.formatText_prints formatted⟩
      · exact inductionHypothesis pair later

end Passes

/-- A source that fails ends the run, and nothing is told of it. -/
theorem Fails.formatSources_cons {world after : World}
    (fails : Fails session settings source world after) (progress : Progress)
    (later : List Source) :
    ∃ problem, formatSources session false settings progress world (source :: later) =
      ((progress, some problem), after) := by
  cases fails with
  | run failed =>
      rw [formatSources, failed]
      exact ⟨_, rfl⟩
  | @write output file reason formatted named differs refused =>
      have stopped : deliver session.coloured false source output progress after.disk =
          .error reason := by
        simp only [deliver, named, ne_eq, differs, not_false_eq_true, Bool.false_eq_true, if_true,
          if_false, refused, bind, Except.bind]
      rw [formatSources, formatted]
      simp only [stopped]
      exact ⟨_, rfl⟩

end told

/-- Formatting sources in place writes what the tool has printed for them: each output was printed
in one of the runs and read as text, a file is written with the bytes of that text, and the standard
output tells the texts of the standard input and the names of the files. -/
def WritesPrinted (session : Session) (sources : Sources) (world : World) : Prop :=
  ∃ settings read done failing,
    prepare session sources world.disk = .ok (settings, read) ∧
      Formatted session settings read world done failing (format session sources false world).1
        (format session sources false world).2 ∧
      (∀ pair ∈ done, ∃ before after,
        after.launches <:+ (format session sources false world).2.launches ∧
          session.host.Prints .active (pair.1.invocation settings) before after pair.2) ∧
      (format session sources false world).1.stdout =
        String.join (done.map (told session.coloured))

theorem writesPrinted {session : Session} {sources : Sources} {world : World}
    (readable : ¬ sources.Unreadable session world.disk) :
    WritesPrinted session sources world := by
  obtain ⟨settings, read, prepared, -, own⟩ := prepare_of_readable session readable
  have placed := isPlaced_of_isFrom own
  have formatted {progress : Progress} {problem : Option Problem} {final : World}
      (ran : formatSources session false settings ⟨"", 0⟩ world read =
        ((progress, problem), final)) :
      format session sources false world =
        (formatAnswer session false (progress, problem), final) := by
    rw [format, prepared]
    simp only [ran]
  obtain ⟨done, middle, passes, ends⟩ := formatSources_passes session settings ⟨"", 0⟩ world read
  refine ⟨settings, read, done, ?_⟩
  rcases ends with ⟨all, -⟩ | ⟨source, later, -, -, after, order, fails, -⟩
  · obtain ⟨count, ran⟩ := passes.formatSources_append ⟨"", 0⟩ []
    rw [List.append_nil, ← all, formatSources] at ran
    rw [formatted ran]
    exact ⟨none, prepared, formatted_of_passes placed all passes (by simp [formatAnswer]),
      passes.prints, by simp [formatAnswer]⟩
  · obtain ⟨count, ran⟩ := passes.formatSources_append ⟨"", 0⟩ (source :: later)
    obtain ⟨problem, stopped⟩ := fails.formatSources_cons
      ⟨String.join (done.map (told session.coloured)), count⟩ later
    rw [← order, String.empty_append, stopped] at ran
    rw [formatted ran]
    refine ⟨some source, prepared, formatted_of_fails placed order passes fails
      (by simp [formatAnswer, failed]), fun pair member => ?_, by simp [formatAnswer, failed]⟩
    obtain ⟨before, ran, within, prints⟩ := passes.prints pair member
    obtain ⟨more, started, -⟩ := fails.formats.launches
    exact ⟨before, ran, within.trans ⟨more, started.symm⟩, prints⟩

end Cli

end TemplateLint
