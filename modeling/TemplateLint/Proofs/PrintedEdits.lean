import TemplateLint.Proofs.FormattedDocuments
import TemplateLint.Proofs.PrintedBytes
import TemplateLint.Proofs.WholeEdits

/-!
# From what the tool prints to what an editor is told

A server tells an output only on the event that the program of the job has ended, and it is what
that program has printed.  The changes with which it answers a formatting carry that text.
Main exports: `Finding.Reflects.printed`, `RepliesPrinted`, `PassesOn`, `passesOn`.
-/

namespace TemplateLint

/-- The output that a job came to is what its program had printed when it ended. -/
theorem Finding.Reflects.printed {finding : Finding} {event : Event} {number : Nat} {text : String}
    (reflects : finding.Reflects event number) (found : finding.output = .ok (some text)) :
    ∃ outcome, event = .ended number (.finished outcome) ∧ ReadsAs outcome.stdout text := by
  rcases reflects with ⟨outcome, python, ended, -, output⟩ | untried
  · rw [found] at output
    cases concluded : conclude (finding.job.command python) (ToolOutput.ofOutcome outcome) with
    | error failure =>
        rw [concluded] at output
        cases output
    | ok own =>
        rw [concluded] at output
        cases output
        obtain ⟨rfl, -⟩ := conclude_eq_ok.mp concluded
        exact ⟨outcome, ended, readsAs_decodeLossy _⟩
  · rw [IsUntried, found] at untried
    cases untried

/-! ## In a course -/

/-- When changes are replied, a formatting has just been told.  There are none if its document is
not to be formatted, and else they carry what the tool has printed, whose end was the event of the
turn. -/
def RepliesPrinted (server : Server) (rounds : List Round) (before : List Deed) (id : RpcId)
    (items : List Json) : Prop :=
  ∃ earlier number finding, before = earlier ++ [.told number finding] ∧
    finding.job.errand.request? = some id ∧
    ((finding.output = .ok none ∧ items = []) ∨
      ∃ first round later outcome text, rounds = first ++ round :: later ∧
        .told number finding ∈ ((server.course first).1.turnIn round).deeds ∧
        round.event = .ended number (.finished outcome) ∧
        finding.output = .ok (some text) ∧ ReadsAs outcome.stdout text ∧
        items = (finding.job.document.editsTo text).map TextEdit.toJson)

theorem Server.repliesPrinted {server : Server} (sound : Sound server [])
    (starts : Answering (server.HasAsked []) server []) (rounds : List Round) {before : List Deed}
    {id : RpcId} {items : List Json}
    (comes : Comes (server.course rounds).2 before (.effect (.reply ⟨id, .ok (.array items)⟩))) :
    RepliesPrinted server rounds before id items := by
  have answering := course_answering sound rounds starts
  obtain ⟨earlier, number, finding, rfl, answers⟩ := answering.replied before id items comes
  refine ⟨earlier, number, finding, rfl, answers.request, ?_⟩
  obtain ⟨output, found, rfl⟩ := answers.changes
  cases output with
  | none => exact Or.inl ⟨found, rfl⟩
  | some text =>
      have told : .told number finding ∈ (server.course rounds).2 := by
        obtain ⟨after, whole⟩ := comes
        rw [whole]
        simp
      obtain ⟨first, round, later, split, here, reflects⟩ := course_told sound rounds told
      obtain ⟨outcome, event, reads⟩ := reflects.printed found
      exact Or.inr ⟨first, round, later, outcome, text, split, here, event, found, reads, rfl⟩

/-! ## The result -/

/-- What a tool prints is passed on as the text that is read from it, unchanged where the bytes are
well-formed and with replacement characters in it where they are not: to whoever asks for the text,
in the edits of a document, in files and on the standard output, and in the answers of a server. -/
structure PassesOn (host : Host) (server : Server) : Prop where
  text : ∀ locator invocation world text after,
    host.formatText locator invocation world = (.ok text, after) →
      host.Prints locator invocation world after text
  /-- Whatever bytes were printed, they are taken for an answer. -/
  answered : ∀ locator invocation world interpreter middle outcome after,
    host.resolve locator invocation world = (.ok interpreter, middle) →
    host.start (invocation.command .format interpreter.path) middle = (.ok outcome, after) →
    (ToolOutput.ofOutcome outcome).Sanctioned ∨ (ToolOutput.ofOutcome outcome).Mixed →
      host.formatText locator invocation world = (.ok (Utf8.decodeLossy outcome.stdout), after)
  edits : ∀ locator invocation world edits after,
    host.formatDocument locator invocation world = (.ok edits, after) →
      (invocation.shouldFormat = false ∧ edits = []) ∨
        ∃ text, host.Prints locator invocation world after text ∧
          edits = invocation.document.editsTo text
  files : ∀ (session : Cli.Session) sources world, session.host = host →
    ¬ sources.Unreadable session world.disk → Cli.WritesPrinted session sources world
  replies : ∀ rounds before id items,
    Comes (server.course rounds).2 before (.effect (.reply ⟨id, .ok (.array items)⟩)) →
      RepliesPrinted server rounds before id items
  /-- And whatever bytes were printed, they are replied. -/
  replied : ∀ rounds number job request python outcome disk eager,
    (server.course rounds).1.jobs.get? number = some job → job.wait = .tool python →
    job.errand.request? = some request →
    (ToolOutput.ofOutcome outcome).Sanctioned ∨ (ToolOutput.ofOutcome outcome).Mixed →
      ∃ finding,
        ((server.course rounds).1.step disk (.ended number (.finished outcome)) eager).deeds =
          [.told number finding, .effect (.reply ⟨request, .ok (.array
            ((job.document.editsTo (Utf8.decodeLossy outcome.stdout)).map TextEdit.toJson))⟩)]

/-- All that formatting hands on of a run is the text that was read from what the tool printed. -/
theorem passesOn (host : Host) (environ : Variables) (configFile : Option Path) (venv : Path)
    (store : Store) : PassesOn host (Server.start environ configFile venv store) where
  text := fun _ _ _ _ _ formatted => Host.formatText_prints formatted
  answered := fun _ _ _ _ _ _ _ resolved started ended =>
    Host.formatText_of_started resolved started ended
  edits := fun _ _ _ _ _ formatted => Host.formatDocument_prints formatted
  files := by
    rintro session sources world rfl readable
    exact Cli.writesPrinted readable
  replies := fun rounds _ _ _ comes =>
    Server.repliesPrinted (Server.start_sound environ configFile venv store)
      (Server.start_answering environ configFile venv store _) rounds comes
  replied := by
    intro rounds number job request python outcome disk eager held waits formats ended
    have sound := Server.course_sound (Server.start_sound environ configFile venv store) rounds
    have counts := sound.formats number job held (Errand.mode_of_request? formats)
    have concluded : conclude (job.command python) (ToolOutput.ofOutcome outcome) =
        .ok (Utf8.decodeLossy outcome.stdout) := conclude_eq_ok.mpr ⟨rfl, ended⟩
    exact ⟨_, Turn.deeds_step_of_format _ held waits formats counts concluded disk eager⟩

/-! ### Bytes that are no text -/

namespace Sample

/-- A tool ends well and has printed a letter and a byte that no text contains. -/
def garbled : Outcome := ⟨⟨#[0x78, 0xff]⟩, "".toUTF8, .exited 0⟩

/-- Every program does that. -/
def garbling : Host :=
  { environ := []
    behave := fun disk _ => (garbled, disk) }

end Sample

open Sample in
/-- The run counts as an answer, and its edit carries a text that was not printed. -/
theorem sample_garbling :
    ∃ edit after, Utf8.decode? garbled.stdout = none ∧
      garbling.formatText (.fixed (.found python)) (formats "a") alone = (.ok "x\uFFFD", after) ∧
      "x\uFFFD".toUTF8 ≠ garbled.stdout ∧
      garbling.formatDocument (.fixed (.found python)) (formats "a") alone = (.ok [edit], after) ∧
      edit.newText = "x\uFFFD" := by
  have resolved : garbling.resolve (.fixed (.found python)) (formats "a") alone =
      (.ok ⟨python, .activeEnvironment⟩, alone) := by rfl
  have started : garbling.start ((formats "a").command .format python) alone =
      (.ok garbled, { alone with
        launches := [⟨python, (formats "a").arguments .format, [], "a"⟩] }) := by rfl
  have read : Utf8.decodeLossy garbled.stdout = "x\uFFFD" := by
    have shown : Utf8.decodeLossy garbled.stdout = String.ofList (Utf8.repair [0x78, 0xff]) :=
      Utf8.display_eq [0x78, 0xff]
    rw [shown]
    simp [Utf8.repair, Utf8.Lead.of?, Utf8.replacement]
  have ended : (ToolOutput.ofOutcome garbled).Sanctioned := Or.inl rfl
  have ran := Host.formatText_of_started resolved started (Or.inl ended)
  rw [read] at ran
  have wanted : (formats "a").shouldFormat = true := by decide
  refine ⟨⟨⟨⟨0, 0⟩, ⟨0, 1⟩⟩, "x\uFFFD"⟩, _, by decide +kernel, ran, by decide +kernel, ?_, rfl⟩
  rw [Host.formatDocument, if_pos wanted, ran]
  rfl

end TemplateLint
