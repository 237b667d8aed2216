import Mathlib.Logic.Function.Basic
import Mathlib.Logic.Relation
import TemplateLint.Invocation

/-!
# Feeding a program while it prints

To the one who runs it a program is connected by three pipes that hold so much and no more.  Its
input is written while its outputs are read, each as soon as there is room or there are bytes.
Whatever the program does, it never waits for a pipe while nothing is left to do on the other side,
and once it has ended all that it printed is collected, also when it has left input unread.  Had the
outputs to wait until the input is written, both sides could wait for each other.
Main exports: `Piping.Wish`, `Piping.Pipes`, `Piping.Scene`, `Piping.ProgramStep`,
`Piping.RunnerStep`, `Piping.Tidy`, `Piping.LosesNothing`, `Piping.losesNothing`,
`Piping.sequential_stuck`.
-/

namespace TemplateLint.Piping

/-! ## Both sides -/

/-- An output of a program. -/
inductive Stream where
  | stdout
  | stderr
deriving DecidableEq, Repr

/-- What a program wants to do next, and how it goes on after that. -/
inductive Wish (Mind : Type) where
  /-- Read so many bytes at most; it gets none at the end of its input. -/
  | read (most : Nat) (next : List UInt8 → Mind)
  | write (stream : Stream) (bytes : List UInt8) (next : Mind)
  | closeInput (next : Mind)
  | exit (ending : Ending)

/-- A program that is running, or has ended. -/
inductive Program (Mind : Type) where
  | running (wish : Wish Mind)
  | ended (ending : Ending)

/-- How many bytes each pipe holds. -/
structure Pipes where
  input : Nat
  output : Stream → Nat
  input_pos : 0 < input
  output_pos : ∀ stream, 0 < output stream

/-- A program, the pipes, and the one who runs it. -/
structure Scene (Mind : Type) where
  program : Program Mind
  /-- The program has not closed its input. -/
  listening : Bool
  /-- The bytes in the pipes. -/
  input : List UInt8
  output : Stream → List UInt8
  /-- What is still to be written to the input, and whether that goes on. -/
  unwritten : List UInt8
  feeding : Bool
  /-- What has been read from the outputs, and whether their end has been seen. -/
  collected : Stream → List UInt8
  closed : Stream → Bool
  /-- How the program ended, once that is known. -/
  reaped : Option Ending
  /-- All that the program has read and written is noted. -/
  consumed : List UInt8
  printed : Stream → List UInt8

variable {Mind : Type}

/-- A program has been started, and this is to be its input. -/
def Scene.start (wishes : Mind → Wish Mind) (mind : Mind) (input : List UInt8) : Scene Mind where
  program := .running (wishes mind)
  listening := true
  input := []
  output := fun _ => []
  unwritten := input
  feeding := true
  collected := fun _ => []
  closed := fun _ => false
  reaped := none
  consumed := []
  printed := fun _ => []

/-- The program has ended, and its input is closed. -/
def Scene.quit (scene : Scene Mind) (ending : Ending) : Scene Mind :=
  { scene with program := .ended ending, listening := false }

/-- A program does something of what it wants. -/
inductive ProgramStep (pipes : Pipes) (wishes : Mind → Wish Mind) :
    Scene Mind → Scene Mind → Prop where
  | read {scene : Scene Mind} {most : Nat} {next : List UInt8 → Mind} {part rest : List UInt8}
      (wants : scene.program = .running (.read most next)) (listens : scene.listening = true)
      (held : scene.input = part ++ rest) (some : part ≠ []) (most_le : part.length ≤ most) :
      ProgramStep pipes wishes scene { scene with
        program := .running (wishes (next part))
        input := rest
        consumed := scene.consumed ++ part }
  /-- Nothing is read at the end of the input, from a closed one, and when nothing is wanted. -/
  | readNothing {scene : Scene Mind} {most : Nat} {next : List UInt8 → Mind}
      (wants : scene.program = .running (.read most next))
      (nothing : (scene.input = [] ∧ scene.feeding = false) ∨ scene.listening = false ∨ most = 0) :
      ProgramStep pipes wishes scene { scene with program := .running (wishes (next [])) }
  /-- As much is written as there is room for, the rest later. -/
  | write {scene : Scene Mind} {stream : Stream} {part rest : List UInt8} {next : Mind}
      (wants : scene.program = .running (.write stream (part ++ rest) next))
      (room : (scene.output stream).length + part.length ≤ pipes.output stream)
      (some : part = [] → rest = []) :
      ProgramStep pipes wishes scene { scene with
        program := .running (if rest = [] then wishes next else .write stream rest next)
        output := Function.update scene.output stream (scene.output stream ++ part)
        printed := Function.update scene.printed stream (scene.printed stream ++ part) }
  | closeInput {scene : Scene Mind} {next : Mind}
      (wants : scene.program = .running (.closeInput next)) :
      ProgramStep pipes wishes scene
        { scene with program := .running (wishes next), listening := false }
  | exit {scene : Scene Mind} {ending : Ending}
      (wants : scene.program = .running (.exit ending)) :
      ProgramStep pipes wishes scene (scene.quit ending)

/-- The one who runs the program writes, reads, or learns of an end. -/
inductive RunnerStep (pipes : Pipes) : Scene Mind → Scene Mind → Prop where
  | feed {scene : Scene Mind} {part rest : List UInt8} (feeds : scene.feeding = true)
      (listens : scene.listening = true) (left : scene.unwritten = part ++ rest)
      (some : part ≠ []) (room : scene.input.length + part.length ≤ pipes.input) :
      RunnerStep pipes scene { scene with input := scene.input ++ part, unwritten := rest }
  /-- Nobody is going to read what is left, and writing is given up. -/
  | giveUp {scene : Scene Mind} (feeds : scene.feeding = true)
      (deaf : scene.listening = false) (left : scene.unwritten ≠ []) :
      RunnerStep pipes scene { scene with feeding := false }
  /-- All is written, and the input is closed. -/
  | finish {scene : Scene Mind} (feeds : scene.feeding = true) (all : scene.unwritten = []) :
      RunnerStep pipes scene { scene with feeding := false }
  | collect {scene : Scene Mind} {stream : Stream} {part rest : List UInt8}
      (reads : scene.closed stream = false) (held : scene.output stream = part ++ rest)
      (some : part ≠ []) :
      RunnerStep pipes scene { scene with
        output := Function.update scene.output stream rest
        collected := Function.update scene.collected stream (scene.collected stream ++ part) }
  /-- An empty output has its end when the program has ended. -/
  | close {scene : Scene Mind} {stream : Stream} {ending : Ending}
      (reads : scene.closed stream = false) (empty : scene.output stream = [])
      (finished : scene.program = .ended ending) :
      RunnerStep pipes scene { scene with closed := Function.update scene.closed stream true }
  | reap {scene : Scene Mind} {ending : Ending} (waits : scene.reaped = none)
      (finished : scene.program = .ended ending) :
      RunnerStep pipes scene { scene with reaped := some ending }

/-- Something happens: on one of the sides, or the program is killed. -/
inductive Step (pipes : Pipes) (wishes : Mind → Wish Mind) : Scene Mind → Scene Mind → Prop where
  | program {scene next : Scene Mind} (step : ProgramStep pipes wishes scene next) :
      Step pipes wishes scene next
  | runner {scene next : Scene Mind} (step : RunnerStep pipes scene next) :
      Step pipes wishes scene next
  | kill {scene : Scene Mind} {wish : Wish Mind} (signal : Nat)
      (runs : scene.program = .running wish) :
      Step pipes wishes scene (scene.quit (.killed signal))

/-- What can come of a program that is started with an input. -/
def Reachable (pipes : Pipes) (wishes : Mind → Wish Mind) (mind : Mind) (input : List UInt8)
    (scene : Scene Mind) : Prop :=
  Relation.ReflTransGen (Step pipes wishes) (.start wishes mind input) scene

namespace Scene

/-- The program is running, and can do nothing of what it wants. -/
def Blocked (pipes : Pipes) (wishes : Mind → Wish Mind) (scene : Scene Mind) : Prop :=
  (∃ wish, scene.program = .running wish) ∧ ∀ next, ¬ ProgramStep pipes wishes scene next

/-- What the one who runs the program makes of it, once nothing is left to be done. -/
def result? (scene : Scene Mind) : Option ToolOutput :=
  if scene.feeding || !scene.closed .stdout || !scene.closed .stderr then none
  else scene.reaped.map fun ending => ToolOutput.ofOutcome
    ⟨⟨(scene.collected .stdout).toArray⟩, ⟨(scene.collected .stderr).toArray⟩, ending⟩

/-- How much is left to do for the one who runs the program. -/
def left (scene : Scene Mind) : Nat :=
  scene.unwritten.length + scene.feeding.toNat +
    ((scene.output .stdout).length + (!scene.closed .stdout).toNat) +
    ((scene.output .stderr).length + (!scene.closed .stderr).toNat) + scene.reaped.isNone.toNat

end Scene

/-! ## What always holds -/

/-- What holds of a program and its pipes at any time. -/
structure Tidy (input : List UInt8) (scene : Scene Mind) : Prop where
  /-- The input is what was read, what is in the pipe, and what is to be written. -/
  fed : scene.consumed ++ scene.input ++ scene.unwritten = input
  /-- A program that listens gets all of it. -/
  whole : scene.listening = true → scene.feeding = false → scene.unwritten = []
  /-- What was printed is what was collected, and what is in the pipe. -/
  kept : ∀ stream, scene.collected stream ++ scene.output stream = scene.printed stream
  /-- Only an output that is over and empty has ended. -/
  closed : ∀ stream, scene.closed stream = true →
    scene.output stream = [] ∧ ∃ ending, scene.program = .ended ending
  reaped : ∀ ending, scene.reaped = some ending → scene.program = .ended ending
  deaf : ∀ ending, scene.program = .ended ending → scene.listening = false

section tidy

variable {pipes : Pipes} {wishes : Mind → Wish Mind} {mind : Mind} {input : List UInt8}
  {scene next : Scene Mind}

theorem start_tidy (wishes : Mind → Wish Mind) (mind : Mind) (input : List UInt8) :
    Tidy input (Scene.start wishes mind input) where
  fed := rfl
  whole := by
    intro _ finished
    cases finished
  kept := fun _ => rfl
  closed := by
    intro _ finished
    cases finished
  reaped := by
    intro _ known
    cases known
  deaf := by
    intro _ finished
    cases finished

/-- A program that runs has no closed output, and nobody knows how it ended. -/
theorem Tidy.of_running (tidy : Tidy input scene) {wish : Wish Mind}
    (runs : scene.program = .running wish) :
    (∀ stream, scene.closed stream = false) ∧ scene.reaped = none := by
  refine ⟨fun stream => ?_, ?_⟩
  · rw [Bool.eq_false_iff]
    intro finished
    obtain ⟨-, ending, ended⟩ := tidy.closed stream finished
    rw [runs] at ended
    cases ended
  · rw [Option.eq_none_iff_forall_ne_some]
    intro ending known
    have ended := tidy.reaped ending known
    rw [runs] at ended
    cases ended

/-- Where the program goes on running, only the account of the bytes has to be kept. -/
theorem Tidy.goOn (tidy : Tidy input scene) {wish after : Wish Mind}
    (runs : scene.program = .running wish) (goes : next.program = .running after)
    (closed : next.closed = scene.closed) (reaped : next.reaped = scene.reaped)
    (fed : next.consumed ++ next.input ++ next.unwritten = input)
    (whole : next.listening = true → next.feeding = false → next.unwritten = [])
    (kept : ∀ stream, next.collected stream ++ next.output stream = next.printed stream) :
    Tidy input next := by
  obtain ⟨unclosed, unknown⟩ := tidy.of_running runs
  refine ⟨fed, whole, kept, ?closed, ?reaped, ?deaf⟩
  case closed =>
    intro stream finished
    rw [closed, unclosed stream] at finished
    cases finished
  case reaped =>
    intro ending known
    rw [reaped, unknown] at known
    cases known
  case deaf =>
    intro ending finished
    rw [goes] at finished
    cases finished

/-- A program that ends leaves everything in the pipes. -/
theorem Tidy.quit (tidy : Tidy input scene) {wish : Wish Mind}
    (runs : scene.program = .running wish) (ending : Ending) :
    Tidy input (scene.quit ending) := by
  obtain ⟨unclosed, unknown⟩ := tidy.of_running runs
  refine { tidy with whole := ?whole, closed := ?closed, reaped := ?reaped, deaf := ?deaf }
  case whole =>
    intro listens
    cases listens
  case closed =>
    intro stream finished
    cases (unclosed stream).symm.trans finished
  case reaped =>
    intro ending known
    cases unknown.symm.trans known
  case deaf => exact fun _ _ => rfl

theorem ProgramStep.runs (step : ProgramStep pipes wishes scene next) :
    ∃ wish, scene.program = .running wish := by
  cases step with
  | read wants => exact ⟨_, wants⟩
  | readNothing wants => exact ⟨_, wants⟩
  | write wants => exact ⟨_, wants⟩
  | closeInput wants => exact ⟨_, wants⟩
  | exit wants => exact ⟨_, wants⟩

theorem ProgramStep.tidy (step : ProgramStep pipes wishes scene next) (tidy : Tidy input scene) :
    Tidy input next := by
  cases step with
  | read wants listens held some most_le =>
      refine tidy.goOn wants rfl rfl rfl ?_ tidy.whole tidy.kept
      simpa [held] using tidy.fed
  | readNothing wants nothing => exact tidy.goOn wants rfl rfl rfl tidy.fed tidy.whole tidy.kept
  | @write stream part rest after wants room some =>
      refine tidy.goOn wants rfl rfl rfl tidy.fed tidy.whole fun other => ?_
      have same := tidy.kept other
      by_cases here : other = stream
      · subst here
        simp [← same]
      · simpa [here] using same
  | closeInput wants =>
      refine tidy.goOn wants rfl rfl rfl tidy.fed ?_ tidy.kept
      intro listens
      cases listens
  | exit wants => exact tidy.quit wants _

theorem RunnerStep.tidy (step : RunnerStep pipes scene next) (tidy : Tidy input scene) :
    Tidy input next := by
  cases step with
  | feed feeds listens left some room =>
      refine { tidy with fed := ?fed, whole := ?whole }
      case fed => simpa [left] using tidy.fed
      case whole =>
        intro _ finished
        rw [feeds] at finished
        cases finished
  | giveUp feeds deaf left =>
      refine { tidy with whole := fun listens => ?_ }
      rw [deaf] at listens
      cases listens
  | finish feeds all => exact { tidy with whole := fun _ _ => all }
  | @collect stream part rest reads held some =>
      refine { tidy with kept := ?kept, closed := ?closed }
      case kept =>
        intro other
        have same := tidy.kept other
        by_cases here : other = stream
        · subst here
          simp [← same, held]
        · simpa [here] using same
      case closed =>
        intro other finished
        by_cases here : other = stream
        · subst here
          rw [reads] at finished
          cases finished
        · simpa [here] using tidy.closed other finished
  | @close stream ending reads empty finished =>
      refine { tidy with closed := fun other seen => ?_ }
      by_cases here : other = stream
      · subst here
        exact ⟨empty, ending, finished⟩
      · exact tidy.closed other (by simpa [here] using seen)
  | reap waits finished =>
      refine { tidy with reaped := fun ending known => ?_ }
      cases known
      exact finished

theorem Step.tidy (step : Step pipes wishes scene next) (tidy : Tidy input scene) :
    Tidy input next := by
  cases step with
  | program step => exact step.tidy tidy
  | runner step => exact step.tidy tidy
  | kill signal runs => exact tidy.quit runs _

theorem Reachable.tidy (reachable : Reachable pipes wishes mind input scene) :
    Tidy input scene := by
  induction reachable with
  | refl => exact start_tidy wishes mind input
  | tail _ step inductionHypothesis => exact step.tidy inductionHypothesis

end tidy

/-! ## Somebody can always go on -/

section progress

variable {pipes : Pipes} {wishes : Mind → Wish Mind} {mind : Mind} {input : List UInt8}
  {scene next last : Scene Mind}

/-- Bytes in an output can be collected. -/
theorem Tidy.collects (tidy : Tidy input scene) {stream : Stream}
    (held : scene.output stream ≠ []) : ∃ next, RunnerStep pipes scene next := by
  have reads : scene.closed stream = false := by
    rw [Bool.eq_false_iff]
    exact fun finished => held (tidy.closed stream finished).1
  exact ⟨_, .collect reads (List.append_nil _).symm held⟩

/-- As long as the input is written, that can go on, unless the pipe is full and somebody is to
read it. -/
theorem exists_feed (pipes : Pipes) (feeds : scene.feeding = true)
    (room : scene.listening = true → scene.input.length < pipes.input) :
    ∃ next, RunnerStep pipes scene next := by
  cases left : scene.unwritten with
  | nil => exact ⟨_, .finish feeds left⟩
  | cons byte rest =>
      cases listens : scene.listening with
      | false => exact ⟨_, .giveUp feeds listens (by simp [left])⟩
      | true =>
          have split : scene.unwritten = [byte] ++ rest := left
          exact ⟨_, .feed feeds listens split (by simp) (room listens)⟩

/-- When the one who runs the program can do nothing, both outputs are empty, and there is something
to be read, or nothing will come any more. -/
theorem Tidy.ready (tidy : Tidy input scene) (idle : ∀ next, ¬ RunnerStep pipes scene next) :
    (∀ stream, scene.output stream = []) ∧ (scene.feeding = false ∨ scene.input ≠ []) := by
  constructor
  · intro stream
    by_contra held
    obtain ⟨next, step⟩ := tidy.collects held
    exact idle next step
  · cases going : scene.feeding with
    | false => exact .inl rfl
    | true =>
        refine .inr fun empty => ?_
        obtain ⟨next, step⟩ := exists_feed pipes going fun _ => by
          simpa [empty] using pipes.input_pos
        exact idle next step

/-- Then nothing keeps a program from what it wants. -/
theorem exists_programStep (wishes : Mind → Wish Mind) {wish : Wish Mind}
    (runs : scene.program = .running wish) (empty : ∀ stream, scene.output stream = [])
    (fed : scene.feeding = false ∨ scene.input ≠ []) :
    ∃ next, ProgramStep pipes wishes scene next := by
  cases wish with
  | read most next =>
      by_cases nothing : scene.listening = false ∨ most = 0
      · exact ⟨_, .readNothing runs (.inr nothing)⟩
      · obtain ⟨listens, wanted⟩ := not_or.mp nothing
        cases held : scene.input with
        | nil => exact ⟨_, .readNothing runs (.inl ⟨held, fed.resolve_right (· held)⟩)⟩
        | cons byte rest =>
            have split : scene.input = [byte] ++ rest := held
            exact ⟨_, .read runs (Bool.not_eq_false _ ▸ listens) split (by simp)
              (Nat.pos_of_ne_zero wanted)⟩
  | write stream bytes next =>
      cases bytes with
      | nil =>
          have whole : scene.program = .running (.write stream ([] ++ []) next) := runs
          exact ⟨_, .write whole (by simp [empty]) fun _ => rfl⟩
      | cons byte rest =>
          have whole : scene.program = .running (.write stream ([byte] ++ rest) next) := runs
          have room : (scene.output stream).length + [byte].length ≤ pipes.output stream := by
            simpa [empty] using Nat.succ_le_of_lt (pipes.output_pos stream)
          exact ⟨_, .write whole room (by simp)⟩
  | closeInput next => exact ⟨_, .closeInput runs⟩
  | exit ending => exact ⟨_, .exit runs⟩

/-- A program that waits waits for the one who runs it, who can do something about it. -/
theorem Tidy.flows (tidy : Tidy input scene) (blocked : scene.Blocked pipes wishes) :
    ∃ next, RunnerStep pipes scene next := by
  by_contra idle
  obtain ⟨empty, fed⟩ := tidy.ready (not_exists.mp idle)
  obtain ⟨⟨wish, runs⟩, stuck⟩ := blocked
  obtain ⟨next, step⟩ := exists_programStep wishes runs empty fed
  exact stuck next step

/-- Once the program has ended, either everything is done or something is left to do. -/
theorem Tidy.goesOn (tidy : Tidy input scene) {ending : Ending}
    (finished : scene.program = .ended ending) :
    scene.result?.isSome = true ∨ ∃ next, RunnerStep pipes scene next := by
  have ends (stream : Stream) :
      scene.closed stream = true ∨ ∃ next, RunnerStep pipes scene next := by
    cases closed : scene.closed stream with
    | true => exact .inl rfl
    | false =>
        by_cases empty : scene.output stream = []
        · exact .inr ⟨_, .close closed empty finished⟩
        · exact .inr (tidy.collects empty)
  cases going : scene.feeding with
  | true =>
      refine .inr (exists_feed pipes going fun listens => ?_)
      rw [tidy.deaf ending finished] at listens
      cases listens
  | false =>
      rcases ends .stdout with out | goes
      · rcases ends .stderr with err | goes
        · cases known : scene.reaped with
          | none => exact .inr ⟨_, .reap known finished⟩
          | some ending => exact .inl (by simp [Scene.result?, going, out, err, known])
        · exact .inr goes
      · exact .inr goes

/-- Every step leaves less to do, so that there are not many without the program. -/
theorem RunnerStep.left_lt (step : RunnerStep pipes scene next) : next.left < scene.left := by
  cases step with
  | feed feeds listens left some room =>
      have more := List.length_pos_iff.mpr some
      simp only [Scene.left, left, List.length_append]
      omega
  | giveUp feeds deaf left => simp [Scene.left, feeds]
  | finish feeds all => simp [Scene.left, feeds]
  | @collect stream part rest reads held some =>
      have more := List.length_pos_iff.mpr some
      cases stream <;> simp [Scene.left, held] <;> omega
  | @close stream ending reads empty finished =>
      cases stream <;> simp [Scene.left, reads]
  | reap waits finished => simp [Scene.left, waits]

/-! ## When the program has ended -/

/-- After its end a program prints nothing, and nothing else happens but what the one who runs it
does. -/
theorem Step.of_ended (step : Step pipes wishes scene next) {ending : Ending}
    (finished : scene.program = .ended ending) :
    RunnerStep pipes scene next ∧ next.program = .ended ending ∧ next.printed = scene.printed := by
  cases step with
  | program step =>
      obtain ⟨wish, runs⟩ := step.runs
      rw [finished] at runs
      cases runs
  | runner step =>
      refine ⟨step, ?_⟩
      cases step <;> exact ⟨finished, rfl⟩
  | kill signal runs =>
      rw [finished] at runs
      cases runs

theorem run_of_ended (run : Relation.ReflTransGen (Step pipes wishes) scene last)
    {ending : Ending} (finished : scene.program = .ended ending) :
    last.program = .ended ending ∧ last.printed = scene.printed := by
  induction run with
  | refl => exact ⟨finished, rfl⟩
  | tail _ step inductionHypothesis =>
      obtain ⟨still, same⟩ := inductionHypothesis
      obtain ⟨-, ended, printed⟩ := step.of_ended still
      exact ⟨ended, printed.trans same⟩

/-- The program of an outcome printed this, and ended so. -/
def outcomeOf (printed : Stream → List UInt8) (ending : Ending) : Outcome :=
  ⟨⟨(printed .stdout).toArray⟩, ⟨(printed .stderr).toArray⟩, ending⟩

/-- A result tells all that the program printed, and how it ended. -/
theorem Tidy.result (tidy : Tidy input scene) {output : ToolOutput}
    (known : scene.result? = some output) :
    ∃ ending, scene.program = .ended ending ∧
      output = ToolOutput.ofOutcome (outcomeOf scene.printed ending) := by
  unfold Scene.result? at known
  split at known
  · cases known
  · next done =>
      simp only [Bool.or_eq_true, Bool.not_eq_true', not_or, Bool.not_eq_true,
        Bool.not_eq_false] at done
      obtain ⟨⟨-, out⟩, err⟩ := done
      obtain ⟨ending, reaped, rfl⟩ := Option.map_eq_some_iff.mp known
      have all (stream : Stream) (closed : scene.closed stream = true) :
          scene.collected stream = scene.printed stream := by
        have same := tidy.kept stream
        rwa [(tidy.closed stream closed).1, List.append_nil] at same
      refine ⟨ending, tidy.reaped ending reaped, ?_⟩
      rw [outcomeOf, all .stdout out, all .stderr err]

end progress

/-- Feeding a program neither gets stuck nor loses anything. -/
structure LosesNothing (pipes : Pipes) (wishes : Mind → Wish Mind) (mind : Mind)
    (input : List UInt8) : Prop where
  /-- The program never waits while nothing can be done on the other side. -/
  flows : ∀ scene, Reachable pipes wishes mind input scene → scene.Blocked pipes wishes →
    ∃ next, RunnerStep pipes scene next
  /-- When nothing can be done on the other side, both outputs are empty, so that whatever a pipe
  can hold is written at once, and there is something to be read, or nothing will come. -/
  ready : ∀ scene, Reachable pipes wishes mind input scene →
    (∀ next, ¬ RunnerStep pipes scene next) →
      (∀ stream, scene.output stream = []) ∧ (scene.feeding = false ∨ scene.input ≠ [])
  /-- Only so much can be done on the other side until the program goes on. -/
  bounded : ∀ scene next : Scene Mind, RunnerStep pipes scene next → next.left < scene.left
  /-- What is collected is the beginning of what was printed, in order; the rest is in the pipe. -/
  kept : ∀ scene, Reachable pipes wishes mind input scene →
    ∀ stream, scene.collected stream ++ scene.output stream = scene.printed stream
  /-- What the program has read is the beginning of the input, in order. -/
  fed : ∀ scene, Reachable pipes wishes mind input scene →
    scene.consumed ++ scene.input ++ scene.unwritten = input
  /-- A program that listens finds the end of its input only when it has read all of it. -/
  whole : ∀ scene, Reachable pipes wishes mind input scene → scene.listening = true →
    scene.input = [] → scene.feeding = false → scene.consumed = input
  /-- There is a result only when the program has ended, and it tells all that was printed. -/
  told : ∀ scene output, Reachable pipes wishes mind input scene → scene.result? = some output →
    ∃ ending, scene.program = .ended ending ∧
      output = ToolOutput.ofOutcome (outcomeOf scene.printed ending)
  /-- When the program has ended, only so much is left to do, and at the end of it there is the
  result, whether or not the program has read its input. -/
  completes : ∀ scene ending, Reachable pipes wishes mind input scene →
    scene.program = .ended ending → ∀ last, Relation.ReflTransGen (Step pipes wishes) scene last →
      (∀ next, Step pipes wishes last next → next.left < last.left) ∧
      ((∃ next, RunnerStep pipes last next) ∨
        last.result? = some (ToolOutput.ofOutcome (outcomeOf scene.printed ending)))

/-- Whatever the program does, with pipes of whatever size. -/
theorem losesNothing (pipes : Pipes) (wishes : Mind → Wish Mind) (mind : Mind)
    (input : List UInt8) : LosesNothing pipes wishes mind input where
  flows := fun _ reachable blocked => reachable.tidy.flows blocked
  ready := fun _ reachable idle => reachable.tidy.ready idle
  bounded := fun _ _ step => step.left_lt
  kept := fun _ reachable => reachable.tidy.kept
  fed := fun _ reachable => reachable.tidy.fed
  whole := by
    intro scene reachable listens empty finished
    have tidy := reachable.tidy
    have all := tidy.fed
    rwa [empty, tidy.whole listens finished, List.append_nil, List.append_nil] at all
  told := fun _ _ reachable known => reachable.tidy.result known
  completes := by
    intro scene ending reachable finished last run
    have tidy : Tidy input last := Reachable.tidy (reachable.trans run)
    obtain ⟨ended, same⟩ := run_of_ended run finished
    refine ⟨fun next step => (step.of_ended ended).1.left_lt, ?_⟩
    have ready : last.result?.isSome = true ∨ ∃ next, RunnerStep pipes last next :=
      tidy.goesOn ended
    rcases ready with done | goes
    · obtain ⟨output, known⟩ := Option.isSome_iff_exists.mp done
      obtain ⟨_, own, rfl⟩ := tidy.result known
      cases ended.symm.trans own
      exact .inr (same ▸ known)
    · exact .inl goes

/-! ## Why both go on at once -/

/-- What happens when nothing is collected before the input is written. -/
def SequentialStep (pipes : Pipes) (wishes : Mind → Wish Mind) (scene next : Scene Mind) : Prop :=
  ProgramStep pipes wishes scene next ∨
    (RunnerStep pipes scene next ∧ (scene.feeding = true → next.collected = scene.collected))

namespace Sample

/-- Pipes for one byte each. -/
def narrow : Pipes := ⟨1, fun _ => 1, Nat.one_pos, fun _ => Nat.one_pos⟩

/-- A program that prints what it reads, byte by byte. -/
def echo : Option (List UInt8) → Wish (Option (List UInt8))
  | none => .read 1 some
  | some [] => .exit (.exited 0)
  | some bytes => .write .stdout bytes none

/-- It has printed a byte, which is not collected. -/
def printed (mind : Option (List UInt8)) (unwritten : List UInt8) : Scene (Option (List UInt8)) :=
  { Scene.start echo mind unwritten with
    output := Function.update (fun _ => []) .stdout [1]
    printed := Function.update (fun _ => []) .stdout [1] }

/-- It holds another byte, and both pipes are full. -/
def full : Scene (Option (List UInt8)) :=
  { printed (some [2]) [4] with input := [3], consumed := [1, 2] }

end Sample

open Piping.Sample in
/-- Were nothing collected before the input is written, both sides could come to wait. -/
theorem sequential_stuck :
    Relation.ReflTransGen (SequentialStep narrow echo) (.start echo none [1, 2, 3, 4]) full ∧
      full.Blocked narrow echo ∧ ∀ next, ¬ SequentialStep narrow echo full next := by
  have waits : ∀ next, ¬ ProgramStep narrow echo full next := by
    intro next step
    cases step with
    | @write stream part rest after wants room some =>
        have here : stream = .stdout ∧ part ++ rest = [2] ∧ after = none := by
          simpa [full, printed, Scene.start, echo, eq_comm] using wants
        obtain ⟨rfl, whole, rfl⟩ := here
        cases part with
        | nil => simp [some rfl] at whole
        | cons byte part =>
            simp only [full, printed, narrow, Function.update_self, List.length_cons,
              List.length_nil] at room
            omega
    | read wants => cases wants
    | readNothing wants => cases wants
    | closeInput wants => cases wants
    | exit wants => cases wants
  refine ⟨?run, ⟨⟨_, rfl⟩, waits⟩, ?both⟩
  case run =>
    have one : SequentialStep narrow echo (.start echo none [1, 2, 3, 4])
        { Scene.start echo none [2, 3, 4] with input := [1] } :=
      .inr ⟨.feed rfl rfl (by rfl) (by simp) (by decide), fun _ => rfl⟩
    have two : SequentialStep narrow echo { Scene.start echo none [2, 3, 4] with input := [1] }
        { Scene.start echo (some [1]) [2, 3, 4] with consumed := [1] } :=
      .inl (.read rfl rfl (by rfl) (by simp) (by decide))
    have three : SequentialStep narrow echo
        { Scene.start echo (some [1]) [2, 3, 4] with consumed := [1] }
        { printed none [2, 3, 4] with consumed := [1] } :=
      .inl (@ProgramStep.write _ narrow echo _ .stdout [1] [] none rfl (by decide) fun _ => rfl)
    have four : SequentialStep narrow echo { printed none [2, 3, 4] with consumed := [1] }
        { printed none [3, 4] with input := [2], consumed := [1] } :=
      .inr ⟨.feed rfl rfl (by rfl) (by simp) (by decide), fun _ => rfl⟩
    have five : SequentialStep narrow echo
        { printed none [3, 4] with input := [2], consumed := [1] }
        { printed (some [2]) [3, 4] with consumed := [1, 2] } :=
      .inl (.read rfl rfl (by rfl) (by simp) (by decide))
    have six : SequentialStep narrow echo { printed (some [2]) [3, 4] with consumed := [1, 2] }
        full :=
      .inr ⟨.feed rfl rfl (by rfl) (by simp) (by decide), fun _ => rfl⟩
    exact .head one (.head two (.head three (.head four (.head five (.single six)))))
  case both =>
    rintro next (step | ⟨step, patient⟩)
    · exact waits next step
    · cases step with
      | feed feeds listens left some room =>
          have more := List.length_pos_iff.mpr some
          simp only [full, narrow, List.length_singleton] at room
          omega
      | giveUp feeds deaf left => cases deaf
      | finish feeds all => cases all
      | @collect stream part rest reads held some =>
          have same := congrFun (patient rfl) stream
          simp [some] at same
      | close reads empty finished => cases finished
      | reap waits finished => cases finished

end TemplateLint.Piping
