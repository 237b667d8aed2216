import TemplateLint.Isolated.Setup

/-!
# Attempts to set up an environment

An attempt is known by the files that it met and by what its commands, and the removal of what stood
in its place, came to.  There are two ways in which it may be complete.  Either the environment that
was there works, and then nothing is removed and nothing else is run; or what was there does not work
or is no environment, and then it gives way to one that the first candidate that can has made, with
the tool installed.
Main exports: `Task`, `Trial`, `Attempt`, `Attempt.Clears`, `Attempt.Seeks`, `Attempt.Completed`,
`Attempt.Reaches`, `Attempt.reaches_begin`, `Attempt.Reaches.resume`, `Attempt.Reaches.cleared`.
-/

namespace TemplateLint

/-- A command did what it was started for. -/
def CommandResult.succeeded : CommandResult → Bool
  | .finished outcome => outcome.success
  | .refused _ => false
  | .expired => false

/-- There is nothing to complain about just when a command succeeded. -/
theorem Setup.complaint?_eq_none {venv : Path} {stage : Setup} {result : CommandResult} :
    stage.complaint? venv result = none ↔ result.succeeded = true := by
  cases result with
  | finished outcome => cases ended : outcome.success <;>
      simp [complaint?, CommandResult.succeeded, ended]
  | refused reason => simp [complaint?, CommandResult.succeeded]
  | expired => simp [complaint?, CommandResult.succeeded]

theorem Setup.complaint?_eq_some {venv : Path} {stage : Setup} {result : CommandResult}
    {complaint : String} (said : stage.complaint? venv result = some complaint) :
    result.succeeded = false := by
  rw [← Bool.not_eq_true]
  intro succeeded
  rw [Setup.complaint?_eq_none.mpr succeeded] at said
  cases said

/-- What an attempt waits for while it is under way. -/
inductive Task where
  /-- The command of a stage. -/
  | command (stage : Setup)
  /-- The removal of what stands in the place of the environment. -/
  | removal
deriving DecidableEq, Repr

/-- What a task of an attempt came to. -/
inductive Trial where
  /-- The command of a stage has come to its result, and the files are like this. -/
  | command (stage : Setup) (result : CommandResult) (disk : Disk)
  | removal (result : Except IoError Unit)

def Trial.task : Trial → Task
  | command stage _ _ => .command stage
  | removal _ => .removal

/-- The files that an attempt met at its beginning, and what its tasks came to, the earliest
first. -/
structure Attempt where
  disk : Disk
  trials : List Trial

namespace Attempt

def add (attempt : Attempt) (trial : Trial) : Attempt :=
  { attempt with trials := attempt.trials ++ [trial] }

/-- The environment is to be made anew, and the files are like this: there is no interpreter, or the
tool could not be run with it. -/
inductive Fails (venv : Path) : Attempt → Disk → Prop where
  | missing {disk : Disk} (nothing : disk.isFile (interpreterIn venv) = false) :
      Fails venv ⟨disk, []⟩ disk
  | invalid {disk later : Disk} {result : CommandResult}
      (there : disk.isFile (interpreterIn venv) = true) (broken : result.succeeded = false) :
      Fails venv ⟨disk, [.command .validating result later]⟩ later

/-- What stands in the place of the environment is to be removed. -/
inductive Clears (venv : Path) : Attempt → Prop where
  | stands {attempt : Attempt} {disk : Disk} (fails : Fails venv attempt disk)
      (there : disk.isPresent venv = true) : Clears venv attempt

/-- An environment is to be made by one of the names, none of the candidates before them could
make one. -/
inductive Seeks (venv : Path) : Attempt → List String → Prop where
  /-- Nothing is in the way. -/
  | absent {attempt : Attempt} {disk : Disk} (fails : Fails venv attempt disk)
      (nothing : disk.isPresent venv = false) : Seeks venv attempt Setup.candidates
  /-- What was in the way has been removed. -/
  | cleared {attempt : Attempt} (clears : Clears venv attempt) :
      Seeks venv (attempt.add (.removal (.ok ()))) Setup.candidates
  /-- A candidate could not make environments. -/
  | next {attempt : Attempt} {candidate : String} {others : List String} {disk : Disk}
      {result : CommandResult} (seeks : Seeks venv attempt (candidate :: others))
      (unable : result.succeeded = false) :
      Seeks venv (attempt.add (.command (.probing candidate others) result disk)) others

/-- A candidate can make environments, and no candidate before it could. -/
inductive Finds (venv : Path) : Attempt → String → Prop where
  | able {attempt : Attempt} {candidate : String} {others : List String} {disk : Disk}
      {result : CommandResult} (seeks : Seeks venv attempt (candidate :: others))
      (able : result.succeeded = true) :
      Finds venv (attempt.add (.command (.probing candidate others) result disk)) candidate

/-- The candidate that was found has made the environment. -/
inductive Creates (venv : Path) : Attempt → Prop where
  | created {attempt : Attempt} {candidate : String} {disk : Disk} {result : CommandResult}
      (finds : Finds venv attempt candidate) (created : result.succeeded = true) :
      Creates venv (attempt.add (.command (.creating candidate) result disk))

/-- The environment is set up. -/
inductive Completed (venv : Path) : Attempt → Prop where
  /-- The one that was there works: nothing is removed, and nothing else is run. -/
  | valid {disk later : Disk} {result : CommandResult}
      (there : disk.isFile (interpreterIn venv) = true) (works : result.succeeded = true) :
      Completed venv ⟨disk, [.command .validating result later]⟩
  /-- It was made anew, and the tool has been installed. -/
  | made {attempt : Attempt} {disk : Disk} {result : CommandResult}
      (creates : Creates venv attempt) (installed : result.succeeded = true) :
      Completed venv (attempt.add (.command .installing result disk))

/-- What an attempt has come to when this is the next step. -/
inductive Reaches (venv : Path) : Attempt → SetupStep → Prop where
  | validate {disk : Disk} (there : disk.isFile (interpreterIn venv) = true) :
      Reaches venv ⟨disk, []⟩ (.run .validating)
  | remove {attempt : Attempt} (clears : Clears venv attempt) : Reaches venv attempt .remove
  | probe {attempt : Attempt} {candidate : String} {others : List String}
      (seeks : Seeks venv attempt (candidate :: others)) :
      Reaches venv attempt (.run (.probing candidate others))
  | create {attempt : Attempt} {candidate : String} (finds : Finds venv attempt candidate) :
      Reaches venv attempt (.run (.creating candidate))
  | install {attempt : Attempt} (creates : Creates venv attempt) :
      Reaches venv attempt (.run .installing)
  | done {attempt : Attempt} (completed : Completed venv attempt) : Reaches venv attempt .done
  | failed (attempt : Attempt) (failure : Failure) : Reaches venv attempt (.failed failure)

variable {venv : Path} {attempt : Attempt} {disk : Disk} {stage : Setup} {result : CommandResult}

theorem Reaches.completed (reaches : Reaches venv attempt .done) : Completed venv attempt := by
  cases reaches with
  | done completed => exact completed

theorem Reaches.clears (reaches : Reaches venv attempt .remove) : Clears venv attempt := by
  cases reaches with
  | remove clears => exact clears

/-- The candidates that are left are asked in turn. -/
theorem Seeks.probe {names : List String} (seeks : Seeks venv attempt names) :
    Reaches venv attempt (Setup.probe names) := by
  cases names with
  | nil => exact .failed attempt Setup.noCandidate
  | cons candidate others => exact .probe seeks

/-- To make the environment anew, what is in the way is removed, or the candidates are asked. -/
theorem Fails.create (fails : Fails venv attempt disk) :
    Reaches venv attempt (Setup.create venv disk) := by
  unfold Setup.create
  split
  · next there => exact .remove (.stands fails there)
  · next nothing => exact (Seeks.absent fails (by simpa using nothing)).probe

/-- An attempt begins by trying what is there. -/
theorem reaches_begin (venv : Path) (disk : Disk) :
    Reaches venv ⟨disk, []⟩ (Setup.begin venv disk) := by
  unfold Setup.begin
  split
  · next there => exact .validate there
  · next nothing => exact (Fails.missing (by simpa using nothing)).create

/-- An attempt goes on with what the result of its command leads to, -/
theorem Reaches.resume (reaches : Reaches venv attempt (.run stage)) (result : CommandResult)
    (disk : Disk) :
    Reaches venv (attempt.add (.command stage result disk)) (stage.resume venv result disk) := by
  cases said : stage.complaint? venv result with
  | none =>
      have succeeded := Setup.complaint?_eq_none.mp said
      cases reaches with
      | validate there =>
          simp only [Setup.resume, said]
          exact .done (.valid there succeeded)
      | probe seeks =>
          simp only [Setup.resume, said]
          exact .create (.able seeks succeeded)
      | create finds =>
          simp only [Setup.resume, said]
          exact .install (.created finds succeeded)
      | install creates =>
          simp only [Setup.resume, said]
          exact .done (.made creates succeeded)
  | some complaint =>
      have failed := Setup.complaint?_eq_some said
      cases reaches with
      | validate there =>
          simp only [Setup.resume, said]
          exact (Fails.invalid there failed).create
      | probe seeks =>
          simp only [Setup.resume, said]
          exact (Seeks.next seeks failed).probe
      | create finds =>
          simp only [Setup.resume, said]
          exact .failed _ _
      | install creates =>
          simp only [Setup.resume, said]
          exact .failed _ _

/-- and with what the removal leads to. -/
theorem Reaches.cleared (reaches : Reaches venv attempt .remove)
    (result : Except IoError Unit) :
    Reaches venv (attempt.add (.removal result)) (Setup.cleared venv result) := by
  cases result with
  | ok removed => exact (Seeks.cleared reaches.clears).probe
  | error reason => exact .failed _ _

end Attempt

end TemplateLint
