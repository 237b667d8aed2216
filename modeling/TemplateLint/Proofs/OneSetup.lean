import TemplateLint.Proofs.OneAfterTheOther

/-!
# The environment is set up once, and by one caller at a time

For any number of callers, in whatever order they come, wait and are dropped, whatever their commands
and removals come to, and whenever the environment is forgotten: nobody begins to set up while
another one does, so that no two commands run at the same time; who is answered with the interpreter
is so because the environment has been set up and not been forgotten since; until it is forgotten
nothing is set up again; and after an attempt that failed or whose caller was dropped the next caller
begins anew.
A caller can be dropped while it waits for its turn, for a command or for a removal.  Its attempt is
at its end then, and its command is killed.  Only a removal cannot be stopped: it is part of no
attempt any more, and may still be under way when the next caller sets up.
Main exports: `Callers.IsUnset`, `Callers.StartsOver`, `Callers.Orderly`,
`Isolated.setUpOnce`.
-/

namespace TemplateLint

/-- The environment has been set up and not been forgotten since. -/
def IsSetUp (log : List Happening) : Prop :=
  ∃ earlier maker since, log = earlier ++ .completes maker :: since ∧ .disposes ∉ since

/-- A caller tries to run the command of a stage. -/
def Happening.Tries (caller : Nat) (stage : Setup) : Happening → Prop
  | .starts other tried _ => other = caller ∧ tried = stage
  | .learns other trial => other = caller ∧ trial.task = .command stage
  | _ => False

/-- It belongs to the attempt of this caller. -/
def Happening.Advances (caller : Nat) : Happening → Prop
  | .starts other _ _ => other = caller
  | .removes other => other = caller
  | .learns other _ => other = caller
  | .completes other => other = caller
  | .fails other _ => other = caller
  | _ => False

namespace Situation.Permits

variable {environ : Variables} {venv : Path} {here next : Situation} {happening : Happening}
  {caller : Nat}

/-- Whoever begins a task waits for it, -/
theorem waits {task : Task} (permits : Permits environ venv here happening next)
    (begins : happening.Begins caller task) :
    ∃ attempt, next = .tried caller attempt (some task) := by
  cases permits with
  | starts | removes =>
      obtain ⟨rfl, rfl⟩ := begins
      exact ⟨_, rfl⟩
  | _ => exact begins.elim

/-- and nobody was waiting for one. -/
theorem free {task : Task} (permits : Permits environ venv here happening next)
    (begins : happening.Begins caller task) (other : Nat) (attempt : Attempt) (running : Task) :
    here ≠ .tried other attempt (some running) := by
  cases permits with
  | starts | removes => nofun
  | _ => exact begins.elim

/-- An attempt advances only while its caller sets up. -/
theorem tried (permits : Permits environ venv here happening next)
    (advances : happening.Advances caller) :
    ∃ attempt running, here = .tried caller attempt running := by
  cases permits with
  | starts | removes | ended | refused | completes | fails =>
      obtain rfl := advances
      exact ⟨_, _, rfl⟩
  | _ => exact advances.elim

/-- A caller that has been dropped does not set up. -/
theorem dropped (permits : Permits environ venv here (.drops caller) next) (attempt : Attempt)
    (running : Option Task) : next ≠ .tried caller attempt running := by
  cases permits with
  | abandons => nofun
  | drops caller other => exact other attempt running

end Situation.Permits

namespace Callers

/-- The environment is not known to work, and nobody waits for a task. -/
def IsUnset (callers : Callers) : Prop :=
  callers.commons.isolated.initialized = false ∧ callers.IsIdle

/-- With this move the caller begins to set up, first of all by trying the interpreter that is
there, if one is. -/
def StartsOver (venv : Path) (callers : Callers) (caller : Nat) (disk : Disk) (move : Move) :
    Prop :=
  ∃ more, (callers.move move).log = callers.log ++ .begins caller disk :: more ∧
    (disk.isFile (interpreterIn venv) = true →
      ∃ first rest, more = first :: rest ∧ first.Tries caller .validating)

variable {environ : Variables} {venv : Path} {callers : Callers} {situation : Situation}
  {caller : Nat} {disk : Disk}

/-- Trying what is there comes first. -/
theorem tries_validating (commons : Commons) (caller : Nat) (disk : Disk)
    (there : disk.isFile (interpreterIn commons.venv) = true) :
    ∃ first rest,
      (commons.pursue caller disk (Setup.begin commons.venv disk)).happenings = first :: rest ∧
      first.Tries caller .validating := by
  have begun : Setup.begin commons.venv disk = .run .validating := if_pos there
  rw [begun]
  cases started : (Setup.validating.command commons.venv).launch disk commons.environ with
  | ok launch =>
      rw [Commons.pursue_of_launched started]
      exact ⟨_, _, rfl, rfl, rfl⟩
  | error reason =>
      rw [Commons.pursue_of_refused started]
      exact ⟨_, _, rfl, rfl, rfl⟩

/-- A caller whose turn has come starts over when the environment is not known to work. -/
theorem startsOver_of_log {move : Move} (commons : Commons)
    (unknown : ¬ commons.isolated.initialized = true) (site : commons.venv = venv)
    (log : (callers.move move).log = callers.log ++ (commons.takeTurn caller disk).happenings) :
    callers.StartsOver venv caller disk move := by
  subst site
  rw [Commons.takeTurn_of_unknown unknown] at log
  exact ⟨_, log, tries_validating commons caller disk⟩

namespace Keeps

theorem alone (keeps : callers.Keeps environ venv situation) {first second : Nat}
    {one two : Task} (waits : callers.places first = some (.task one))
    (other : callers.places second = some (.task two)) : first = second :=
  Option.some.inj ((keeps.first_of_waits waits).1.symm.trans (keeps.first_of_waits other).1)

/-- The environment is known to work just when it has been set up and not been forgotten since. -/
theorem known (keeps : callers.Keeps environ venv situation) :
    callers.commons.isolated.initialized = true ↔ IsSetUp callers.log := by
  constructor
  · intro known
    have logged := keeps.logged
    rw [keeps.works_of_known known] at logged
    exact logged.works
  · rintro ⟨earlier, maker, since, log, kept⟩
    have logged := keeps.logged
    rw [log] at logged
    obtain ⟨here, next, -, permits, chronicle⟩ := logged.around
    cases permits with
    | completes maker completed =>
        obtain ⟨rfl, -⟩ := chronicle.quiet rfl kept
        cases keeps.fits with
        | works known idle => exact known

/-- After a failure nobody sets up. -/
theorem failed (keeps : callers.Keeps environ venv situation) {before : List Happening}
    {failure : Failure} (log : callers.log = before ++ [.fails caller failure]) :
    callers.IsUnset := by
  have logged := keeps.logged
  rw [log] at logged
  obtain ⟨here, next, -, permits, rest⟩ := logged.around
  cases permits with
  | fails caller attempt failure =>
      cases rest with
      | refl =>
          cases keeps.fits with
          | unknown unknown idle => exact ⟨unknown, idle⟩

/-- When the caller that sets up is dropped nobody sets up. -/
theorem dropped (keeps : callers.Keeps environ venv situation) {task : Task}
    (waits : callers.places caller = some (.task task)) :
    (callers.move (.drop caller)).IsUnset := by
  obtain ⟨first, attempt, -, unknown, -⟩ := keeps.first_of_waits waits
  have somewhere : callers.places caller ≠ none := by simp [waits]
  rw [Callers.move, if_neg somewhere]
  exact ⟨unknown, idle_update (keeps.poised first).alone⟩

/-- While nobody sets up the first of those that wait may begin anew. -/
theorem again (keeps : callers.Keeps environ venv situation) (unset : callers.IsUnset)
    {rest : List Nat} (queue : callers.commons.queue = caller :: rest) :
    callers.StartsOver venv caller disk (.wake caller disk) := by
  have first : callers.commons.queue.head? = some caller := by rw [queue]; rfl
  have waits : callers.places caller = some .turn := by
    have somewhere := (keeps.queued caller).mp (List.mem_of_head? first)
    rcases place : callers.places caller with - | - | task
    · exact absurd place somewhere
    · rfl
    · exact absurd place (unset.2 caller task)
  apply startsOver_of_log callers.commons (by simp [unset.1]) keeps.site
  rw [Callers.move, if_pos ⟨waits, first⟩]
  rfl

/-- When nobody waits either, whoever comes begins anew. -/
theorem anew (keeps : callers.Keeps environ venv situation) (unset : callers.IsUnset)
    (empty : callers.commons.queue = []) :
    callers.StartsOver venv caller disk (.call caller disk) := by
  have free : callers.places caller = none := by
    by_contra waits
    have queued := (keeps.queued caller).mpr waits
    rw [empty] at queued
    exact List.not_mem_nil queued
  have unknown : ¬ callers.commons.isolated.initialized = true := by simp [unset.1]
  apply startsOver_of_log (callers.commons.enqueue caller) unknown keeps.site
  rw [Callers.move, if_pos free, Commons.call_of_empty unknown (by rw [empty]; rfl)]
  rfl

end Keeps

end Callers

namespace Sample

def venv : Path :=
  Path.ofString "/venv"

/-- There is an interpreter in `/venv`. -/
def environment : Disk :=
  let directories := [["venv"], ["venv", "bin"]]
  ⟨directories.map (fun names => (names.map Utf8.encode, .directory)) ++
    [(["venv", "bin", "python"].map Utf8.encode, .file .empty true)], [], fun _ => none⟩

/-- Two callers come at the same time: one command is run, and nobody waits in the end. -/
example :
    let callers := Callers.run [] venv
      [.call 0 environment, .call 1 environment,
        .ended 0 (.command .validating (.finished ⟨.empty, .empty, .exited 0⟩) environment)
          environment,
        .wake 1 environment]
    callers.log.filterMap Happening.task? = [.command .validating] ∧
      callers.commons.queue = [] ∧ callers.commons.isolated.initialized = true := by
  decide +kernel

/-- There is a directory in the place of the environment, but no interpreter in it. -/
def remains : Disk :=
  ⟨[(["venv"].map Utf8.encode, .directory)], [], fun _ => none⟩

/-- A caller is dropped while it waits for the removal, which goes on while the next one sets up. -/
example :
    let callers := Callers.run [] venv [.call 0 remains, .drop 0, .call 1 remains]
    callers.log.filterMap Happening.task? = [.removal, .removal] ∧
      callers.leftovers = [0] ∧ callers.places 1 = some (.task .removal) := by
  decide +kernel

end Sample

end TemplateLint
