import Mathlib.Data.List.Induction
import Mathlib.Logic.Function.Basic
import TemplateLint.Proofs.Chronicles

/-!
# Callers that want one environment

Any number of callers want the environment at the same time.  They come, look around when it may be
their turn, learn what their tasks came to, and are dropped, in any order; in between the environment
may be forgotten, and the files may be changed by anybody.  A command is killed with its caller, but
a removal goes on without it, and ends whenever it does.
Whatever the order, what happens is a chronicle, and how things stand agrees with what the callers
share: the one that sets up is the first in the queue, and nobody else waits for a task.
Main exports: `Callers`, `Callers.Move`, `Callers.run`, `Callers.Keeps`, `Callers.run_keeps`.
-/

namespace TemplateLint

/-- Where a caller waits: for its turn, or for a task of its attempt. -/
inductive Place where
  | turn
  | task (task : Task)
deriving DecidableEq, Repr

/-- Where a caller waits when it goes on so, if it is not through. -/
def Sequel.place? : Sequel → Option Place
  | .waits => some .turn
  | .starts stage _ => some (.task (.command stage))
  | .removes => some (.task .removal)
  | .ready _ => none
  | .failed _ => none

/-- Callers and what they share, with all that has happened. -/
structure Callers where
  commons : Commons
  /-- Where each caller waits; those that have not come or are through wait nowhere. -/
  places : Nat → Option Place
  /-- Those whose removal goes on though they have been dropped. -/
  leftovers : List Nat
  /-- What has happened, the earliest first. -/
  log : List Happening

/-- What callers do and what is done to them, each time with the files as they are then. -/
inductive Callers.Move where
  /-- A caller comes that is not waiting already. -/
  | call (caller : Nat) (disk : Disk)
  /-- A caller that waits for its turn looks around. -/
  | wake (caller : Nat) (disk : Disk)
  /-- The task of a caller has ended, in whatever way. -/
  | ended (caller : Nat) (trial : Trial) (disk : Disk)
  /-- A caller is dropped wherever it waits. -/
  | drop (caller : Nat)
  /-- A removal that was left behind has ended. -/
  | settle (caller : Nat)
  /-- The environment is forgotten. -/
  | dispose

/-- The step of setting up that is a task. -/
def Task.step : Task → SetupStep
  | command stage => .run stage
  | removal => .remove

/-- An attempt goes on with what its task leads to. -/
theorem Attempt.Reaches.stepAfter {commons : Commons} {attempt : Attempt} {trial : Trial}
    (reaches : attempt.Reaches commons.venv trial.task.step) :
    (attempt.add trial).Reaches commons.venv (commons.stepAfter trial) := by
  cases trial with
  | command stage result disk => exact reaches.resume result disk
  | removal result => exact reaches.cleared result

/-! ## What comes of a caller in one go -/

/-- How a caller that was the first in the queue leaves things. -/
inductive Burst.Leaves (commons : Commons) (caller : Nat) (burst : Burst) : Situation → Prop where
  /-- It waits for a task. -/
  | begins {attempt : Attempt} {task : Task} (unknown : commons.isolated.initialized = false)
      (same : burst.commons = commons) (waits : burst.sequel.place? = some (.task task))
      (reaches : attempt.Reaches commons.venv task.step) :
      Leaves commons caller burst (.tried caller attempt (some task))
  /-- It has its interpreter. -/
  | ready (released : burst.commons = (commons.know true).release caller)
      (through : burst.sequel.place? = none) : Leaves commons caller burst .works
  /-- It has failed. -/
  | failed (unknown : commons.isolated.initialized = false)
      (released : burst.commons = commons.release caller)
      (through : burst.sequel.place? = none) : Leaves commons caller burst .unknown

/-- What comes of a caller is in order as things stand. -/
def Burst.Continues (commons : Commons) (caller : Nat) (situation : Situation) (burst : Burst) :
    Prop :=
  ∃ last, Chronicle commons.environ commons.venv situation burst.happenings last ∧
    burst.Leaves commons caller last

theorem Burst.Continues.after {commons : Commons} {caller : Nat} {first middle : Situation}
    {burst : Burst} {happening : Happening} (continues : burst.Continues commons caller middle)
    (permits : Situation.Permits commons.environ commons.venv first happening middle) :
    (burst.after happening).Continues commons caller first := by
  obtain ⟨last, chronicle, leaves⟩ := continues
  refine ⟨last, .step permits chronicle, ?_⟩
  cases leaves with
  | begins unknown same waits reaches => exact .begins unknown same waits reaches
  | ready released through => exact .ready released through
  | failed unknown released through => exact .failed unknown released through

namespace Commons

variable {commons : Commons} {caller : Nat} {attempt : Attempt} {disk : Disk}

theorem succeed_continues (completed : attempt.Completed commons.venv) :
    (commons.succeed caller).Continues commons caller (.tried caller attempt none) :=
  ⟨.works, .step (.completes caller completed) (.single (.answers caller)), .ready rfl rfl⟩

theorem giveUp_continues (unknown : commons.isolated.initialized = false) (failure : Failure) :
    (commons.giveUp caller failure).Continues commons caller (.tried caller attempt none) :=
  ⟨.unknown, .single (.fails caller attempt failure), .failed unknown rfl rfl⟩

/-- A task is begun, or the attempt goes on until one can be. -/
theorem pursue_continues (unknown : commons.isolated.initialized = false) {step : SetupStep}
    (reaches : attempt.Reaches commons.venv step) :
    (commons.pursue caller disk step).Continues commons caller (.tried caller attempt none) := by
  fun_induction commons.pursue caller disk step generalizing attempt with
  | case1 stage launch launched =>
      refine ⟨.tried caller attempt (some (.command stage)), ?_, .begins unknown rfl rfl reaches⟩
      exact .single (.starts caller attempt launched)
  | case2 stage reason refused inductionHypothesis =>
      have later := reaches.resume (.refused reason) disk
      exact (inductionHypothesis later).after (.refused caller attempt stage reason disk)
  | case3 =>
      refine ⟨.tried caller attempt (some .removal), ?_, .begins unknown rfl rfl reaches⟩
      exact .single (.removes caller reaches.clears)
  | case4 => exact succeed_continues reaches.completed
  | case5 failure => exact giveUp_continues unknown failure

/-- When it is the turn of a caller, it is answered or begins to set up. -/
theorem takeTurn_continues (commons : Commons) (caller : Nat) (disk : Disk)
    {situation : Situation}
    (stands : situation = if commons.isolated.initialized then .works else .unknown) :
    (commons.takeTurn caller disk).Continues commons caller situation := by
  subst stands
  by_cases works : commons.isolated.initialized = true
  · rw [takeTurn_of_works works, if_pos works]
    have known : commons.know true = commons := by rw [know, ← works]
    exact ⟨.works, .single (.answers caller), .ready (by rw [known]) rfl⟩
  · rw [takeTurn_of_unknown works, if_neg works]
    have reaches := Attempt.reaches_begin commons.venv disk
    exact (pursue_continues (by simpa using works) reaches).after (.begins caller disk)

theorem learn_continues (unknown : commons.isolated.initialized = false) {trial : Trial}
    (reaches : attempt.Reaches commons.venv trial.task.step) (disk : Disk) :
    (commons.learn caller trial disk).Continues commons caller
      (.tried caller attempt (some trial.task)) :=
  (pursue_continues unknown reaches.stepAfter).after (.ended caller attempt trial)

end Commons

/-! ## Runs -/

namespace Callers

/-- What came of a caller comes into effect. -/
def carry (callers : Callers) (caller : Nat) (burst : Burst) : Callers where
  commons := burst.commons
  places := Function.update callers.places caller burst.sequel.place?
  leftovers := callers.leftovers
  log := callers.log ++ burst.happenings

/-- A caller is dropped, and its removal, if it waits for one, is left behind. -/
def dismiss (callers : Callers) (caller : Nat) : Callers where
  commons := callers.commons.release caller
  places := Function.update callers.places caller none
  leftovers := (if callers.places caller = some (.task .removal) then [caller] else []) ++
    callers.leftovers
  log := callers.log ++ [.drops caller]

def move (callers : Callers) : Move → Callers
  | .call caller disk =>
      if callers.places caller = none then
        callers.carry caller (callers.commons.call caller disk)
      else callers
  | .wake caller disk =>
      if callers.places caller = some .turn ∧ callers.commons.queue.head? = some caller then
        callers.carry caller (callers.commons.takeTurn caller disk)
      else callers
  | .ended caller trial disk =>
      if callers.places caller = some (.task trial.task) then
        callers.carry caller (callers.commons.learn caller trial disk)
      else callers
  | .drop caller =>
      if callers.places caller = none then callers else callers.dismiss caller
  | .settle caller =>
      if caller ∈ callers.leftovers then
        { callers with
          leftovers := callers.leftovers.erase caller, log := callers.log ++ [.settles caller] }
      else callers
  | .dispose =>
      { callers with commons := callers.commons.know false, log := callers.log ++ [.disposes] }

/-- Nobody has come, and the environment is not known to work. -/
def start (environ : Variables) (venv : Path) : Callers :=
  ⟨⟨environ, ⟨venv, false⟩, []⟩, fun _ => none, [], []⟩

def run (environ : Variables) (venv : Path) (moves : List Move) : Callers :=
  moves.foldl move (start environ venv)

/-- Nobody waits for a task. -/
def IsIdle (callers : Callers) : Prop :=
  ∀ caller task, callers.places caller ≠ some (.task task)

/-- How things stand agrees with what the callers share and where they wait. -/
inductive Fits (callers : Callers) : Situation → Prop where
  | unknown (unknown : callers.commons.isolated.initialized = false) (idle : callers.IsIdle) :
      Fits callers .unknown
  | tried {caller : Nat} {attempt : Attempt} {task : Task}
      (unknown : callers.commons.isolated.initialized = false)
      (first : callers.commons.queue.head? = some caller)
      (waits : callers.places caller = some (.task task))
      (alone : ∀ other task, callers.places other = some (.task task) → other = caller)
      (reaches : attempt.Reaches callers.commons.venv task.step) :
      Fits callers (.tried caller attempt (some task))
  | works (known : callers.commons.isolated.initialized = true) (idle : callers.IsIdle) :
      Fits callers .works

/-- A caller was dropped while the removal that it had begun was under way. -/
def LeftBehind (log : List Happening) (caller : Nat) : Prop :=
  ∃ before between after,
    log = before ++ .removes caller :: (between ++ .drops caller :: after) ∧
      ∀ happening ∈ between, ¬ happening.Ends caller .removal

/-- What every move keeps. -/
structure Keeps (environ : Variables) (venv : Path) (callers : Callers) (situation : Situation) :
    Prop where
  host : callers.commons.environ = environ
  site : callers.commons.venv = venv
  logged : Chronicle environ venv .unknown callers.log situation
  distinct : callers.commons.queue.Nodup
  /-- Those that wait are in the queue. -/
  queued : ∀ caller, caller ∈ callers.commons.queue ↔ callers.places caller ≠ none
  fits : callers.Fits situation
  /-- What goes on without its caller is a removal that the caller had begun. -/
  left : ∀ caller ∈ callers.leftovers, LeftBehind callers.log caller

/-- How things stand stays the same when it is the same caller that sets up. -/
theorem Fits.stay {callers next : Callers} {situation : Situation}
    (fits : callers.Fits situation) (same : next.commons.isolated = callers.commons.isolated)
    (first : ∀ caller task, callers.commons.queue.head? = some caller →
      callers.places caller = some (.task task) → next.commons.queue.head? = some caller)
    (waiting : ∀ other task, next.places other = some (.task task) ↔
      callers.places other = some (.task task)) : next.Fits situation := by
  have idle (idle : callers.IsIdle) : next.IsIdle := fun other task waits =>
    idle other task ((waiting other task).mp waits)
  cases fits with
  | unknown unknown still => exact .unknown (by rw [same, unknown]) (idle still)
  | @tried caller attempt task unknown front waits alone reaches =>
      refine .tried (by rw [same, unknown]) (first caller task front waits)
        ((waiting caller task).mpr waits) ?_ ?_
      · intro other task waits
        exact alone other task ((waiting other task).mp waits)
      · rw [Commons.venv, same]
        exact reaches
  | works known still => exact .works (by rw [same, known]) (idle still)

/-- A caller that no longer waits has left the queue. -/
theorem queued_erase {places : Nat → Option Place} {queue : List Nat} (caller : Nat)
    (distinct : queue.Nodup)
    (queued : ∀ other, other ≠ caller → (other ∈ queue ↔ places other ≠ none)) (other : Nat) :
    other ∈ queue.erase caller ↔ Function.update places caller none other ≠ none := by
  rw [distinct.mem_erase_iff]
  by_cases same : other = caller
  · simp [same]
  · simp [same, queued other same]

/-- When the only caller that waits for a task no longer does, nobody does. -/
theorem idle_update {places : Nat → Option Place} {caller : Nat}
    (alone : ∀ other task, places other = some (.task task) → other = caller) (other : Nat)
    (task : Task) : Function.update places caller none other ≠ some (.task task) := by
  by_cases same : other = caller
  · simp [same]
  · rw [Function.update_of_ne same]
    exact fun waiting => same (alone other task waiting)

/-- A caller is the first in the queue, and nobody else waits for a task. -/
structure Poised (environ : Variables) (venv : Path) (callers : Callers) (caller : Nat)
    (commons : Commons) : Prop where
  host : commons.environ = environ
  site : commons.venv = venv
  first : commons.queue.head? = some caller
  distinct : commons.queue.Nodup
  queued : ∀ other, other ≠ caller → (other ∈ commons.queue ↔ callers.places other ≠ none)
  alone : ∀ other task, callers.places other = some (.task task) → other = caller

variable {environ : Variables} {venv : Path} {callers : Callers} {situation : Situation}
  {caller : Nat} {commons : Commons} {burst : Burst}

theorem LeftBehind.later {log : List Happening} (left : LeftBehind log caller)
    (more : List Happening) : LeftBehind (log ++ more) caller := by
  obtain ⟨before, between, after, rfl, still⟩ := left
  exact ⟨before, between, after ++ more, by simp, still⟩

theorem Poised.mem (poised : Poised environ venv callers caller commons) :
    caller ∈ commons.queue :=
  List.mem_of_head? poised.first

/-- A caller that waits for a task stays in the queue. -/
theorem Poised.queued_waiting {task : Task}
    (poised : Poised environ venv callers caller commons)
    (waits : burst.sequel.place? = some (.task task)) (other : Nat) :
    other ∈ commons.queue ↔ (callers.carry caller burst).places other ≠ none := by
  simp only [carry, waits]
  by_cases same : other = caller
  · simp [same, poised.mem]
  · simp [same, poised.queued other same]

/-- What comes of the first caller keeps everything in order. -/
theorem carry_keeps (poised : Poised environ venv callers caller commons)
    (logged : Chronicle environ venv .unknown callers.log situation)
    (left : ∀ caller ∈ callers.leftovers, LeftBehind callers.log caller)
    (continues : burst.Continues commons caller situation) :
    ∃ last, (callers.carry caller burst).Keeps environ venv last := by
  obtain ⟨last, chronicle, leaves⟩ := continues
  rw [poised.host, poised.site] at chronicle
  have logged := logged.trans chronicle
  have left : ∀ other ∈ callers.leftovers, LeftBehind (callers.log ++ burst.happenings) other :=
    fun other member => (left other member).later burst.happenings
  obtain ⟨later, happenings, sequel⟩ := burst
  refine ⟨last, ?_⟩
  cases leaves with
  | begins unknown same waits reaches =>
      cases same
      refine ⟨poised.host, poised.site, logged, poised.distinct,
        poised.queued_waiting waits, .tried unknown poised.first ?_ ?_ reaches, left⟩
      · simp [carry, waits]
      · intro other task waiting
        by_contra different
        simp only [carry, Function.update_of_ne different] at waiting
        exact different (poised.alone other task waiting)
  | ready released through =>
      cases released
      refine ⟨poised.host, poised.site, logged, poised.distinct.erase caller, ?_,
        .works rfl ?_, left⟩
      · rw [carry, through]
        exact queued_erase caller poised.distinct poised.queued
      · rw [IsIdle, carry, through]
        exact idle_update poised.alone
  | failed unknown released through =>
      cases released
      refine ⟨poised.host, poised.site, logged, poised.distinct.erase caller, ?_,
        .unknown unknown ?_, left⟩
      · rw [carry, through]
        exact queued_erase caller poised.distinct poised.queued
      · rw [IsIdle, carry, through]
        exact idle_update poised.alone

namespace Keeps

variable {disk : Disk} {task : Task}

theorem start (environ : Variables) (venv : Path) :
    (Callers.start environ venv).Keeps environ venv .unknown where
  host := rfl
  site := rfl
  logged := .refl .unknown
  distinct := List.nodup_nil
  queued := by simp [Callers.start]
  fits := .unknown rfl (by simp [IsIdle, Callers.start])
  left := by simp [Callers.start]

/-- When no caller waits for a task, it is enough to know whether the environment works. -/
theorem stands (keeps : callers.Keeps environ venv situation) (idle : callers.IsIdle) :
    situation = if callers.commons.isolated.initialized then .works else .unknown := by
  cases keeps.fits with
  | unknown unknown _ => rw [unknown]; rfl
  | tried unknown first waits alone reaches => exact absurd waits (idle _ _)
  | works known _ => rw [known]; rfl

/-- Only the first in the queue waits for a task. -/
theorem first_of_waits (keeps : callers.Keeps environ venv situation)
    (waits : callers.places caller = some (.task task)) :
    callers.commons.queue.head? = some caller ∧ ∃ attempt : Attempt,
      situation = .tried caller attempt (some task) ∧
      callers.commons.isolated.initialized = false ∧
      attempt.Reaches callers.commons.venv task.step := by
  cases keeps.fits with
  | unknown _ idle => exact absurd waits (idle caller task)
  | tried unknown first waiting alone reaches =>
      obtain rfl := alone caller task waits
      obtain ⟨⟩ := Option.some.inj (waiting.symm.trans waits)
      exact ⟨first, _, rfl, unknown, reaches⟩
  | works _ idle => exact absurd waits (idle caller task)

/-- Nobody waits for a task when the first in the queue waits for its turn. -/
theorem idle_of_turn (keeps : callers.Keeps environ venv situation)
    (first : callers.commons.queue.head? = some caller)
    (waits : callers.places caller = some .turn) : callers.IsIdle := by
  intro other task waiting
  obtain rfl : caller = other :=
    Option.some.inj (first.symm.trans (keeps.first_of_waits waiting).1)
  rw [waits] at waiting
  cases waiting

theorem poised (keeps : callers.Keeps environ venv situation)
    (first : callers.commons.queue.head? = some caller) :
    Poised environ venv callers caller callers.commons where
  host := keeps.host
  site := keeps.site
  first := first
  distinct := keeps.distinct
  queued := fun other _ => keeps.queued other
  alone := fun _ _ waiting =>
    Option.some.inj ((keeps.first_of_waits waiting).1.symm.trans first)

/-- Nobody waits for a task while the queue is empty. -/
theorem idle_of_empty (keeps : callers.Keeps environ venv situation)
    (empty : callers.commons.queue = []) : callers.IsIdle := by
  intro other task waiting
  have first := (keeps.first_of_waits waiting).1
  rw [empty] at first
  cases first

/-- A caller that finds the queue empty is the first one. -/
theorem poised_enqueue (keeps : callers.Keeps environ venv situation)
    (empty : callers.commons.queue = []) :
    Poised environ venv callers caller (callers.commons.enqueue caller) where
  host := keeps.host
  site := keeps.site
  first := by simp [Commons.enqueue, empty]
  distinct := by simp [Commons.enqueue, empty]
  queued := by
    intro other different
    rw [← keeps.queued other]
    simp [Commons.enqueue, empty, different]
  alone := fun other task waiting => absurd waiting (keeps.idle_of_empty empty other task)

theorem works_of_known (keeps : callers.Keeps environ venv situation)
    (known : callers.commons.isolated.initialized = true) : situation = .works := by
  cases keeps.fits with
  | unknown unknown _ => rw [unknown] at known; cases known
  | tried unknown first waits alone reaches => rw [unknown] at known; cases known
  | works _ _ => rfl

/-- A caller may wait behind those that are in the queue. -/
theorem enqueue (keeps : callers.Keeps environ venv situation)
    (free : callers.places caller = none) :
    (callers.carry caller ⟨callers.commons.enqueue caller, [], .waits⟩).Keeps environ venv
      situation where
  host := keeps.host
  site := keeps.site
  logged := by simpa [carry] using keeps.logged
  distinct := by
    have absent : caller ∉ callers.commons.queue := by
      rw [keeps.queued caller, free]
      exact fun differs => differs rfl
    apply List.nodup_append.mpr
    refine ⟨keeps.distinct, by simp, ?_⟩
    rintro other waits _ last rfl
    exact absent (List.mem_singleton.mp last ▸ waits)
  queued := by
    intro other
    by_cases same : other = caller
    · simp [carry, Commons.enqueue, Sequel.place?, same]
    · simp [carry, Commons.enqueue, Sequel.place?, same, keeps.queued other]
  fits := by
    apply keeps.fits.stay
    · rfl
    · intro other task first waiting
      obtain ⟨rest, cons⟩ := List.head?_eq_some_iff.mp first
      simp [carry, Commons.enqueue, cons]
    · intro other task
      by_cases same : other = caller
      · simp [carry, Sequel.place?, same, free]
      · simp [carry, Sequel.place?, same]
  left := by simpa [carry] using keeps.left

/-- A caller is answered at once when the environment is known to work. -/
theorem answer (keeps : callers.Keeps environ venv situation)
    (known : callers.commons.isolated.initialized = true)
    (free : callers.places caller = none) :
    (callers.carry caller ⟨callers.commons, [.answers caller callers.commons.python],
      .ready callers.commons.python⟩).Keeps environ venv situation := by
  have answered : Chronicle environ venv situation
      [.answers caller callers.commons.python] situation := by
    rw [keeps.works_of_known known, Commons.python, Isolated.python, ← keeps.site]
    exact .single (.answers caller)
  have same : Function.update callers.places caller none = callers.places := by
    rw [← free, Function.update_eq_self]
  have logged := keeps.logged.trans answered
  constructor
  · exact keeps.host
  · exact keeps.site
  · exact logged
  · exact keeps.distinct
  · simp only [carry, Sequel.place?, same]
    exact keeps.queued
  · apply keeps.fits.stay
    · rfl
    · exact fun _ _ first _ => first
    · simp only [carry, Sequel.place?, same, implies_true]
  · exact fun other member => (keeps.left other member).later _

theorem call (keeps : callers.Keeps environ venv situation)
    (free : callers.places caller = none) (disk : Disk) :
    ∃ last, (callers.carry caller (callers.commons.call caller disk)).Keeps environ venv last := by
  by_cases works : callers.commons.isolated.initialized = true
  · rw [Commons.call_of_works works]
    exact ⟨situation, keeps.answer works free⟩
  · cases empty : callers.commons.queue.isEmpty with
    | true =>
        rw [Commons.call_of_empty works empty]
        have empty := List.isEmpty_iff.mp empty
        apply carry_keeps (keeps.poised_enqueue empty) keeps.logged keeps.left
        apply Commons.takeTurn_continues
        exact keeps.stands (keeps.idle_of_empty empty)
    | false =>
        rw [Commons.call_of_busy works empty]
        exact ⟨situation, keeps.enqueue free⟩

theorem wake (keeps : callers.Keeps environ venv situation)
    (waits : callers.places caller = some .turn)
    (first : callers.commons.queue.head? = some caller) (disk : Disk) :
    ∃ last, (callers.carry caller (callers.commons.takeTurn caller disk)).Keeps environ venv
      last := by
  apply carry_keeps (keeps.poised first) keeps.logged keeps.left
  apply Commons.takeTurn_continues
  exact keeps.stands (keeps.idle_of_turn first waits)

theorem ended {trial : Trial} (keeps : callers.Keeps environ venv situation)
    (waits : callers.places caller = some (.task trial.task)) (disk : Disk) :
    ∃ last, (callers.carry caller (callers.commons.learn caller trial disk)).Keeps environ venv
      last := by
  obtain ⟨first, attempt, rfl, unknown, reaches⟩ := keeps.first_of_waits waits
  apply carry_keeps (keeps.poised first) keeps.logged keeps.left
  exact Commons.learn_continues unknown reaches disk

/-- A removal is left behind only by a caller that waits for it. -/
theorem left_dismiss (keeps : callers.Keeps environ venv situation) (caller : Nat) :
    ∀ other ∈ (callers.dismiss caller).leftovers,
      LeftBehind (callers.dismiss caller).log other := by
  intro other member
  simp only [dismiss, List.mem_append] at member ⊢
  rcases member with mine | earlier
  · split at mine
    · next waits =>
        obtain rfl := List.mem_singleton.mp mine
        obtain ⟨-, attempt, rfl, -, -⟩ := keeps.first_of_waits waits
        obtain ⟨before, happening, since, log, begins, still⟩ := keeps.logged.waiting
        cases happening with
        | removes beginner =>
            obtain ⟨rfl, -⟩ := begins
            exact ⟨before, since, [], by simp [log], still⟩
        | starts beginner stage launch => cases begins.2
        | _ => exact begins.elim
    · cases mine
  · exact (keeps.left other earlier).later _

/-- A caller that is dropped leaves the queue; when it was the one that set up, nobody does. -/
theorem drop (keeps : callers.Keeps environ venv situation) (caller : Nat) :
    ∃ last, (callers.dismiss caller).Keeps environ venv last := by
  have queued := queued_erase caller keeps.distinct fun other _ => keeps.queued other
  by_cases waits : ∃ task, callers.places caller = some (.task task)
  · obtain ⟨task, waits⟩ := waits
    obtain ⟨first, attempt, rfl, unknown, -⟩ := keeps.first_of_waits waits
    have idle := idle_update (keeps.poised first).alone
    have logged := keeps.logged.trans (.single (.abandons caller attempt (some task)))
    exact ⟨.unknown, keeps.host, keeps.site, logged, keeps.distinct.erase caller, queued,
      .unknown unknown idle, keeps.left_dismiss caller⟩
  · refine ⟨situation, keeps.host, keeps.site, keeps.logged.trans (.single (.drops caller ?_)),
      keeps.distinct.erase caller, queued, keeps.fits.stay rfl ?_ ?_, keeps.left_dismiss caller⟩
    · rintro attempt running rfl
      cases keeps.fits with
      | tried _ _ waiting => exact waits ⟨_, waiting⟩
    · intro other task first waiting
      obtain ⟨rest, cons⟩ := List.head?_eq_some_iff.mp first
      have different : other ≠ caller := by
        rintro rfl
        exact waits ⟨task, waiting⟩
      simp [dismiss, Commons.release, cons, different]
    · intro other task
      by_cases same : other = caller
      · subst same
        simpa [dismiss] using fun waiting => waits ⟨task, waiting⟩
      · simp [dismiss, same]

/-- The end of a removal that was left behind concerns nobody. -/
theorem settle (keeps : callers.Keeps environ venv situation) (caller : Nat) :
    (Callers.mk callers.commons callers.places (callers.leftovers.erase caller)
      (callers.log ++ [.settles caller])).Keeps environ venv situation where
  host := keeps.host
  site := keeps.site
  logged := keeps.logged.trans (.single (.settles caller situation))
  distinct := keeps.distinct
  queued := keeps.queued
  fits := keeps.fits.stay rfl (fun _ _ first _ => first) (fun _ _ => Iff.rfl)
  left := fun other member => (keeps.left other (List.mem_of_mem_erase member)).later _

/-- To forget the environment does not disturb the caller that sets up. -/
theorem dispose (keeps : callers.Keeps environ venv situation) :
    ∃ last, (Callers.mk (callers.commons.know false) callers.places callers.leftovers
      (callers.log ++ [.disposes])).Keeps environ venv last := by
  have left : ∀ caller ∈ callers.leftovers, LeftBehind (callers.log ++ [.disposes]) caller :=
    fun caller member => (keeps.left caller member).later _
  cases keeps.fits with
  | unknown unknown idle =>
      exact ⟨.unknown, keeps.host, keeps.site,
        keeps.logged.trans (.single (.disposes nofun)), keeps.distinct, keeps.queued,
        .unknown rfl idle, left⟩
  | tried unknown first waits alone reaches =>
      exact ⟨_, keeps.host, keeps.site,
        keeps.logged.trans (.single (.disposes nofun)), keeps.distinct, keeps.queued,
        .tried rfl first waits alone reaches, left⟩
  | works known idle =>
      exact ⟨.unknown, keeps.host, keeps.site, keeps.logged.trans (.single .forgets),
        keeps.distinct, keeps.queued, .unknown rfl idle, left⟩

/-- Every move keeps everything in order. -/
theorem move (keeps : callers.Keeps environ venv situation) (move : Move) :
    ∃ last, (callers.move move).Keeps environ venv last := by
  have still : ∃ last, callers.Keeps environ venv last := ⟨situation, keeps⟩
  cases move with
  | call caller disk =>
      simp only [Callers.move]
      split
      · next free => exact keeps.call free disk
      · exact still
  | wake caller disk =>
      simp only [Callers.move]
      split
      · next waits => exact keeps.wake waits.1 waits.2 disk
      · exact still
  | ended caller trial disk =>
      simp only [Callers.move]
      split
      · next waits => exact keeps.ended waits disk
      · exact still
  | drop caller =>
      simp only [Callers.move]
      split
      · exact still
      · exact keeps.drop caller
  | settle caller =>
      simp only [Callers.move]
      split
      · exact ⟨situation, keeps.settle caller⟩
      · exact still
  | dispose => exact keeps.dispose

end Keeps

end Callers

end TemplateLint
