import TemplateLint.Proofs.Ensuring

/-!
# Chronicles of an environment

A chronicle is a list of happenings, each of which is in order as things stand when it comes:
nobody begins while another one is setting up, a command is started or a removal begun when the task
before it has ended, nobody is answered unless the environment has been set up and not been
forgotten since.  What is asked of the order of happenings over a long time is derived from that.
Main exports: `Situation`, `Situation.Permits`, `Chronicle`, `Pursued`, `Chronicle.works`,
`Chronicle.quiet`, `Chronicle.closed`, `Chronicle.ended`, `Chronicle.waiting`, `Chronicle.pursued`.
-/

namespace TemplateLint

namespace Happening

/-- What a task came to. -/
def trial? : Happening → Option Trial
  | .learns _ trial => some trial
  | _ => none

/-- The task that is begun. -/
def task? : Happening → Option Task
  | .starts _ stage _ => some (.command stage)
  | .removes _ => some .removal
  | _ => none

/-- It belongs to setting up. -/
def IsSetup : Happening → Prop
  | .begins .. => True
  | .starts .. => True
  | .removes _ => True
  | .learns .. => True
  | .completes _ => True
  | .fails .. => True
  | _ => False

/-- It is what may happen while this caller sets up: others may be dropped, removals that were left
behind may end, and the environment may be forgotten. -/
def IsWithin (caller : Nat) : Happening → Prop
  | .starts other _ _ => other = caller
  | .removes other => other = caller
  | .learns other _ => other = caller
  | .drops other => other ≠ caller
  | .settles _ => True
  | .disposes => True
  | _ => False

/-- With it this caller no longer sets up. -/
def Closes (caller : Nat) : Happening → Prop
  | .completes other => other = caller
  | .fails other _ => other = caller
  | .drops other => other = caller
  | _ => False

/-- With it this caller begins a task. -/
def Begins (caller : Nat) (task : Task) : Happening → Prop
  | .starts other stage _ => other = caller ∧ task = .command stage
  | .removes other => other = caller ∧ task = .removal
  | _ => False

/-- With it this caller no longer waits for its task: what it came to is known, or the caller is
dropped. -/
def Ends (caller : Nat) (task : Task) : Happening → Prop
  | .learns other trial => other = caller ∧ trial.task = task
  | .drops other => other = caller
  | _ => False

end Happening

/-- How things stand. -/
inductive Situation where
  /-- Nobody sets up, and the environment is not known to work. -/
  | unknown
  /-- A caller sets up: so far its attempt has come, and it waits for this task. -/
  | tried (caller : Nat) (attempt : Attempt) (running : Option Task)
  /-- The environment is known to work. -/
  | works

variable {environ : Variables} {venv : Path}

/-- What may happen as things stand, and how they stand then. -/
inductive Situation.Permits (environ : Variables) (venv : Path) :
    Situation → Happening → Situation → Prop where
  | begins (caller : Nat) (disk : Disk) :
      Permits environ venv .unknown (.begins caller disk) (.tried caller ⟨disk, []⟩ none)
  | starts (caller : Nat) (attempt : Attempt) {stage : Setup} {launch : Launch} {disk : Disk}
      (launched : (stage.command venv).launch disk environ = .ok launch) :
      Permits environ venv (.tried caller attempt none) (.starts caller stage launch)
        (.tried caller attempt (some (.command stage)))
  /-- What is in the way of the environment is removed. -/
  | removes (caller : Nat) {attempt : Attempt} (clears : attempt.Clears venv) :
      Permits environ venv (.tried caller attempt none) (.removes caller)
        (.tried caller attempt (some .removal))
  /-- The task has ended. -/
  | ended (caller : Nat) (attempt : Attempt) (trial : Trial) :
      Permits environ venv (.tried caller attempt (some trial.task)) (.learns caller trial)
        (.tried caller (attempt.add trial) none)
  /-- The command could not be started. -/
  | refused (caller : Nat) (attempt : Attempt) (stage : Setup) (reason : IoError) (disk : Disk) :
      Permits environ venv (.tried caller attempt none)
        (.learns caller (.command stage (.refused reason) disk))
        (.tried caller (attempt.add (.command stage (.refused reason) disk)) none)
  | completes (caller : Nat) {attempt : Attempt} (completed : attempt.Completed venv) :
      Permits environ venv (.tried caller attempt none) (.completes caller) .works
  | fails (caller : Nat) (attempt : Attempt) (failure : Failure) :
      Permits environ venv (.tried caller attempt none) (.fails caller failure) .unknown
  | answers (caller : Nat) :
      Permits environ venv .works (.answers caller (interpreterIn venv)) .works
  /-- The caller that sets up is dropped. -/
  | abandons (caller : Nat) (attempt : Attempt) (running : Option Task) :
      Permits environ venv (.tried caller attempt running) (.drops caller) .unknown
  | drops (caller : Nat) {situation : Situation}
      (other : ∀ attempt running, situation ≠ .tried caller attempt running) :
      Permits environ venv situation (.drops caller) situation
  /-- Nobody waits for a removal that was left behind. -/
  | settles (caller : Nat) (situation : Situation) :
      Permits environ venv situation (.settles caller) situation
  | forgets : Permits environ venv .works .disposes .unknown
  | disposes {situation : Situation} (unknown : situation ≠ .works) :
      Permits environ venv situation .disposes situation

/-- Happenings that are in order one after the other, the earliest first. -/
inductive Chronicle (environ : Variables) (venv : Path) :
    Situation → List Happening → Situation → Prop where
  | refl (situation : Situation) : Chronicle environ venv situation [] situation
  | step {first middle last : Situation} {happening : Happening} {rest : List Happening}
      (head : Situation.Permits environ venv first happening middle)
      (tail : Chronicle environ venv middle rest last) :
      Chronicle environ venv first (happening :: rest) last

/-- A stretch in which nothing happens to the attempt of a caller but that it goes on: its tasks are
begun one after the other, and what they come to is added to it. -/
structure Pursued (caller : Nat) (start : Attempt) (ran : Option Task) (course : List Happening)
    (attempt : Attempt) (running : Option Task) : Prop where
  own : ∀ happening ∈ course, happening.IsWithin caller
  attempt : attempt = { start with trials := start.trials ++ course.filterMap Happening.trial? }
  /-- What was begun has come to something or is under way. -/
  begun : (ran.toList ++ course.filterMap Happening.task?).Sublist
    ((course.filterMap Happening.trial?).map Trial.task ++ running.toList)

namespace Pursued

variable {caller : Nat} {start attempt : Attempt} {ran running : Option Task}
  {course : List Happening} {happening : Happening}

theorem refl (caller : Nat) (attempt : Attempt) (running : Option Task) :
    Pursued caller attempt running [] attempt running :=
  ⟨by simp, by simp, by simp⟩

/-- A task is begun. -/
theorem begins {task : Task} (begins : happening.Begins caller task)
    (pursued : Pursued caller start (some task) course attempt running) :
    Pursued caller start none (happening :: course) attempt running := by
  cases happening with
  | starts other stage launch =>
      obtain ⟨rfl, rfl⟩ := begins
      exact ⟨List.forall_mem_cons.mpr ⟨rfl, pursued.own⟩, pursued.attempt, pursued.begun⟩
  | removes other =>
      obtain ⟨rfl, rfl⟩ := begins
      exact ⟨List.forall_mem_cons.mpr ⟨rfl, pursued.own⟩, pursued.attempt, pursued.begun⟩
  | _ => exact begins.elim

/-- What a task came to is known, whether it was under way or could not be begun. -/
theorem learns {trial : Trial} (fits : ran.toList.Sublist [trial.task])
    (pursued : Pursued caller (start.add trial) none course attempt running) :
    Pursued caller start ran (.learns caller trial :: course) attempt running where
  own := List.forall_mem_cons.mpr ⟨rfl, pursued.own⟩
  attempt := by
    rw [pursued.attempt]
    simp [Attempt.add, Happening.trial?]
  begun := fits.append pursued.begun

theorem aside (within : happening.IsWithin caller) (untried : happening.trial? = none)
    (unbegun : happening.task? = none)
    (pursued : Pursued caller start ran course attempt running) :
    Pursued caller start ran (happening :: course) attempt running where
  own := List.forall_mem_cons.mpr ⟨within, pursued.own⟩
  attempt := by rw [List.filterMap_cons_none untried, pursued.attempt]
  begun := by
    rw [List.filterMap_cons_none untried, List.filterMap_cons_none unbegun]
    exact pursued.begun

end Pursued

namespace Chronicle

variable {first middle last : Situation} {happening : Happening}
  {before after log : List Happening} {caller : Nat} {attempt : Attempt} {running : Option Task}

theorem single (permits : Situation.Permits environ venv first happening last) :
    Chronicle environ venv first [happening] last :=
  .step permits (.refl last)

theorem trans (one : Chronicle environ venv first before middle)
    (two : Chronicle environ venv middle after last) :
    Chronicle environ venv first (before ++ after) last := by
  induction one with
  | refl situation => exact two
  | step head tail inductionHypothesis => exact .step head (inductionHypothesis two)

/-- Chronicles can be split at any point. -/
theorem split (chronicle : Chronicle environ venv first (before ++ after) last) :
    ∃ middle, Chronicle environ venv first before middle ∧
      Chronicle environ venv middle after last := by
  induction before generalizing first with
  | nil => exact ⟨first, .refl first, chronicle⟩
  | cons happening rest inductionHypothesis =>
      cases chronicle with
      | step head tail =>
          obtain ⟨middle, one, two⟩ := inductionHypothesis tail
          exact ⟨middle, .step head one, two⟩

/-- How things stand before and after something that has happened. -/
theorem around (chronicle : Chronicle environ venv first (before ++ happening :: after) last) :
    ∃ here next, Chronicle environ venv first before here ∧
      Situation.Permits environ venv here happening next ∧
      Chronicle environ venv next after last := by
  obtain ⟨here, one, rest⟩ := chronicle.split
  cases rest with
  | step head tail => exact ⟨here, _, one, head, tail⟩

/-! ## The environment works -/

/-- When the environment works in the end, it did so all the time or has been set up, and it has not
been forgotten since. -/
theorem works_since (chronicle : Chronicle environ venv first log last) (works : last = .works) :
    (first = .works ∧ .disposes ∉ log) ∨
      ∃ earlier maker since, log = earlier ++ .completes maker :: since ∧ .disposes ∉ since := by
  induction chronicle with
  | refl situation => exact Or.inl ⟨works, List.not_mem_nil⟩
  | @step first middle last happening rest head tail inductionHypothesis =>
      rcases inductionHypothesis works with ⟨now, kept⟩ | ⟨earlier, maker, since, rfl, kept⟩
      · cases head with
        | completes maker completed => exact Or.inr ⟨[], maker, rest, rfl, kept⟩
        | answers caller => exact Or.inl ⟨rfl, by simpa using kept⟩
        | drops caller other => exact Or.inl ⟨now, by simpa using kept⟩
        | settles caller situation => exact Or.inl ⟨now, by simpa using kept⟩
        | disposes unknown => exact absurd now unknown
        | begins | starts | removes | ended | refused | fails | abandons | forgets => cases now
      · exact Or.inr ⟨happening :: earlier, maker, since, rfl, kept⟩

theorem works (chronicle : Chronicle environ venv .unknown log .works) :
    ∃ earlier maker since, log = earlier ++ .completes maker :: since ∧ .disposes ∉ since := by
  rcases chronicle.works_since rfl with ⟨now, -⟩ | found
  · cases now
  · exact found

/-- As long as an environment that works is not forgotten, nothing is set up. -/
theorem quiet (chronicle : Chronicle environ venv first log last) (works : first = .works)
    (kept : .disposes ∉ log) : last = .works ∧ ∀ happening ∈ log, ¬ happening.IsSetup := by
  induction chronicle with
  | refl situation => exact ⟨works, by simp⟩
  | @step first middle last happening rest head tail inductionHypothesis =>
      have later : .disposes ∉ rest := fun member => kept (List.mem_cons_of_mem _ member)
      have here : middle = .works ∧ ¬ happening.IsSetup := by
        cases head with
        | answers caller => exact ⟨works, id⟩
        | drops caller other => exact ⟨works, id⟩
        | settles caller situation => exact ⟨works, id⟩
        | forgets => exact absurd List.mem_cons_self kept
        | disposes unknown => exact absurd works unknown
        | begins | starts | removes | ended | refused | completes | fails | abandons =>
            cases works
      obtain ⟨same, silent⟩ := inductionHypothesis here.1 later
      exact ⟨same, List.forall_mem_cons.mpr ⟨here.2, silent⟩⟩

/-! ## A caller sets up -/

/-- A caller that sets up does so until it is through or is dropped. -/
theorem closed (chronicle : Chronicle environ venv first log last)
    (tried : first = .tried caller attempt running) :
    (∃ happening ∈ log, happening.Closes caller) ∨
      ∃ attempt running, last = .tried caller attempt running := by
  induction chronicle generalizing attempt running with
  | refl situation => exact Or.inr ⟨attempt, running, tried⟩
  | @step first middle last happening rest head tail inductionHypothesis =>
      have here : happening.Closes caller ∨
          ∃ attempt running, middle = .tried caller attempt running := by
        cases head with
        | starts | removes | ended | refused => cases tried; exact Or.inr ⟨_, _, rfl⟩
        | completes | fails | abandons => cases tried; exact Or.inl rfl
        | drops | settles | disposes => exact Or.inr ⟨_, _, tried⟩
        | begins | answers | forgets => cases tried
      rcases here with closes | ⟨attempt, running, still⟩
      · exact Or.inl ⟨happening, List.mem_cons_self, closes⟩
      · rcases inductionHypothesis still with ⟨later, member, closes⟩ | found
        · exact Or.inl ⟨later, List.mem_cons_of_mem _ member, closes⟩
        · exact Or.inr found

/-- A caller waits for its task until that has come to something or the caller is dropped. -/
theorem ended {task : Task} (chronicle : Chronicle environ venv first log last)
    (tried : first = .tried caller attempt (some task)) :
    (∃ happening ∈ log, happening.Ends caller task) ∨
      last = .tried caller attempt (some task) := by
  induction chronicle with
  | refl situation => exact Or.inr tried
  | @step first middle last happening rest head tail inductionHypothesis =>
      have here : happening.Ends caller task ∨ middle = .tried caller attempt (some task) := by
        cases head with
        | ended => cases tried; exact Or.inl ⟨rfl, rfl⟩
        | abandons => cases tried; exact Or.inl rfl
        | drops | settles | disposes => exact Or.inr tried
        | begins | starts | removes | refused | completes | fails | answers | forgets => cases tried
      rcases here with ends | still
      · exact Or.inl ⟨happening, List.mem_cons_self, ends⟩
      · rcases inductionHypothesis still with ⟨later, member, ends⟩ | found
        · exact Or.inl ⟨later, List.mem_cons_of_mem _ member, ends⟩
        · exact Or.inr found

/-- A caller that waits for a task did so all the time, or has begun it meanwhile. -/
theorem waiting_since {task : Task} (chronicle : Chronicle environ venv first log last)
    (tried : last = .tried caller attempt (some task)) :
    (first = .tried caller attempt (some task) ∧ ∀ later ∈ log, ¬ later.Ends caller task) ∨
      ∃ earlier happening since, log = earlier ++ happening :: since ∧
        happening.Begins caller task ∧ ∀ later ∈ since, ¬ later.Ends caller task := by
  induction chronicle with
  | refl situation => exact Or.inl ⟨tried, by simp⟩
  | @step first middle last happening rest head tail inductionHypothesis =>
      rcases inductionHypothesis tried with
        ⟨here, silent⟩ | ⟨earlier, beginning, since, rfl, begins, silent⟩
      · cases head with
        | starts other attempt launched =>
            cases here
            exact Or.inr ⟨[], _, rest, rfl, ⟨rfl, rfl⟩, silent⟩
        | removes other clears =>
            cases here
            exact Or.inr ⟨[], _, rest, rfl, ⟨rfl, rfl⟩, silent⟩
        | drops other unrelated =>
            have different : other ≠ caller := by
              rintro rfl
              exact unrelated attempt _ here
            exact Or.inl ⟨here, List.forall_mem_cons.mpr ⟨different, silent⟩⟩
        | settles other situation =>
            exact Or.inl ⟨here, List.forall_mem_cons.mpr ⟨id, silent⟩⟩
        | disposes unknown => exact Or.inl ⟨here, List.forall_mem_cons.mpr ⟨id, silent⟩⟩
        | begins | ended | refused | completes | fails | answers | abandons | forgets => cases here
      · exact Or.inr ⟨happening :: earlier, beginning, since, rfl, begins, silent⟩

/-- Whoever waits for a task has begun it, and it has not ended since. -/
theorem waiting {task : Task}
    (chronicle : Chronicle environ venv .unknown log (.tried caller attempt (some task))) :
    ∃ earlier happening since, log = earlier ++ happening :: since ∧
      happening.Begins caller task ∧ ∀ later ∈ since, ¬ later.Ends caller task := by
  rcases chronicle.waiting_since rfl with ⟨now, -⟩ | found
  · cases now
  · exact found

/-- An attempt goes on from where it was, or has begun meanwhile. -/
theorem pursued_since (chronicle : Chronicle environ venv first log last)
    (tried : last = .tried caller attempt running) :
    (∃ start ran, first = .tried caller start ran ∧
      Pursued caller start ran log attempt running) ∨
    ∃ earlier disk since, log = earlier ++ .begins caller disk :: since ∧
      Pursued caller ⟨disk, []⟩ none since attempt running := by
  induction chronicle with
  | refl situation => exact Or.inl ⟨attempt, running, tried, .refl caller attempt running⟩
  | @step first middle last happening rest head tail inductionHypothesis =>
      rcases inductionHypothesis tried with
        ⟨start, ran, here, pursued⟩ | ⟨earlier, disk, since, rfl, pursued⟩
      · cases head with
        | begins other disk =>
            cases here
            exact Or.inr ⟨[], disk, rest, rfl, pursued⟩
        | starts other attempt launched =>
            cases here
            exact Or.inl ⟨start, none, rfl, pursued.begins ⟨rfl, rfl⟩⟩
        | removes other clears =>
            cases here
            exact Or.inl ⟨start, none, rfl, pursued.begins ⟨rfl, rfl⟩⟩
        | ended other attempt trial =>
            cases here
            exact Or.inl ⟨attempt, some trial.task, rfl, pursued.learns (.refl _)⟩
        | refused other attempt stage reason disk =>
            cases here
            exact Or.inl ⟨attempt, none, rfl, pursued.learns (List.nil_sublist _)⟩
        | drops other unrelated =>
            have different : other ≠ caller := by
              rintro rfl
              exact unrelated start ran here
            exact Or.inl ⟨start, ran, here, pursued.aside different rfl rfl⟩
        | settles other situation =>
            exact Or.inl ⟨start, ran, here, pursued.aside trivial rfl rfl⟩
        | disposes unknown => exact Or.inl ⟨start, ran, here, pursued.aside trivial rfl rfl⟩
        | completes | fails | answers | abandons | forgets => cases here
      · exact Or.inr ⟨happening :: earlier, disk, since, rfl, pursued⟩

/-- The attempt of a caller is what has happened since it began. -/
theorem pursued (chronicle : Chronicle environ venv .unknown log (.tried caller attempt running)) :
    ∃ earlier disk since, log = earlier ++ .begins caller disk :: since ∧
      Pursued caller ⟨disk, []⟩ none since attempt running := by
  rcases chronicle.pursued_since rfl with ⟨start, ran, now, -⟩ | found
  · cases now
  · exact found

end Chronicle

end TemplateLint
