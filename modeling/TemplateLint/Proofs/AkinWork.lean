import TemplateLint.Proofs.AkinTurns

/-!
# Work on a job under different choices

A job goes on until it has to wait or has come to a finding.  Whatever choices were made, it goes on
alike: it is wanted or not, takes the same interpreter, sets up the environment in the same stages,
runs the same command, and comes to the same.
Main exports: `Turn.AkinResults`, `Turn.Akin.setUp`, `Turn.Akin.proceed`, `Turn.Akin.resume`.
-/

namespace TemplateLint

namespace Turn

/-- Two results of work are akin: both jobs wait, or both have come to the same. -/
structure AkinResults (result other : Turn × Option Finding) : Prop where
  turn : result.1.Akin other.1
  finding : Option.Rel Finding.Akin result.2 other.2

variable {turn other : Turn} {number : Nat} {job twin : Job}

/-! ## Setting up -/

namespace Akin

/-- The tool is started for both with the same words, or is found missing for both. -/
theorem runTool (akin : turn.Akin other) (same : job.Akin twin) (python : Path) :
    AkinResults (turn.runTool number job python) (other.runTool number twin python) := by
  unfold Turn.runTool
  simp only
  rw [same.command_eq, akin.environ, akin.disk.launch_eq]
  split
  · exact ⟨akin.startFor same _ _, .none⟩
  · exact ⟨akin, .some ⟨same, rfl⟩⟩

theorem setupDone (akin : turn.Akin other) (same : job.Akin twin) :
    AkinResults (turn.setupDone number job) (other.setupDone number twin) := by
  have remembered : (turn.update fun server =>
        { server with isolated := { server.isolated with initialized := true } }).Akin
      (other.update fun server =>
        { server with isolated := { server.isolated with initialized := true } }) :=
    akin.update fun _ _ _ _ _ _ _ => rfl
  have python := congrArg Isolated.python remembered.isolated
  unfold Turn.setupDone
  simp only
  rw [python]
  exact (remembered.release number).runTool same _

theorem setupFailed (akin : turn.Akin other) (same : job.Akin twin) (failure : Failure) :
    AkinResults (turn.setupFailed number job failure) (other.setupFailed number twin failure) :=
  ⟨akin.release number, .some ⟨same, rfl⟩⟩

/-- The setup goes on alike: it depends on the disk and the variables, and on no setting at all. -/
theorem setUp (akin : turn.Akin other) (same : job.Akin twin) (step : SetupStep) :
    AkinResults (turn.setUp number job step) (other.setUp number twin step) := by
  fun_induction turn.setUp number job step with
  | case1 venv stage launch launched =>
      rw [Turn.setUp, akin.disk.launch_eq, akin.environ, akin.isolated, launched]
      exact ⟨akin.startFor same _ _, .none⟩
  | case2 venv stage reason refused inductionHypothesis =>
      rw [Turn.setUp, akin.disk.launch_eq, akin.environ, akin.isolated, refused]
      simp only [Setup.resume_alike _ akin.disk]
      exact inductionHypothesis
  | case3 =>
      rw [Turn.setUp]
      exact ⟨akin.removeFor same, .none⟩
  | case4 =>
      rw [Turn.setUp]
      exact akin.setupDone same
  | case5 failure =>
      rw [Turn.setUp]
      exact akin.setupFailed same failure

/-- The lock comes to the same job on both sides, and it finds the same state. -/
theorem takeTurn (akin : turn.Akin other) (same : job.Akin twin) :
    AkinResults (turn.takeTurn number job) (other.takeTurn number twin) := by
  unfold Turn.takeTurn
  rw [akin.isolated]
  split
  · exact (akin.release number).runTool same _
  · rw [Setup.begin_alike turn.server.isolated.venv akin.disk]
    exact akin.setUp same _

theorem enterIsolated (akin : turn.Akin other) (same : job.Akin twin) :
    AkinResults (turn.enterIsolated number job) (other.enterIsolated number twin) := by
  unfold Turn.enterIsolated
  rw [akin.isolated, akin.queue]
  simp only
  split
  · exact akin.runTool same _
  · have enqueued :
        (turn.update fun server => { server with queue := server.queue ++ [number] }).Akin
          (other.update fun server => { server with queue := server.queue ++ [number] }) :=
      akin.update fun _ _ _ _ _ _ _ => rfl
    split
    · exact ⟨enqueued.hold same .turn, .none⟩
    · exact enqueued.takeTurn same

/-- The same interpreter is chosen for both. -/
theorem invoke (akin : turn.Akin other) (same : job.Akin twin) :
    AkinResults (turn.invoke number job) (other.invoke number twin) := by
  have chosen : TemplateLint.choose twin.settings (other.server.lookup other.disk twin) =
      TemplateLint.choose job.settings (turn.server.lookup turn.disk job) := by
    rw [akin.lookup_eq same]
    obtain ⟨settings, own, rfl⟩ := same
    exact own.choose_eq _
  unfold Turn.invoke
  rw [same.isWanted_eq, chosen]
  split
  · split
    · exact akin.runTool same _
    · exact akin.enterIsolated same
    · exact ⟨akin, .some ⟨same, rfl⟩⟩
  · exact ⟨akin, .some ⟨same, rfl⟩⟩

/-- Whatever was chosen, the settings that are fixed are akin. -/
theorem settle (akin : turn.Akin other) (same : job.Akin twin) (answer : Option Settings) :
    AkinResults (turn.settle number job answer) (other.settle number twin answer) := by
  obtain ⟨settings, own, rfl⟩ := same
  have chosen {before after : Settings} (answered : before.Akin after) :
      (turn.server.store.apply job.folder before).Akin
        (other.server.store.apply job.folder after) :=
    ((Store.apply_akin _ _ _).symm.trans answered).trans (Store.apply_akin _ _ _)
  unfold Turn.settle
  cases answer with
  | none => exact akin.invoke ⟨_, chosen own, rfl⟩
  | some layer => exact akin.invoke ⟨_, chosen (own.merged layer), rfl⟩

theorem proceed (akin : turn.Akin other) (number : Nat) (same : job.Akin twin) :
    AkinResults (turn.proceed number job) (other.proceed number twin) := by
  obtain ⟨settings, -, rfl⟩ := same
  have begun : Job.Akin { job with settings := turn.server.settings }
      { job with settings := turn.server.settings } := .refl _
  unfold Turn.proceed
  rw [akin.settings, akin.asksSettings, akin.phase]
  simp only
  split
  · exact ⟨(akin.hold begun .editor).askSettings number _, .none⟩
  · exact akin.settle begun none

theorem heeds_eq (akin : turn.Akin other) (same : job.Akin twin) (news : News) :
    other.heeds number twin news = turn.heeds number job news := by
  obtain ⟨settings, -, rfl⟩ := same
  unfold Turn.heeds
  rw [akin.queue]

/-- News that reaches a job means the same on both sides. -/
theorem resume (akin : turn.Akin other) (number : Nat) (same : job.Akin twin) (news : News) :
    AkinResults (turn.resume number job news) (other.resume number twin news) := by
  have command := same.command_eq
  obtain ⟨settings, own, rfl⟩ := id same
  unfold Turn.resume
  simp only [akin.queue, akin.isolated]
  split
  · exact akin.settle same _
  · split
    · exact akin.takeTurn same
    · exact ⟨akin, .none⟩
  · rw [Setup.resume_alike _ akin.disk]
    exact akin.setUp same _
  · exact akin.setUp same _
  · exact ⟨akin, .some ⟨same, by rw [command]⟩⟩
  · exact ⟨akin, .some ⟨same, by rw [command]⟩⟩
  · exact ⟨akin, .none⟩

end Akin

end Turn

end TemplateLint
