import TemplateLint.Proofs.AlikeFiles

/-!
# Programs that only answer

A program that only answers leaves the files alone, and its outcome depends on what it was given.
With such programs an environment that has been cleared never comes to be one that works, since
nobody puts an interpreter into it.  So whenever an interpreter is found, the files are as before.
Main exports: `Path.components_join`, `Disk.executable_erase`, `Host.Answers`,
`Host.Answers.steady`, `Host.Answers.ensure_keeps`, `Host.Answers.formatText_keeps`.
-/

namespace TemplateLint

/-! ## The parts of a longer path -/

namespace Path

theorem splitSeparators_ne_nil (bytes : List UInt8) : splitSeparators bytes ≠ [] := by
  cases bytes with
  | nil => simp [splitSeparators]
  | cons byte rest =>
      unfold splitSeparators
      split_ifs
      · simp
      · split
        · simp
        · simp

theorem splitSeparators_append (bytes next : List UInt8) :
    splitSeparators (bytes ++ separator :: next) =
      splitSeparators bytes ++ splitSeparators next := by
  induction bytes with
  | nil => simp [splitSeparators]
  | cons byte rest inductionHypothesis =>
      rw [List.cons_append, splitSeparators, splitSeparators, inductionHypothesis]
      split_ifs
      · rfl
      · cases same : splitSeparators rest with
        | nil => exact absurd same (splitSeparators_ne_nil rest)
        | cons part parts => rfl

/-- Where the names of a path start: at the root, where we are, or nowhere in particular. -/
def start (bytes : List UInt8) : List Component :=
  if bytes.head? == some separator then [.root]
  else if (splitSeparators bytes).head? = some [dot] then [.here] else []

theorem components_eq (path : Path) :
    path.components = start path.bytes ++ (splitSeparators path.bytes).filterMap component? :=
  rfl

theorem start_append {bytes : List UInt8} (filled : bytes ≠ []) (next : List UInt8) :
    start (bytes ++ separator :: next) = start bytes := by
  obtain ⟨byte, rest, rfl⟩ := List.exists_cons_of_ne_nil filled
  obtain ⟨part, parts, same⟩ := List.exists_cons_of_ne_nil (splitSeparators_ne_nil (byte :: rest))
  rw [start, start, splitSeparators_append, same]
  rfl

/-- The components of what continues a path come after those of the path. -/
theorem components_join {path next : Path} (filled : path.bytes ≠ [])
    (relative : next.isAbsolute = false) :
    (path.join next).components =
      path.components ++ (splitSeparators next.bytes).filterMap component? := by
  unfold join
  rw [relative, if_neg Bool.false_ne_true, if_neg filled]
  split_ifs with ends
  · -- the separator at the end denotes nothing
    obtain ⟨front, same⟩ := List.getLast?_eq_some_iff.mp ends
    have starts : start (front ++ separator :: next.bytes) = start (front ++ [separator]) := by
      cases front with
      | nil => rfl
      | cons byte rest =>
          rw [start_append (List.cons_ne_nil byte rest), start_append (List.cons_ne_nil byte rest)]
    have nothing : (splitSeparators []).filterMap component? = [] := rfl
    simp only [components_eq, same, List.append_assoc, List.singleton_append, starts,
      splitSeparators_append, List.filterMap_append, nothing, List.append_nil]
  · rw [components_eq, components_eq, start_append filled, splitSeparators_append,
      List.filterMap_append, List.append_assoc]

theorem separator_mem_join {path next : Path} (filled : path.bytes ≠ [])
    (relative : next.isAbsolute = false) : separator ∈ (path.join next).bytes := by
  unfold join
  rw [relative, if_neg Bool.false_ne_true, if_neg filled]
  split_ifs with ends
  · exact List.mem_append_left _ (List.mem_of_getLast? ends)
  · simp

end Path

theorem separator_mem_interpreterIn (venv : Path) :
    Path.separator ∈ (interpreterIn venv).bytes := by
  have named : (venv.child "bin").bytes ≠ [] := by
    by_cases filled : venv.bytes = []
    · rw [Path.child, Path.join, filled]
      decide +kernel
    · exact List.ne_nil_of_mem (Path.separator_mem_join filled (by decide +kernel))
  exact Path.separator_mem_join named (by decide +kernel)

theorem interpreterIn_components {venv : Path} (filled : venv.bytes ≠ []) :
    ∃ directory name, (interpreterIn venv).components =
      venv.components ++ [.entry directory, .entry name] := by
  have inner : (venv.child "bin").bytes ≠ [] :=
    List.ne_nil_of_mem (Path.separator_mem_join filled (by decide +kernel))
  refine ⟨Utf8.encode "bin", Utf8.encode "python", ?_⟩
  have first : (Path.splitSeparators (Path.ofString "bin").bytes).filterMap Path.component? =
      [.entry (Utf8.encode "bin")] := by decide +kernel
  have second : (Path.splitSeparators (Path.ofString "python").bytes).filterMap Path.component? =
      [.entry (Utf8.encode "python")] := by decide +kernel
  rw [interpreterIn, Path.child, Path.components_join inner (by decide +kernel), second, Path.child,
    Path.components_join filled (by decide +kernel), first, List.append_assoc]
  rfl

/-- There is no interpreter in an environment that has been removed. -/
theorem Disk.executable_erase {disk : Disk} {venv : Path} {location : Location}
    (resolved : disk.resolve venv = .ok location) :
    (disk.erase location).executable (interpreterIn venv) ≠ .ok () := by
  have filled : venv.bytes ≠ [] := by
    intro empty
    unfold resolve at resolved
    rw [empty] at resolved
    cases resolved
  obtain ⟨directory, name, parts⟩ := interpreterIn_components filled
  intro ready
  obtain ⟨entry, looked, -⟩ := of_bind_eq_ok ready
  obtain ⟨place, found, -⟩ := of_bind_eq_ok looked
  unfold resolve at resolved found
  split_ifs at resolved found
  rw [parts, List.foldlM_append] at found
  obtain ⟨middle, first, onward⟩ := of_bind_eq_ok found
  have same : middle = location := follow_unique first resolved
  subst same
  simp only [List.foldlM_cons] at onward
  obtain ⟨inner, entered, onward⟩ := of_bind_eq_ok onward
  obtain ⟨deep, again, -⟩ := of_bind_eq_ok onward
  obtain ⟨_, -, went⟩ := of_bind_eq_ok entered
  obtain ⟨_, below, -⟩ := of_bind_eq_ok again
  split_ifs at went
  cases went
  -- the directory of the interpreter was below the location that is gone
  rw [enter, entryAt?_erase _ _ _ (by simp), if_pos (List.prefix_append _ _)] at below
  cases below

/-! ## Programs that only answer -/

/-- Programs leave the files alone, and their outcome depends on what they were given. -/
def Host.Answers (host : Host) : Prop :=
  ∃ answer : Launch → Outcome, ∀ disk launch, host.behave disk launch = (answer launch, disk)

namespace Host

variable {host : Host} {world after : World}

theorem Answers.steady (answers : host.Answers) : host.Steady := by
  obtain ⟨answer, own⟩ := answers
  intro disk other launch alike
  rw [own, own]
  exact ⟨rfl, alike⟩

theorem Answers.start_keeps (answers : host.Answers) (command : Command) (world : World) :
    (host.start command world).2.disk = world.disk ∧
      (host.start command world).2.isolated = world.isolated := by
  obtain ⟨answer, own⟩ := answers
  unfold start
  split
  · exact ⟨rfl, rfl⟩
  · simp [own]

end Host

/-- The file of a program that could be started without being looked for is one to start. -/
theorem Command.executable_of_launch {command : Command} {disk : Disk} {environ : Variables}
    {launch : Launch} (here : command.directory = none)
    (direct : Path.separator ∈ command.program.bytes)
    (launched : command.launch disk environ = .ok launch) :
    disk.executable command.program = .ok () := by
  have found : command.program.bytes.contains Path.separator = true :=
    List.contains_iff_mem.mpr direct
  unfold Command.launch Command.startDirectory at launched
  rw [here, found] at launched
  split at launched
  · cases launched
  · obtain ⟨directory, same, onward⟩ := of_bind_eq_ok launched
    cases same
    obtain ⟨_, ready, -⟩ := of_bind_eq_ok onward
    exact ready

/-- An environment is being made: it is neither tried nor removed any more. -/
def SetupStep.IsMaking : SetupStep → Prop
  | .run stage => stage ≠ .validating
  | .remove => False
  | _ => True

namespace Setup

variable {venv : Path} {disk : Disk} {stage : Setup} {result : CommandResult}

/-- To make an environment anew, what is in its place is removed, or the first candidate is asked. -/
theorem create_cases (venv : Path) (disk : Disk) :
    create venv disk = .remove ∨ create venv disk = .run (.probing "python3" ["python"]) := by
  unfold create
  split_ifs
  · exact Or.inl rfl
  · exact Or.inr rfl

theorem create_ne_done (venv : Path) (disk : Disk) : create venv disk ≠ .done := by
  rcases create_cases venv disk with same | same
  all_goals
    rw [same]
    rintro ⟨⟩

/-- An environment that was tried works, or is made anew. -/
theorem resume_validating (venv : Path) (result : CommandResult) (disk : Disk) :
    resume venv .validating result disk = .done ∨
      resume venv .validating result disk = create venv disk := by
  unfold resume
  cases complaint? venv .validating result with
  | none => exact Or.inl rfl
  | some complaint => exact Or.inr rfl

theorem probe_isMaking (names : List String) : (probe names).IsMaking := by
  cases names with
  | nil => exact trivial
  | cons candidate others => exact nofun

/-- After the first stage there is no way back to it, and nothing is removed. -/
theorem resume_later (venv : Path) (result : CommandResult) (disk : Disk)
    (later : stage ≠ .validating) : (resume venv stage result disk).IsMaking := by
  unfold resume
  split
  · exact absurd rfl later
  · exact absurd rfl later
  · exact nofun
  · exact probe_isMaking _
  · exact nofun
  · exact trivial
  · exact trivial
  · exact trivial

/-- The environment works when a command of its own interpreter has ended well. -/
theorem program_of_done (done : resume venv stage result disk = .done) :
    (stage.words venv).1 = interpreterIn venv ∧ ∃ outcome, result = .finished outcome := by
  have finished (quiet : stage.complaint? venv result = none) :
      ∃ outcome, result = .finished outcome := by
    unfold complaint? at quiet
    split at quiet
    · cases quiet
    · cases quiet
    · exact ⟨_, rfl⟩
  unfold resume at done
  split at done
  · next quiet => exact ⟨rfl, finished quiet⟩
  · exact absurd done (create_ne_done venv disk)
  · cases done
  · next others _ _ =>
      cases others with
      | nil => cases done
      | cons candidate others => cases done
  · cases done
  · cases done
  · next quiet => exact ⟨rfl, finished quiet⟩
  · cases done

end Setup

namespace Host

variable {host : Host} {world after : World}

/-- A program that has finished could be started. -/
theorem launch_of_finished {command : Command} {result : Except IoError Outcome} {outcome : Outcome}
    (started : host.start command world = (result, after))
    (finished : setupResult result = .finished outcome) :
    ∃ launch, command.launch world.disk host.environ = .ok launch := by
  unfold start at started
  split at started
  · cases started
    cases finished
  · next launch launched => exact ⟨launch, launched⟩

/-- When an environment that was being made has come to work, its interpreter has been there all
along. -/
theorem Answers.setUpFrom_keeps (answers : host.Answers) {step : SetupStep}
    (making : step.IsMaking) (made : host.setUpFrom step world = (.ok (), after)) :
    after.disk = world.disk ∧ (step ≠ .done →
      world.disk.executable (interpreterIn world.isolated.venv) = .ok ()) := by
  induction step, world using Host.setUpFrom.induct host with
  | case1 world stage result ran started inductionHypothesis =>
      obtain ⟨files, isolated⟩ := answers.start_keeps (stage.command world.isolated.venv) world
      rw [started] at files isolated
      rw [setUpFrom, started] at made
      have next := Setup.resume_later ran.isolated.venv (setupResult result) ran.disk making
      obtain ⟨kept, onward⟩ := inductionHypothesis next made
      refine ⟨kept.trans files, fun _ => ?_⟩
      by_cases done :
          stage.resume ran.isolated.venv (setupResult result) ran.disk = .done
      · obtain ⟨program, outcome, finished⟩ := Setup.program_of_done done
        obtain ⟨launch, launched⟩ := launch_of_finished started finished
        have direct :
            (stage.command world.isolated.venv).program = interpreterIn world.isolated.venv :=
          isolated ▸ program
        have ready := Command.executable_of_launch rfl
          (direct ▸ separator_mem_interpreterIn world.isolated.venv) launched
        exact direct ▸ ready
      · rw [← files, ← isolated]
        exact onward done
  | case2 => exact making.elim
  | case3 world =>
      rw [setUpFrom] at made
      cases made
      exact ⟨rfl, fun other => absurd rfl other⟩
  | case4 world failure =>
      rw [setUpFrom] at made
      cases made

/-- To remove what stands in the place of the environment fails, or erases it. -/
theorem clear_cases (world : World) :
    (∃ reason, clear world = (.error reason, world)) ∨
      ∃ location, world.disk.resolve world.isolated.venv = .ok location ∧
        clear world = (.ok (), { world with disk := world.disk.erase location }) := by
  unfold clear
  cases removed : world.disk.removeTree world.isolated.venv with
  | error reason => exact Or.inl ⟨reason, rfl⟩
  | ok next =>
      obtain ⟨location, resolved, left⟩ := of_bind_eq_ok removed
      obtain ⟨_, _, rest⟩ := of_bind_eq_ok left
      obtain ⟨_, _, cut⟩ := of_bind_eq_ok rest
      cases cut
      exact Or.inr ⟨location, resolved, rfl⟩

/-- An environment that is made anew comes to work only if nothing stood in its place. -/
theorem Answers.create_keeps (answers : host.Answers)
    (made : host.setUpFrom (Setup.create world.isolated.venv world.disk) world =
      (.ok (), after)) : after.disk = world.disk := by
  rcases Setup.create_cases world.isolated.venv world.disk with same | same
  · rw [same, setUpFrom] at made
    obtain ⟨reason, refused⟩ | ⟨location, resolved, removed⟩ := clear_cases world
    · rw [refused] at made
      simp only [Setup.cleared, setUpFrom] at made
      cases made
    · rw [removed] at made
      have making : (Setup.cleared world.isolated.venv (.ok ())).IsMaking :=
        Setup.probe_isMaking Setup.candidates
      obtain ⟨-, ready⟩ := answers.setUpFrom_keeps making made
      have onward : Setup.cleared world.isolated.venv (.ok ()) ≠ .done := by rintro ⟨⟩
      exact absurd (ready onward) (Disk.executable_erase resolved)
  · rw [same] at made
    have making : (SetupStep.run (.probing "python3" ["python"])).IsMaking := by rintro ⟨⟩
    exact (answers.setUpFrom_keeps making made).1

theorem Answers.validate_keeps (answers : host.Answers)
    (made : host.setUpFrom (.run .validating) world = (.ok (), after)) :
    after.disk = world.disk := by
  obtain ⟨files, -⟩ := answers.start_keeps (Setup.validating.command world.isolated.venv) world
  rcases started : host.start (Setup.validating.command world.isolated.venv) world with
    ⟨result, ran⟩
  rw [started] at files
  rw [setUpFrom, started] at made
  rw [← (files : ran.disk = world.disk)]
  rcases Setup.resume_validating ran.isolated.venv (setupResult result) ran.disk with same | same
  · simp only [same] at made
    rw [setUpFrom] at made
    cases made
    rfl
  · simp only [same] at made
    exact answers.create_keeps made

theorem Answers.setUp_keeps (answers : host.Answers)
    (made : host.setUp world = (.ok (), after)) : after.disk = world.disk := by
  unfold setUp Setup.begin at made
  by_cases there : world.disk.isFile (interpreterIn world.isolated.venv) = true
  · rw [if_pos there] at made
    exact answers.validate_keeps made
  · rw [if_neg there] at made
    exact answers.create_keeps made

theorem Answers.ensure_keeps (answers : host.Answers) {path : Path}
    (ensured : host.ensure world = (.ok path, after)) : after.disk = world.disk := by
  unfold ensure at ensured
  split_ifs at ensured
  · cases ensured
    rfl
  · split at ensured
    · cases ensured
    · next made =>
        have kept := answers.setUp_keeps made
        cases ensured
        exact kept

/-- When the tool has an output, the files are as before. -/
theorem Answers.formatText_keeps (answers : host.Answers) {locator : Locator}
    {invocation : Invocation} {output : String}
    (formatted : host.formatText locator invocation world = (.ok output, after)) :
    after.disk = world.disk := by
  have resolved {interpreter : Interpreter} {middle : World}
      (found : host.resolve locator invocation world = (.ok interpreter, middle)) :
      middle.disk = world.disk := by
    unfold resolve at found
    simp only at found
    split at found
    · cases found
      rfl
    · cases found
    · split at found
      · next ensured =>
          have kept := answers.ensure_keeps ensured
          cases found
          exact kept
      · cases found
  unfold formatText run at formatted
  split at formatted
  · cases formatted
  · next interpreter middle found =>
      have ran := (answers.start_keeps (invocation.command .format interpreter.path) middle).1
      have last := congrArg (fun pair => World.disk (Prod.snd pair)) formatted
      exact last.symm.trans (ran.trans (resolved found))

end Host

end TemplateLint
