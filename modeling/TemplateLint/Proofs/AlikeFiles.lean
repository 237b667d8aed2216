import TemplateLint.Proofs.FormattedFiles

/-!
# Files that differ in what they hold

Which interpreter is found and which programs can be started depends on what stands where, and on
no file's content.  So programs that do not look at contents either go the same way on two trees
that differ in contents alone.
Main exports: `Disk.Alike`, `Disk.Alike.launch_eq`, `Disk.Alike.put`, `World.Alike`, `World.Agree`,
`Host.Steady`, `Host.formatText_agree`.
-/

namespace TemplateLint

/-- The entry without what a file holds. -/
def Entry.outline : Entry → Entry
  | .directory => .directory
  | .file _ executable => .file .empty executable

/-- The trees differ at most in what files hold. -/
structure Disk.Alike (disk other : Disk) : Prop where
  workDir : other.workDir = disk.workDir
  refuses : other.refuses = disk.refuses
  entries : ∀ location, (other.entryAt? location).map Entry.outline =
    (disk.entryAt? location).map Entry.outline

/-- What is below a location is gone with it, and all else stays. -/
theorem Disk.entryAt?_erase (disk : Disk) (location place : Location) (proper : place ≠ []) :
    (disk.erase location).entryAt? place =
      if location <+: place then none else disk.entryAt? place := by
  simp only [Disk.entryAt?, Disk.erase, proper, if_false, List.find?_filter]
  split_ifs with within
  · have none : disk.entries.find? (fun pair =>
        decide ((!location.isPrefixOf pair.1) = true ∧ decide (pair.1 = place) = true)) =
          none := by
      rw [List.find?_eq_none]
      intro pair _ found
      simp only [Bool.not_eq_true', decide_eq_true_eq] at found
      rw [found.2, List.isPrefixOf_iff_prefix.mpr within] at found
      cases found.1
    rw [none]
    rfl
  · congr 2
    funext pair
    by_cases here : pair.1 = place
    · have kept : location.isPrefixOf place = false := by
        rw [Bool.eq_false_iff, Ne, List.isPrefixOf_iff_prefix]
        exact within
      simp [here, kept]
    · simp [here]

namespace Disk.Alike

variable {disk other : Disk}

theorem refl (disk : Disk) : Alike disk disk :=
  ⟨rfl, rfl, fun _ => rfl⟩

theorem trans {last : Disk} (one : Alike disk other) (two : Alike other last) : Alike disk last :=
  ⟨two.workDir.trans one.workDir, two.refuses.trans one.refuses, fun location =>
    (two.entries location).trans (one.entries location)⟩

/-- What stands at a location is nothing, a directory or a file in both. -/
theorem entry_cases (alike : Alike disk other) (location : Location) :
    (disk.entryAt? location = none ∧ other.entryAt? location = none) ∨
      (disk.entryAt? location = some .directory ∧ other.entryAt? location = some .directory) ∨
      ∃ content held executable, disk.entryAt? location = some (.file content executable) ∧
        other.entryAt? location = some (.file held executable) := by
  have same := alike.entries location
  cases here : disk.entryAt? location with
  | none => simp_all
  | some entry =>
      cases there : other.entryAt? location with
      | none => simp_all
      | some twin => cases entry <;> cases twin <;> simp_all [Entry.outline]

/-! ## Following paths -/

theorem enter_eq (alike : Alike disk other) (location : Location) :
    other.enter location = disk.enter location := by
  unfold Disk.enter
  obtain ⟨here, there⟩ | ⟨here, there⟩ | ⟨_, _, _, here, there⟩ := alike.entry_cases location
  all_goals rw [here, there]

theorem step_eq (alike : Alike disk other) : other.step = disk.step := by
  funext location component
  cases component with
  | root => rfl
  | here => rfl
  | up => rw [Disk.step, Disk.step, alike.enter_eq]
  | entry name => rw [Disk.step, Disk.step, alike.enter_eq]

theorem resolve_eq (alike : Alike disk other) : other.resolve = disk.resolve := by
  funext path
  rw [Disk.resolve, Disk.resolve, alike.step_eq, alike.workDir]

/-- What is found under a path is the same up to the content of a file. -/
theorem lookup_cases (alike : Alike disk other) (path : Path) :
    (∃ reason, disk.lookup path = .error reason ∧ other.lookup path = .error reason) ∨
      (disk.lookup path = .ok .directory ∧ other.lookup path = .ok .directory) ∨
      ∃ content held executable, disk.lookup path = .ok (.file content executable) ∧
        other.lookup path = .ok (.file held executable) := by
  unfold Disk.lookup
  rw [alike.resolve_eq]
  cases disk.resolve path with
  | error reason => exact Or.inl ⟨reason, rfl, rfl⟩
  | ok location =>
      simp only [bind, Except.bind]
      obtain ⟨here, there⟩ | ⟨here, there⟩ | ⟨_, _, _, here, there⟩ := alike.entry_cases location
      · simp [here, there]
      · simp [here, there]
      · simp only [here, there]
        split_ifs
        · simp
        · simp

theorem isFile_eq (alike : Alike disk other) : other.isFile = disk.isFile := by
  funext path
  unfold Disk.isFile
  obtain ⟨_, here, there⟩ | ⟨here, there⟩ | ⟨_, _, _, here, there⟩ := alike.lookup_cases path
  all_goals rw [here, there]

theorem isPresent_eq (alike : Alike disk other) : other.isPresent = disk.isPresent := by
  funext path
  unfold Disk.isPresent
  obtain ⟨_, here, there⟩ | ⟨here, there⟩ | ⟨_, _, _, here, there⟩ := alike.lookup_cases path
  all_goals rw [here, there]

/-! ## Starting programs -/

theorem executable_eq (alike : Alike disk other) : other.executable = disk.executable := by
  funext path
  unfold Disk.executable
  obtain ⟨_, here, there⟩ | ⟨here, there⟩ | ⟨_, _, executable, here, there⟩ :=
    alike.lookup_cases path
  · rw [here, there]
  · rw [here, there]
  · rw [here, there]
    cases executable with
    | true => rfl
    | false => rfl

theorem search_eq (alike : Alike disk other) (name : Path) (reason : IoError) (refused : Bool)
    (directories : List Path) :
    other.search name reason refused directories = disk.search name reason refused directories := by
  induction directories generalizing reason refused with
  | nil => rfl
  | cons directory rest inductionHypothesis =>
      simp only [Disk.search, alike.executable_eq, inductionHypothesis]

theorem moved (alike : Alike disk other) (directory : Location) :
    Alike { disk with workDir := directory } { other with workDir := directory } :=
  ⟨rfl, alike.refuses, alike.entries⟩

theorem launch_eq (alike : Alike disk other) (command : Command) (environ : Variables) :
    command.launch other environ = command.launch disk environ := by
  have directory : command.startDirectory other = command.startDirectory disk := by
    unfold Command.startDirectory
    simp only [alike.workDir, alike.resolve_eq, alike.enter_eq]
  unfold Command.launch
  simp only [directory, (alike.moved _).executable_eq, (alike.moved _).search_eq]

theorem locate_eq (alike : Alike disk other) (locator : Locator) (environ : Variables)
    (document : Document) (folder : Option Path) :
    locator.locate other environ document folder = locator.locate disk environ document folder := by
  have project : projectInterpreter? other = projectInterpreter? disk := by
    funext directory
    unfold projectInterpreter?
    rw [alike.isFile_eq]
  cases locator with
  | active => simp only [Locator.locate, locate, alike.isFile_eq, project]
  | fixed lookup => rfl

/-! ## Changes -/

/-- Writing over a file leaves the tree as it was, but for what the file holds. -/
theorem put {location : Location} {content held : ByteArray} {executable : Bool}
    (here : disk.entryAt? location = some (.file content executable)) :
    Alike disk (disk.put location (.file held executable)) := by
  have proper : location ≠ [] := by
    rintro rfl
    cases here
  refine ⟨rfl, rfl, fun place => ?_⟩
  rw [Disk.entryAt?_put _ _ _ _ proper]
  by_cases same : place = location
  · rw [if_pos same, same, here]
    rfl
  · rw [if_neg same]

theorem erase (alike : Alike disk other) (location : Location) :
    Alike (disk.erase location) (other.erase location) := by
  refine ⟨alike.workDir, alike.refuses, fun place => ?_⟩
  by_cases root : place = []
  · rw [root]
    rfl
  · rw [Disk.entryAt?_erase _ _ _ root, Disk.entryAt?_erase _ _ _ root]
    split_ifs
    · rfl
    · exact alike.entries place

theorem permit_eq (alike : Alike disk other) (location : Location) :
    other.permit location = disk.permit location := by
  rw [Disk.permit, Disk.permit, alike.refuses]

/-- A tree is removed from both, or from neither. -/
theorem removeTree (alike : Alike disk other) (path : Path) :
    (∃ reason, disk.removeTree path = .error reason ∧ other.removeTree path = .error reason) ∨
      ∃ next further, disk.removeTree path = .ok next ∧ other.removeTree path = .ok further ∧
        Alike next further := by
  unfold Disk.removeTree
  rw [alike.resolve_eq]
  cases disk.resolve path with
  | error reason => exact Or.inl ⟨reason, rfl, rfl⟩
  | ok location =>
      simp only [bind, Except.bind, alike.enter_eq]
      rw [permit_eq alike]
      cases disk.enter location with
      | error reason => exact Or.inl ⟨reason, rfl, rfl⟩
      | ok entered =>
          simp only
          cases disk.permit location with
          | error reason => exact Or.inl ⟨reason, rfl, rfl⟩
          | ok permitted => exact Or.inr ⟨_, _, rfl, rfl, alike.erase location⟩

end Disk.Alike

/-! ## Setting up an environment -/

namespace Setup

variable {disk other : Disk} (venv : Path)

theorem create_alike (alike : disk.Alike other) : create venv other = create venv disk := by
  rw [create, alike.isPresent_eq]
  rfl

theorem begin_alike (alike : disk.Alike other) : begin venv other = begin venv disk := by
  rw [begin, alike.isFile_eq, create_alike venv alike]
  rfl

theorem resume_alike (alike : disk.Alike other) (stage : Setup) (result : CommandResult) :
    resume venv stage result other = resume venv stage result disk := by
  unfold resume
  rw [create_alike venv alike]

end Setup

/-! ## Runs -/

/-- The worlds differ at most in what files hold. -/
structure World.Alike (world other : World) : Prop where
  disk : world.disk.Alike other.disk
  launches : other.launches = world.launches
  isolated : other.isolated = world.isolated

/-- Two runs have the same result, and leave worlds that are alike. -/
structure World.Agree {α : Type} (one two : α × World) : Prop where
  result : two.1 = one.1
  world : one.2.Alike two.2

theorem World.Agree.other {α : Type} {result : α} {after : World} {two : α × World}
    (agree : World.Agree (result, after) two) :
    ∃ further, two = (result, further) ∧ after.Alike further :=
  ⟨two.2, Prod.ext agree.result rfl, agree.world⟩

/-- What programs do depends on how they were started and on what stands where, but not on what
files hold.  So it is with programs that look at nothing but what they are given. -/
def Host.Steady (host : Host) : Prop :=
  ∀ disk other launch, disk.Alike other →
    (host.behave other launch).1 = (host.behave disk launch).1 ∧
      (host.behave disk launch).2.Alike (host.behave other launch).2

namespace Host

variable {host : Host} {world other : World}

theorem start_agree (steady : host.Steady) (alike : world.Alike other) (command : Command) :
    World.Agree (host.start command world) (host.start command other) := by
  unfold start
  rw [alike.disk.launch_eq]
  split
  · exact ⟨rfl, alike⟩
  · next launch launched =>
      obtain ⟨outcome, files⟩ := steady world.disk other.disk launch alike.disk
      refine ⟨?_, files, ?_, alike.isolated⟩
      · simp only [outcome]
      · simp only [alike.launches]

/-- Room is made for the environment in both worlds, or in neither. -/
theorem clear_agree (alike : world.Alike other) : World.Agree (clear world) (clear other) := by
  unfold clear
  rw [alike.isolated]
  obtain ⟨reason, here, there⟩ | ⟨next, further, here, there, same⟩ :=
    alike.disk.removeTree world.isolated.venv
  · rw [here, there]
    exact ⟨rfl, alike⟩
  · rw [here, there]
    exact ⟨rfl, same, alike.launches, rfl⟩

/-- Setting up goes on in the same way. -/
theorem setUpFrom_agree (steady : host.Steady) (step : SetupStep) (alike : world.Alike other) :
    World.Agree (host.setUpFrom step world) (host.setUpFrom step other) := by
  induction step, world using Host.setUpFrom.induct host generalizing other with
  | case1 world stage result after started inductionHypothesis =>
      have agree := start_agree steady alike (stage.command world.isolated.venv)
      rw [started] at agree
      obtain ⟨further, again, left⟩ := agree.other
      have resumed := Setup.resume_alike after.isolated.venv left.disk stage (setupResult result)
      rw [setUpFrom, started, setUpFrom, alike.isolated, again]
      simp only [left.isolated, resumed]
      exact inductionHypothesis left
  | case2 world result after cleared inductionHypothesis =>
      have agree := clear_agree alike
      rw [cleared] at agree
      obtain ⟨further, again, left⟩ := agree.other
      rw [setUpFrom, cleared, setUpFrom, again]
      simp only [left.isolated]
      exact inductionHypothesis left
  | case3 world =>
      rw [setUpFrom, setUpFrom]
      exact ⟨rfl, alike⟩
  | case4 world failure =>
      rw [setUpFrom, setUpFrom]
      exact ⟨rfl, alike⟩

theorem setUp_agree (steady : host.Steady) (alike : world.Alike other) :
    World.Agree (host.setUp world) (host.setUp other) := by
  unfold setUp
  rw [alike.isolated, Setup.begin_alike _ alike.disk]
  exact setUpFrom_agree steady _ alike

theorem ensure_agree (steady : host.Steady) (alike : world.Alike other) :
    World.Agree (host.ensure world) (host.ensure other) := by
  have agree := setUp_agree steady alike
  unfold ensure
  rw [alike.isolated]
  split_ifs
  · exact ⟨rfl, alike⟩
  · rcases done : host.setUp world with ⟨result, after⟩
    rw [done] at agree
    obtain ⟨further, again, left⟩ := agree.other
    rw [again]
    cases result with
    | error failure => exact ⟨rfl, left⟩
    | ok made =>
        refine ⟨?_, left.disk, left.launches, ?_⟩
        · simp only [left.isolated]
        · simp only [left.isolated]

theorem resolve_agree (steady : host.Steady) (alike : world.Alike other) (locator : Locator)
    (invocation : Invocation) :
    World.Agree (host.resolve locator invocation world)
      (host.resolve locator invocation other) := by
  have agree := ensure_agree steady alike
  unfold resolve
  simp only [alike.disk.locate_eq]
  split
  · exact ⟨rfl, alike⟩
  · exact ⟨rfl, alike⟩
  · rcases done : host.ensure world with ⟨result, after⟩
    rw [done] at agree
    obtain ⟨further, again, left⟩ := agree.other
    rw [again]
    cases result with
    | error failure => exact ⟨rfl, left⟩
    | ok path => exact ⟨rfl, left⟩

/-- The tool is run in the same way, and has the same to say. -/
theorem formatText_agree (steady : host.Steady) (alike : world.Alike other) (locator : Locator)
    (invocation : Invocation) :
    World.Agree (host.formatText locator invocation world)
      (host.formatText locator invocation other) := by
  have agree := resolve_agree steady alike locator invocation
  unfold formatText run
  rcases done : host.resolve locator invocation world with ⟨result, after⟩
  rw [done] at agree
  obtain ⟨further, again, left⟩ := agree.other
  rw [again]
  cases result with
  | error failure => exact ⟨rfl, left⟩
  | ok interpreter =>
      obtain ⟨same, ran⟩ := start_agree steady left (invocation.command .format interpreter.path)
      exact ⟨by simp only [same], ran⟩

end Host

end TemplateLint
