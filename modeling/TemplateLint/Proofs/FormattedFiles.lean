import Mathlib.Data.List.Forall2
import TemplateLint.Cli.Run
import TemplateLint.Proofs.Files

/-!
# What formatting leaves in the files

Formatting reads the settings and every source before it starts any program, and then goes from one
source to the next up to the first failure.  A file ends up with the last output that differed from
the text read from it, and all other files stay as they were.  A program that is started may still
change what it likes, and setting up an environment of our own clears the place of the old one.
Main exports: `World.Follows`, `Host.formatText_formats`, `Cli.Passes`, `Cli.Fails`,
`Cli.FormatsInPlace`, `Cli.formatsInPlace`.
-/

namespace TemplateLint

/-! ## What programs leave alone -/

/-- No program changes what stands at the place. -/
def Host.Spares (host : Host) (place : Location) : Prop :=
  ∀ disk launch, (host.behave disk launch).2.entryAt? place = disk.entryAt? place

/-- The place is in a tree, or is the top of it. -/
def Path.Covers (tree : Path) (place : Location) : Prop :=
  ∃ (disk : Disk) (location : Location), disk.resolve tree = .ok location ∧ location <+: place

/-- The program belongs to the setup of an environment of our own. -/
def Launch.IsSetup (venv : Path) (launch : Launch) : Prop :=
  ∃ stage : Setup, launch.arguments = (stage.words venv).2 ∧ launch.input = ""

/-- Programs of one kind are run one after the other.  What stands at a place stays when the
programs spare it, unless it is in the tree of the environment. -/
structure World.Follows (host : Host) (kind : Launch → Prop) (before after : World) : Prop where
  venv : after.isolated.venv = before.isolated.venv
  launches : ∃ more, after.launches = more ++ before.launches ∧ ∀ launch ∈ more, kind launch
  spared : ∀ place, host.Spares place → ¬ before.isolated.venv.Covers place →
    after.disk.entryAt? place = before.disk.entryAt? place

namespace World.Follows

variable {host : Host} {kind : Launch → Prop} {before middle after : World}

theorem refl (world : World) : Follows host kind world world :=
  ⟨rfl, ⟨[], rfl, by simp⟩, fun _ _ _ => rfl⟩

theorem trans (one : Follows host kind before middle) (two : Follows host kind middle after) :
    Follows host kind before after := by
  obtain ⟨early, first, ofEarly⟩ := one.launches
  obtain ⟨late, second, ofLate⟩ := two.launches
  refine ⟨two.venv.trans one.venv, ⟨late ++ early, by rw [second, first, List.append_assoc], ?_⟩,
    fun place spares apart => ?_⟩
  · intro launch member
    exact (List.mem_append.mp member).elim (ofLate launch) (ofEarly launch)
  · rw [two.spared place spares (one.venv ▸ apart), one.spared place spares apart]

/-- Only the files change, and those in the tree of the environment at most. -/
theorem files {disk : Disk} (world : World)
    (spared : ∀ place, ¬ world.isolated.venv.Covers place →
      disk.entryAt? place = world.disk.entryAt? place) :
    Follows host kind world { world with disk } :=
  ⟨rfl, ⟨[], rfl, by simp⟩, fun place _ apart => spared place apart⟩

end World.Follows

/-! ## Setting up the environment -/

theorem Disk.entryAt?_removeTree {disk next : Disk} {tree : Path} {place : Location}
    (removed : disk.removeTree tree = .ok next) (apart : ¬ tree.Covers place) :
    next.entryAt? place = disk.entryAt? place := by
  obtain ⟨location, resolved, left⟩ := of_bind_eq_ok removed
  obtain ⟨_, _, rest⟩ := of_bind_eq_ok left
  obtain ⟨_, _, cut⟩ := of_bind_eq_ok rest
  cases cut
  have outside : ¬ location <+: place := fun within => apart ⟨disk, location, resolved, within⟩
  unfold entryAt?
  split
  · rfl
  · rw [List.find?_filter]
    congr 2
    funext pair
    by_cases here : pair.1 = place
    · have kept : location.isPrefixOf place = false := by
        rw [Bool.eq_false_iff, Ne, List.isPrefixOf_iff_prefix]
        exact outside
      simp [here, kept]
    · simp [here]

namespace Host

variable {host : Host} {world : World}

/-- A command runs at most one program. -/
theorem start_follows {command : Command} {kind : Launch → Prop}
    (own : ∀ launch : Launch, launch.arguments = command.arguments →
      launch.input = command.input → kind launch) :
    World.Follows host kind world (host.start command world).2 := by
  unfold start
  split
  · exact .refl world
  · next launch launched =>
      obtain ⟨arguments, input⟩ := Command.launch_given launched
      exact ⟨rfl, ⟨[launch], rfl, by simpa using own launch arguments input⟩,
        fun place spares _ => spares world.disk launch⟩

/-- To make room for the environment removes files in its tree only. -/
theorem clear_follows {kind : Launch → Prop} (host : Host) (world : World) :
    World.Follows host kind world (clear world).2 := by
  unfold clear
  split
  · next removed => exact .files world fun place apart => Disk.entryAt?_removeTree removed apart
  · exact .refl world

/-- However setting up goes on, it runs its own programs and changes files in the tree of the
environment only. -/
theorem setUpFrom_follows {venv : Path} (step : SetupStep) (world : World)
    (own : world.isolated.venv = venv) :
    World.Follows host (Launch.IsSetup venv) world (host.setUpFrom step world).2 := by
  induction step, world using Host.setUpFrom.induct host with
  | case1 world stage result after started inductionHypothesis =>
      have ran : World.Follows host (Launch.IsSetup venv) world
          (host.start (stage.command world.isolated.venv) world).2 :=
        start_follows fun launch arguments input => ⟨stage, own ▸ arguments, input⟩
      rw [started] at ran
      rw [setUpFrom, started]
      exact ran.trans (inductionHypothesis (ran.venv.trans own))
  | case2 world result after cleared inductionHypothesis =>
      have made : World.Follows host (Launch.IsSetup venv) world (clear world).2 :=
        clear_follows host world
      rw [cleared] at made
      rw [setUpFrom, cleared]
      exact made.trans (inductionHypothesis (made.venv.trans own))
  | case3 world =>
      rw [setUpFrom]
      exact .refl world
  | case4 world failure =>
      rw [setUpFrom]
      exact .refl world

theorem setUp_follows (host : Host) (world : World) :
    World.Follows host (Launch.IsSetup world.isolated.venv) world (host.setUp world).2 :=
  setUpFrom_follows _ world rfl

theorem ensure_follows (host : Host) (world : World) :
    World.Follows host (Launch.IsSetup world.isolated.venv) world (host.ensure world).2 := by
  have setUp := host.setUp_follows world
  unfold ensure
  split
  · exact .refl world
  · split
    · next failed =>
        rw [failed] at setUp
        exact setUp
    · next done =>
        rw [done] at setUp
        exact ⟨setUp.venv, setUp.launches, setUp.spared⟩

theorem resolve_follows (host : Host) (locator : Locator) (invocation : Invocation)
    (world : World) :
    World.Follows host (Launch.IsSetup world.isolated.venv) world
      (host.resolve locator invocation world).2 := by
  have ensured := host.ensure_follows world
  unfold resolve
  simp only
  split
  · exact .refl world
  · exact .refl world
  · split
    · next ready =>
        rw [ready] at ensured
        exact ensured
    · next failed =>
        rw [failed] at ensured
        exact ensured

/-- Settings that do not ask for an environment of our own have none set up. -/
theorem resolve_of_off {locator : Locator} {invocation : Invocation}
    (off : ¬ invocation.settings.isOn "useIsolatedEnvironment" = true) :
    (host.resolve locator invocation world).2 = world := by
  have unused (settings : Settings) (without : ¬ settings.isOn "useIsolatedEnvironment" = true) :
      ∀ lookup, choose settings lookup ≠ .isolated := by
    intro lookup
    unfold choose Choice.withoutEnvironment
    rw [if_neg without]
    repeat' split
    all_goals rintro ⟨⟩
  unfold resolve
  simp only
  split
  · rfl
  · rfl
  · next isolated => exact absurd isolated (unused _ off _)

end Host

/-! ## Formatting one text -/

/-- The place may be cleared: an environment of our own is asked for, and the place is in its
tree. -/
def Settings.Endangers (settings : Settings) (venv : Path) (place : Location) : Prop :=
  settings.isOn "useIsolatedEnvironment" = true ∧ venv.Covers place

/-- The tool is run on a document. -/
def Launch.IsRun (invocation : Invocation) (launch : Launch) : Prop :=
  launch.arguments = invocation.arguments .format ∧ launch.input = invocation.document.text

/-- The programs that are started to format a document, the latest first: those of a setup, perhaps
none, and after them the tool, once at most. -/
def Launch.AreFor (venv : Path) (invocation : Invocation) (launches : List Launch) : Prop :=
  ∃ runs setups, launches = runs ++ setups ∧ runs.length ≤ 1 ∧
    (∀ launch ∈ runs, launch.IsRun invocation) ∧ ∀ launch ∈ setups, launch.IsSetup venv

/-- A text is formatted: the programs for it are started, and what stands at a place stays when the
programs spare it, unless the settings endanger it. -/
structure World.Formats (host : Host) (invocation : Invocation) (before after : World) : Prop where
  venv : after.isolated.venv = before.isolated.venv
  launches : ∃ more, after.launches = more ++ before.launches ∧
    Launch.AreFor before.isolated.venv invocation more
  spared : ∀ place, host.Spares place →
    ¬ invocation.settings.Endangers before.isolated.venv place →
    after.disk.entryAt? place = before.disk.entryAt? place

theorem Host.formatText_formats {host : Host} {locator : Locator} {invocation : Invocation}
    {world last : World} {result : Except Failure String}
    (formatted : host.formatText locator invocation world = (result, last)) :
    World.Formats host invocation world last := by
  have resolved := host.resolve_follows locator invocation world
  obtain ⟨setups, before, ofSetup⟩ := resolved.launches
  have kept (place : Location) (spares : host.Spares place)
      (safe : ¬ invocation.settings.Endangers world.isolated.venv place) :
      (host.resolve locator invocation world).2.disk.entryAt? place =
        world.disk.entryAt? place := by
    by_cases asked : invocation.settings.isOn "useIsolatedEnvironment" = true
    · exact resolved.spared place spares fun covers => safe ⟨asked, covers⟩
    · rw [resolve_of_off asked]
  suffices formats :
      World.Formats host invocation world (host.formatText locator invocation world).2 by
    rwa [formatted] at formats
  unfold formatText run
  split
  · next failed =>
      rw [failed] at resolved before kept
      exact ⟨resolved.venv, ⟨setups, before, [], setups, rfl, Nat.zero_le _, by simp, ofSetup⟩,
        kept⟩
  · next interpreter middle found =>
      rw [found] at resolved before kept
      simp only at resolved before kept ⊢
      unfold start
      split
      · exact ⟨resolved.venv, ⟨setups, before, [], setups, rfl, Nat.zero_le _, by simp, ofSetup⟩,
          kept⟩
      · next launch launched =>
          obtain ⟨arguments, input⟩ := Command.launch_given launched
          refine ⟨resolved.venv, ⟨launch :: setups, by simp [before], [launch], setups, rfl,
            Nat.le_refl 1, ?_, ofSetup⟩, fun place spares safe => ?_⟩
          · simpa using ⟨arguments, input⟩
          · exact (spares middle.disk launch).trans (kept place spares safe)

theorem Host.formatText_of_ensure {host : Host} {locator : Locator} {invocation : Invocation}
    {world last : World} {failure : Failure}
    (isolated : choose invocation.settings
      (locator.locate world.disk host.environ invocation.document invocation.folder) = .isolated)
    (failed : host.ensure world = (.error failure, last)) :
    host.formatText locator invocation world = (.error failure, last) := by
  unfold Host.formatText Host.run Host.resolve
  simp only [isolated, failed]

namespace Cli

/-! ## Sources -/

/-- The path of a file that was named on the command line. -/
def absolute (disk : Disk) (path : String) : Path :=
  (currentDirectory disk).child path

/-- The source was read from what was named: the standard input, or the text of a file. -/
def Source.IsFrom (disk : Disk) (source : Source) (path : String) : Prop :=
  if path = "-" then source.file = none
  else source.file = some (absolute disk path) ∧
    disk.readText (absolute disk path) = .ok source.document.text

/-- The settings cannot be read, or some source cannot: the standard input is no text, or a file is
none or is not there. -/
def Sources.Unreadable (session : Session) (sources : Sources) (disk : Disk) : Prop :=
  (∃ error, loadSettings disk sources.config sources.python = .error error) ∨
    ("-" ∈ sources.paths ∧ session.stdin = none) ∨
    ∃ path ∈ sources.paths, path ≠ "-" ∧
      ∃ reason, disk.readText (absolute disk path) = .error reason

theorem absolute_isAbsolute (disk : Disk) (path : String) :
    (absolute disk path).isAbsolute = true := by
  have rooted : ∃ bytes, (currentDirectory disk).bytes = Path.separator :: bytes := by
    unfold currentDirectory Location.toPath
    cases disk.workDir with
    | nil => exact ⟨[], rfl⟩
    | cons name rest => exact ⟨_, rfl⟩
  obtain ⟨bytes, same⟩ := rooted
  unfold absolute Path.child Path.join
  split
  · next there => exact there
  · split_ifs
    · next empty =>
        rw [same] at empty
        cases empty
    · simp [Path.isAbsolute, same]
    · simp [Path.isAbsolute, same]

section reading

variable {disk : Disk} (languageId : Option String)

theorem fileSource_of_error {path : String} {reason : IoError}
    (unread : disk.readText (absolute disk path) = .error reason) :
    fileSource disk languageId path = .error (.unreadable path reason) := by
  unfold fileSource
  simp only
  rw [← absolute, unread]

theorem fileSource_of_ok {path text : String}
    (read : disk.readText (absolute disk path) = .ok text) :
    ∃ source, fileSource disk languageId path = .ok source ∧
      source.file = some (absolute disk path) ∧ source.document.text = text := by
  unfold fileSource Document.ofPath? Uri.ofPath?
  simp only
  rw [← absolute, read, absolute_isAbsolute]
  exact ⟨_, rfl, rfl, rfl⟩

/-- When the standard input and every file can be read, so can all sources. -/
theorem readSources_of_readable {paths : List String} {stdin : Option String}
    (input : "-" ∈ paths → stdin ≠ none)
    (readable : ∀ path ∈ paths, path ≠ "-" →
      ∃ text, disk.readText (absolute disk path) = .ok text) :
    ∃ read, readSources disk languageId stdin paths = .ok read ∧
      List.Forall₂ (fun path source => source.IsFrom disk path) paths read := by
  induction paths generalizing stdin with
  | nil => exact ⟨[], rfl, .nil⟩
  | cons path rest inductionHypothesis =>
      have later {stdin : Option String} (input : "-" ∈ rest → stdin ≠ none) :=
        inductionHypothesis input
          fun other member => readable other (List.mem_cons_of_mem path member)
      unfold readSources
      by_cases dash : path = "-"
      · subst dash
        obtain ⟨text, given⟩ := Option.ne_none_iff_exists'.mp (input List.mem_cons_self)
        -- nothing is left of the standard input, and that is a text too
        obtain ⟨others, same, own⟩ := @later (some "") (by simp)
        rw [if_pos rfl, given]
        simp only [same]
        refine ⟨stdinSource languageId text :: others, rfl, .cons ?_ own⟩
        rw [Source.IsFrom, if_pos rfl]
        rfl
      · obtain ⟨text, read⟩ := readable path List.mem_cons_self dash
        obtain ⟨source, made, file, own⟩ := fileSource_of_ok languageId read
        obtain ⟨others, same, ofOthers⟩ :=
          later fun member => input (List.mem_cons_of_mem path member)
        rw [if_neg dash, made, same]
        refine ⟨source :: others, rfl, .cons ?_ ofOthers⟩
        rw [Source.IsFrom, if_neg dash, own]
        exact ⟨file, read⟩

/-- When the standard input is asked for and is no text, nothing is read. -/
theorem readSources_of_noInput (disk : Disk) {paths : List String} (asked : "-" ∈ paths) :
    ∃ problem, readSources disk languageId none paths = .error problem := by
  induction paths with
  | nil => cases asked
  | cons path rest inductionHypothesis =>
      rw [readSources]
      by_cases dash : path = "-"
      · rw [if_pos dash]
        exact ⟨_, rfl⟩
      · have later : "-" ∈ rest :=
          (List.mem_cons.mp asked).resolve_left fun same => dash same.symm
        obtain ⟨problem, failed⟩ := inductionHypothesis later
        rw [if_neg dash, failed]
        cases fileSource disk languageId path with
        | error reason => exact ⟨reason, rfl⟩
        | ok source => exact ⟨problem, rfl⟩

/-- When a file cannot be read, nothing is. -/
theorem readSources_of_unreadable {paths : List String} (stdin : Option String) {path : String}
    {reason : IoError} (member : path ∈ paths) (named : path ≠ "-")
    (unread : disk.readText (absolute disk path) = .error reason) :
    ∃ problem, readSources disk languageId stdin paths = .error problem := by
  induction paths generalizing stdin with
  | nil => cases member
  | cons first rest inductionHypothesis =>
      unfold readSources
      by_cases dash : first = "-"
      · have later : path ∈ rest :=
          (List.mem_cons.mp member).resolve_left fun same => named (same.trans dash)
        obtain ⟨problem, failed⟩ := inductionHypothesis (some "") later
        rw [if_pos dash]
        cases stdin with
        | none => exact ⟨_, rfl⟩
        | some text =>
            simp only [failed]
            exact ⟨problem, rfl⟩
      · rw [if_neg dash]
        rcases List.mem_cons.mp member with rfl | later
        · rw [fileSource_of_error languageId unread]
          exact ⟨_, rfl⟩
        · obtain ⟨problem, failed⟩ := inductionHypothesis stdin later
          rw [failed]
          cases fileSource disk languageId first with
          | error reason => exact ⟨reason, rfl⟩
          | ok source => exact ⟨problem, rfl⟩

end reading

section prepared

variable {disk : Disk} (session : Session) {sources : Sources}

theorem prepare_of_unreadable (unreadable : sources.Unreadable session disk) :
    ∃ problem, prepare session sources disk = .error problem := by
  have unread {problem : Problem}
      (failed : readSources disk sources.languageId session.stdin sources.paths = .error problem) :
      ∃ problem, prepare session sources disk = .error problem := by
    unfold prepare
    rw [failed]
    cases loadSettings disk sources.config sources.python with
    | error error => exact ⟨_, rfl⟩
    | ok settings => exact ⟨problem, rfl⟩
  rcases unreadable with ⟨error, failed⟩ | ⟨asked, absent⟩ | ⟨path, member, named, reason, refused⟩
  · unfold prepare
    rw [failed]
    exact ⟨_, rfl⟩
  · obtain ⟨problem, failed⟩ := readSources_of_noInput sources.languageId disk asked
    exact unread (absent ▸ failed)
  · obtain ⟨problem, failed⟩ :=
      readSources_of_unreadable sources.languageId session.stdin member named refused
    exact unread failed

theorem prepare_of_readable (readable : ¬ sources.Unreadable session disk) :
    ∃ settings read, prepare session sources disk = .ok (settings, read) ∧
      loadSettings disk sources.config sources.python = .ok settings ∧
      List.Forall₂ (fun path source => source.IsFrom disk path) sources.paths read := by
  unfold prepare
  cases loaded : loadSettings disk sources.config sources.python with
  | error error => exact absurd (Or.inl ⟨error, loaded⟩) readable
  | ok settings =>
      have input (asked : "-" ∈ sources.paths) : session.stdin ≠ none :=
        fun absent => readable (Or.inr (Or.inl ⟨asked, absent⟩))
      have texts (path : String) (member : path ∈ sources.paths) (named : path ≠ "-") :
          ∃ text, disk.readText (absolute disk path) = .ok text := by
        cases read : disk.readText (absolute disk path) with
        | error reason =>
            exact absurd (Or.inr (Or.inr ⟨path, member, named, reason, read⟩)) readable
        | ok text => exact ⟨text, rfl⟩
      obtain ⟨read, made, own⟩ := readSources_of_readable sources.languageId input texts
      refine ⟨settings, read, ?_, rfl, own⟩
      rw [made]
      rfl

end prepared

/-! ## From source to source -/

section formatting

variable {session : Session} {settings : Settings}

/-- The output differs from the text that was read. -/
def Differs (pair : Source × String) : Prop :=
  pair.2 ≠ pair.1.document.text

/-- An output that differs from the text read is written to the file of the source, if it has
one. -/
def Source.Delivers (source : Source) (output : String) (disk next : Disk) : Prop :=
  match source.file with
  | none => next = disk
  | some file =>
      if output = source.document.text then next = disk
      else disk.write file output.toUTF8 = .ok next

/-- Sources go well one after the other: the tool has an output for each, which is delivered. -/
inductive Passes (session : Session) (settings : Settings) :
    World → List (Source × String) → World → Prop where
  | nil (world : World) : Passes session settings world [] world
  | cons {world ran last : World} {source : Source} {output : String} {disk : Disk}
      {rest : List (Source × String)}
      (formatted : session.host.formatText .active (source.invocation settings) world =
        (.ok output, ran))
      (delivered : source.Delivers output ran.disk disk)
      (others : Passes session settings { ran with disk } rest last) :
      Passes session settings world ((source, output) :: rest) last

/-- A source fails: the run of the tool does, or the output cannot be written. -/
inductive Fails (session : Session) (settings : Settings) (source : Source) :
    World → World → Prop where
  | run {world after : World} {failure : Failure}
      (failed : session.host.formatText .active (source.invocation settings) world =
        (.error failure, after)) : Fails session settings source world after
  | write {world after : World} {output : String} {file : Path} {reason : IoError}
      (formatted : session.host.formatText .active (source.invocation settings) world =
        (.ok output, after))
      (named : source.file = some file) (differs : output ≠ source.document.text)
      (refused : after.disk.write file output.toUTF8 = .error reason) :
      Fails session settings source world after

/-- What is delivered of an output, or why it is not. -/
theorem deliver_eq (coloured : Bool) (source : Source) (output : String) (progress : Progress)
    (disk : Disk) :
    (∃ further next, deliver coloured false source output progress disk = .ok (further, next) ∧
        source.Delivers output disk next) ∨
      ∃ reason file, deliver coloured false source output progress disk = .error reason ∧
        source.file = some file ∧ output ≠ source.document.text ∧
        disk.write file output.toUTF8 = .error reason := by
  unfold deliver Source.Delivers
  simp only [Bool.false_eq_true, if_false]
  cases source.file with
  | none => exact Or.inl ⟨_, _, rfl, rfl⟩
  | some file =>
      simp only
      by_cases same : output = source.document.text
      · simp [same]
      · simp only [ne_eq, same, not_false_eq_true, if_true, if_false, true_and]
        cases written : disk.write file output.toUTF8 with
        | ok next => exact Or.inl ⟨_, next, rfl, rfl⟩
        | error reason => exact Or.inr ⟨reason, file, rfl, rfl, written⟩

/-- Formatting goes well up to the first source that fails, and no further. -/
theorem formatSources_passes (session : Session) (settings : Settings) (progress : Progress)
    (world : World) (sources : List Source) :
    ∃ done middle, Passes session settings world done middle ∧
      ((sources = done.map Prod.fst ∧
          ∃ reached, formatSources session false settings progress world sources =
            ((reached, none), middle)) ∨
        ∃ source later reached problem after,
          sources = done.map Prod.fst ++ source :: later ∧
          Fails session settings source middle after ∧
          formatSources session false settings progress world sources =
            ((reached, some problem), after)) := by
  induction sources generalizing progress world with
  | nil => exact ⟨[], world, .nil world, Or.inl ⟨rfl, progress, rfl⟩⟩
  | cons source rest inductionHypothesis =>
      rw [formatSources]
      rcases ran : session.host.formatText .active (source.invocation settings) world with
        ⟨failure | output, left⟩
      · exact ⟨[], world, .nil world, Or.inr ⟨source, rest, _, _, left, rfl, .run ran, rfl⟩⟩
      · simp only
        rcases deliver_eq session.coloured source output progress left.disk with
          ⟨further, disk, delivered, delivers⟩ | ⟨reason, file, refused, named, differs, unwritten⟩
        · rw [delivered]
          obtain ⟨done, middle, passes, ends⟩ :=
            inductionHypothesis further { left with disk }
          refine ⟨(source, output) :: done, middle, .cons ran delivers passes, ?_⟩
          rcases ends with ⟨rfl, all⟩ | ⟨bad, later, reached, problem, after, rfl, fails, stopped⟩
          · exact Or.inl ⟨rfl, all⟩
          · exact Or.inr ⟨bad, later, reached, problem, after, rfl, fails, stopped⟩
        · rw [refused]
          exact ⟨[], world, .nil world,
            Or.inr ⟨source, rest, _, _, left, rfl, .write ran named differs unwritten, rfl⟩⟩

/-! ## What the files hold -/

/-- The file of the source stands at the place. -/
def Source.StandsAt (disk : Disk) (source : Source) (place : Location) : Prop :=
  ∃ file, source.file = some file ∧ disk.resolve file = .ok place

/-- The source has an output that is written to the place. -/
def Changes (disk : Disk) (place : Location) (pair : Source × String) : Prop :=
  pair.1.StandsAt disk place ∧ Differs pair

/-- The file of the source, if it has one, is named from the top and is there. -/
def Source.IsPlaced (disk : Disk) (source : Source) : Prop :=
  ∀ file, source.file = some file → file.isAbsolute = true ∧
    ∃ location content executable, disk.resolve file = .ok location ∧
      disk.entryAt? location = some (.file content executable)

theorem Source.IsFrom.isPlaced {disk : Disk} {source : Source} {path : String}
    (read : source.IsFrom disk path) : source.IsPlaced disk := by
  intro file named
  unfold Source.IsFrom at read
  split_ifs at read
  · cases named.symm.trans read
  · obtain ⟨own, text⟩ := read
    cases named.symm.trans own
    exact ⟨absolute_isAbsolute disk path, Disk.entryAt?_of_readText text⟩

section delivery

variable {origin disk next : Disk} {place : Location} {source : Source} {output : String}

theorem Source.Delivers.elsewhere (delivered : source.Delivers output disk next)
    (placed : source.IsPlaced origin) (apart : ¬ Changes origin place (source, output)) :
    next.entryAt? place = disk.entryAt? place := by
  unfold Source.Delivers at delivered
  cases named : source.file with
  | none =>
      simp only [named] at delivered
      rw [delivered]
  | some file =>
      simp only [named] at delivered
      split_ifs at delivered with same
      · rw [delivered]
      · obtain ⟨rooted, location, _, _, resolved, _⟩ := placed file named
        apply Disk.entryAt?_write_of_ne delivered
        intro there
        cases Disk.resolve_unique rooted resolved there
        exact apart ⟨⟨file, named, resolved⟩, same⟩

theorem Source.Delivers.there {content : ByteArray} {executable : Bool}
    (delivered : source.Delivers output disk next) (placed : source.IsPlaced origin)
    (changes : Changes origin place (source, output))
    (here : disk.entryAt? place = some (.file content executable)) :
    next.entryAt? place = some (.file output.toUTF8 executable) := by
  obtain ⟨⟨file, (named : source.file = some file), resolved⟩, differs⟩ := changes
  unfold Source.Delivers at delivered
  simp only [named] at delivered
  split_ifs at delivered with same
  · exact absurd same differs
  · obtain ⟨location, _, found, _, _, _⟩ := Disk.write_eq_ok delivered
    cases Disk.resolve_unique (placed file named).1 resolved found
    exact Disk.entryAt?_write delivered found here

end delivery

namespace Passes

variable {origin : Disk} {place : Location} {world last : World}
  {done before after : List (Source × String)}

theorem split (passes : Passes session settings world (before ++ after) last) :
    ∃ middle, Passes session settings world before middle ∧
      Passes session settings middle after last := by
  induction before generalizing world with
  | nil => exact ⟨world, .nil world, passes⟩
  | cons pair rest inductionHypothesis =>
      cases passes with
      | cons formatted delivered others =>
          obtain ⟨middle, first, second⟩ := inductionHypothesis others
          exact ⟨middle, .cons formatted delivered first, second⟩

theorem venv (passes : Passes session settings world done last) :
    last.isolated.venv = world.isolated.venv := by
  induction passes with
  | nil => rfl
  | @cons world ran last source output disk rest formatted delivered others inductionHypothesis =>
      have formats := Host.formatText_formats formatted
      exact inductionHypothesis.trans formats.venv

theorem launches (passes : Passes session settings world done last) :
    ∃ groups, last.launches = groups.reverse.flatten ++ world.launches ∧
      List.Forall₂ (fun (source : Source) launches =>
        Launch.AreFor world.isolated.venv (source.invocation settings) launches)
        (done.map Prod.fst) groups := by
  induction passes with
  | nil => exact ⟨[], rfl, .nil⟩
  | @cons world ran last source output disk rest formatted delivered others inductionHypothesis =>
      have formats := Host.formatText_formats formatted
      obtain ⟨more, started, own⟩ := formats.launches
      obtain ⟨groups, later, each⟩ := inductionHypothesis
      simp only [formats.venv] at each
      refine ⟨more :: groups, ?_, .cons own each⟩
      rw [later, started]
      simp

/-- A file to which no output is written stays. -/
theorem kept (passes : Passes session settings world done last)
    (spared : session.host.Spares place) (apart : ¬ settings.Endangers world.isolated.venv place)
    (placed : ∀ pair ∈ done, pair.1.IsPlaced origin)
    (others : ∀ pair ∈ done, ¬ Changes origin place pair) :
    last.disk.entryAt? place = world.disk.entryAt? place := by
  induction passes with
  | nil => rfl
  | @cons world ran last source output disk rest formatted delivered passes inductionHypothesis =>
      have formats := Host.formatText_formats formatted
      have later := inductionHypothesis (formats.venv ▸ apart)
        (fun pair member => placed pair (List.mem_cons_of_mem _ member))
        fun pair member => others pair (List.mem_cons_of_mem _ member)
      have written : disk.entryAt? place = ran.disk.entryAt? place :=
        delivered.elsewhere (placed _ List.mem_cons_self) (others _ List.mem_cons_self)
      exact later.trans (written.trans (formats.spared place spared apart))

/-- A file stays a file. -/
theorem file (passes : Passes session settings world done last)
    (spared : session.host.Spares place) (apart : ¬ settings.Endangers world.isolated.venv place)
    (placed : ∀ pair ∈ done, pair.1.IsPlaced origin) {content : ByteArray} {executable : Bool}
    (here : world.disk.entryAt? place = some (.file content executable)) :
    ∃ held, last.disk.entryAt? place = some (.file held executable) := by
  induction passes generalizing content with
  | nil => exact ⟨content, here⟩
  | @cons world ran last source output disk rest formatted delivered passes inductionHypothesis =>
      have formats := Host.formatText_formats formatted
      have stands := (formats.spared place spared apart).trans here
      have first : source.IsPlaced origin := placed (source, output) List.mem_cons_self
      have written : ∃ held, disk.entryAt? place = some (.file held executable) := by
        by_cases changes : Changes origin place (source, output)
        · exact ⟨_, delivered.there first changes stands⟩
        · exact ⟨content, (delivered.elsewhere first changes).trans stands⟩
      obtain ⟨held, held'⟩ := written
      exact inductionHypothesis (formats.venv ▸ apart)
        (fun pair member => placed pair (List.mem_cons_of_mem _ member)) held'

/-- The last output that is written to a file is what it holds in the end. -/
theorem rewritten {pair : Source × String}
    (passes : Passes session settings world (before ++ pair :: after) last)
    (spared : session.host.Spares place) (apart : ¬ settings.Endangers world.isolated.venv place)
    (placed : ∀ other ∈ before ++ pair :: after, other.1.IsPlaced origin)
    (changes : Changes origin place pair) (others : ∀ later ∈ after, ¬ Changes origin place later)
    {content : ByteArray} {executable : Bool}
    (here : world.disk.entryAt? place = some (.file content executable)) :
    last.disk.entryAt? place = some (.file pair.2.toUTF8 executable) := by
  obtain ⟨middle, first, second⟩ := passes.split
  have still : ¬ settings.Endangers middle.isolated.venv place := first.venv ▸ apart
  obtain ⟨held, stands⟩ := first.file spared apart
    (fun pair member => placed pair (List.mem_append_left _ member)) here
  cases second with
  | @cons world ran last source output disk rest formatted delivered passes =>
      have formats := Host.formatText_formats formatted
      have own : source.IsPlaced origin := placed (source, output) (by simp)
      have written := delivered.there own changes
        ((formats.spared place spared still).trans stands)
      have stays := passes.kept spared (formats.venv ▸ still)
        (fun pair member => placed pair (by simp [member])) others
      exact stays.trans written

end Passes

theorem Fails.formats {source : Source} {middle after : World}
    (fails : Fails session settings source middle after) :
    World.Formats session.host (source.invocation settings) middle after := by
  cases fails with
  | run failed => exact Host.formatText_formats failed
  | write formatted named differs refused => exact Host.formatText_formats formatted

/-! ## Formatting in place -/

/-- The sources of `done` go well one after the other with the outputs that stand beside them, and
then the next source fails, or there is no other. -/
structure Formatted (session : Session) (settings : Settings) (read : List Source) (world : World)
    (done : List (Source × String)) (failing : Option Source) (answer : Answer)
    (final : World) : Prop where
  order : ∃ later, read = done.map Prod.fst ++ failing.toList ++ later ∧
    (failing = none → later = [])
  outcome : ∃ middle, Passes session settings world done middle ∧
    match failing with
    | none => final = middle
    | some source => Fails session settings source middle final
  exitCode : answer.exitCode = if failing.isSome then toolError else success
  /-- Programs are started for these sources only, group by group. -/
  launches : ∃ groups, final.launches = groups.reverse.flatten ++ world.launches ∧
    List.Forall₂ (fun (source : Source) launches =>
      Launch.AreFor world.isolated.venv (source.invocation settings) launches)
      (done.map Prod.fst ++ failing.toList) groups
  kept : ∀ place, session.host.Spares place →
    ¬ settings.Endangers world.isolated.venv place →
    (∀ pair ∈ done, ¬ Changes world.disk place pair) →
      final.disk.entryAt? place = world.disk.entryAt? place
  /-- The last output that differed is what a file holds. -/
  rewritten : ∀ place before pair after, session.host.Spares place →
    ¬ settings.Endangers world.isolated.venv place →
    done = before ++ pair :: after → Changes world.disk place pair →
    (∀ later ∈ after, ¬ Changes world.disk place later) →
      ∃ content executable, world.disk.entryAt? place = some (.file content executable) ∧
        final.disk.entryAt? place = some (.file pair.2.toUTF8 executable)

/-- What formatting the sources that are named comes to. -/
structure FormatsInPlace (session : Session) (sources : Sources) (world : World) : Prop where
  /-- When something cannot be read, nothing is started and nothing is changed. -/
  unread : sources.Unreadable session world.disk →
    (format session sources false world).1.exitCode = toolError ∧
      (format session sources false world).2 = world
  read : ¬ sources.Unreadable session world.disk →
    ∃ settings read done failing,
      loadSettings world.disk sources.config sources.python = .ok settings ∧
      List.Forall₂ (fun path source => source.IsFrom world.disk path) sources.paths read ∧
      Formatted session settings read world done failing
        (format session sources false world).1 (format session sources false world).2

/-- What is found at the place of a source is one of the files that were read. -/
theorem Changes.file {disk : Disk} {place : Location} {pair : Source × String}
    (changes : Changes disk place pair) (placed : pair.1.IsPlaced disk) :
    ∃ content executable, disk.entryAt? place = some (.file content executable) := by
  obtain ⟨⟨file, named, resolved⟩, -⟩ := changes
  obtain ⟨-, location, content, executable, found, here⟩ := placed file named
  cases resolved.symm.trans found
  exact ⟨content, executable, here⟩

theorem isPlaced_of_isFrom {disk : Disk} {paths : List String} {read : List Source}
    (own : List.Forall₂ (fun path source => source.IsFrom disk path) paths read) :
    ∀ source ∈ read, source.IsPlaced disk := by
  induction own with
  | nil =>
      intro source member
      cases member
  | cons first rest inductionHypothesis =>
      intro source member
      rcases List.mem_cons.mp member with rfl | later
      · exact first.isPlaced
      · exact inductionHypothesis source later

/-- The files after a failing source are those after the sources before it. -/
theorem formatted_of_fails {read later : List Source} {world middle final : World}
    {done : List (Source × String)} {source : Source} {answer : Answer}
    (placed : ∀ source ∈ read, source.IsPlaced world.disk)
    (order : read = done.map Prod.fst ++ source :: later)
    (passes : Passes session settings world done middle)
    (fails : Fails session settings source middle final)
    (exitCode : answer.exitCode = toolError) :
    Formatted session settings read world done (some source) answer final := by
  have formats := fails.formats
  have venv := passes.venv
  have own (pair : Source × String) (member : pair ∈ done) : pair.1.IsPlaced world.disk :=
    placed pair.1 (order ▸ List.mem_append_left _ (List.mem_map_of_mem member))
  have spared (place : Location) (spares : session.host.Spares place)
      (safe : ¬ settings.Endangers world.isolated.venv place) :
      final.disk.entryAt? place = middle.disk.entryAt? place :=
    formats.spared place spares (venv ▸ safe)
  refine ⟨⟨later, by simp [order], by simp⟩, ⟨middle, passes, fails⟩, exitCode, ?launches, ?kept,
    ?rewritten⟩
  case launches =>
    obtain ⟨groups, started, each⟩ := passes.launches
    obtain ⟨more, last, ofLast⟩ := formats.launches
    refine ⟨groups ++ [more], by simp [last, started], ?_⟩
    exact List.rel_append each (.cons (venv ▸ ofLast) .nil)
  case kept =>
    intro place spares safe others
    exact (spared place spares safe).trans (passes.kept spares safe own others)
  case rewritten =>
    intro place before pair after spares safe rfl changes others
    obtain ⟨content, executable, here⟩ := changes.file (own pair (by simp))
    have stands := passes.rewritten spares safe own changes others here
    exact ⟨content, executable, here, (spared place spares safe).trans stands⟩

theorem formatted_of_passes {read : List Source} {world final : World}
    {done : List (Source × String)} {answer : Answer}
    (placed : ∀ source ∈ read, source.IsPlaced world.disk) (order : read = done.map Prod.fst)
    (passes : Passes session settings world done final) (exitCode : answer.exitCode = success) :
    Formatted session settings read world done none answer final := by
  have own (pair : Source × String) (member : pair ∈ done) : pair.1.IsPlaced world.disk :=
    placed pair.1 (order ▸ List.mem_map_of_mem member)
  refine ⟨⟨[], by simp [order], fun _ => rfl⟩, ⟨final, passes, rfl⟩, exitCode,
    by simpa using passes.launches, ?kept, ?rewritten⟩
  case kept =>
    intro place spares safe others
    exact passes.kept spares safe own others
  case rewritten =>
    intro place before pair after spares safe rfl changes others
    obtain ⟨content, executable, here⟩ := changes.file (own pair (by simp))
    exact ⟨content, executable, here, passes.rewritten spares safe own changes others here⟩

/-- Formatting reads everything first, and then writes file by file up to the first failure: a file
ends up with the last output that differed from the text read, and all others stay. -/
theorem formatsInPlace (session : Session) (sources : Sources) (world : World) :
    FormatsInPlace session sources world := by
  constructor
  case unread =>
    intro unreadable
    obtain ⟨problem, failed⟩ := prepare_of_unreadable session unreadable
    unfold format
    rw [failed]
    exact ⟨rfl, rfl⟩
  case read =>
    intro readable
    obtain ⟨settings, read, prepared, loaded, own⟩ := prepare_of_readable session readable
    have placed := isPlaced_of_isFrom own
    obtain ⟨done, middle, passes, ends⟩ :=
      formatSources_passes session settings ⟨"", 0⟩ world read
    unfold format
    rw [prepared]
    rcases ends with
      ⟨all, reached, same⟩ | ⟨source, later, reached, problem, after, order, fails, same⟩
    · simp only [same]
      exact ⟨settings, read, done, none, loaded, own,
        formatted_of_passes placed all passes (by simp [formatAnswer])⟩
    · simp only [same]
      exact ⟨settings, read, done, some source, loaded, own,
        formatted_of_fails placed order passes fails (by simp [formatAnswer, failed])⟩

end formatting

/-- The first of two templates may not be written: the run ends there, and both stay. -/
example :
    let place := fun name : String => [Utf8.encode name]
    let world : World :=
      { disk :=
          ⟨[(place "a.html", .file "<p>".toUTF8 false), (place "b.html", .file "<q>".toUTF8 false),
            (place "python", .file .empty true)], [],
            fun location => if location = place "a.html" then some .denied else none⟩
        launches := []
        isolated := ⟨⟨[]⟩, false⟩ }
    let session : Session :=
      ⟨⟨[], fun disk _ => (⟨"x".toUTF8, .empty, .exited 0⟩, disk)⟩, false, some ""⟩
    let after := format session ⟨none, ["a.html", "b.html"], none, some "/python"⟩ false world
    after.1.exitCode = toolError ∧ after.2.launches.length = 1 ∧
      (after.2.disk.readText (.ofString "/a.html")).toOption = some "<p>" ∧
      (after.2.disk.readText (.ofString "/b.html")).toOption = some "<q>" := by
  decide +kernel

/-! ### A template inside the environment -/

namespace Cleared

/-- The environment of our own is to be at `/venv`. -/
def venv : Path := ⟨[47, 118, 101, 110, 118]⟩

/-- The template `a.html` stands in it. -/
def page : Location := [[118, 101, 110, 118], [97, 46, 104, 116, 109, 108]]

/-- A settings file `/on.toml` asks for the environment, and no programs are there. -/
def world : World :=
  { disk :=
      ⟨[([[118, 101, 110, 118]], .directory), (page, .file "<p>".toUTF8 false),
        ([[111, 110, 46, 116, 111, 109, 108]],
          .file "useIsolatedEnvironment=true".toUTF8 false)], [], fun _ => none⟩
    launches := []
    isolated := ⟨venv, false⟩ }

/-- Programs are looked for where we are only. -/
def environ : Variables := [("PATH", "")]

/-- Programs would change nothing. -/
def session : Session :=
  ⟨⟨environ, fun disk _ => (⟨.empty, .empty, .exited 0⟩, disk)⟩, false, some ""⟩

def sources : Sources :=
  { config := some "/on.toml", paths := ["venv/a.html"], languageId := none, python := none }

/-- The environment is asked for, and none is active. -/
def asks (settings : Settings) (source : Source) : Bool :=
  match choose settings (locate world.disk environ source.document none) with
  | .isolated => true
  | _ => false

/-- A single source is read, and the environment is asked for. -/
def asksAlone : Except Problem (Settings × List Source) → Bool
  | .ok (settings, [source]) => asks settings source
  | _ => false

theorem prepare_asks : ∃ settings source,
    prepare session sources world.disk = .ok (settings, [source]) ∧
      asks settings source = true := by
  have checked : asksAlone (prepare session sources world.disk) = true := by decide +kernel
  unfold asksAlone at checked
  split at checked
  · next settings source same => exact ⟨settings, source, same, checked⟩
  · cases checked

/-- What is left when the environment has been cleared. -/
def cleared : World := (Host.clear world).2

theorem begins : Setup.begin venv world.disk = .remove := by
  have broken : world.disk.isFile (interpreterIn venv) = false := by decide +kernel
  have present : world.disk.isPresent venv = true := by decide +kernel
  simp [Setup.begin, Setup.create, broken, present]

/-- The removal succeeds. -/
theorem clear_eq : Host.clear world = (.ok (), cleared) := by
  have removed : (world.disk.removeTree venv).isOk = true := by decide +kernel
  unfold cleared Host.clear
  cases same : world.disk.removeTree world.isolated.venv with
  | error reason =>
      rw [show world.isolated.venv = venv from rfl] at same
      rw [same] at removed
      cases removed
  | ok next => rfl

/-- No interpreter is found that could make an environment. -/
theorem start_refused {stage : Setup}
    (probes : stage ∈ [Setup.probing "python3" ["python"], Setup.probing "python" []]) :
    ∃ reason, session.host.start (stage.command venv) cleared = (.error reason, cleared) := by
  have path : Command.searchPath environ = [⟨[]⟩] := by
    unfold Command.searchPath String.splitOn String.splitOnAux
    decide +kernel
  have refused : ((stage.command venv).launch cleared.disk environ).isOk = false := by
    unfold Command.launch
    rw [path]
    rcases List.mem_pair.mp probes with rfl | rfl
    · decide +kernel
    · decide +kernel
  unfold Host.start
  cases launched : (stage.command venv).launch cleared.disk environ with
  | ok launch =>
      rw [launched] at refused
      cases refused
  | error reason =>
      refine ⟨reason, ?_⟩
      simp only [session, launched]

theorem ensure_clears : session.host.ensure world = (.error Setup.noCandidate, cleared) := by
  obtain ⟨first, probed⟩ := start_refused List.mem_cons_self
  obtain ⟨second, again⟩ := start_refused (List.mem_cons_of_mem _ List.mem_cons_self)
  have same : cleared.isolated.venv = venv := by
    rw [cleared, Host.clear_isolated]
    rfl
  have last : session.host.setUpFrom (.run (.probing "python" [])) cleared =
      (.error Setup.noCandidate, cleared) := by
    rw [Host.setUpFrom, same, again]
    exact Host.setUpFrom.eq_4 ..
  have all : session.host.setUpFrom (.run (.probing "python3" ["python"])) cleared =
      (.error Setup.noCandidate, cleared) := by
    rw [Host.setUpFrom, same, probed]
    exact last
  have setUp : session.host.setUp world = (.error Setup.noCandidate, cleared) := by
    rw [Host.setUp, show world.isolated.venv = venv from rfl, begins, Host.setUpFrom, clear_eq]
    exact all
  unfold Host.ensure
  rw [setUp]
  rfl

end Cleared

open Cleared in
/-- A template inside the environment is gone although no program has touched it: nothing was even
started. -/
theorem format_clears :
    session.host.Spares page ∧ world.disk.entryAt? page = some (.file "<p>".toUTF8 false) ∧
      (format session sources false world).1.exitCode = toolError ∧
      (format session sources false world).2.launches = [] ∧
      (format session sources false world).2.disk.entryAt? page = none := by
  obtain ⟨settings, source, prepared, asked⟩ := prepare_asks
  have chosen : choose settings (locate world.disk environ source.document none) = .isolated := by
    unfold asks at asked
    split at asked
    · assumption
    · cases asked
  have failed : session.host.formatText .active (source.invocation settings) world =
      (.error Setup.noCandidate, cleared) :=
    Host.formatText_of_ensure chosen ensure_clears
  have gone : (cleared.disk.entryAt? page).isNone = true := by decide +kernel
  have formatted : format session sources false world =
      (Cli.failed session "" (.tool Setup.noCandidate), cleared) := by
    unfold format
    simp only [prepared, formatSources, failed]
    rfl
  rw [formatted]
  exact ⟨fun _ _ => rfl, rfl, rfl, rfl, Option.isNone_iff_eq_none.mp gone⟩

end Cli

end TemplateLint
