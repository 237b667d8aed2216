import TemplateLint.Proofs.Answering

/-!
# Checking foretells formatting

A run that only checks writes nothing, so the files that it goes through are those of the run that
formats but for what the sources hold.  Which programs are started and what they answer does not
depend on that, and so both runs go the same way, source by source, up to the same failure.  Setting
up an environment of our own clears the place of the old one when checking as well.
Main exports: `Cli.WritesOver`, `Cli.Remains`, `Cli.formatSources_goesAlike`,
`Cli.remains_of_answers`, `Cli.Foretold`, `Cli.ChecksAhead`, `Cli.Checks`,
`Cli.checking_foretells`.
-/

namespace TemplateLint

/-- Writing over a file leaves the tree as it was, but for what the file holds. -/
theorem Disk.alike_of_write {disk next : Disk} {path : Path} {content : ByteArray}
    (there : disk.isFile path = true) (written : disk.write path content = .ok next) :
    disk.Alike next := by
  obtain ⟨location, resolved, placed⟩ := of_bind_eq_ok written
  unfold isFile lookup at there
  rw [resolved] at there
  simp only [bind, Except.bind] at there
  cases here : disk.entryAt? location with
  | none =>
      rw [here] at there
      cases there
  | some entry =>
      rw [here] at there placed
      cases entry with
      | directory => cases there
      | file held executable =>
          split_ifs at placed
          obtain ⟨_, -, done⟩ := of_bind_eq_ok placed
          cases done
          exact Alike.put here

theorem Disk.isFile_of_readText {disk : Disk} {path : Path} {text : String}
    (read : disk.readText path = .ok text) : disk.isFile path = true := by
  obtain ⟨content, bytes, -⟩ := of_bind_eq_ok read
  obtain ⟨entry, found, taken⟩ := of_bind_eq_ok bytes
  cases entry with
  | directory => cases taken
  | file held executable =>
      unfold isFile
      rw [found]

namespace Cli

instance (pair : Source × String) : Decidable (Differs pair) :=
  inferInstanceAs (Decidable (pair.2 ≠ pair.1.document.text))

/-- What is so whenever an output is to be written, in the run that writes: of the tree, the file
and the output. -/
def EachWrite (holds : Disk → Path → String → Prop) (session : Session) (settings : Settings)
    (world : World) (read : List Source) : Prop :=
  ∀ done source later output middle ran file, read = done.map Prod.fst ++ source :: later →
    Passes session settings world done middle →
    session.host.formatText .active (source.invocation settings) middle = (.ok output, ran) →
    source.file = some file → Differs (source, output) → holds ran.disk file output

/-- Every write succeeds. -/
def WritesOver : Session → Settings → World → List Source → Prop :=
  EachWrite fun disk file output => ∃ next, disk.write file output.toUTF8 = .ok next

/-- Every file that is to be written is still there when its turn comes, so that it is written over
and not made anew. -/
def Remains : Session → Settings → World → List Source → Prop :=
  EachWrite fun disk file _ => disk.isFile file = true

section runs

variable {session : Session} {settings : Settings} {world : World} {read : List Source}

/-! ## One source -/

/-- Checking counts a change and writes nothing. -/
theorem deliver_checked (coloured : Bool) (source : Source) (output : String) (progress : Progress)
    (disk : Disk) :
    ∃ stdout, deliver coloured true source output progress disk =
      .ok (⟨stdout, progress.count + if Differs (source, output) then 1 else 0⟩, disk) := by
  by_cases differs : Differs (source, output)
  · refine ⟨progress.stdout ++ Style.apply coloured .yellow "Would reformat" ++ " " ++
      source.name ++ "\n", ?_⟩
    have changed : output ≠ source.document.text := differs
    simp [deliver, changed, differs]
  · refine ⟨progress.stdout, ?_⟩
    have unchanged : ¬ output ≠ source.document.text := differs
    simp only [deliver, if_true, unchanged, differs, if_false, Nat.add_zero]

/-- What is delivered leaves the tree as it is but for what the file of the source holds. -/
theorem Source.Delivers.alike {source : Source} {output : String} {disk next : Disk}
    (delivered : source.Delivers output disk next)
    (remains : ∀ file, source.file = some file → Differs (source, output) →
      disk.isFile file = true) :
    disk.Alike next := by
  unfold Source.Delivers at delivered
  cases named : source.file with
  | none =>
      simp only [named] at delivered
      rw [delivered]
      exact .refl disk
  | some file =>
      simp only [named] at delivered
      split_ifs at delivered with same
      · rw [delivered]
        exact .refl disk
      · exact Disk.alike_of_write (remains file named same) delivered

theorem Source.Delivers.unique {source : Source} {output : String} {disk next other : Disk}
    (one : source.Delivers output disk next) (two : source.Delivers output disk other) :
    next = other := by
  unfold Source.Delivers at one two
  cases named : source.file with
  | none =>
      simp only [named] at one two
      exact one.trans two.symm
  | some file =>
      simp only [named] at one two
      split_ifs at one two
      · exact one.trans two.symm
      · exact Except.ok.inj (one.symm.trans two)

/-- An output is delivered when it can be written. -/
theorem deliver_over {source : Source} {output : String} {disk : Disk}
    (writes : ∀ file, source.file = some file → Differs (source, output) →
      ∃ next, disk.write file output.toUTF8 = .ok next)
    (coloured : Bool) (progress : Progress) :
    ∃ further next, deliver coloured false source output progress disk = .ok (further, next) ∧
      source.Delivers output disk next := by
  rcases deliver_eq coloured source output progress disk with
    delivered | ⟨reason, file, -, named, differs, refused⟩
  · exact delivered
  · obtain ⟨_, written⟩ := writes file named differs
    cases refused.symm.trans written

/-! ## All sources -/

namespace EachWrite

variable {holds : Disk → Path → String → Prop} {source : Source} {later : List Source}
  {output : String} {ran : World}

theorem first (each : EachWrite holds session settings world (source :: later))
    (formatted : session.host.formatText .active (source.invocation settings) world =
      (.ok output, ran)) :
    ∀ file, source.file = some file → Differs (source, output) → holds ran.disk file output :=
  fun file => each [] source later output world ran file rfl (.nil world) formatted

theorem rest {disk : Disk} (each : EachWrite holds session settings world (source :: later))
    (formatted : session.host.formatText .active (source.invocation settings) world =
      (.ok output, ran)) (delivered : source.Delivers output ran.disk disk) :
    EachWrite holds session settings { ran with disk } later := by
  intro done next after text middle last file split passes
  exact each ((source, output) :: done) next after text middle last file (by simp [split])
    (.cons formatted delivered passes)

end EachWrite

/-- The run that checks and the run that formats go the same way, and what is counted are the
outputs that differ. -/
structure GoesAlike (session : Session) (settings : Settings) (read : List Source) (world : World)
    (count : Nat) (checked plain : (Progress × Option Problem) × World) : Prop where
  worlds : checked.2.Alike plain.2
  problem : plain.1.2 = checked.1.2
  counted : plain.1.2 = none → ∃ done, read = done.map Prod.fst ∧
    Passes session settings world done plain.2 ∧
    checked.1.1.count = count + done.countP (Differs ·)

theorem formatSources_goesAlike (steady : session.host.Steady) {checked : World}
    (alike : checked.Alike world) (writes : WritesOver session settings world read)
    (remains : Remains session settings world read) (progress other : Progress) :
    GoesAlike session settings read world progress.count
      (formatSources session true settings progress checked read)
      (formatSources session false settings other world read) := by
  induction read generalizing checked world progress other with
  | nil => exact ⟨alike, rfl, fun _ => ⟨[], rfl, .nil world, rfl⟩⟩
  | cons source rest inductionHypothesis =>
      have agree := Host.formatText_agree steady alike .active (source.invocation settings)
      rw [formatSources, formatSources]
      rcases formatted : session.host.formatText .active (source.invocation settings) checked with
        ⟨result, after⟩
      rw [formatted] at agree
      obtain ⟨further, again, left⟩ := agree.other
      rw [again]
      cases result with
      | error failure => exact ⟨left, rfl, by rintro ⟨⟩⟩
      | ok output =>
          obtain ⟨stdout, told⟩ :=
            deliver_checked session.coloured source output progress after.disk
          obtain ⟨onward, next, delivered, delivers⟩ :=
            deliver_over (writes.first again) session.coloured other
          have files := delivers.alike (remains.first again)
          simp only [told, delivered]
          have onwards :
              World.Alike { after with disk := after.disk } { further with disk := next } :=
            ⟨left.disk.trans files, left.launches, left.isolated⟩
          obtain ⟨worlds, problem, counted⟩ :=
            inductionHypothesis onwards (writes.rest again delivers) (remains.rest again delivers)
              ⟨stdout, progress.count + if Differs (source, output) then 1 else 0⟩ onward
          refine ⟨worlds, problem, fun none => ?_⟩
          obtain ⟨done, rfl, passes, count⟩ := counted none
          refine ⟨(source, output) :: done, rfl, .cons again delivers passes, ?_⟩
          rw [count, List.countP_cons]
          simp only [decide_eq_true_eq]
          omega

/-- A run that does not end for want of writing has written everything. -/
theorem writesOver_of_written (progress : Progress)
    (written : ∀ reason, (formatSources session false settings progress world read).1.2 ≠
      some (.unwritable reason)) :
    WritesOver session settings world read := by
  rintro done source later output middle ran file rfl passes formatted named differs
  induction passes generalizing progress with
  | nil world =>
      rw [List.map_nil, List.nil_append, formatSources, formatted] at written
      rcases deliver_eq session.coloured source output progress ran.disk with
        ⟨_, next, -, delivered⟩ | ⟨reason, _, refused, -⟩
      · unfold Source.Delivers at delivered
        simp only [named] at delivered
        rw [if_neg differs] at delivered
        exact ⟨next, delivered⟩
      · simp only [refused] at written
        exact absurd rfl (written reason)
  | @cons world after last first text disk rest passed delivers passes inductionHypothesis =>
      rw [List.map_cons, List.cons_append, formatSources, passed] at written
      rcases deliver_eq session.coloured first text progress after.disk with
        ⟨further, next, delivered, again⟩ | ⟨reason, _, refused, -⟩
      · cases again.unique delivers
        simp only [delivered] at written
        exact inductionHypothesis further written formatted
      · simp only [refused] at written
        exact absurd rfl (written reason)

/-- A run that checks changes nothing but what programs change and what stands in the way of an
environment of our own. -/
theorem formatSources_checked_spares {place : Location} (spares : session.host.Spares place)
    (safe : ¬ settings.Endangers world.isolated.venv place) (progress : Progress) :
    (formatSources session true settings progress world read).2.disk.entryAt? place =
      world.disk.entryAt? place := by
  induction read generalizing world progress with
  | nil => rfl
  | cons source rest inductionHypothesis =>
      rw [formatSources]
      rcases formatted : session.host.formatText .active (source.invocation settings) world with
        ⟨failure | output, after⟩
      · exact (Host.formatText_formats formatted).spared place spares safe
      · have formats := Host.formatText_formats formatted
        obtain ⟨stdout, told⟩ := deliver_checked session.coloured source output progress after.disk
        simp only [told]
        exact (inductionHypothesis (formats.venv ▸ safe) _).trans
          (formats.spared place spares safe)

/-- Sources have the same outputs whenever they go well. -/
theorem Passes.unique {last final : World} {done others : List (Source × String)}
    (one : Passes session settings world done last)
    (two : Passes session settings world others final)
    (same : done.map Prod.fst = others.map Prod.fst) : done = others := by
  induction one generalizing others with
  | nil world =>
      cases two with
      | nil => rfl
      | cons => cases same
  | cons formatted delivered passes inductionHypothesis =>
      cases two with
      | nil => cases same
      | cons again twice onward =>
          obtain ⟨rfl, later⟩ := List.cons.inj same
          cases formatted.symm.trans again
          cases delivered.unique twice
          rw [inductionHypothesis onward later]

/-! ## Programs that only answer -/

/-- With programs that only answer, the tree stays as it is but for what the sources hold. -/
theorem Passes.alike (answers : session.host.Answers) {last : World}
    {done : List (Source × String)} (passes : Passes session settings world done last)
    (there : ∀ pair ∈ done, ∀ file, pair.1.file = some file → world.disk.isFile file = true) :
    world.disk.Alike last.disk := by
  induction passes with
  | nil world => exact .refl world.disk
  | @cons world ran last source output disk rest formatted delivered passes inductionHypothesis =>
      have kept := answers.formatText_keeps formatted
      have written : world.disk.Alike disk := by
        rw [← kept]
        refine delivered.alike fun file named _ => ?_
        rw [kept]
        exact there _ List.mem_cons_self file named
      refine written.trans (inductionHypothesis fun pair member file named => ?_)
      rw [written.isFile_eq]
      exact there pair (List.mem_cons_of_mem _ member) file named

/-- So every file that is to be written is still there. -/
theorem remains_of_answers (answers : session.host.Answers)
    (there : ∀ source ∈ read, ∀ file, source.file = some file → world.disk.isFile file = true) :
    Remains session settings world read := by
  rintro done source later output middle ran file rfl passes formatted named -
  have alike := passes.alike answers fun pair member file named =>
    there pair.1 (List.mem_append_left _ (List.mem_map_of_mem member)) file named
  rw [answers.formatText_keeps formatted, alike.isFile_eq]
  exact there source (by simp) file named

end runs

/-! ## Whole runs -/

/-- The run that checks foretells the run that formats. -/
structure Foretold (session : Session) (settings : Settings) (read : List Source) (world : World)
    (checked plain : Answer × World) : Prop where
  /-- The same programs are started on the same inputs in the same order. -/
  launches : checked.2.launches = plain.2.launches
  failed : checked.1.exitCode = toolError ↔ plain.1.exitCode = toolError
  /-- Files would be reformatted: formatting goes well, and some output differs from the text. -/
  changed : checked.1.exitCode = problemsFound ↔ plain.1.exitCode = success ∧
    ∃ done, read = done.map Prod.fst ∧ Passes session settings world done plain.2 ∧
      ∃ pair ∈ done, Differs pair
  /-- Nothing would change: formatting goes well, and no output differs from the text. -/
  unchanged : checked.1.exitCode = success ↔ plain.1.exitCode = success ∧
    ∃ done, read = done.map Prod.fst ∧ Passes session settings world done plain.2 ∧
      ∀ pair ∈ done, ¬ Differs pair

/-- What checking the sources that are named comes to, beside formatting them. -/
structure ChecksAhead (session : Session) (settings : Settings) (read : List Source)
    (world : World) (checked plain : Answer × World) : Prop where
  /-- Nothing changes but what programs change themselves, and what stands in the place of an
  environment of our own that is asked for. -/
  kept : ∀ place, session.host.Spares place → ¬ settings.Endangers world.isolated.venv place →
    checked.2.disk.entryAt? place = world.disk.entryAt? place
  foretold : session.host.Steady → WritesOver session settings world read →
    Remains session settings world read → Foretold session settings read world checked plain
  /-- With programs that only answer, no file is missing when its turn comes. -/
  answering : session.host.Answers → session.host.Steady ∧ Remains session settings world read

theorem formatAnswer_exitCode (session : Session) (check : Bool)
    (result : Progress × Option Problem) :
    (formatAnswer session check result).exitCode =
      if result.2.isSome then toolError
      else if check ∧ 0 < result.1.count then problemsFound else success := by
  obtain ⟨progress, none | problem⟩ := result
  · by_cases changes : check ∧ 0 < progress.count
    · simp only [formatAnswer, if_pos changes]
      rfl
    · simp only [formatAnswer, if_neg changes]
      rfl
  · rfl

theorem foretold_of_goesAlike {session : Session} {settings : Settings} {read : List Source}
    {world : World} {checked plain : (Progress × Option Problem) × World}
    (alike : GoesAlike session settings read world 0 checked plain) :
    Foretold session settings read world
      (formatAnswer session true checked.1, checked.2)
      (formatAnswer session false plain.1, plain.2) := by
  obtain ⟨worlds, problem, counted⟩ := alike
  cases told : plain.1.2 with
  | some reason =>
      have one : (formatAnswer session true checked.1).exitCode = toolError := by
        rw [formatAnswer_exitCode, ← problem, told]
        rfl
      have two : (formatAnswer session false plain.1).exitCode = toolError := by
        rw [formatAnswer_exitCode, told]
        rfl
      have apart : toolError ≠ problemsFound ∧ toolError ≠ success := by decide
      refine ⟨worlds.launches.symm, ?failed, ?changed, ?unchanged⟩
      case failed => simp only [one, two]
      case changed => simp only [one, two, apart.1, apart.2, false_and]
      case unchanged => simp only [one, two, apart.2, false_and]
  | none =>
      obtain ⟨done, order, passes, count⟩ := counted told
      have one : (formatAnswer session true checked.1).exitCode =
          if ∃ pair ∈ done, Differs pair then problemsFound else success := by
        have positive : 0 < done.countP (Differs ·) ↔ ∃ pair ∈ done, Differs pair := by
          simp only [List.countP_pos_iff, decide_eq_true_eq]
        rw [formatAnswer_exitCode, ← problem, told, count, Nat.zero_add]
        simp only [Option.isSome_none, Bool.false_eq_true, if_false, true_and, positive]
      have two : (formatAnswer session false plain.1).exitCode = success := by
        rw [formatAnswer_exitCode, told]
        rfl
      have only {others : List (Source × String)} (same : read = others.map Prod.fst)
          (again : Passes session settings world others plain.2) : others = done :=
        again.unique passes (same.symm.trans order)
      have apart : success ≠ toolError ∧ problemsFound ≠ toolError ∧ success ≠ problemsFound := by
        decide
      refine ⟨worlds.launches.symm, ?failed, ?changed, ?unchanged⟩
      all_goals dsimp only
      all_goals rw [one, two]
      case failed => split_ifs <;> simp [apart]
      case changed =>
        constructor
        · intro found
          split_ifs at found with differs
          · exact ⟨rfl, done, order, passes, differs⟩
          · exact absurd found apart.2.2
        · rintro ⟨-, others, same, again, differs⟩
          rw [only same again] at differs
          rw [if_pos differs]
      case unchanged =>
        constructor
        · intro found
          split_ifs at found with differs
          · exact absurd found.symm apart.2.2
          · exact ⟨rfl, done, order, passes, fun pair member changes =>
              differs ⟨pair, member, changes⟩⟩
        · rintro ⟨-, others, same, again, equal⟩
          rw [only same again] at equal
          rw [if_neg fun ⟨pair, member, changes⟩ => equal pair member changes]

/-- The files of sources that were read are there. -/
theorem isFile_of_isFrom {disk : Disk} {paths : List String} {read : List Source}
    (own : List.Forall₂ (fun path source => source.IsFrom disk path) paths read) :
    ∀ source ∈ read, ∀ file, source.file = some file → disk.isFile file = true := by
  induction own with
  | nil =>
      intro source member
      cases member
  | cons first rest inductionHypothesis =>
      intro source member file named
      rcases List.mem_cons.mp member with rfl | later
      · unfold Source.IsFrom at first
        split_ifs at first
        · cases named.symm.trans first
        · cases named.symm.trans first.1
          exact Disk.isFile_of_readText first.2
      · exact inductionHypothesis source later file named

/-- What checking comes to, beside formatting. -/
structure Checks (session : Session) (sources : Sources) (world : World) : Prop where
  /-- When something cannot be read, nothing is started and nothing is changed in either run. -/
  unread : sources.Unreadable session world.disk → ∀ check,
    (format session sources check world).1.exitCode = toolError ∧
      (format session sources check world).2 = world
  read : ¬ sources.Unreadable session world.disk →
    ∃ settings read, loadSettings world.disk sources.config sources.python = .ok settings ∧
      List.Forall₂ (fun path source => source.IsFrom world.disk path) sources.paths read ∧
      ChecksAhead session settings read world (format session sources true world)
        (format session sources false world)

/-- Checking foretells formatting, for all sources, also when a file is named more than once or a
source fails midway. -/
theorem checking_foretells (session : Session) (sources : Sources) (world : World) :
    Checks session sources world := by
  constructor
  case unread =>
    intro unreadable check
    obtain ⟨problem, failed⟩ := prepare_of_unreadable session unreadable
    unfold format
    rw [failed]
    exact ⟨rfl, rfl⟩
  case read =>
    intro readable
    obtain ⟨settings, read, prepared, loaded, own⟩ := prepare_of_readable session readable
    have formatted (check : Bool) : format session sources check world =
        (formatAnswer session check (formatSources session check settings ⟨"", 0⟩ world read).1,
          (formatSources session check settings ⟨"", 0⟩ world read).2) := by
      unfold format
      rw [prepared]
    refine ⟨settings, read, loaded, own, ?kept, ?foretold, ?answering⟩
    case kept =>
      intro place spares safe
      rw [formatted]
      exact formatSources_checked_spares spares safe ⟨"", 0⟩
    case foretold =>
      intro steady writes remains
      rw [formatted, formatted]
      have alike : world.Alike world := ⟨.refl world.disk, rfl, rfl⟩
      exact foretold_of_goesAlike (formatSources_goesAlike steady alike writes remains ⟨"", 0⟩
        ⟨"", 0⟩)
    case answering =>
      intro answers
      exact ⟨answers.steady, remains_of_answers answers (isFile_of_isFrom own)⟩

/-! ## What checking may clear -/

/-- A single source fails. -/
theorem format_of_fails {session : Session} {sources : Sources} {world after : World}
    {settings : Settings} {source : Source} {failure : Failure} (check : Bool)
    (prepared : prepare session sources world.disk = .ok (settings, [source]))
    (failed : session.host.formatText .active (source.invocation settings) world =
      (.error failure, after)) :
    format session sources check world = (Cli.failed session "" (.tool failure), after) := by
  unfold format
  simp only [prepared, formatSources, failed]
  rfl

/-! ### A file that is made anew -/

namespace Remade

/-- The interpreter of the first environment of a project. -/
def page : Location := [".venv", "bin", "python"].map Utf8.encode

/-- There is another environment beside it. -/
def world : World :=
  { disk :=
      ⟨[([Utf8.encode ".venv"], .directory), ([".venv", "bin"].map Utf8.encode, .directory),
        (page, .file "<p>".toUTF8 true), ([Utf8.encode "venv"], .directory),
        (["venv", "bin"].map Utf8.encode, .directory),
        (["venv", "bin", "python"].map Utf8.encode, .file .empty true)], [], fun _ => none⟩
    launches := []
    isolated := ⟨⟨[]⟩, false⟩ }

/-- Every program prints `x` and removes the first interpreter. -/
def session : Session :=
  ⟨⟨[], fun disk _ => (⟨"x".toUTF8, .empty, .exited 0⟩, disk.erase page)⟩, false, some ""⟩

/-- The interpreter is taken for a template, twice. -/
def sources : Sources :=
  { config := none
    paths := [".venv/bin/python", ".venv/bin/python"]
    languageId := none
    python := none }

theorem steady : session.host.Steady :=
  fun _ _ _ alike => ⟨rfl, alike.erase page⟩

/-- The run does not end for want of writing. -/
def isWritten (result : Progress × Option Problem) : Bool :=
  match result.2 with
  | some (.unwritable _) => false
  | _ => true

theorem writes : ∃ settings read, prepare session sources world.disk = .ok (settings, read) ∧
    WritesOver session settings world read := by
  have checked : ((prepare session sources world.disk).toOption.map fun prepared =>
      isWritten (formatSources session false prepared.1 ⟨"", 0⟩ world prepared.2).1) =
        some true := by
    decide +kernel
  obtain ⟨⟨settings, read⟩, same, written⟩ := Option.map_eq_some_iff.mp checked
  refine ⟨settings, read, ?_, ?_⟩
  · cases prepared : prepare session sources world.disk with
    | error problem =>
        rw [prepared] at same
        cases same
    | ok pair =>
        rw [prepared] at same
        cases same
        rfl
  · refine writesOver_of_written ⟨"", 0⟩ fun reason stopped => ?_
    unfold isWritten at written
    rw [stopped] at written
    cases written

end Remade

/-- A template inside the environment is gone after a run that only checks, although the programs
would have left all files alone.  And when a program has removed an interpreter that is a template
itself, the run that formats makes it anew, and comes upon it again where the run that checks finds
another one. -/
theorem check_clears :
    (Cleared.session.host.Answers ∧
      Cleared.world.disk.entryAt? Cleared.page = some (.file "<p>".toUTF8 false) ∧
      (format Cleared.session Cleared.sources true Cleared.world).1.exitCode = toolError ∧
      (format Cleared.session Cleared.sources true Cleared.world).2.disk.entryAt? Cleared.page =
        none) ∧
    (Remade.session.host.Steady ∧
      (∃ settings read,
        prepare Remade.session Remade.sources Remade.world.disk = .ok (settings, read) ∧
          WritesOver Remade.session settings Remade.world read) ∧
      (format Remade.session Remade.sources false Remade.world).1.exitCode = toolError ∧
      (format Remade.session Remade.sources true Remade.world).1.exitCode = problemsFound) := by
  obtain ⟨settings, source, prepared, asked⟩ := Cleared.prepare_asks
  have chosen : choose settings (locate Cleared.world.disk Cleared.environ source.document none) =
      .isolated := by
    unfold Cleared.asks at asked
    split at asked
    · assumption
    · cases asked
  have failed : Cleared.session.host.formatText .active (source.invocation settings)
      Cleared.world = (.error Setup.noCandidate, Cleared.cleared) :=
    Host.formatText_of_ensure chosen Cleared.ensure_clears
  have gone : (Cleared.cleared.disk.entryAt? Cleared.page).isNone = true := by decide +kernel
  have plain : (format Remade.session Remade.sources false Remade.world).1.exitCode =
      toolError := by
    decide +kernel
  have checked : (format Remade.session Remade.sources true Remade.world).1.exitCode =
      problemsFound := by
    decide +kernel
  rw [format_of_fails true prepared failed]
  exact ⟨⟨⟨_, fun _ _ => rfl⟩, rfl, rfl, Option.isNone_iff_eq_none.mp gone⟩,
    Remade.steady, Remade.writes, plain, checked⟩

end Cli

end TemplateLint
