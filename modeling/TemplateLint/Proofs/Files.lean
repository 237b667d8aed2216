import Mathlib.Tactic.SplitIfs
import TemplateLint.Program

/-!
# Files are read back as they were written

A file that has been written stands where its path leads, and no path leads elsewhere than before.
A program that is started from its file is given what its command says.
Main exports: `of_bind_eq_ok`, `decodeLossy_toUTF8`, `Disk.resolve_put`, `Disk.write_eq_ok`,
`Disk.entryAt?_write`, `Disk.readText_write`, `Disk.resolve_unique`, `Command.launch_given`.
-/

namespace TemplateLint

/-- What comes to something in two steps comes to something in the first. -/
theorem of_bind_eq_ok {ε α β : Type} {first : Except ε α} {second : α → Except ε β} {value : β}
    (came : first >>= second = .ok value) :
    ∃ middle, first = .ok middle ∧ second middle = .ok value := by
  cases first with
  | error reason => cases came
  | ok middle => exact ⟨middle, rfl, came⟩

/-- What is written as UTF-8 is read as it was. -/
theorem decode?_toUTF8 (text : String) : Utf8.decode? text.toUTF8 = some text := by
  rw [Utf8.decode?, String.fromUTF8?]
  exact dif_pos text.isValidUTF8

theorem decodeLossy_toUTF8 (text : String) : Utf8.decodeLossy text.toUTF8 = text := by
  apply Utf8.decodeLossy_of_decode?
  exact decode?_toUTF8 text

namespace Disk

variable {disk next : Disk} {location other : Location} {entry : Entry} {path : Path}

/-- What is put in the place of something else than a directory is in nobody's way. -/
theorem enter_put (file : disk.entryAt? location ≠ some .directory)
    (entered : disk.enter other = .ok ()) : (disk.put location entry).enter other = .ok () := by
  have proper : location ≠ [] := by
    rintro rfl
    exact file rfl
  have apart : other ≠ location := by
    rintro rfl
    unfold enter at entered
    split at entered
    · next here => exact file here
    · cases entered
    · cases entered
  rw [enter, entryAt?_put _ _ _ _ proper, if_neg apart]
  exact entered

theorem step_put (file : disk.entryAt? location ≠ some .directory) {found : Location}
    {component : Path.Component} (stepped : disk.step other component = .ok found) :
    (disk.put location entry).step other component = .ok found := by
  have enters {rest : Unit → Except IoError Location}
      (stepped : disk.enter other >>= rest = .ok found) :
      (disk.put location entry).enter other >>= rest = .ok found := by
    obtain ⟨_, entered, done⟩ := of_bind_eq_ok stepped
    rw [enter_put file entered]
    exact done
  cases component with
  | root => exact stepped
  | here => exact stepped
  | up => exact enters stepped
  | entry name => exact enters stepped

/-- All paths lead where they led before. -/
theorem resolve_put (file : disk.entryAt? location ≠ some .directory)
    (resolved : disk.resolve path = .ok other) :
    (disk.put location entry).resolve path = .ok other := by
  have follows (components : List Path.Component) {start : Location}
      (followed : components.foldlM disk.step start = .ok other) :
      components.foldlM (disk.put location entry).step start = .ok other := by
    induction components generalizing start with
    | nil => exact followed
    | cons component rest inductionHypothesis =>
        rw [List.foldlM_cons] at followed ⊢
        obtain ⟨place, stepped, later⟩ := of_bind_eq_ok followed
        rw [step_put file stepped]
        exact inductionHypothesis later
  unfold resolve at resolved ⊢
  split_ifs at resolved ⊢
  exact follows _ resolved

/-- Writing puts a file where the path leads, and no directory stood there. -/
theorem write_eq_ok {content : ByteArray} (written : disk.write path content = .ok next) :
    ∃ location executable, disk.resolve path = .ok location ∧
      disk.entryAt? location ≠ some .directory ∧ wantsDirectory path = false ∧
      next = disk.put location (.file content executable) := by
  obtain ⟨location, resolved, placed⟩ := of_bind_eq_ok written
  split at placed
  · cases placed
  · next old executable here =>
      split_ifs at placed with wants
      obtain ⟨_, -, done⟩ := of_bind_eq_ok placed
      cases done
      exact ⟨location, executable, resolved, by simp [here], by simpa using wants, rfl⟩
  · next here =>
      split_ifs at placed with wants
      obtain ⟨_, -, done⟩ := of_bind_eq_ok placed
      cases done
      exact ⟨location, false, resolved, by simp [here], by simpa using wants, rfl⟩

/-- A file that is written over keeps its place and stays a program, if it was one. -/
theorem entryAt?_write {content old : ByteArray} {executable : Bool}
    (written : disk.write path content = .ok next) (resolved : disk.resolve path = .ok location)
    (here : disk.entryAt? location = some (.file old executable)) :
    next.entryAt? location = some (.file content executable) := by
  have proper : location ≠ [] := by
    rintro rfl
    cases here
  obtain ⟨found, there, placed⟩ := of_bind_eq_ok written
  cases resolved.symm.trans there
  simp only [here] at placed
  split_ifs at placed
  obtain ⟨_, -, done⟩ := of_bind_eq_ok placed
  cases done
  rw [entryAt?_put _ _ _ _ proper, if_pos rfl]

/-- Writing changes nothing but the file that the path leads to. -/
theorem entryAt?_write_of_ne {content : ByteArray} (written : disk.write path content = .ok next)
    (apart : disk.resolve path ≠ .ok other) : next.entryAt? other = disk.entryAt? other := by
  obtain ⟨location, executable, resolved, file, -, rfl⟩ := write_eq_ok written
  have proper : location ≠ [] := by
    rintro rfl
    exact file rfl
  rw [entryAt?_put _ _ _ _ proper, if_neg]
  rintro rfl
  exact apart resolved

theorem readBytes_write {content : ByteArray} (written : disk.write path content = .ok next) :
    next.readBytes path = .ok content := by
  obtain ⟨location, executable, resolved, file, name, rfl⟩ := write_eq_ok written
  have proper : location ≠ [] := by
    rintro rfl
    exact file rfl
  have here : (disk.put location (.file content executable)).entryAt? location =
      some (.file content executable) := by
    rw [entryAt?_put _ _ _ _ proper, if_pos rfl]
  simp [readBytes, lookup, resolve_put file resolved, here, name, Bind.bind, Except.bind]

/-- A file is read back as it was written. -/
theorem readText_write {text : String} (written : disk.write path text.toUTF8 = .ok next) :
    next.readText path = .ok text := by
  simp only [readText, readBytes_write written, Bind.bind, Except.bind, decode?_toUTF8]

/-! ## Where a path leads -/

section unique

variable {location place : Location}

theorem step_unique {component : Path.Component} {found there : Location}
    (one : disk.step location component = .ok found)
    (two : next.step location component = .ok there) : found = there := by
  cases component with
  | root => exact Except.ok.inj (one.symm.trans two)
  | here => exact Except.ok.inj (one.symm.trans two)
  | up =>
      obtain ⟨_, _, first⟩ := of_bind_eq_ok one
      obtain ⟨_, _, second⟩ := of_bind_eq_ok two
      exact Except.ok.inj (first.symm.trans second)
  | entry name =>
      obtain ⟨_, _, first⟩ := of_bind_eq_ok one
      obtain ⟨_, _, second⟩ := of_bind_eq_ok two
      split_ifs at first second
      exact Except.ok.inj (first.symm.trans second)

theorem follow_unique {components : List Path.Component} {start found there : Location}
    (one : components.foldlM disk.step start = .ok found)
    (two : components.foldlM next.step start = .ok there) : found = there := by
  induction components generalizing start with
  | nil => exact Except.ok.inj (one.symm.trans two)
  | cons component rest inductionHypothesis =>
      rw [List.foldlM_cons] at one two
      obtain ⟨first, stepped, onward⟩ := of_bind_eq_ok one
      obtain ⟨second, again, further⟩ := of_bind_eq_ok two
      cases step_unique stepped again
      exact inductionHypothesis onward further

/-- An absolute path leads to one place, whatever the files are. -/
theorem resolve_unique (absolute : path.isAbsolute = true)
    (one : disk.resolve path = .ok location) (two : next.resolve path = .ok place) :
    location = place := by
  unfold resolve at one two
  split_ifs at one two
  simp only [Path.components, absolute, if_true, List.singleton_append, List.foldlM_cons] at one two
  obtain ⟨first, stepped, onward⟩ := of_bind_eq_ok one
  obtain ⟨second, again, further⟩ := of_bind_eq_ok two
  cases stepped
  cases again
  exact follow_unique onward further

end unique

/-- A file whose text can be read is there. -/
theorem entryAt?_of_readText {text : String} (read : disk.readText path = .ok text) :
    ∃ location content executable, disk.resolve path = .ok location ∧
      disk.entryAt? location = some (.file content executable) := by
  obtain ⟨content, bytes, -⟩ := of_bind_eq_ok read
  obtain ⟨entry, found, taken⟩ := of_bind_eq_ok bytes
  obtain ⟨location, resolved, looked⟩ := of_bind_eq_ok found
  cases entry with
  | directory => cases taken
  | file held executable =>
      refine ⟨location, held, executable, resolved, ?_⟩
      split at looked
      · cases looked
      · cases looked
      · next here =>
          split_ifs at looked
          cases looked
          exact here

end Disk

/-- A program that is started is given what its command says. -/
theorem Command.launch_given {command : Command} {disk : Disk} {environ : Variables}
    {launch : Launch}
    (launched : command.launch disk environ = .ok launch) :
    launch.arguments = command.arguments ∧ launch.input = command.input := by
  unfold Command.launch at launched
  split at launched
  · cases launched
  · obtain ⟨directory, -, launched⟩ := of_bind_eq_ok launched
    simp only at launched
    split at launched
    · obtain ⟨-, -, launched⟩ := of_bind_eq_ok launched
      cases launched
      exact ⟨rfl, rfl⟩
    · split at launched
      · cases launched
      · obtain ⟨file, -, launched⟩ := of_bind_eq_ok launched
        cases launched
        exact ⟨rfl, rfl⟩

end TemplateLint
