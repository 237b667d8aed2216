import TemplateLint.Proofs.SharedFile

/-!
# Choices survive a restart

One store is opened on a file, and calls on it suppress one thing after the other.  Whatever has
become of the files between two calls is left open, so that any call may fail to write, and a file
may even be left behind half written.  A call that writes well writes all that the store holds, and
so makes up for those before it that did not.
Main exports: `Suppression`, `Store.after`, `Store.openFile_of_suppressed`, `Store.SurvivesRestart`,
`Store.survivesRestart`.
-/

namespace TemplateLint

/-- A call that suppresses something, and the files that it finds. -/
structure Suppression where
  scope : Scope
  disk : Disk

namespace Store

/-- The store after calls, whether or not they could write. -/
def after (store : Store) (calls : List Suppression) : Store :=
  calls.foldl (fun store call => (store.suppress call.scope call.disk).1) store

variable {store : Store} {file : Path} {disk next : Disk}

theorem after_append (store : Store) (earlier later : List Suppression) :
    store.after (earlier ++ later) = (store.after earlier).after later := by
  rw [after, List.foldl_append]
  rfl

/-! ## What a call keeps -/

theorem file_record (store : Store) (scope : Scope) : (store.record scope).file = store.file := by
  cases scope with
  | everywhere => rfl
  | folder path => rfl

/-- A store stays on its file, and its choices in order. -/
theorem after_onFile (onFile : store.file = some file) (ordered : store.choices.Ordered)
    (calls : List Suppression) :
    (store.after calls).file = some file ∧ (store.after calls).choices.Ordered := by
  induction calls generalizing store with
  | nil => exact ⟨onFile, ordered⟩
  | cons call rest inductionHypothesis =>
      have recorded : (store.record call.scope).file = some file := by rw [file_record, onFile]
      exact inductionHypothesis recorded (record_ordered ordered call.scope)

/-- A store reports what it reported before, and what the calls were about. -/
theorem cover_after (store : Store) (calls : List Suppression) (scope : Scope) :
    (store.after calls).choices.Cover scope ↔
      store.choices.Cover scope ∨ ∃ call ∈ calls, call.scope.Covers scope := by
  induction calls generalizing store with
  | nil => simp [after]
  | cons call rest inductionHypothesis =>
      have recorded : (store.after (call :: rest)).choices.Cover scope ↔
          (store.record call.scope).choices.Cover scope ∨
            ∃ later ∈ rest, later.scope.Covers scope :=
        inductionHypothesis (store.record call.scope)
      rw [recorded, cover_record, or_assoc, List.exists_mem_cons_iff]

/-! ## Opening the file again -/

/-- A store that is opened after a call has written well is the store of that call. -/
theorem openFile_of_suppressed {scope : Scope} {written : Store} (onFile : store.file = some file)
    (ordered : store.choices.Ordered)
    (suppressed : store.suppress scope disk = (written, .ok next)) :
    openFile next file = written := by
  obtain ⟨rfl, saved⟩ := Prod.mk.inj suppressed
  have same : (store.record scope).file = some file := by rw [file_record, onFile]
  rw [same] at saved
  rw [openFile, readChoices_save (record_ordered ordered scope) saved, ← same]

/-- The choice that a folder, or no folder, is asked about. -/
theorem isSuppressed_iff_cover (store : Store) (folder : Option Path) :
    store.isSuppressed folder = true ↔
      store.choices.Cover (folder.elim .everywhere .folder) := by
  cases folder with
  | none => rfl
  | some path => rfl

/-- A store is opened on a file, and calls on it follow one another. -/
structure SurvivesRestart (file : Path) (disk : Disk) (calls : List Suppression) : Prop where
  /-- When the last call has written well, a store that is opened then gives the same answers. -/
  reopened : ∀ earlier last store next, calls = earlier ++ [last] →
    ((openFile disk file).after earlier).suppress last.scope last.disk = (store, .ok next) →
      ∀ folder, (openFile next file).isSuppressed folder =
        ((openFile disk file).after calls).isSuppressed folder
  /-- No call takes a choice back. -/
  kept : ∀ earlier later folder, calls = earlier ++ later →
    ((openFile disk file).after earlier).isSuppressed folder = true →
      ((openFile disk file).after calls).isSuppressed folder = true
  /-- The store holds what was in the file at first, and what the calls were about. -/
  reports : ∀ scope, ((openFile disk file).after calls).choices.Cover scope ↔
    (openFile disk file).choices.Cover scope ∨ ∃ call ∈ calls, call.scope.Covers scope

/-- Once a call has written well, all choices that were ever recorded in the store are there after a
restart, whatever the file held at first and however many calls have failed. -/
theorem survivesRestart (file : Path) (disk : Disk) (calls : List Suppression) :
    SurvivesRestart file disk calls := by
  refine ⟨?reopened, ?kept, cover_after _ calls⟩
  case reopened =>
    intro earlier last store next split suppressed folder
    subst split
    have opened : (openFile disk file).file = some file := rfl
    obtain ⟨onFile, ordered⟩ := after_onFile opened (readChoices_ordered disk file) earlier
    have reached : (openFile disk file).after (earlier ++ [last]) = store := by
      rw [after_append]
      exact congrArg Prod.fst suppressed
    rw [openFile_of_suppressed onFile ordered suppressed, reached]
  case kept =>
    intro earlier later folder split held
    subst split
    rw [isSuppressed_iff_cover] at held ⊢
    rw [after_append, cover_after]
    exact Or.inl held

end Store

namespace Sample

/-- A file stands where the directory of the state file should be. -/
def blocked : Disk := Disk.empty.put [[115]] (.file .empty false)

/-- The first call fails, and the second one writes what both were about. -/
example :
    let file := Path.ofString "/s/state.json"
    let store := Store.openFile blocked file
    let first := store.suppress (.folder (Path.ofString "/srv/\"a\"")) blocked
    let second := first.1.suppress (.folder (Path.ofString "/srv/b")) .empty
    first.2.isOk = false ∧
      second.2.toOption.map (fun disk =>
        ((Store.openFile disk file).isSuppressed (some (Path.ofString "/srv/\"a\"")),
          (Store.openFile disk file).isSuppressed none)) = some (true, false) := by
  decide +kernel

end Sample

end TemplateLint
