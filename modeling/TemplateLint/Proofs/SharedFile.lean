import Mathlib.Data.List.Induction
import Mathlib.Tactic.Tauto
import TemplateLint.Proofs.Lists
import TemplateLint.Proofs.WrittenChoices

/-!
# Stores that share a file

Every server opens a store of its own, and all of them may be opened on one file.  To suppress
something takes two steps: the choice is recorded in a store, and later what the store held right
then is written.  In between, other calls may record and write, and other stores may be opened.
Whoever writes last decides what the file says.
Main exports: `Sharing`, `Sharing.step?`, `Sharing.Tidy`, `LastWriteStands`,
`Sharing.lastWriteStands`, `NothingLost`.
-/

namespace TemplateLint

/-! ## Scopes -/

namespace Scope

/-- The folder that is asked about. -/
def folder? : Scope → Option Path
  | everywhere => none
  | folder path => some path

/-- A choice for the first scope goes for the second one, too. -/
def Covers : Scope → Scope → Prop
  | everywhere, _ => True
  | folder path, folder other => other.display = path.display
  | folder _, everywhere => False

theorem Covers.refl (scope : Scope) : scope.Covers scope := by
  cases scope with
  | everywhere => trivial
  | folder path => rfl

end Scope

/-- A store with these choices reports the scope as suppressed. -/
def Choices.Cover (choices : Choices) (scope : Scope) : Prop :=
  (⟨none, choices⟩ : Store).isSuppressed scope.folder? = true

/-- To record a choice adds what it covers, and nothing else. -/
theorem Store.cover_record (store : Store) (choice scope : Scope) :
    (store.record choice).choices.Cover scope ↔
      store.choices.Cover scope ∨ choice.Covers scope := by
  cases choice with
  | everywhere => simp [Choices.Cover, record, Choices.addEverywhere, isSuppressed, Scope.Covers]
  | folder path =>
      cases scope with
      | everywhere =>
          simp [Choices.Cover, record, Choices.addFolder, isSuppressed, Scope.Covers, Scope.folder?]
      | folder other =>
          simp only [Choices.Cover, record, Choices.addFolder, isSuppressed, Scope.Covers,
            Scope.folder?, Bool.or_eq_true, List.contains_iff_mem, Choices.mem_insertFolder]
          tauto

/-! ## Sharing -/

/-- A store on the file.  What the file held when the store was opened, and how many calls had
returned by then, is noted. -/
structure Opened where
  store : Store
  origin : Choices
  since : Nat

/-- A call that suppresses something in a store: its scope, and what it has to write. -/
structure Suppressing where
  store : Nat
  scope : Scope
  snapshot : Choices

/-- The stores on a file in the order in which they were opened, the calls in the order in which
they recorded their choices, and those of them that have returned, in the order in which they
wrote. -/
structure Sharing where
  disk : Disk
  stores : List Opened
  calls : List Suppressing
  returned : List Nat

/-- Something that happens to the stores on a file. -/
inductive Move where
  /-- Another store is opened. -/
  | opens
  /-- A call on a store records its choice, and takes down what is to be written. -/
  | records (store : Nat) (scope : Scope)
  /-- A call writes what it took down, and returns. -/
  | writes (call : Nat)

namespace Sharing

/-- No store has been opened. -/
def start (disk : Disk) : Sharing := ⟨disk, [], [], []⟩

/-- What comes of a move; none when it is not possible or the file cannot be written. -/
def step? (file : Path) (sharing : Sharing) : Move → Option Sharing
  | .opens =>
      let store := Store.openFile sharing.disk file
      some { sharing with
        stores := sharing.stores ++ [⟨store, store.choices, sharing.returned.length⟩] }
  | .records number scope =>
      match sharing.stores[number]? with
      | none => none
      | some opened =>
          let store := opened.store.record scope
          some { sharing with
            stores := sharing.stores.set number { opened with store }
            calls := sharing.calls ++ [⟨number, scope, store.choices⟩] }
  | .writes number =>
      match sharing.calls[number]? with
      | none => none
      | some call =>
          if number ∈ sharing.returned then none
          else
            match Store.save (some file) call.snapshot sharing.disk with
            | .ok disk => some { sharing with disk, returned := sharing.returned ++ [number] }
            | .error _ => none

/-- One move after the other. -/
def run? (file : Path) (sharing : Sharing) (moves : List Move) : Option Sharing :=
  moves.foldlM (step? file) sharing

variable {file : Path} {sharing next : Sharing} {number : Nat} {scope : Scope}

theorem run?_concat (file : Path) (sharing : Sharing) (moves : List Move) (last : Move) :
    sharing.run? file (moves ++ [last]) =
      (sharing.run? file moves).bind fun middle => middle.step? file last := by
  simp [run?, List.foldlM_append]

/-- What a move is, with what is known when it is made. -/
inductive Step (file : Path) : Sharing → Sharing → Prop where
  | opens (sharing : Sharing) :
      Step file sharing { sharing with
        stores := sharing.stores ++ [⟨Store.openFile sharing.disk file,
          Store.readChoices sharing.disk file, sharing.returned.length⟩] }
  | records (sharing : Sharing) (number : Nat) (scope : Scope) (opened : Opened)
      (held : sharing.stores[number]? = some opened) :
      Step file sharing { sharing with
        stores := sharing.stores.set number { opened with store := opened.store.record scope }
        calls := sharing.calls ++ [⟨number, scope, (opened.store.record scope).choices⟩] }
  | writes (sharing : Sharing) (number : Nat) (call : Suppressing) (disk : Disk)
      (held : sharing.calls[number]? = some call) (pending : number ∉ sharing.returned)
      (saved : Store.save (some file) call.snapshot sharing.disk = .ok disk) :
      Step file sharing { sharing with disk, returned := sharing.returned ++ [number] }

theorem step_of_step? {move : Move} (stepped : sharing.step? file move = some next) :
    Step file sharing next := by
  cases move with
  | opens =>
      cases stepped
      exact .opens sharing
  | records number scope =>
      simp only [step?] at stepped
      split at stepped
      · cases stepped
      · next opened held =>
          cases stepped
          exact .records sharing number scope opened held
  | writes number =>
      simp only [step?] at stepped
      split at stepped
      · cases stepped
      · next call held =>
          split at stepped
          · cases stepped
          · next pending =>
              split at stepped
              · next disk saved =>
                  cases stepped
                  exact .writes sharing number call disk held pending saved
              · cases stepped

end Sharing

/-- One of the calls was on the store, and it covers the scope. -/
def RecordedIn (calls : List Suppressing) (store : Nat) (scope : Scope) : Prop :=
  ∃ call ∈ calls, call.store = store ∧ call.scope.Covers scope

theorem recordedIn_concat {calls : List Suppressing} {last : Suppressing} {store : Nat}
    {scope : Scope} :
    RecordedIn (calls ++ [last]) store scope ↔
      RecordedIn calls store scope ∨ (last.store = store ∧ last.scope.Covers scope) := by
  simp only [RecordedIn, List.mem_append, List.mem_singleton, or_and_right, exists_or,
    exists_eq_left]

namespace Sharing

/-- What holds of stores on a file in every run. -/
structure Tidy (file : Path) (disk : Disk) (sharing : Sharing) : Prop where
  files : ∀ opened ∈ sharing.stores, opened.store.file = some file ∧
    opened.store.choices.Ordered ∧ opened.since ≤ sharing.returned.length
  /-- A store holds what was in the file, and what was recorded. -/
  stores : ∀ number opened, sharing.stores[number]? = some opened → ∀ scope,
    opened.store.choices.Cover scope ↔
      opened.origin.Cover scope ∨ RecordedIn sharing.calls number scope
  ordered : ∀ call ∈ sharing.calls, call.snapshot.Ordered
  /-- What a call writes is what its store held then. -/
  calls : ∀ number call, sharing.calls[number]? = some call →
    ∃ opened, sharing.stores[call.store]? = some opened ∧ ∀ scope,
      call.snapshot.Cover scope ↔ opened.origin.Cover scope ∨
        RecordedIn (sharing.calls.take (number + 1)) call.store scope
  unwritten : sharing.returned = [] →
    Store.readChoices sharing.disk file = Store.readChoices disk file
  written : ∀ number, sharing.returned.getLast? = some number →
    ∃ call, sharing.calls[number]? = some call ∧
      Store.readChoices sharing.disk file = call.snapshot
  returned : ∀ number ∈ sharing.returned, number < sharing.calls.length

variable {file : Path} {disk : Disk} {sharing next : Sharing}

theorem start_tidy (file : Path) (disk : Disk) : Tidy file disk (start disk) where
  files := by rintro _ ⟨⟩
  stores := by rintro _ _ ⟨⟩
  ordered := by rintro _ ⟨⟩
  calls := by rintro _ _ ⟨⟩
  unwritten := fun _ => rfl
  written := by rintro _ ⟨⟩
  returned := by rintro _ ⟨⟩

theorem Tidy.bound (tidy : Tidy file disk sharing) {call : Suppressing}
    (member : call ∈ sharing.calls) : call.store < sharing.stores.length := by
  obtain ⟨number, here⟩ := List.getElem?_of_mem member
  obtain ⟨opened, held, -⟩ := tidy.calls number call here
  exact (List.getElem?_eq_some_iff.mp held).1

theorem Tidy.opens (tidy : Tidy file disk sharing) :
    Tidy file disk { sharing with
      stores := sharing.stores ++ [⟨Store.openFile sharing.disk file,
        Store.readChoices sharing.disk file, sharing.returned.length⟩] } := by
  refine { tidy with files := ?files, stores := ?stores, calls := ?calls }
  case files =>
    intro opened member
    rcases List.mem_append.mp member with old | new
    · exact tidy.files opened old
    · rw [List.mem_singleton.mp new]
      exact ⟨rfl, Store.readChoices_ordered _ _, Nat.le_refl _⟩
  case stores =>
    intro number opened held scope
    rcases getElem?_concat_cases held with old | ⟨rfl, rfl⟩
    · exact tidy.stores number opened old scope
    · refine ⟨Or.inl, fun known => known.resolve_right ?_⟩
      rintro ⟨call, member, own, -⟩
      have bound := tidy.bound member
      omega
  case calls =>
    intro number call here
    obtain ⟨opened, held, covers⟩ := tidy.calls number call here
    exact ⟨opened, getElem?_concat_of_some held _, covers⟩

theorem Tidy.records (tidy : Tidy file disk sharing) {number : Nat} {opened : Opened}
    (held : sharing.stores[number]? = some opened) (scope : Scope) :
    Tidy file disk { sharing with
      stores := sharing.stores.set number { opened with store := opened.store.record scope }
      calls := sharing.calls ++ [⟨number, scope, (opened.store.record scope).choices⟩] } := by
  have bound := (List.getElem?_eq_some_iff.mp held).1
  obtain ⟨onFile, sorted, since⟩ := tidy.files opened (List.mem_of_getElem? held)
  have ascends := Store.record_ordered sorted scope
  -- The store that was recorded in is another one now, but what it was opened on is the same.
  have after {index : Nat} {other : Opened} (there : sharing.stores[index]? = some other) :
      ∃ same, (sharing.stores.set number
        { opened with store := opened.store.record scope })[index]? = some same ∧
          same.origin = other.origin := by
    rw [List.getElem?_set]
    split
    · next here =>
        subst here
        cases held.symm.trans there
        exact ⟨_, rfl, rfl⟩
    · exact ⟨other, there, rfl⟩
  refine
    { tidy with
      files := ?files
      stores := ?stores
      ordered := ?ordered
      calls := ?calls
      written := ?written
      returned := ?returned }
  case files =>
    intro other member
    rcases List.mem_or_eq_of_mem_set member with old | rfl
    · exact tidy.files other old
    · refine ⟨?_, ascends, since⟩
      cases scope <;> exact onFile
  case stores =>
    intro index other there place
    rw [recordedIn_concat]
    rw [List.getElem?_set] at there
    split at there
    · next here =>
        subst here
        cases there
        have known := tidy.stores number opened held place
        simp only [Store.cover_record, known, true_and, or_assoc]
    · next apart =>
        have known := tidy.stores index other there place
        simp only [known, apart, false_and, or_false]
  case ordered =>
    intro call member
    rcases List.mem_append.mp member with old | new
    · exact tidy.ordered call old
    · rw [List.mem_singleton.mp new]
      exact ascends
  case calls =>
    intro index call here
    rcases getElem?_concat_cases here with old | ⟨rfl, rfl⟩
    · obtain ⟨other, there, covers⟩ := tidy.calls index call old
      obtain ⟨same, now, origin⟩ := after there
      have early := (List.getElem?_eq_some_iff.mp old).1
      refine ⟨same, now, fun place => ?_⟩
      rw [origin, List.take_append_of_le_length (by omega)]
      exact covers place
    · obtain ⟨same, now, origin⟩ := after held
      refine ⟨same, now, fun place => ?_⟩
      rw [origin, List.take_of_length_le (by simp), recordedIn_concat, Store.cover_record,
        tidy.stores number opened held place]
      simp only [true_and, or_assoc]
  case written =>
    intro index last
    obtain ⟨call, here, same⟩ := tidy.written index last
    exact ⟨call, getElem?_concat_of_some here _, same⟩
  case returned =>
    intro index member
    have early := tidy.returned index member
    rw [List.length_append]
    omega

theorem Tidy.writes (tidy : Tidy file disk sharing) {number : Nat} {call : Suppressing}
    {after : Disk} (held : sharing.calls[number]? = some call)
    (saved : Store.save (some file) call.snapshot sharing.disk = .ok after) :
    Tidy file disk { sharing with disk := after, returned := sharing.returned ++ [number] } := by
  have ordered := tidy.ordered call (List.mem_of_getElem? held)
  refine
    { tidy with
      files := ?files
      unwritten := ?unwritten
      written := ?written
      returned := ?returned }
  case files =>
    intro opened member
    obtain ⟨onFile, sorted, since⟩ := tidy.files opened member
    refine ⟨onFile, sorted, ?_⟩
    rw [List.length_append]
    omega
  case unwritten =>
    intro none
    simp at none
  case written =>
    intro index last
    rw [List.getLast?_concat] at last
    cases last
    exact ⟨call, held, Store.readChoices_save ordered saved⟩
  case returned =>
    intro index member
    rcases List.mem_append.mp member with old | new
    · exact tidy.returned index old
    · rw [List.mem_singleton.mp new]
      exact (List.getElem?_eq_some_iff.mp held).1

theorem Step.tidy (step : Step file sharing next) (tidy : Tidy file disk sharing) :
    Tidy file disk next := by
  cases step with
  | opens => exact tidy.opens
  | records number scope opened held => exact tidy.records held scope
  | writes number call disk held pending saved => exact tidy.writes held saved

theorem Tidy.alone (tidy : Tidy file disk sharing) {number : Nat} {opened : Opened}
    {scope : Scope} {store : Store} {after : Disk}
    (held : sharing.stores[number]? = some opened)
    (suppressed : opened.store.suppress scope sharing.disk = (store, .ok after)) :
    sharing.run? file [.records number scope, .writes sharing.calls.length] = some
      { disk := after
        stores := sharing.stores.set number { opened with store }
        calls := sharing.calls ++ [⟨number, scope, store.choices⟩]
        returned := sharing.returned ++ [sharing.calls.length] } := by
  have onFile : (opened.store.record scope).file = some file := by
    have same := (tidy.files opened (List.mem_of_getElem? held)).1
    cases scope <;> exact same
  have pending : sharing.calls.length ∉ sharing.returned := fun member =>
    Nat.lt_irrefl _ (tidy.returned _ member)
  obtain ⟨rfl, saved⟩ := Prod.mk.inj suppressed
  rw [onFile] at saved
  simp [run?, step?, held, pending, saved]

end Sharing

/-! ## What lasts -/

/-- The call `other` knows of the call `number`, which was the one after `place` others to return:
it was made on the same store and not before, or its store was opened when that one had returned. -/
def Sharing.Knows (sharing : Sharing) (place number : Nat) (call : Suppressing) (other : Nat) :
    Prop :=
  ∀ later, sharing.calls[other]? = some later →
    (later.store = call.store ∧ number ≤ other) ∨
      ∃ opened, sharing.stores[later.store]? = some opened ∧ place < opened.since

/-- As long as the calls that return after it know of a call, its choice is in the file, and in
every store that is opened there. -/
def Sharing.Lasts (file : Path) (sharing : Sharing) : Prop :=
  ∀ before number after call, sharing.returned = before ++ number :: after →
    sharing.calls[number]? = some call →
      (∀ other ∈ after, sharing.Knows before.length number call other) →
        (Store.readChoices sharing.disk file).Cover call.scope ∧
          ∀ opened ∈ sharing.stores, before.length < opened.since → opened.origin.Cover call.scope

namespace Sharing

variable {file : Path} {disk : Disk} {sharing next : Sharing}

/-- Calls stay, and so does when a store was opened. -/
structure Extends (sharing next : Sharing) : Prop where
  calls : ∀ (number : Nat) (call : Suppressing), sharing.calls[number]? = some call →
    next.calls[number]? = some call
  stores : ∀ (number : Nat) (opened : Opened), sharing.stores[number]? = some opened →
    ∃ same, next.stores[number]? = some same ∧ same.since = opened.since

theorem Step.extends (step : Step file sharing next) : Extends sharing next := by
  cases step with
  | opens =>
      exact ⟨fun _ _ here => here, fun _ opened held =>
        ⟨opened, getElem?_concat_of_some held _, rfl⟩⟩
  | records number scope opened held =>
      refine ⟨fun _ _ here => getElem?_concat_of_some here _, fun index other there => ?_⟩
      rw [List.getElem?_set]
      split
      · next here =>
          subst here
          cases held.symm.trans there
          exact ⟨_, if_pos (List.getElem?_eq_some_iff.mp held).1, rfl⟩
      · exact ⟨other, there, rfl⟩
  | writes number call disk held pending saved =>
      exact ⟨fun _ _ here => here, fun _ opened held => ⟨opened, held, rfl⟩⟩

/-- What a call knows after a move it knew before. -/
theorem Extends.knows (longer : Extends sharing next) (tidy : Tidy file disk sharing)
    {place number other : Nat} {call : Suppressing} (knows : next.Knows place number call other) :
    sharing.Knows place number call other := by
  intro later there
  rcases knows later (longer.calls other later there) with same | ⟨opened, held, since⟩
  · exact Or.inl same
  · obtain ⟨earlier, present, -⟩ := tidy.calls other later there
    obtain ⟨same, now, kept⟩ := longer.stores later.store earlier present
    cases held.symm.trans now
    exact Or.inr ⟨earlier, present, by omega⟩

theorem start_lasts (file : Path) (disk : Disk) : Lasts file (start disk) := by
  intro before number after call returned
  simp [start] at returned

/-- What a call writes covers the choices that were recorded on its store by then. -/
theorem Tidy.cover (tidy : Tidy file disk sharing) {number other : Nat}
    {call later : Suppressing} (held : sharing.calls[number]? = some call)
    (there : sharing.calls[other]? = some later) (same : later.store = call.store)
    (order : number ≤ other) : later.snapshot.Cover call.scope := by
  obtain ⟨opened, -, covers⟩ := tidy.calls other later there
  refine (covers call.scope).mpr (Or.inr ⟨call, ?_, same.symm, Scope.Covers.refl _⟩)
  have taken : (sharing.calls.take (other + 1))[number]? = some call := by
    rw [List.getElem?_take, if_pos (by omega), held]
  exact List.mem_of_getElem? taken

theorem Step.lasts (step : Step file sharing next) (tidy : Tidy file disk sharing)
    (lasts : Lasts file sharing) : Lasts file next := by
  have longer := step.extends
  intro before number after call returned here known
  cases step with
  | opens =>
      obtain ⟨inFile, inStores⟩ := lasts before number after call returned here
        fun other member => longer.knows tidy (known other member)
      refine ⟨inFile, fun opened member since => ?_⟩
      rcases List.mem_append.mp member with old | new
      · exact inStores opened old since
      · rw [List.mem_singleton.mp new]
        exact inFile
  | records store scope opened held =>
      have bound := tidy.returned number (by rw [returned]; simp)
      have early : sharing.calls[number]? = some call := by
        rwa [List.getElem?_append_left bound] at here
      obtain ⟨inFile, inStores⟩ := lasts before number after call returned early
        fun other member => longer.knows tidy (known other member)
      refine ⟨inFile, fun other member since => ?_⟩
      rcases List.mem_or_eq_of_mem_set member with old | rfl
      · exact inStores other old since
      · exact inStores opened (List.mem_of_getElem? held) since
  | writes last later disk held pending saved =>
      have written : Store.readChoices disk file = later.snapshot :=
        Store.readChoices_save (tidy.ordered later (List.mem_of_getElem? held)) saved
      simp only [written]
      rcases append_singleton_eq.mp returned with ⟨rfl, rfl, rfl⟩ | ⟨others, rfl, earlier⟩
      · cases held.symm.trans here
        refine ⟨tidy.cover here here rfl (Nat.le_refl _), fun opened member since => ?_⟩
        have most := (tidy.files opened member).2.2
        omega
      · obtain ⟨inFile, inStores⟩ := lasts before number others call earlier here
          fun other member => longer.knows tidy (known other (by simp [member]))
        refine ⟨?_, inStores⟩
        rcases known last (by simp) later held with ⟨same, order⟩ | ⟨opened, there, since⟩
        · exact tidy.cover here held same order
        · obtain ⟨opened', there', covers⟩ := tidy.calls last later held
          cases there.symm.trans there'
          exact (covers call.scope).mpr
            (Or.inl (inStores opened (List.mem_of_getElem? there) since))

theorem run?_tidy {moves : List Move} {final : Sharing}
    (ran : (start disk).run? file moves = some final) :
    Tidy file disk final ∧ Lasts file final := by
  induction moves using List.reverseRecOn generalizing final with
  | nil =>
      cases ran
      exact ⟨start_tidy file disk, start_lasts file disk⟩
  | append_singleton moves last inductionHypothesis =>
      rw [run?_concat] at ran
      obtain ⟨middle, earlier, stepped⟩ := Option.bind_eq_some_iff.mp ran
      obtain ⟨tidy, lasts⟩ := inductionHypothesis earlier
      have step := step_of_step? stepped
      exact ⟨step.tidy tidy, step.lasts tidy lasts⟩

end Sharing

/-! ## The result -/

/-- What becomes of the choices that are recorded in stores on a file: `disk` is how the files were
at first, and `final` is what has come of some moves. -/
structure LastWriteStands (file : Path) (disk : Disk) (final : Sharing) : Prop where
  /-- Until a call returns, a store that is opened holds what the file held at first. -/
  unwritten : final.returned = [] → Store.openFile final.disk file = Store.openFile disk file
  /-- After that it reports what stood in the file when the store of the last writer was opened, and
  what was recorded in that store until the last writer took down what to write; nothing else. -/
  reports : ∀ number, final.returned.getLast? = some number →
    ∃ call opened, final.calls[number]? = some call ∧ final.stores[call.store]? = some opened ∧
      ∀ scope, (Store.openFile final.disk file).isSuppressed scope.folder? = true ↔
        opened.origin.Cover scope ∨ RecordedIn (final.calls.take (number + 1)) call.store scope
  /-- The choice of a call that has returned is reported as long as all calls that have returned
  after it knew of it. -/
  lasts : ∀ before number after call, final.returned = before ++ number :: after →
    final.calls[number]? = some call →
      (∀ other ∈ after, final.Knows before.length number call other) →
        (Store.openFile final.disk file).isSuppressed call.scope.folder? = true
  /-- A call that nothing comes between does both steps at once. -/
  alone : ∀ number opened scope store next, final.stores[number]? = some opened →
    opened.store.suppress scope final.disk = (store, .ok next) →
      final.run? file [.records number scope, .writes final.calls.length] = some
        { disk := next
          stores := final.stores.set number { opened with store }
          calls := final.calls ++ [⟨number, scope, store.choices⟩]
          returned := final.returned ++ [final.calls.length] }

/-- Whoever writes last decides what stores that are opened later report, in whatever order calls
record and write and stores are opened. -/
theorem Sharing.lastWriteStands (file : Path) (disk : Disk) (moves : List Move) (final : Sharing)
    (ran : (start disk).run? file moves = some final) : LastWriteStands file disk final := by
  obtain ⟨tidy, lasts⟩ := run?_tidy ran
  refine
    { unwritten := fun none => ?unwritten
      reports := fun number last => ?reports
      lasts := fun before number after call returned here known =>
        (lasts before number after call returned here known).1
      alone := fun number opened scope store next held suppressed => tidy.alone held suppressed }
  case unwritten => rw [Store.openFile, Store.openFile, tidy.unwritten none]
  case reports =>
    obtain ⟨call, here, written⟩ := tidy.written number last
    obtain ⟨opened, held, covers⟩ := tidy.calls number call here
    refine ⟨call, opened, here, held, fun scope => ?_⟩
    rw [← covers, ← written]
    rfl

namespace Sample

/-- Nothing but the root directory. -/
def stateFile : Path := Path.ofString "/state.json"

/-- Two stores are opened; everything is suppressed in the first, then a folder in the second. -/
def rivals : List Move :=
  [.opens, .opens, .records 0 .everywhere, .writes 0,
    .records 1 (.folder (Path.ofString "/srv/a")), .writes 1]

end Sample

theorem sample_lastWriteStands :
    ∃ final, (Sharing.start .empty).run? Sample.stateFile Sample.rivals = some final ∧
      LastWriteStands Sample.stateFile .empty final := by
  have runs : ((Sharing.start .empty).run? Sample.stateFile Sample.rivals).isSome = true := by
    decide +kernel
  obtain ⟨final, ran⟩ := Option.isSome_iff_exists.mp runs
  exact ⟨final, ran, Sharing.lastWriteStands Sample.stateFile .empty Sample.rivals final ran⟩

/-- No choice is lost: once all calls have returned, a store that is opened reports the scope of
each. -/
def NothingLost (file : Path) (final : Sharing) : Prop :=
  (∀ number < final.calls.length, number ∈ final.returned) →
    ∀ call ∈ final.calls, (Store.openFile final.disk file).isSuppressed call.scope.folder? = true

/-- The second store has never heard of the choice in the first one, and writes over it. -/
theorem sample_loses :
    ∃ final, (Sharing.start .empty).run? Sample.stateFile Sample.rivals = some final ∧
      ¬ NothingLost Sample.stateFile final := by
  have lost : ((Sharing.start .empty).run? Sample.stateFile Sample.rivals).map (fun final =>
      (final.calls.map Suppressing.scope, final.returned,
        (Store.openFile final.disk Sample.stateFile).isSuppressed none)) =
      some ([.everywhere, .folder (Path.ofString "/srv/a")], [0, 1], false) := by
    decide +kernel
  obtain ⟨final, ran, same⟩ := Option.map_eq_some_iff.mp lost
  obtain ⟨scopes, returned, silent⟩ :
      final.calls.map Suppressing.scope = [.everywhere, .folder (Path.ofString "/srv/a")] ∧
        final.returned = [0, 1] ∧
          (Store.openFile final.disk Sample.stateFile).isSuppressed none = false := by
    simpa using same
  have two : final.calls.length = 2 := by simpa using congrArg List.length scopes
  have all : ∀ number < final.calls.length, number ∈ final.returned := by
    intro number bound
    rw [returned]
    simp only [List.mem_cons, List.not_mem_nil]
    omega
  obtain ⟨call, member, own⟩ : ∃ call ∈ final.calls, call.scope = .everywhere := by
    rw [← List.mem_map, scopes]
    simp
  refine ⟨final, ran, fun nothingLost => ?_⟩
  have reported := nothingLost all call member
  rw [own, Scope.folder?, silent] at reported
  cases reported

end TemplateLint
