import TemplateLint.Proofs.InnermostFolder
import TemplateLint.Proofs.SettingsLayers

/-!
# The open folders

An editor names folders when the server begins, and tells later which ones were added and removed.
Whatever else happens meanwhile, a folder is listed when it was named or added where it was last
mentioned; within one notification what is added counts after what is removed.
Main exports: `Server.Opens`, `Server.Closes`, `Server.LastOpened`, `Turn.Abides`,
`Server.turnIn_lists`, `Server.keepsFolders`.
-/

namespace TemplateLint

/-! ## What is said of folders -/

/-- The folders that an editor names at the beginning: those that have a path, or the root when none
has. -/
inductive Params.Beginning.Names (params : Params.Beginning) : Path → Prop where
  | folder (uri : Uri) (path : Path) (listed : uri ∈ params.folders)
      (leads : uri.toPath? = some path) : Names params path
  | root (uri : Uri) (path : Path) (none : ∀ other ∈ params.folders, other.toPath? = none)
      (root : params.root = some uri) (leads : uri.toPath? = some path) : Names params path

/-- The folders that an editor says were removed and added. -/
def Event.folderChange? : Event → Option Params.Folders
  | .received (.message message) =>
      if message.method = "workspace/didChangeWorkspaceFolders" ∧ message.id = none then
        message.params.bind Params.folders?
      else none
  | _ => none

namespace Server

/-- The server is told that the folder is open. -/
inductive Opens (server : Server) (event : Event) (folder : Path) : Prop where
  | begins (params : Params.Beginning) (path : Path) (fresh : server.phase = .fresh)
      (given : event.beginning? = some params) (names : params.Names path)
      (same : path.Same folder)
  | added (change : Params.Folders) (uri : Uri) (path : Path) (ready : server.phase = .ready)
      (given : event.folderChange? = some change) (listed : uri ∈ change.added)
      (leads : uri.toPath? = some path) (same : path.Same folder)

/-- The server is told that the folder was removed. -/
inductive Closes (server : Server) (event : Event) (folder : Path) : Prop where
  | removed (change : Params.Folders) (uri : Uri) (path : Path) (ready : server.phase = .ready)
      (given : event.folderChange? = some change) (listed : uri ∈ change.removed)
      (leads : uri.toPath? = some path) (same : path.Same folder)

/-- Where the folder was mentioned last in some rounds, it was open. -/
def LastOpened (server : Server) (rounds : List Round) (folder : Path) : Prop :=
  ∃ before round after, rounds = before ++ round :: after ∧
    (server.course before).1.Opens round.event folder ∧
    ∀ meanwhile next rest, after = meanwhile ++ next :: rest →
      ¬ ((server.course (before ++ round :: meanwhile)).1.Opens next.event folder ∨
        (server.course (before ++ round :: meanwhile)).1.Closes next.event folder)

/-- The folder is in the list, in some spelling. -/
def Lists (server : Server) (folder : Path) : Prop :=
  ∃ held ∈ server.folders, held.Same folder

end Server

/-! ## Changes of the list -/

namespace Turn

variable {folders : List Path} {path folder : Path}

theorem mem_withoutFolder :
    (∃ held ∈ withoutFolder folders path, held.Same folder) ↔
      ¬ path.Same folder ∧ ∃ held ∈ folders, held.Same folder := by
  simp only [withoutFolder, List.mem_filter]
  constructor
  · intro lists
    obtain ⟨held, ⟨member, kept⟩, same⟩ := lists
    refine ⟨?_, held, member, same⟩
    intro removed
    have apart : ¬ held.Same path := by simpa using kept
    exact apart (same.trans removed.symm)
  · intro lists
    obtain ⟨apart, held, member, same⟩ := lists
    refine ⟨held, ⟨member, ?_⟩, same⟩
    have kept : ¬ held.Same path := fun removed => apart (removed.symm.trans same)
    simpa using kept

theorem mem_withFolder :
    (∃ held ∈ withFolder folders path, held.Same folder) ↔
      path.Same folder ∨ ∃ held ∈ folders, held.Same folder := by
  unfold withFolder
  split
  · next present =>
      obtain ⟨other, member, same⟩ := List.any_eq_true.mp present
      have twin : other.Same path := of_decide_eq_true same
      constructor
      · exact Or.inr
      · intro lists
        rcases lists with added | held
        · exact ⟨other, member, twin.trans added⟩
        · exact held
  · simp only [List.mem_append, List.mem_singleton, or_and_right, exists_or, exists_eq_left]
    exact or_comm

/-- After removals a folder is listed if it was and none of them meant it. -/
theorem mem_foldl_withoutFolder (removed : List Path) :
    (∃ held ∈ removed.foldl withoutFolder folders, held.Same folder) ↔
      (¬ ∃ path ∈ removed, path.Same folder) ∧ ∃ held ∈ folders, held.Same folder := by
  induction removed generalizing folders with
  | nil => simp
  | cons path rest inductionHypothesis =>
      rw [List.foldl_cons, inductionHypothesis, mem_withoutFolder, List.exists_mem_cons_iff, not_or,
        and_assoc]
      exact and_left_comm

/-- After additions a folder is listed if it was or one of them meant it. -/
theorem mem_foldl_withFolder (added : List Path) :
    (∃ held ∈ added.foldl withFolder folders, held.Same folder) ↔
      (∃ path ∈ added, path.Same folder) ∨ ∃ held ∈ folders, held.Same folder := by
  induction added generalizing folders with
  | nil => simp
  | cons path rest inductionHypothesis =>
      rw [List.foldl_cons, inductionHypothesis, mem_withFolder, List.exists_mem_cons_iff, or_assoc]
      exact or_left_comm

/-- What is added is listed, and of what was listed all that is not removed. -/
theorem mem_changedFolders (change : Params.Folders) :
    (∃ held ∈ changedFolders folders change, held.Same folder) ↔
      (∃ uri ∈ change.added, ∃ path, uri.toPath? = some path ∧ path.Same folder) ∨
        (¬ ∃ uri ∈ change.removed, ∃ path, uri.toPath? = some path ∧ path.Same folder) ∧
          ∃ held ∈ folders, held.Same folder := by
  have denoted (uris : List Uri) :
      (∃ path ∈ uris.filterMap Uri.toPath?, path.Same folder) ↔
        ∃ uri ∈ uris, ∃ path, uri.toPath? = some path ∧ path.Same folder := by
    simp only [List.mem_filterMap]
    tauto
  rw [changedFolders, mem_foldl_withFolder, mem_foldl_withoutFolder, denoted, denoted]

end Turn

/-- At the beginning the folders are those that the parameters name. -/
theorem mem_initialFolders {params : Params.Beginning} {path : Path} :
    path ∈ initialFolders params ↔ params.Names path := by
  unfold initialFolders
  split
  · next none =>
      have unnamed : ∀ uri ∈ params.folders, uri.toPath? = Option.none :=
        List.filterMap_eq_nil_iff.mp none
      rw [Option.mem_toList]
      constructor
      · intro rooted
        obtain ⟨uri, root, leads⟩ := Option.bind_eq_some_iff.mp rooted
        exact .root uri path unnamed root leads
      · intro names
        cases names with
        | folder uri _ listed leads =>
            rw [unnamed uri listed] at leads
            cases leads
        | root uri _ _ root leads => exact Option.bind_eq_some_iff.mpr ⟨uri, root, leads⟩
  · next named =>
      rw [List.mem_filterMap]
      constructor
      · intro listed
        obtain ⟨uri, member, leads⟩ := listed
        exact .folder uri path member leads
      · intro names
        cases names with
        | folder uri _ listed leads => exact ⟨uri, listed, leads⟩
        | root uri _ none root leads => exact absurd (List.filterMap_eq_nil_iff.mpr none) named

/-! ## Events that say nothing of folders -/

namespace Turn

variable {turn middle next : Turn}

/-- The folders stay, and the server does not begin again. -/
structure Abides (turn next : Turn) : Prop where
  folders : next.server.folders = turn.server.folders
  serves : turn.server.phase ≠ .fresh → next.server.phase ≠ .fresh

/-- What leaves the folders and the phase alone abides. -/
theorem Steady.abides (steady : Steady turn next) : Abides turn next :=
  ⟨steady.folders, steady.lasts.serves⟩

namespace Abides

theorem refl (turn : Turn) : Abides turn turn :=
  ⟨rfl, id⟩

theorem trans (one : Abides turn middle) (two : Abides middle next) : Abides turn next :=
  ⟨two.folders.trans one.folders, fun serves => two.serves (one.serves serves)⟩

theorem tell (turn : Turn) (notice : Notice) : Abides turn (turn.tell notice) :=
  (Speaks.tell turn notice).toSteady.abides

theorem reply (turn : Turn) (id : RpcId) (result : Except RpcError Json) :
    Abides turn (turn.reply id result) :=
  (Speaks.reply turn id result).toSteady.abides

theorem refuse (turn : Turn) (id : Option RpcId) (error : RpcError) :
    Abides turn (turn.refuse id error) := by
  cases id with
  | none => exact refl turn
  | some request => exact reply turn request _

theorem choose (turn : Turn) (details : String) (folder : Option Path) (action : PopupAction) :
    Abides turn (turn.choose details folder action) := by
  have suppress (scope : Scope) : Abides turn (turn.suppress scope) := by
    unfold Turn.suppress
    split
    · exact ⟨rfl, id⟩
    · exact ⟨rfl, id⟩
  unfold Turn.choose
  split
  · exact tell turn _
  · exact suppress _
  · exact refl turn
  · exact suppress _

theorem close (turn : Turn) (uri : Uri) : Abides turn (turn.heedClosed uri) := by
  obtain ⟨inFlight, jobs, same, -⟩ := supersede_frame turn uri
  unfold heedClosed
  rw [same]
  apply trans _ (Speaks.publish _ uri [] none).toSteady.abides
  exact ⟨rfl, id⟩

theorem cancelJob (turn : Turn) (number : Nat) (request : RpcId) :
    Abides turn (turn.cancelJob number request) := by
  apply trans _ (reply (turn.abandon number) request _)
  have killed : (turn.killFor number).server = turn.server := killFor_server turn number
  constructor
  · change (turn.killFor number).server.folders = turn.server.folders
    rw [killed]
  · intro serves
    change (turn.killFor number).server.phase ≠ .fresh
    rw [killed]
    exact serves

theorem cancelTelling (turn : Turn) (number : Nat) (request : RpcId) :
    Abides turn (turn.cancelTelling number request) := by
  apply trans _ (reply (turn.silence number) request _)
  exact ⟨rfl, id⟩

/-- Cancelling requests concerns no folder. -/
theorem cancelRequests (turn : Turn) (meant : RpcId → Bool) :
    Abides turn (turn.cancelRequests meant) :=
  cancelRequests_kept (Abides turn) meant (fun _ _ _ abides => abides.trans (cancelJob _ _ _))
    (fun _ _ _ abides => abides.trans (cancelTelling _ _ _)) (refl turn)

end Abides

/-! ### Messages and answers -/

theorem keep_abides (turn : Turn) (document : Document) : Abides turn (turn.keep document) :=
  ⟨rfl, id⟩

theorem lintAll_abides (turn : Turn) (origin : Nat) (uris : List Uri) :
    Abides turn (turn.lintAll origin uris) :=
  (lintAll_steady turn origin uris).abides

/-- A notification other than that of changed folders leaves the list alone. -/
theorem heed_abides (turn : Turn) (origin : Nat) (notification : Notification)
    (other : ∀ change, notification ≠ .foldersChanged change) :
    Abides turn (turn.heed origin notification) := by
  cases notification with
  | initialized => exact Abides.tell turn _
  | opened document => exact (keep_abides turn document).trans (lintAll_abides _ _ _)
  | changed change =>
      simp only [heed, heedChanged]
      split
      · exact (keep_abides turn _).trans (lintAll_abides _ _ _)
      · exact Abides.refl turn
  | saved uri text =>
      simp only [heed, heedSaved]
      split
      · exact (keep_abides turn _).trans (lintAll_abides _ _ _)
      · exact lintAll_abides turn _ _
  | closed uri => exact Abides.close turn uri
  | configured value =>
      simp only [heed, heedConfigured]
      split
      · exact Abides.refl turn
      · apply Abides.trans _ (lintAll_abides _ _ _)
        exact ⟨rfl, id⟩
  | foldersChanged change => exact absurd rfl (other change)
  | useless => exact Abides.refl turn

theorem request_abides (turn : Turn) (id : Option RpcId) {handle : RpcId → Turn}
    (handled : ∀ request, id = some request → Abides turn (handle request)) :
    Abides turn (turn.request id handle) := by
  unfold request
  split
  · exact Abides.refl turn
  · split
    · exact Abides.refuse turn _ _
    · exact handled _ rfl

theorem guarded_abides (turn : Turn) (id : Option RpcId) {handle : RpcId → Turn}
    (handled : ∀ request, Abides turn (handle request)) : Abides turn (turn.guarded id handle) := by
  unfold guarded
  split
  · exact Abides.refuse turn _ _
  · exact request_abides turn id fun request _ => handled request

/-- A second `initialize` is refused, and the folders stay. -/
theorem receiveBeginning_abides {message : Message} (begins : message.method = "initialize")
    (idle : turn.server.phase = .fresh → (Event.received (.message message)).beginning? = none) :
    Abides turn (turn.receiveBeginning message) := by
  unfold receiveBeginning
  split
  · next fresh =>
      apply request_abides
      intro request named
      split
      · next params given =>
          have silent := idle fresh
          simp [Event.beginning?, begins, named, given] at silent
      · exact Abides.refuse turn _ _
  · exact Abides.refuse turn _ _

theorem receiveShutdown_abides (turn : Turn) (message : Message) :
    Abides turn (turn.receiveShutdown message) := by
  unfold receiveShutdown
  split
  · exact Abides.refuse turn _ _
  · have closing : Abides turn (turn.update fun server => { server with phase := .closing }) :=
      ⟨rfl, fun _ => by simp [update]⟩
    apply closing.trans
    apply request_abides
    intro request _
    split
    · exact Abides.refuse _ _ _
    · exact (shutDown_stops _ request).toSteady.abides

theorem receiveExit_abides (turn : Turn) : Abides turn turn.receiveExit := by
  have exits : Abides turn (turn.update fun server => { server with phase := .exited }) :=
    ⟨rfl, fun _ => by simp [update]⟩
  exact exits.trans (Abides.cancelRequests _ _)

theorem receiveCancel_abides (turn : Turn) (message : Message) :
    Abides turn (turn.receiveCancel message) := by
  unfold receiveCancel
  split
  · exact Abides.refuse turn _ _
  · exact Abides.cancelRequests turn _
  · exact Abides.refl turn

theorem receiveFormatting_abides (turn : Turn) (origin : Nat) (message : Message) :
    Abides turn (turn.receiveFormatting origin message) := by
  apply guarded_abides
  intro request
  split
  · next uri tabSize given =>
      unfold answerFormatting
      split
      · exact Abides.reply turn request _
      · next document held =>
          have serves : Serves .anything 0 turn (turn.format origin request tabSize document) :=
            format_serves turn origin request tabSize document
          exact serves.toSteady.abides
  · exact Abides.refuse turn _ _

end Turn

/-- Folders are told of by one method only. -/
theorem folderChange?_of_reader? {message : Message} {read : Json → Option Notification}
    {change : Params.Folders} (reads : Notification.reader? message.method = some read)
    (given : message.params.bind read = some (.foldersChanged change)) (told : message.id = none) :
    (Event.received (.message message)).folderChange? = some change := by
  obtain ⟨method, id, params⟩ := message
  obtain ⟨value, rfl, taken⟩ := Option.bind_eq_some_iff.mp given
  simp only at reads told taken
  subst told
  unfold Notification.reader? at reads
  split at reads
  all_goals
    first
    | cases reads
      obtain ⟨part, own, same⟩ := Option.map_eq_some_iff.mp taken
      first
      | cases same
        simpa [Event.folderChange?] using own
      | cases same
    | skip
  split at reads
  · cases reads
    cases taken
  · cases reads

namespace Turn

variable {turn middle next : Turn}

/-- A notification is read by its method, and only one method speaks of folders. -/
theorem receiveNotification_abides (origin : Nat) {message : Message}
    {read : Json → Option Notification} (reads : Notification.reader? message.method = some read)
    (unmoved : (Event.received (.message message)).folderChange? = none) :
    Abides turn (turn.receiveNotification origin message read) := by
  unfold receiveNotification
  split
  · exact Abides.refuse turn _ _
  · exact Abides.refuse turn _ _
  · next serves told =>
      split
      · next notification given =>
          apply heed_abides turn origin notification
          intro change same
          rw [same] at given
          rw [folderChange?_of_reader? reads given told] at unmoved
          cases unmoved
      · exact Abides.refl turn

/-- A message that says nothing of folders leaves the list alone. -/
theorem receiveMessage_abides {message : Message}
    (idle : turn.server.phase = .fresh → (Event.received (.message message)).beginning? = none)
    (unmoved : (Event.received (.message message)).folderChange? = none) :
    Abides turn (turn.receiveMessage message) := by
  have counted : Abides turn turn.counted := ⟨rfl, id⟩
  apply counted.trans
  unfold receiveMessage
  simp only
  split
  · next begins => exact receiveBeginning_abides begins idle
  · exact receiveShutdown_abides _ _
  · exact receiveExit_abides _
  · exact receiveCancel_abides _ _
  · exact receiveFormatting_abides _ _ _
  · split
    · next reads => exact receiveNotification_abides _ reads unmoved
    · apply guarded_abides
      intro request
      split
      · exact Abides.refuse _ _ _
      · exact Abides.refuse _ _ _
    · unfold receiveUnknown
      split
      · exact Abides.refl _
      · exact Abides.refuse _ _ _

theorem receiveAnswer_abides (turn : Turn) (id : RpcId) (result : Option Json) (eager : Bool) :
    Abides turn (turn.receiveAnswer id result eager) := by
  unfold receiveAnswer
  split
  · next question =>
      simp only
      split
      · exact Abides.refl turn
      · next asker asks =>
          have erased : Abides turn (turn.update fun server =>
              { server with askers := server.askers.erase question.toNat }) := ⟨rfl, id⟩
          apply erased.trans
          split
          · exact (deliver_steady _ _ _ _).abides
          · split
            · exact Abides.choose _ _ _ _
            · exact Abides.refl _
  · exact Abides.refl turn

/-- Whatever happens, the folders stay as long as nothing is said of them. -/
theorem step_abides (turn : Turn) (event : Event) (eager : Bool)
    (idle : turn.server.phase = .fresh → event.beginning? = none)
    (unmoved : event.folderChange? = none) : Abides turn (turn.step event eager) := by
  cases event with
  | received incoming =>
      cases incoming with
      | message message =>
          simp only [step, receive]
          split
          · exact Abides.refl turn
          · exact receiveMessage_abides idle unmoved
      | answer id result => exact receiveAnswer_abides turn id result eager
  | ended job result => exact (deliver_steady turn job _ eager).abides
  | removed job result => exact (deliver_steady turn job _ eager).abides
  | woken job =>
      have serves : Serves .anything 0 turn (turn.wake job eager) := wake_serves turn job eager
      exact serves.toSteady.abides

/-- A notification about folders is heeded by a server that serves; another one counts it, and one
that has exited does not even do that. -/
theorem step_folderChange {event : Event} {change : Params.Folders} (eager : Bool)
    (told : event.folderChange? = some change) :
    turn.step event eager =
      if turn.server.phase = .exited then turn
      else if turn.server.phase = .ready then turn.counted.heedFolders change
      else turn.counted := by
  unfold Event.folderChange? at told
  split at told
  · next message =>
      obtain ⟨method, id, params⟩ := message
      split at told
      · next known =>
          obtain ⟨rfl, rfl⟩ := known
          obtain ⟨given, rfl, read⟩ := Option.bind_eq_some_iff.mp told
          have received :
              turn.receiveMessage ⟨"workspace/didChangeWorkspaceFolders", none, some given⟩ =
                turn.counted.receiveNotification turn.server.messages
                  ⟨"workspace/didChangeWorkspaceFolders", none, some given⟩
                  fun params => (Params.folders? params).map .foldersChanged := rfl
          rw [step, receive, received]
          cases phase : turn.server.phase <;>
            simp [receiveNotification, counted, phase, Phase.refusal?, update, read, heed, refuse]
      · cases told
  · cases told

end Turn

/-! ## Turns and courses -/

namespace Server

variable {server : Server} {history : List Deed} {event : Event} {folder : Path}

/-- A message that changes the folders is not the first one. -/
theorem beginning?_of_folderChange? {change : Params.Folders}
    (told : event.folderChange? = some change) : event.beginning? = none := by
  unfold Event.folderChange? at told
  split at told
  · next message =>
      split at told
      · next known => simp [Event.beginning?, known.1]
      · cases told
  · cases told

/-- What neither begins nor changes folders opens none. -/
theorem not_opens (idle : server.phase = .fresh → event.beginning? = none)
    (unmoved : server.phase = .ready → event.folderChange? = none) :
    ¬ server.Opens event folder := by
  intro opens
  cases opens with
  | begins params path fresh given names same =>
      rw [idle fresh] at given
      cases given
  | added change uri path ready given listed leads same =>
      rw [unmoved ready] at given
      cases given

theorem not_closes (unmoved : server.phase = .ready → event.folderChange? = none) :
    ¬ server.Closes event folder := by
  intro closes
  cases closes with
  | removed change uri path ready given listed leads same =>
      rw [unmoved ready] at given
      cases given

/-- Once the server serves, opened are the folders that a change adds. -/
theorem opens_iff_added {change : Params.Folders} (ready : server.phase = .ready)
    (told : event.folderChange? = some change) :
    server.Opens event folder ↔
      ∃ uri ∈ change.added, ∃ path, uri.toPath? = some path ∧ path.Same folder := by
  constructor
  · intro opens
    cases opens with
    | begins params path fresh given names same =>
        rw [beginning?_of_folderChange? told] at given
        cases given
    | added other uri path _ given listed leads same =>
        cases told.symm.trans given
        exact ⟨uri, listed, path, leads, same⟩
  · intro added
    obtain ⟨uri, listed, path, leads, same⟩ := added
    exact .added change uri path ready told listed leads same

/-- Once the server serves, closed are the folders that a change removes. -/
theorem closes_iff_removed {change : Params.Folders} (ready : server.phase = .ready)
    (told : event.folderChange? = some change) :
    server.Closes event folder ↔
      ∃ uri ∈ change.removed, ∃ path, uri.toPath? = some path ∧ path.Same folder := by
  constructor
  · intro closes
    cases closes with
    | removed other uri path _ given listed leads same =>
        cases told.symm.trans given
        exact ⟨uri, listed, path, leads, same⟩
  · intro removed
    obtain ⟨uri, listed, path, leads, same⟩ := removed
    exact .removed change uri path ready told listed leads same

/-- A server that has not begun lists no folders. -/
def Unlisted (server : Server) : Prop :=
  server.phase = .fresh → server.folders = []

/-- One turn, for one folder: told to be open it is listed, told to be removed it is not, and else
nothing has changed. -/
structure Follows (server next : Server) (event : Event) : Prop where
  unlisted : next.Unlisted
  lists : ∀ folder, next.Lists folder ↔
    server.Opens event folder ∨ ¬ server.Closes event folder ∧ server.Lists folder

/-- Nothing is said, and nothing changes. -/
theorem Follows.still {next : Server} (unlisted : server.Unlisted)
    (folders : next.folders = server.folders)
    (serves : server.phase ≠ .fresh → next.phase ≠ .fresh)
    (idle : server.phase = .fresh → event.beginning? = none)
    (unmoved : server.phase = .ready → event.folderChange? = none) :
    server.Follows next event := by
  constructor
  · intro fresh
    rw [folders]
    apply unlisted
    by_contra begun
    exact serves begun fresh
  · intro folder
    have same : next.Lists folder ↔ server.Lists folder := by
      rw [Lists, Lists, folders]
    rw [same]
    constructor
    · intro lists
      exact Or.inr ⟨not_closes unmoved, lists⟩
    · intro told
      rcases told with opens | ⟨-, lists⟩
      · exact absurd opens (not_opens idle unmoved)
      · exact lists

/-- A server that is told to begin lists the folders that it is given. -/
theorem Follows.begins {next : Server} {params : Params.Beginning} (unlisted : server.Unlisted)
    (fresh : server.phase = .fresh) (given : event.beginning? = some params)
    (begun : next.phase = .ready) (folders : next.folders = initialFolders params) :
    server.Follows next event := by
  constructor
  · intro stays
    rw [begun] at stays
    cases stays
  · intro folder
    rw [Lists, folders]
    constructor
    · intro lists
      obtain ⟨path, member, same⟩ := lists
      exact Or.inl (.begins params path fresh given (mem_initialFolders.mp member) same)
    · intro told
      rcases told with opens | ⟨-, held, member, -⟩
      · cases opens with
        | begins other path _ givenToo names same =>
            cases given.symm.trans givenToo
            exact ⟨path, mem_initialFolders.mpr names, same⟩
        | added _ _ _ ready =>
            rw [fresh] at ready
            cases ready
      · rw [unlisted fresh] at member
        cases member

/-- A server that serves takes in a change. -/
theorem Follows.changes {next : Server} {change : Params.Folders} (ready : server.phase = .ready)
    (told : event.folderChange? = some change) (serves : next.phase = .ready)
    (folders : next.folders = Turn.changedFolders server.folders change) :
    server.Follows next event := by
  constructor
  · intro fresh
    rw [serves] at fresh
    cases fresh
  · intro folder
    rw [Lists, folders, Turn.mem_changedFolders, opens_iff_added ready told,
      closes_iff_removed ready told]
    rfl

/-- Every turn lists the folders as it is told. -/
theorem turnIn_follows (sound : Sound server history) (unlisted : server.Unlisted)
    (round : Round) : server.Follows (server.turnIn round).server round.event := by
  rw [turnIn, turnOn, step]
  generalize turn? : Turn.mk (server.arranged round.rank) round.disk [] = turn
  have phase : turn.server.phase = server.phase := by rw [← turn?]; rfl
  have folders : turn.server.folders = server.folders := by rw [← turn?]; rfl
  cases told : round.event.folderChange? with
  | some change =>
      have unbegun := beginning?_of_folderChange? told
      rw [Turn.step_folderChange round.eager told]
      by_cases ready : server.phase = .ready
      · rw [if_neg (by simp [phase, ready]), if_pos (phase.trans ready)]
        apply Follows.changes ready told
        · exact phase.trans ready
        · change Turn.changedFolders turn.server.folders change = _
          rw [folders]
      · have still (next : Turn) (same : next.server.folders = turn.server.folders)
            (stays : next.server.phase = turn.server.phase) :
            server.Follows next.server round.event := by
          apply Follows.still unlisted (same.trans folders)
          · rw [stays, phase]
            exact id
          · exact fun _ => unbegun
          · exact fun serves => absurd serves ready
        split
        · exact still turn rfl rfl
        · rw [if_neg (by rwa [phase])]
          exact still turn.counted rfl rfl
  | none =>
      by_cases begins : server.phase = .fresh ∧ ∃ params, round.event.beginning? = some params
      · obtain ⟨fresh, params, given⟩ := begins
        have idle : ∀ request, turn.server.isPending request = false := by
          rw [← turn?]
          exact sound.unasked fresh
        obtain ⟨id, same⟩ := Turn.step_beginning round.eager given (phase.trans fresh) idle
        rw [same, Turn.beginServing_server]
        exact Follows.begins unlisted fresh given rfl rfl
      · have idle (fresh : server.phase = .fresh) : round.event.beginning? = none := by
          rw [Option.eq_none_iff_forall_ne_some]
          exact fun params given => begins ⟨fresh, params, given⟩
        have abides := Turn.step_abides turn round.event round.eager
          (fun fresh => idle (phase.symm.trans fresh)) told
        apply Follows.still unlisted (abides.folders.trans folders)
        · rw [← phase]
          exact abides.serves
        · exact idle
        · exact fun _ => told

/-! ### The last mention -/

/-- The last mention of a folder is in the last event, or it is the last one before. -/
theorem lastOpened_concat (server : Server) (rounds : List Round) (last : Round) (folder : Path) :
    server.LastOpened (rounds ++ [last]) folder ↔
      (server.course rounds).1.Opens last.event folder ∨
        ¬ (server.course rounds).1.Closes last.event folder ∧ server.LastOpened rounds folder := by
  constructor
  · intro opened
    obtain ⟨before, round, after, split, opens, quiet⟩ := opened
    cases after using List.reverseRecOn with
    | nil =>
        obtain ⟨rfl, same⟩ := List.append_inj' split rfl
        cases same
        exact Or.inl opens
    | append_singleton meanwhile final =>
        rw [← List.cons_append, ← List.append_assoc] at split
        obtain ⟨rfl, same⟩ := List.append_inj' split rfl
        cases same
        have silent := quiet meanwhile last [] rfl
        rw [not_or] at silent
        refine Or.inr ⟨silent.2, before, round, meanwhile, rfl, opens, ?_⟩
        intro between next rest within
        apply quiet between next (rest ++ [last])
        rw [within, List.append_assoc, List.cons_append]
  · intro told
    by_cases opens : (server.course rounds).1.Opens last.event folder
    · refine ⟨rounds, last, [], rfl, opens, ?_⟩
      intro meanwhile next rest within
      exact absurd within.symm (by simp)
    · obtain ⟨kept, before, round, after, split, opened, quiet⟩ := told.resolve_left opens
      refine ⟨before, round, after ++ [last], by simp [split], opened, ?_⟩
      intro meanwhile next rest within
      cases rest using List.reverseRecOn with
      | nil =>
          obtain ⟨rfl, same⟩ := List.append_inj' within rfl
          cases same
          rw [← split, not_or]
          exact ⟨opens, kept⟩
      | append_singleton rest final =>
          rw [← List.cons_append, ← List.append_assoc] at within
          exact quiet meanwhile next rest (List.append_inj' within rfl).1

/-- After every course the folders listed are those that were open where they were mentioned last. -/
theorem course_lists (sound : Sound server []) (unlisted : server.Unlisted)
    (empty : server.folders = []) (rounds : List Round) :
    (server.course rounds).1.Unlisted ∧
      ∀ folder, (server.course rounds).1.Lists folder ↔ server.LastOpened rounds folder := by
  induction rounds using List.reverseRecOn with
  | nil =>
      refine ⟨unlisted, ?_⟩
      intro folder
      constructor
      · intro lists
        obtain ⟨held, member, -⟩ := lists
        rw [show (server.course []).1.folders = [] from empty] at member
        cases member
      · intro opened
        obtain ⟨before, round, after, split, -⟩ := opened
        exact absurd split (by simp)
  | append_singleton rounds last inductionHypothesis =>
      obtain ⟨before, lists⟩ := inductionHypothesis
      have follows := turnIn_follows (course_sound sound rounds) before last
      rw [course_concat]
      refine ⟨follows.unlisted, ?_⟩
      intro folder
      rw [follows.lists, lastOpened_concat, lists]

/-- The folders of a workspace: which ones are listed, and which one is used for a document. -/
structure KeepsFolders (server : Server) (rounds : List Round) : Prop where
  /-- A folder is listed when it was open where it was mentioned last. -/
  listed : ∀ folder, (server.course rounds).1.Lists folder ↔ server.LastOpened rounds folder
  /-- Whichever folders are listed, a document belongs to the innermost one of them. -/
  used : ∀ (document : Document) (folders : List Path), document.UsesInnermost folders

/-- In every course of events the list holds exactly the folders that were opened last. -/
theorem keepsFolders (environ : Variables) (configFile : Option Path) (venv : Path)
    (store : Store) (rounds : List Round) :
    (start environ configFile venv store).KeepsFolders rounds := by
  have sound := start_sound environ configFile venv store
  have lists := course_lists sound (fun _ => rfl) rfl rounds
  exact ⟨lists.2, Document.usesInnermost⟩

end Server

end TemplateLint
