import TemplateLint.Proofs.AkinSettings
import TemplateLint.Proofs.AlikeFiles
import TemplateLint.Server.Step

/-!
# Turns of servers that differ in choices

Two servers with different choices show different errors, and so they ask the editor different
things under different numbers, and have shown different popups last.  Apart from that they are
akin, as long as the same jobs wait for the editor, and each thing that a turn is made of takes two
turns that are akin to two turns that are akin.
Main exports: `Table.Rel`, `Server.awaiting`, `Server.Akin`, `Server.Aside`, `Deed.outline?`,
`Turn.Akin`, `Turn.Aside`, `Turn.Akin.report`, `Turn.Akin.popUp`.
-/

namespace TemplateLint

/-! ## Tables -/

/-- Pairs stand under the same keys in the same order, with related values. -/
abbrev Table.PairsRel {κ α : Type} (related : α → α → Prop) : List (κ × α) → List (κ × α) → Prop :=
  List.Forall₂ fun one two => two.1 = one.1 ∧ related one.2 two.2

/-- The tables have the same keys in the same order, and related values under them. -/
def Table.Rel {κ α : Type} (related : α → α → Prop) (table other : Table κ α) : Prop :=
  PairsRel related table.pairs other.pairs

namespace Table

variable {κ α : Type} {related : α → α → Prop} {table other : Table κ α} [DecidableEq κ]
  {pairs twins : List (κ × α)}

/-- In tables that are related entry by entry, both sides have an entry or neither has. -/
theorem find?_pairsRel (alike : PairsRel related pairs twins) (key : κ) :
    (find? key pairs = none ∧ find? key twins = none) ∨
      ∃ value twin, find? key pairs = some value ∧ find? key twins = some twin ∧
        related value twin := by
  induction alike with
  | nil => exact Or.inl ⟨rfl, rfl⟩
  | @cons pair twin rest others own later inductionHypothesis =>
      obtain ⟨name, value⟩ := pair
      obtain ⟨name, other⟩ := twin
      obtain ⟨rfl, holds⟩ := own
      by_cases here : name = key
      · exact Or.inr ⟨value, other, by simp [find?, here], by simp [find?, here], holds⟩
      · simpa [find?, here] using inductionHypothesis

theorem place_pairsRel (alike : PairsRel related pairs twins) (key : κ) {value twin : α}
    (own : related value twin) :
    PairsRel related (place key value pairs) (place key twin twins) := by
  induction alike with
  | nil => exact .cons ⟨rfl, own⟩ .nil
  | @cons pair twin rest others first later inductionHypothesis =>
      obtain ⟨name, value⟩ := pair
      obtain ⟨name, other⟩ := twin
      obtain ⟨rfl, holds⟩ := first
      by_cases here : name = key
      · simpa [place, here, own] using later
      · simpa [place, here, holds] using inductionHypothesis

theorem filter_pairsRel (alike : PairsRel related pairs twins) (key : κ) :
    PairsRel related (pairs.filter fun pair => pair.1 ≠ key)
      (twins.filter fun pair => pair.1 ≠ key) := by
  induction alike with
  | nil => exact .nil
  | @cons pair twin rest others first later inductionHypothesis =>
      obtain ⟨name, value⟩ := pair
      obtain ⟨name, other⟩ := twin
      obtain ⟨rfl, holds⟩ := first
      by_cases here : name = key
      · simpa [here] using inductionHypothesis
      · simpa [here, holds] using inductionHypothesis

namespace Rel

omit [DecidableEq κ] in
theorem refl (same : ∀ value, related value value) (table : Table κ α) : table.Rel related table :=
  List.forall₂_same.mpr fun pair _ => ⟨rfl, same pair.2⟩

/-- A number is held in both tables or in neither one. -/
theorem get?_cases (alike : table.Rel related other) (key : κ) :
    (table.get? key = none ∧ other.get? key = none) ∨
      ∃ value twin, table.get? key = some value ∧ other.get? key = some twin ∧
        related value twin :=
  find?_pairsRel alike key

theorem put (alike : table.Rel related other) (key : κ) {value twin : α}
    (own : related value twin) : (table.put key value).Rel related (other.put key twin) :=
  place_pairsRel alike key own

theorem erase (alike : table.Rel related other) (key : κ) :
    (table.erase key).Rel related (other.erase key) :=
  filter_pairsRel alike key

/-- A change that keeps entries related keeps the tables so. -/
theorem modify (alike : table.Rel related other) (key : κ) {change : α → α}
    (keeps : ∀ value twin, related value twin → related (change value) (change twin)) :
    (table.modify key change).Rel related (other.modify key change) := by
  unfold Table.modify
  obtain ⟨here, there⟩ | ⟨value, twin, here, there, own⟩ := alike.get?_cases key
  · rw [here, there]
    exact alike
  · rw [here, there]
    exact alike.put key (keeps value twin own)

end Rel

end Table

/-! ## Questions -/

namespace Table

variable {κ α : Type} [DecidableEq κ] {table : Table κ α} {pairs : List (κ × α)} {key : κ}
  {value : α}

theorem place_of_absent (value : α) (absent : find? key pairs = none) :
    place key value pairs = pairs ++ [(key, value)] := by
  induction pairs with
  | nil => rfl
  | cons head rest inductionHypothesis =>
      obtain ⟨name, old⟩ := head
      by_cases here : name = key
      · simp [find?, here] at absent
      · rw [find?, if_neg here] at absent
        rw [place, if_neg here, inductionHypothesis absent, List.cons_append]

theorem perm_filter_of_held (distinct : (pairs.map Prod.fst).Nodup)
    (held : find? key pairs = some value) :
    pairs.Perm ((key, value) :: pairs.filter fun pair => pair.1 ≠ key) := by
  induction pairs with
  | nil => cases held
  | cons head rest inductionHypothesis =>
      obtain ⟨name, old⟩ := head
      rw [List.map_cons, List.nodup_cons] at distinct
      by_cases here : name = key
      · subst here
        have others : rest.filter (fun pair => pair.1 ≠ name) = rest :=
          List.filter_eq_self.mpr fun pair member => decide_eq_true fun same =>
            distinct.1 (List.mem_map.mpr ⟨pair, member, same⟩)
        have own : old = value := by simpa [find?] using held
        rw [List.filter_cons_of_neg (by simp), others, own]
      · rw [find?, if_neg here] at held
        rw [List.filter_cons_of_pos (by simpa using here)]
        exact ((inductionHypothesis distinct.2 held).cons _).trans (.swap _ _ _)

/-- A key that is new comes last. -/
theorem pairs_put (value : α) (absent : table.get? key = none) :
    (table.put key value).pairs = table.pairs ++ [(key, value)] :=
  place_of_absent value absent

/-- What is erased stood in its place. -/
theorem pairs_perm_erase (held : table.get? key = some value) :
    table.pairs.Perm ((key, value) :: (table.erase key).pairs) :=
  perm_filter_of_held table.distinct held

end Table

/-- The job that an answer goes to. -/
def Asker.job? : Asker → Option Nat
  | .job number => some number
  | .popup .. => none

namespace Server

variable {server : Server} {question : Nat} {asker : Asker}

/-- The jobs that have asked for settings and have not been answered. -/
def awaiting (server : Server) : List Nat :=
  server.askers.pairs.filterMap fun pair => pair.2.job?

/-- No number is in use under which something will be asked. -/
def AsksAnew (server : Server) : Prop :=
  ∀ question, server.nextQuestion ≤ question → server.askers.get? question = none

/-- The server after it has asked something. -/
def asking (server : Server) (asker : Asker) : Server :=
  { server with
    askers := server.askers.put server.nextQuestion asker
    nextQuestion := server.nextQuestion + 1 }

/-- The server after a question has been answered. -/
def answered (server : Server) (question : Nat) : Server :=
  { server with askers := server.askers.erase question }

/-- The number of a question was not asked before. -/
theorem AsksAnew.asking (anew : server.AsksAnew) (asker : Asker) :
    (server.asking asker).AsksAnew := by
  intro question later
  have later : server.nextQuestion + 1 ≤ question := later
  have other : question ≠ server.nextQuestion := by omega
  simp only [Server.asking, Table.get?_put, if_neg other]
  exact anew question (by omega)

theorem AsksAnew.answered (anew : server.AsksAnew) (question : Nat) :
    (server.answered question).AsksAnew := by
  intro number later
  simp only [Server.answered, Table.get?_erase, anew number later, ite_self]

/-- The one who asks last is the last to await an answer. -/
theorem AsksAnew.awaiting_asking (anew : server.AsksAnew) (asker : Asker) :
    (server.asking asker).awaiting = server.awaiting ++ asker.job?.toList := by
  simp only [awaiting, Server.asking, Table.pairs_put asker (anew _ le_rfl), List.filterMap_append]
  cases asker with
  | job number => rfl
  | popup details folder => rfl

/-- Who is answered awaits nothing more, and all others still do. -/
theorem awaiting_answered (held : server.askers.get? question = some asker) :
    server.awaiting.Perm (asker.job?.toList ++ (server.answered question).awaiting) := by
  have erased := (Table.pairs_perm_erase held).filterMap fun pair => pair.2.job?
  cases asker with
  | job number => exact erased
  | popup details folder => exact erased

/-- Whoever waits for the editor has asked under some number. -/
theorem asked_of_awaiting {number : Nat} (awaits : number ∈ server.awaiting) :
    ∃ question, server.askers.get? question = some (.job number) := by
  obtain ⟨⟨question, asker⟩, listed, same⟩ := List.mem_filterMap.mp awaits
  cases asker with
  | job name =>
      cases same
      exact ⟨question, Table.get?_of_mem listed⟩
  | popup details folder => cases same

end Server

/-! ## Servers -/

/-- The servers differ at most in choices, in what was shown last and is being asked, and in the
settings of jobs, which are akin. -/
structure Server.Akin (server other : Server) : Prop where
  jobs : server.jobs.Rel Job.Akin other.jobs
  tellings : server.tellings.Rel Telling.Akin other.tellings
  /-- The same jobs wait for answers. -/
  awaiting : server.awaiting.Perm other.awaiting
  anew : server.AsksAnew
  again : other.AsksAnew
  same : ∃ jobs tellings lastError askers nextQuestion store,
    other = { server with jobs, tellings, lastError, askers, nextQuestion, store }

/-- The server differs at most in choices, and in what was shown last and is being asked, but the
same jobs wait for answers. -/
structure Server.Aside (server next : Server) : Prop where
  anew : server.AsksAnew → next.AsksAnew
  awaiting : server.AsksAnew → server.awaiting.Perm next.awaiting
  same : ∃ lastError askers nextQuestion store,
    next = { server with lastError, askers, nextQuestion, store }

namespace Server.Aside

variable {server next further : Server}

theorem of_unasked (server : Server) (lastError : Option String) (store : Store) :
    Aside server { server with lastError, store } :=
  ⟨id, fun _ => .refl _, _, _, _, _, rfl⟩

/-- One thing aside after another is still aside. -/
theorem trans (one : server.Aside next) (two : next.Aside further) : server.Aside further := by
  obtain ⟨anew, awaiting, _, _, _, _, rfl⟩ := one
  obtain ⟨later, more, lastError, askers, nextQuestion, store, rfl⟩ := two
  exact ⟨fun before => later (anew before),
    fun before => (awaiting before).trans (more (anew before)),
    lastError, askers, nextQuestion, store, rfl⟩

/-- To ask about a choice. -/
theorem asking (server : Server) (details : String) (folder : Option Path) :
    Aside server (server.asking (.popup details folder)) := by
  refine ⟨fun anew => anew.asking _, fun anew => ?_, _, _, _, _, rfl⟩
  rw [anew.awaiting_asking]
  exact .of_eq (List.append_nil _).symm

/-- To be answered about a choice. -/
theorem answered {question : Nat} {details : String} {folder : Option Path}
    (held : server.askers.get? question = some (.popup details folder)) :
    server.Aside (server.answered question) :=
  ⟨fun anew => anew.answered question, fun _ => awaiting_answered held, _, _, _, _, rfl⟩

end Server.Aside

namespace Server.Akin

variable {server other next further : Server}

/-- A server is akin to itself with other choices. -/
theorem of_store (server : Server) (anew : server.AsksAnew) (store : Store) :
    Akin server { server with store } :=
  ⟨.refl .refl _, .refl .refl _, .refl _, anew, anew, _, _, _, _, _, _, rfl⟩

/-- What has to do with popups and choices makes no difference. -/
theorem aside (akin : server.Akin other) (one : server.Aside next) (two : other.Aside further) :
    next.Akin further := by
  obtain ⟨related, telling, awaiting, before, again, _, _, _, _, _, _, rfl⟩ := akin
  obtain ⟨anew, here, _, _, _, _, rfl⟩ := one
  obtain ⟨later, there, lastError, askers, nextQuestion, store, rfl⟩ := two
  exact ⟨related, telling, ((here before).symm.trans awaiting).trans (there again), anew before,
    later again, _, _, lastError, askers, nextQuestion, store, rfl⟩

/-- A change that has nothing to do with jobs and with what the editor is shown and asked. -/
theorem change (akin : server.Akin other) (change : Server → Server)
    (apart : ∀ (server : Server) jobs tellings lastError askers nextQuestion store,
      change { server with jobs, tellings, lastError, askers, nextQuestion, store } =
        { change server with jobs, tellings, lastError, askers, nextQuestion, store }) :
    (change server).Akin (change other) := by
  have own (server : Server) := apart server server.jobs server.tellings server.lastError
    server.askers server.nextQuestion server.store
  have jobs (server : Server) : (change server).jobs = server.jobs :=
    (congrArg Server.jobs (own server)).trans rfl
  have tellings (server : Server) : (change server).tellings = server.tellings :=
    (congrArg Server.tellings (own server)).trans rfl
  have askers (server : Server) : (change server).askers = server.askers :=
    (congrArg Server.askers (own server)).trans rfl
  have questions (server : Server) : (change server).nextQuestion = server.nextQuestion :=
    (congrArg Server.nextQuestion (own server)).trans rfl
  obtain ⟨related, telling, awaiting, anew, again, same⟩ := akin
  constructor
  · rw [jobs, jobs]
    exact related
  · rw [tellings, tellings]
    exact telling
  · rw [Server.awaiting, Server.awaiting, askers, askers]
    exact awaiting
  · rw [Server.AsksAnew, askers, questions]
    exact anew
  · rw [Server.AsksAnew, askers, questions]
    exact again
  · obtain ⟨jobs, tellings, lastError, askers, nextQuestion, store, rfl⟩ := same
    exact ⟨jobs, tellings, lastError, askers, nextQuestion, store, apart _ _ _ _ _ _ _⟩

/-- Whatever jobs there are, as long as they are akin. -/
theorem with_jobs (akin : server.Akin other) {jobs twins : Table Nat Job}
    (related : jobs.Rel Job.Akin twins) :
    Server.Akin { server with jobs } { other with jobs := twins } := by
  obtain ⟨-, telling, awaiting, anew, again, _, _, lastError, askers, nextQuestion, store, rfl⟩ :=
    akin
  exact ⟨related, telling, awaiting, anew, again, twins, _, lastError, askers, nextQuestion, store,
    rfl⟩

/-- Whatever is still to be told, as long as it is the same. -/
theorem with_tellings (akin : server.Akin other) {tellings twins : Table Nat Telling}
    (related : tellings.Rel Telling.Akin twins) :
    Server.Akin { server with tellings } { other with tellings := twins } := by
  obtain ⟨jobs, -, awaiting, anew, again, _, _, lastError, askers, nextQuestion, store, rfl⟩ := akin
  exact ⟨jobs, related, awaiting, anew, again, _, twins, lastError, askers, nextQuestion, store,
    rfl⟩

/-- Both servers ask for the settings of a document. -/
theorem asking (akin : server.Akin other) (number : Nat) :
    (server.asking (.job number)).Akin (other.asking (.job number)) := by
  obtain ⟨related, telling, awaiting, anew, again, jobs, tellings, lastError, askers, nextQuestion,
    store, rfl⟩ := akin
  refine ⟨related, telling, ?_, anew.asking _, again.asking _, jobs, tellings, lastError, _, _,
    store, rfl⟩
  rw [anew.awaiting_asking, again.awaiting_asking]
  exact awaiting.append_right _

/-- Both servers are told what a job has asked for. -/
theorem answered (akin : server.Akin other) {question twin number : Nat}
    (here : server.askers.get? question = some (.job number))
    (there : other.askers.get? twin = some (.job number)) :
    (server.answered question).Akin (other.answered twin) := by
  have own := (awaiting_answered here).symm.trans (akin.awaiting.trans (awaiting_answered there))
  obtain ⟨related, telling, awaiting, anew, again, jobs, tellings, lastError, askers, nextQuestion,
    store, rfl⟩ := akin
  exact ⟨related, telling, (List.perm_cons number).mp own, anew.answered question,
    again.answered twin, jobs, tellings, lastError, _, nextQuestion, store, rfl⟩

end Server.Akin

/-! ## Deeds -/

/-- A job without its settings. -/
def Job.bare (job : Job) : Job :=
  { job with settings := .empty }

/-- What is left of a deed when popups, the details that are shown on demand, the numbers of
questions and the settings of jobs are left out. -/
def Deed.outline? : Deed → Option Deed
  | .effect (.ask _ (.choice ..)) => none
  | .effect (.ask _ (.settings uri)) => some (.effect (.ask 0 (.settings uri)))
  | .effect (.tell (.display ..)) => none
  | .told number finding => some (.told number ⟨finding.job.bare, finding.output⟩)
  | .logged number job failure => some (.logged number job.bare failure)
  | .considered number job failure => some (.considered number job.bare failure)
  | deed => some deed

namespace Job.Akin

variable {job other : Job}

theorem bare_eq (akin : job.Akin other) : other.bare = job.bare := by
  obtain ⟨settings, -, rfl⟩ := akin
  rfl

/-- A log is the same for akin jobs, up to the settings of the job. -/
theorem logged_eq (akin : job.Akin other) (number : Nat) (failure : Failure) :
    (Deed.logged number other failure).outline? = (Deed.logged number job failure).outline? := by
  rw [Deed.outline?, Deed.outline?, akin.bare_eq]

/-- What is considered for akin jobs is the same, up to the settings of the job. -/
theorem considered_eq (akin : job.Akin other) (number : Nat) (failure : Failure) :
    (Deed.considered number other failure).outline? =
      (Deed.considered number job failure).outline? := by
  rw [Deed.outline?, Deed.outline?, akin.bare_eq]

end Job.Akin

theorem Finding.Akin.outline?_eq {finding other : Finding} (akin : finding.Akin other)
    (number : Nat) : (Deed.told number other).outline? = (Deed.told number finding).outline? := by
  rw [Deed.outline?, Deed.outline?, akin.job.bare_eq, akin.output]

/-! ## Turns -/

namespace Turn

/-- What was done so far, in outline. -/
def outline (turn : Turn) : List Deed :=
  turn.deeds.filterMap Deed.outline?

/-- The servers are akin, the files differ in what they hold at most, and the same was done. -/
structure Akin (turn other : Turn) : Prop where
  server : turn.server.Akin other.server
  disk : turn.disk.Alike other.disk
  outline : other.outline = turn.outline

/-- Nothing was done but what has to do with popups and choices. -/
structure Aside (turn next : Turn) : Prop where
  server : turn.server.Aside next.server
  outline : next.outline = turn.outline

variable {turn other next further : Turn} {number : Nat} {job twin : Job}

theorem outline_note (turn : Turn) (deed : Deed) :
    (turn.note deed).outline = turn.outline ++ deed.outline?.toList := by
  rw [outline, note, List.filterMap_append]
  rfl

namespace Aside

/-- What was shown last may change, and so may choices. -/
theorem of_unasked (turn : Turn) (lastError : Option String) (store : Store) (disk : Disk) :
    Aside turn ⟨{ turn.server with lastError, store }, disk, turn.deeds⟩ :=
  ⟨.of_unasked _ _ _, rfl⟩

theorem refl (turn : Turn) : Aside turn turn :=
  of_unasked turn _ _ _

theorem trans (one : Aside turn next) (two : Aside next further) : Aside turn further :=
  ⟨one.server.trans two.server, two.outline.trans one.outline⟩

/-- To do something that is left out. -/
theorem note (turn : Turn) {deed : Deed} (leftOut : deed.outline? = none) :
    Aside turn (turn.note deed) := by
  refine ⟨.of_unasked _ _ _, ?_⟩
  rw [outline_note, leftOut]
  exact List.append_nil _

/-- To show the details of an error. -/
theorem display (turn : Turn) (gravity : Gravity) (details : String) :
    Aside turn (turn.tell (.display gravity details)) := by
  unfold Turn.tell
  split
  · exact .refl turn
  · exact .note turn rfl

/-- To ask about a choice. -/
theorem ask (turn : Turn) (details : String) (folder : Option Path) (message : String)
    (actions : List String) :
    Aside turn (turn.ask (.popup details folder) (.choice message actions)) := by
  unfold Turn.ask
  split
  · exact .refl turn
  · have asked : Aside turn (turn.update fun server => server.asking (.popup details folder)) :=
      ⟨.asking _ _ _, rfl⟩
    exact asked.trans (.note _ rfl)

theorem suppress (turn : Turn) (scope : Scope) : Aside turn (turn.suppress scope) := by
  unfold Turn.suppress
  split
  · exact .of_unasked turn _ _ _
  · exact .of_unasked turn _ _ _

theorem choose (turn : Turn) (details : String) (folder : Option Path) (action : PopupAction) :
    Aside turn (turn.choose details folder action) := by
  unfold Turn.choose
  split
  · exact .display turn _ _
  · exact .suppress turn _
  · exact .refl turn
  · exact .suppress turn _

end Aside

/-- Once it is considered whether to show an error, it is shown or not. -/
theorem popUp_aside (turn : Turn) (number : Nat) (job : Job) (failure : Failure) :
    Aside (turn.note (.considered number job failure)) (turn.popUp number job failure) ∧
      (turn.popUp number job failure).disk = turn.disk := by
  have asked (turn : Turn) (asker : Asker) (question : Question) :
      (turn.ask asker question).disk = turn.disk := by
    unfold Turn.ask
    split
    · rfl
    · rfl
  unfold popUp
  simp only
  split
  · exact ⟨.refl _, rfl⟩
  · split
    · exact ⟨.refl _, rfl⟩
    · constructor
      · have shown : Aside (turn.note (.considered number job failure))
            ((turn.note (.considered number job failure)).update fun server =>
              { server with lastError := some failure.message }) := .of_unasked _ _ _ _
        exact shown.trans (.ask _ _ _ _ _)
      · rw [asked]
        rfl

namespace Akin

variable (akin : turn.Akin other)
include akin

/-- What has to do with popups and choices makes no difference. -/
theorem aside (one : Aside turn next) (two : Aside other further)
    (disk : next.disk.Alike further.disk) : next.Akin further := by
  exact ⟨akin.server.aside one.server two.server, disk,
    two.outline.trans (akin.outline.trans one.outline.symm)⟩

/-- What has nothing to do with jobs and with what the editor is shown and asked is the same. -/
theorem read {α : Type} {reads : Server → α}
    (apart : ∀ (server : Server) jobs tellings lastError askers nextQuestion store,
      reads { server with jobs, tellings, lastError, askers, nextQuestion, store } =
        reads server) :
    reads other.server = reads turn.server := by
  obtain ⟨jobs, tellings, lastError, askers, nextQuestion, store, same⟩ := akin.server.same
  rw [same, apart]

theorem environ : other.server.environ = turn.server.environ :=
  akin.read fun _ _ _ _ _ _ _ => rfl

theorem locator : other.server.locator = turn.server.locator :=
  akin.read fun _ _ _ _ _ _ _ => rfl

theorem phase : other.server.phase = turn.server.phase :=
  akin.read fun _ _ _ _ _ _ _ => rfl

theorem asksSettings : other.server.asksSettings = turn.server.asksSettings :=
  akin.read fun _ _ _ _ _ _ _ => rfl

theorem settings : other.server.settings = turn.server.settings :=
  akin.read fun _ _ _ _ _ _ _ => rfl

theorem client : other.server.client = turn.server.client :=
  akin.read fun _ _ _ _ _ _ _ => rfl

theorem configFile : other.server.configFile = turn.server.configFile :=
  akin.read fun _ _ _ _ _ _ _ => rfl

theorem folders : other.server.folders = turn.server.folders :=
  akin.read fun _ _ _ _ _ _ _ => rfl

theorem documents : other.server.documents = turn.server.documents :=
  akin.read fun _ _ _ _ _ _ _ => rfl

theorem inFlight : other.server.inFlight = turn.server.inFlight :=
  akin.read fun _ _ _ _ _ _ _ => rfl

theorem nextJob : other.server.nextJob = turn.server.nextJob :=
  akin.read fun _ _ _ _ _ _ _ => rfl

theorem messages : other.server.messages = turn.server.messages :=
  akin.read fun _ _ _ _ _ _ _ => rfl

theorem isolated : other.server.isolated = turn.server.isolated :=
  akin.read fun _ _ _ _ _ _ _ => rfl

theorem queue : other.server.queue = turn.server.queue :=
  akin.read fun _ _ _ _ _ _ _ => rfl

/-! ### Telling and asking -/

/-- A change of other parts of the server is made to both. -/
theorem update {change : Server → Server}
    (apart : ∀ (server : Server) jobs tellings lastError askers nextQuestion store,
      change { server with jobs, tellings, lastError, askers, nextQuestion, store } =
        { change server with jobs, tellings, lastError, askers, nextQuestion, store }) :
    (turn.update change).Akin (other.update change) :=
  ⟨akin.server.change _ apart, akin.disk, akin.outline⟩

/-- Deeds are on record in both turns, the same in outline. -/
theorem note {deed again : Deed} (same : again.outline? = deed.outline?) :
    (turn.note deed).Akin (other.note again) := by
  refine ⟨akin.server, akin.disk, ?_⟩
  rw [outline_note, outline_note, akin.outline, same]

theorem tell (notice : Notice) : (turn.tell notice).Akin (other.tell notice) := by
  unfold Turn.tell
  rw [akin.phase]
  split
  · exact akin
  · exact akin.note rfl

theorem reply (id : RpcId) (result : Except RpcError Json) :
    (turn.reply id result).Akin (other.reply id result) :=
  akin.note rfl

theorem publish (uri : Uri) (diagnostics : List Diagnostic) (version : Option Int) :
    (turn.publish uri diagnostics version).Akin (other.publish uri diagnostics version) := by
  unfold Turn.publish
  rw [akin.phase]
  split
  · exact akin.tell _
  · exact akin

/-- The settings of a document are asked for, under whatever number. -/
theorem askSettings (number : Nat) (uri : Uri) :
    (turn.ask (.job number) (.settings uri)).Akin (other.ask (.job number) (.settings uri)) := by
  unfold Turn.ask
  rw [akin.phase]
  split
  · exact akin
  · have asked : (turn.update fun server => server.asking (.job number)).Akin
        (other.update fun server => server.asking (.job number)) :=
      ⟨akin.server.asking number, akin.disk, akin.outline⟩
    exact asked.note rfl

/-! ### Jobs in the table -/

theorem jobs {change : Table Nat Job → Table Nat Job}
    (keeps : ∀ jobs twins, jobs.Rel Job.Akin twins → (change jobs).Rel Job.Akin (change twins)) :
    (turn.update fun server => { server with jobs := change server.jobs }).Akin
      (other.update fun server => { server with jobs := change server.jobs }) :=
  ⟨akin.server.with_jobs (keeps _ _ akin.server.jobs), akin.disk, akin.outline⟩

theorem hold (same : job.Akin twin) (wait : Wait) :
    (turn.hold number job wait).Akin (other.hold number twin wait) :=
  ⟨akin.server.with_jobs (akin.server.jobs.put number (same.with_wait wait)), akin.disk,
    akin.outline⟩

/-- Akin jobs start the same program. -/
theorem startFor (same : job.Akin twin) (wait : Wait) (launch : Launch) :
    (turn.startFor number job wait launch).Akin (other.startFor number twin wait launch) :=
  (akin.hold same wait).note rfl

theorem removeFor (same : job.Akin twin) :
    (turn.removeFor number job).Akin (other.removeFor number twin) := by
  unfold Turn.removeFor
  rw [akin.isolated]
  exact (akin.hold same .removal).note rfl

theorem tellings {change : Table Nat Telling → Table Nat Telling}
    (keeps : ∀ tellings twins, tellings.Rel Telling.Akin twins →
      (change tellings).Rel Telling.Akin (change twins)) :
    (turn.update fun server => { server with tellings := change server.tellings }).Akin
      (other.update fun server => { server with tellings := change server.tellings }) :=
  ⟨akin.server.with_tellings (keeps _ _ akin.server.tellings), akin.disk, akin.outline⟩

theorem pause (same : job.Akin twin) (rest : Rest) :
    (turn.pause number job rest).Akin (other.pause number twin rest) :=
  ⟨akin.server.with_tellings (akin.server.tellings.put number ⟨same, rfl⟩), akin.disk,
    akin.outline⟩

theorem silence (number : Nat) : (turn.silence number).Akin (other.silence number) :=
  akin.tellings fun _ _ related => related.erase number

theorem discharge (number : Nat) : (turn.discharge number).Akin (other.discharge number) :=
  akin.jobs fun _ _ related => related.erase number

theorem release (number : Nat) : (turn.release number).Akin (other.release number) :=
  akin.update fun _ _ _ _ _ _ _ => rfl

theorem killFor (number : Nat) : (turn.killFor number).Akin (other.killFor number) := by
  unfold Turn.killFor
  obtain ⟨here, there⟩ | ⟨job, twin, here, there, settings, -, rfl⟩ :=
    akin.server.jobs.get?_cases number
  · rw [here, there]
    exact akin
  · rw [here, there]
    simp only
    split
    · exact akin.note rfl
    · exact akin

theorem abandon (number : Nat) : (turn.abandon number).Akin (other.abandon number) :=
  ((akin.killFor number).release number).discharge number

/-- An error is logged in the same way. -/
theorem report (same : job.Akin twin) (failure : Failure) :
    (turn.report number job failure).Akin (other.report number twin failure) :=
  ((akin.note (same.logged_eq number failure)).tell _).pause same _

/-- It is considered whether to show the same error; it is shown or not. -/
theorem popUp (same : job.Akin twin) (failure : Failure) :
    (turn.popUp number job failure).Akin (other.popUp number twin failure) := by
  obtain ⟨one, here⟩ := popUp_aside turn number job failure
  obtain ⟨two, there⟩ := popUp_aside other number twin failure
  refine (akin.note (same.considered_eq number failure)).aside one two ?_
  rw [here, there]
  exact akin.disk

/-- For akin jobs the same interpreters are looked at, on the same disk. -/
theorem lookup_eq (same : job.Akin twin) :
    other.server.lookup other.disk twin = turn.server.lookup turn.disk job := by
  obtain ⟨settings, -, rfl⟩ := same
  unfold Server.lookup
  rw [akin.locator, akin.environ, akin.disk.locate_eq]

end Akin

end Turn

end TemplateLint
