import TemplateLint.Proofs.Acts
import TemplateLint.Proofs.History

/-!
# The lints of a server

A lint that counts works on its document as it is: whatever touches the document takes the lint
out of the count.  The invariant `Sound` says so of a server and its history, every act keeps it,
and from it follow what the newest lint of a document is and what is stored and published about it.
Main exports: `Server.Runs`, `Server.Counted`, `Deed.Right`, `Sound`.
-/

namespace TemplateLint

/-- The job under the number lints the document, and it counts. -/
def Server.Runs (server : Server) (number : Nat) (uri : Uri) : Prop :=
  ∃ job, server.jobs.get? number = some job ∧ job.Lints uri ∧ job.superseded = false

/-- `inFlight` names the lints that count, and nothing else. -/
def Server.Counted (server : Server) : Prop :=
  ∀ uri number, server.inFlight.get? uri = some number ↔ server.Runs number uri

namespace Server

variable {server other : Server} {number name : Nat} {uri place : Uri}

/-- A job lints one document. -/
theorem Runs.uri_eq (one : server.Runs number uri) (two : server.Runs number place) :
    uri = place := by
  obtain ⟨job, held, lints, -⟩ := one
  obtain ⟨found, present, own, -⟩ := two
  cases held.symm.trans present
  exact lints.2.symm.trans own.2

/-- At most one lint of a document counts. -/
theorem Counted.number_eq (counted : server.Counted) (one : server.Runs number uri)
    (two : server.Runs name uri) : number = name :=
  Option.some.inj (((counted uri number).mpr one).symm.trans ((counted uri name).mpr two))

theorem runs_erase (server : Server) (number name : Nat) (uri : Uri) :
    ({ server with jobs := server.jobs.erase number } : Server).Runs name uri ↔
      server.Runs name uri ∧ name ≠ number := by
  simp only [Runs, Table.get?_erase]
  split
  · next here => simp [here]
  · next other => simp [other]

/-- When a lint that counts is over, no lint of its document counts. -/
theorem Counted.finish (counted : server.Counted) (runs : server.Runs number uri)
    (jobs : other.jobs = server.jobs.erase number)
    (inFlight : other.inFlight = server.inFlight.erase uri) : other.Counted := by
  intro place name
  have same : other.Runs name place ↔ server.Runs name place ∧ name ≠ number := by
    rw [← runs_erase, Runs, jobs]
    rfl
  rw [same, inFlight, Table.get?_erase]
  split
  · next here =>
      subst here
      constructor
      · intro newest
        cases newest
      · intro stays
        exact absurd (counted.number_eq stays.1 runs) stays.2
  · next different =>
      rw [counted place name]
      constructor
      · intro counts
        refine ⟨counts, ?_⟩
        intro here
        subst here
        exact different (counts.uri_eq runs)
      · exact And.left

/-- A new lint may count when no other lint of its document does. -/
theorem Counted.begin {job : Job} (counted : server.Counted)
    (free : server.inFlight.get? uri = none) (unused : server.jobs.get? number = none)
    (lints : job.Lints uri) (counts : job.superseded = false)
    (jobs : other.jobs = server.jobs.put number job)
    (inFlight : other.inFlight = server.inFlight.put uri number) : other.Counted := by
  intro place name
  rw [inFlight, Table.get?_put, Runs, jobs, Table.get?_put]
  by_cases here : name = number
  · subst here
    rw [if_pos rfl]
    split
    · next same => exact ⟨fun _ => ⟨job, rfl, same ▸ lints, counts⟩, fun _ => rfl⟩
    · next different =>
        constructor
        · intro newest
          obtain ⟨found, held, -⟩ := (counted place name).mp newest
          rw [unused] at held
          cases held
        · rintro ⟨found, ⟨⟩, own, -⟩
          exact absurd (own.2.symm.trans lints.2) different
  · rw [if_neg here]
    split
    · next same =>
        constructor
        · rintro ⟨⟩
          exact absurd rfl here
        · intro runs
          rw [same] at runs
          have newest := (counted uri name).mpr runs
          rw [free] at newest
          cases newest
    · exact counted place name

end Server

/-! ## What is right at a place in a history -/

/-- The first of the arguments with which the tool is run; the setup has others. -/
def toolWords : List String := ["-m", "djlint", "-"]

/-- The tool is given the text of the document, and the setup gets nothing to read. -/
def Launch.Feeds (launch : Launch) (document : Document) : Prop :=
  launch.input = if toolWords <+: launch.arguments then document.text else ""

/-- Diagnostics are published because a document was closed, or because a lint of it was told that
has a result. -/
def PublishedBy (uri : Uri) (diagnostics : List Diagnostic) (version : Option Int) :
    Option Deed → Prop
  | some (.closed other) => uri = other ∧ diagnostics = [] ∧ version = none
  | some (.told _ finding) =>
      finding.job.Lints uri ∧ finding.result?.map (·.getD []) = some diagnostics ∧
        version = finding.job.document.version
  | _ => False

/-- An error is logged because the failure of a job goes to the log. -/
def LoggedBy (message : String) : Option Deed → Prop
  | some (.logged _ _ failure) => failure.details = message
  | _ => False

/-- A popup is shown because it was considered whether to show the failure of a job. -/
def ShownBy (message : String) : Option Deed → Prop
  | some (.considered _ _ failure) => failure.message = message
  | _ => False

/-- What is right about an effect after some deeds. -/
def Effect.Right (before : List Deed) : Effect → Prop
  | .tell (.publish uri diagnostics version) =>
      PublishedBy uri diagnostics version (causeIn? before)
  | .tell (.log .error message) => LoggedBy message (causeIn? before)
  | .ask _ (.choice message _) => ShownBy message (causeIn? before)
  | .start number launch =>
      ∀ document, .begun number document ∈ before → launch.Feeds document
  | _ => True

/-- The number of the job that a deed concerns. -/
def Deed.about? : Deed → Option Nat
  | begun number _ => some number
  | told number _ => some number
  | logged number _ _ => some number
  | considered number _ _ => some number
  | effect (.start number _) => some number
  | _ => none

/-- What is right about a deed after some others: a lint is taken up under a new number on the
document as it is, and told only while nothing has touched the document since.  A failure is logged
when it was told, and it is considered whether to show it when it was logged. -/
def Deed.Right (before : List Deed) : Deed → Prop
  | .begun number document =>
      (∀ other ∈ before, other.about? ≠ some number) ∧
        documentIn? document.uri before = some document
  | .told number finding =>
      (finding.job.errand.mode = .lint →
        Current number finding.job.document before ∧
          documentIn? finding.job.document.uri before = some finding.job.document) ∧
        ∀ document, .begun number document ∈ before → finding.job.errand.mode = .lint
  | .logged number job failure => .told number ⟨job, .error failure⟩ ∈ before
  | .considered number job failure => .logged number job failure ∈ before
  | .effect done => done.Right before
  | _ => True

/-- The standing of a lint in a history. -/
def Standing (number : Nat) (job : Job) (history : List Deed) : Prop :=
  if job.superseded then Outdated number job.document history
  else Current number job.document history

/-- A job that tells was told, and what it has still to tell is of its output; what is still to be
shown is in the log. -/
def Telling.Announced (number : Nat) (telling : Telling) (history : List Deed) : Prop :=
  (∃ output, .told number ⟨telling.job, output⟩ ∈ history ∧ telling.rest.Fits output) ∧
    ∀ failure, telling.rest = .display failure → .logged number telling.job failure ∈ history

theorem Telling.Announced.append {number : Nat} {telling : Telling} {history : List Deed}
    (announced : telling.Announced number history) (more : List Deed) :
    telling.Announced number (history ++ more) := by
  obtain ⟨⟨output, told, fits⟩, logged⟩ := announced
  exact ⟨⟨output, List.mem_append_left _ told, fits⟩,
    fun failure shows => List.mem_append_left _ (logged failure shows)⟩

/-- What holds of a server and its history after every act. -/
structure Sound (server : Server) (history : List Deed) : Prop where
  keyed : server.Keyed
  counted : server.Counted
  /-- The open documents are those of the history. -/
  kept : ∀ uri, server.documents.get? uri = documentIn? uri history
  /-- What is stored is what lints found. -/
  found : ∀ uri, server.diagnostics.get? uri = foundIn? uri history
  /-- Nothing is stored about a document that is not open. -/
  bare : ∀ uri, server.documents.get? uri = none → server.diagnostics.get? uri = none
  numbered : ∀ number job, server.jobs.get? number = some job → number < server.nextJob
  /-- Lints keep their numbers and documents. -/
  begun : ∀ number document, .begun number document ∈ history →
    number < server.nextJob ∧
      ∀ job, server.jobs.get? number = some job →
        job.errand.mode = .lint ∧ job.document = document
  /-- Nothing is done about a job that has not been taken up. -/
  known : ∀ deed ∈ history, ∀ number, deed.about? = some number → number < server.nextJob
  /-- Only lints are taken out of the count. -/
  formats : ∀ number job, server.jobs.get? number = some job → job.errand.mode = .format →
    job.superseded = false
  watched : ∀ number job, server.jobs.get? number = some job → job.errand.mode = .lint →
    Standing number job history
  /-- A lint that counts works on the document as it is. -/
  current : ∀ number job, server.jobs.get? number = some job → job.errand.mode = .lint →
    job.superseded = false → server.documents.get? job.document.uri = some job.document
  /-- A lint that is over has been told or was outdated. -/
  ended : ∀ number document, .begun number document ∈ history →
    (∃ job, server.jobs.get? number = some job) ∨ (∃ finding, .told number finding ∈ history) ∨
      Outdated number document history
  /-- A job that tells is over, and was told. -/
  telling : ∀ number telling, server.tellings.get? number = some telling →
    number < server.nextJob ∧ server.jobs.get? number = none ∧ telling.Announced number history
  /-- Before the server serves, no document has been opened and no job taken up. -/
  idle : server.phase = .fresh →
    (∀ uri, server.documents.get? uri = none) ∧ server.nextJob = 0
  right : ∀ before deed, Comes history before deed → deed.Right before

/-! ## Lints that are taken out of the count -/

/-- A job no longer counts when it lints one of some documents. -/
def Job.stopIf (stops : Uri → Bool) (job : Job) : Job :=
  if job.errand.mode = .lint ∧ stops job.document.uri = true then { job with superseded := true }
  else job

namespace Job

variable {job : Job} {stops : Uri → Bool}

@[simp] theorem stopIf_errand : (job.stopIf stops).errand = job.errand := by
  unfold stopIf
  split <;> rfl

theorem stopIf_of_format (formats : job.errand.mode = .format) : job.stopIf stops = job := by
  rw [stopIf, if_neg (by simp [formats])]

@[simp] theorem stopIf_document : (job.stopIf stops).document = job.document := by
  unfold stopIf
  split <;> rfl

theorem stopIf_lints {uri : Uri} : (job.stopIf stops).Lints uri ↔ job.Lints uri := by
  simp [Lints]

/-- A lint still counts when it counted before and its document is not among those. -/
theorem stopIf_counts (lints : job.errand.mode = .lint) :
    (job.stopIf stops).superseded = false ↔
      job.superseded = false ∧ stops job.document.uri = false := by
  unfold stopIf
  split
  · next stopped => simp [stopped.2]
  · next kept =>
      have apart : stops job.document.uri = false := by simpa [lints] using kept
      simp [apart]

theorem stopIf_stopIf {others : Uri → Bool} :
    (job.stopIf stops).stopIf others = job.stopIf fun uri => stops uri || others uri := by
  by_cases lints : job.errand.mode = .lint <;> by_cases one : stops job.document.uri = true <;>
    by_cases two : others job.document.uri = true <;> simp [stopIf, lints, one, two]

theorem stopIf_of_apart (apart : stops job.document.uri = false) : job.stopIf stops = job := by
  simp [stopIf, apart]

/-- A job that does not count is not changed. -/
theorem stopIf_of_superseded (stopped : job.superseded = true) : job.stopIf stops = job := by
  unfold stopIf
  split
  · rw [← stopped]
  · rfl

end Job

namespace Standing

variable {number : Nat} {job : Job} {history : List Deed} {deed : Deed}

theorem append (standing : Standing number job history)
    (apart : deed.touches job.document.uri = false) :
    Standing number job (history ++ [deed]) := by
  unfold Standing at standing ⊢
  split at standing
  · next stopped => rw [if_pos stopped]; exact standing.append [deed]
  · next counts => rw [if_neg counts]; exact standing.append apart

theorem same {other : Job} (standing : Standing number job history) (same : job.Same other) :
    Standing number other history := by
  unfold Standing at standing ⊢
  rwa [← same.superseded, ← same.document]

/-- Whatever touches the document of a lint makes it outdated and takes it out of the count. -/
theorem touch (standing : Standing number job history) (lints : job.errand.mode = .lint) :
    Standing number (job.stopIf (deed.touches ·)) (history ++ [deed]) := by
  by_cases touched : deed.touches job.document.uri = true
  · have outdated : Outdated number job.document (history ++ [deed]) := by
      unfold Standing at standing
      split at standing
      · exact standing.append [deed]
      · exact standing.outdated touched
    simpa [Standing, Job.stopIf, lints, touched] using outdated
  · have apart : deed.touches job.document.uri = false := by simpa using touched
    rw [Job.stopIf_of_apart apart]
    exact standing.append apart

end Standing

namespace Turn

variable {turn : Turn}

@[simp] theorem supersede_documents (turn : Turn) (uri : Uri) :
    (turn.supersede uri).server.documents = turn.server.documents := by
  obtain ⟨inFlight, jobs, superseded, -⟩ := supersede_frame turn uri
  rw [superseded]
  rfl

theorem supersede_inFlight (turn : Turn) (uri other : Uri) :
    (turn.supersede uri).server.inFlight.get? other =
      if other = uri then none else turn.server.inFlight.get? other := by
  unfold supersede
  split
  · next absent =>
      split
      · next same => rw [same, absent]
      · rfl
  · simp [update, Table.get?_erase]

theorem supersede_jobs (counted : turn.server.Counted) (uri : Uri) (number : Nat) :
    (turn.supersede uri).server.jobs.get? number =
      (turn.server.jobs.get? number).map (Job.stopIf (· = uri)) := by
  -- A lint that is not named does not count any more, so that nothing is changed about it.
  have unchanged (other : turn.server.inFlight.get? uri ≠ some number) :
      turn.server.jobs.get? number =
        (turn.server.jobs.get? number).map (Job.stopIf (· = uri)) := by
    cases held : turn.server.jobs.get? number with
    | none => rfl
    | some job =>
        have kept : job.stopIf (· = uri) = job := by
          by_cases stopped : job.superseded = true
          · exact Job.stopIf_of_superseded stopped
          · rw [Job.stopIf, if_neg]
            rintro ⟨lints, same⟩
            exact other ((counted uri number).mpr
              ⟨job, held, ⟨lints, by simpa using same⟩, by simpa using stopped⟩)
        rw [Option.map_some, kept]
  unfold supersede
  cases running : turn.server.inFlight.get? uri with
  | none => exact unchanged (by simp [running])
  | some newest =>
      simp only [update, Table.get?_modify]
      split
      · next same =>
          obtain ⟨job, held, ⟨lints, own⟩, -⟩ := (counted uri newest).mp running
          simp [same, held, Job.stopIf, lints, own]
      · next different =>
          exact unchanged (by simpa [running] using fun same => different same.symm)

theorem supersede_counted (counted : turn.server.Counted) (uri : Uri) :
    (turn.supersede uri).server.Counted := by
  intro other number
  rw [supersede_inFlight, Server.Runs, supersede_jobs counted]
  split
  · next same =>
      constructor
      · rintro ⟨⟩
      · rintro ⟨job, held, lints, counts⟩
        obtain ⟨before, -, rfl⟩ := Option.map_eq_some_iff.mp held
        have apart := ((Job.stopIf_counts (Job.stopIf_lints.mp lints).1).mp counts).2
        simp [same, (Job.stopIf_lints.mp lints).2] at apart
  · next different =>
      rw [counted other number]
      constructor
      · rintro ⟨job, held, lints, counts⟩
        have apart : decide (job.document.uri = uri) = false := by simp [lints.2, different]
        have kept : job.stopIf (· = uri) = job := Job.stopIf_of_apart apart
        exact ⟨job, by rw [held, Option.map_some, kept], lints, counts⟩
      · rintro ⟨job, held, lints, counts⟩
        obtain ⟨before, earlier, rfl⟩ := Option.map_eq_some_iff.mp held
        have lints := Job.stopIf_lints.mp lints
        exact ⟨before, earlier, lints, ((Job.stopIf_counts lints.1).mp counts).1⟩

/-- Superseding twice is superseding once. -/
theorem supersede_supersede (turn : Turn) (uri : Uri) :
    (turn.supersede uri).supersede uri = turn.supersede uri := by
  have gone : (turn.supersede uri).server.inFlight.get? uri = none := by
    simp [supersede_inFlight]
  rw [supersede, gone]

end Turn

/-! ## What deeds tell of documents -/

namespace Deed

variable {deed : Deed} {uri : Uri}

/-- The job that a deed is about. -/
def job? : Deed → Option Nat
  | begun number _ => some number
  | told number _ => some number
  | _ => none

/-- A document is kept under its own URI. -/
theorem document?_own {document : Document} (kept : deed.document? uri = some (some document)) :
    document.uri = uri := by
  unfold document? at kept
  split at kept
  · split at kept
    · next own => cases kept; exact own.symm
    · cases kept
  · split at kept <;> cases kept
  · cases kept

/-- A deed that does not touch a document leaves it as it is. -/
theorem document?_of_apart (apart : deed.touches uri = false) : deed.document? uri = none := by
  cases deed <;> simp_all [document?, touches]

/-- What is stored about a document goes with it. -/
theorem found?_of_document? (gone : deed.document? uri = some none) :
    deed.found? uri = some none := by
  cases deed <;> simp_all [document?, found?]

theorem ne_begun (apart : deed.job? = none) (number : Nat) (document : Document) :
    deed ≠ .begun number document := by
  rintro rfl
  cases apart

/-- Only the end of a lint brings new diagnostics. -/
theorem found?_of_job? (uri : Uri) (apart : deed.job? = none) :
    deed.found? uri = none ∨ deed.found? uri = some none := by
  cases deed <;> simp_all [found?, job?]
  exact (em _).symm

/-- Only the end of a lint of a document brings new diagnostics of it. -/
theorem told_found? {number : Nat} {finding : Finding} {left : Option (List Diagnostic)}
    (found : (told number finding).found? uri = some left) : finding.job.Lints uri := by
  simp only [found?] at found
  split at found
  · next lints => exact lints
  · cases found

end Deed

/-! ## The invariant is kept -/

namespace Sound

variable {server other : Server} {history : List Deed}

/-- Before the server serves, no job runs. -/
theorem jobless (sound : Sound server history) (fresh : server.phase = .fresh) (number : Nat) :
    server.jobs.get? number = none := by
  by_contra busy
  obtain ⟨job, held⟩ := Option.ne_none_iff_exists'.mp busy
  have bound := sound.numbered number job held
  rw [(sound.idle fresh).2] at bound
  exact absurd bound (Nat.not_lt_zero number)

/-- Before the server serves, no request is to be answered. -/
theorem unasked (sound : Sound server history) (fresh : server.phase = .fresh)
    (request : RpcId) : server.isPending request = false := by
  have bound {number : Nat} : ¬ number < server.nextJob := by
    rw [(sound.idle fresh).2]
    exact Nat.not_lt_zero number
  rw [Server.isPending, List.any_eq_false]
  intro pair member
  rcases List.mem_append.mp member with runs | tells
  · exact absurd (sound.numbered _ _ (Table.get?_of_mem runs)) bound
  · obtain ⟨⟨number, telling⟩, held, rfl⟩ := List.mem_map.mp tells
    exact absurd (sound.telling number telling (Table.get?_of_mem held)).1 bound

theorem right_append {deed : Deed} (sound : Sound server history) (right : deed.Right history) :
    ∀ before done, Comes (history ++ [deed]) before done → done.Right before := by
  intro before done comes
  rcases Comes.append_singleton.mp comes with earlier | ⟨rfl, rfl⟩
  · exact sound.right before done earlier
  · exact right

theorem begun_of_append {deed : Deed} (sound : Sound server history)
    (apart : ∀ number document, deed ≠ .begun number document) {number : Nat}
    {document : Document} (member : .begun number document ∈ history ++ [deed]) :
    .begun number document ∈ history ∧ number < server.nextJob ∧
      ∀ job, server.jobs.get? number = some job →
        job.errand.mode = .lint ∧ job.document = document := by
  rcases List.mem_append.mp member with earlier | here
  · exact ⟨earlier, sound.begun number document earlier⟩
  · exact absurd (List.mem_singleton.mp here).symm (apart number document)

theorem known_append {deed other : Deed} (sound : Sound server history)
    (known : ∀ number, deed.about? = some number → number < server.nextJob)
    (member : other ∈ history ++ [deed]) {number : Nat} (about : other.about? = some number) :
    number < server.nextJob := by
  rcases List.mem_append.mp member with earlier | here
  · exact sound.known other earlier number about
  · exact known number (List.mem_singleton.mp here ▸ about)

/-- A lint that was taken up before a deed is under way, or told or outdated after it. -/
theorem fate_append (sound : Sound server history) (deed : Deed) {number : Nat}
    {document : Document} (begun : .begun number document ∈ history) :
    (∃ job, server.jobs.get? number = some job) ∨
      (∃ finding, .told number finding ∈ history ++ [deed]) ∨
        Outdated number document (history ++ [deed]) := by
  rcases sound.ended number document begun with runs | ⟨finding, told⟩ | outdated
  · exact Or.inl runs
  · exact Or.inr (Or.inl ⟨finding, List.mem_append_left _ told⟩)
  · exact Or.inr (Or.inr (outdated.append [deed]))

/-- Jobs may come to another stage, and those that do not count may come and go; a job may end
telling. -/
theorem rework (sound : Sound server history)
    (documents : other.documents = server.documents)
    (diagnostics : other.diagnostics = server.diagnostics)
    (counted : other.Counted)
    (earlier : ∀ number job, other.jobs.get? number = some job → number < other.nextJob ∧
      ((∃ entry, server.jobs.get? number = some entry ∧ entry.Same job) ∨
        (server.nextJob ≤ number ∧ job.errand.mode = .format ∧ job.superseded = false)))
    (later : ∀ number job, server.jobs.get? number = some job →
      (∃ entry, other.jobs.get? number = some entry) ∨ job.errand.mode = .format ∨
        job.superseded = true)
    (tellings : ∀ number telling, other.tellings.get? number = some telling →
      server.tellings.get? number = some telling)
    (next : server.nextJob ≤ other.nextJob)
    (serves : other.phase = .fresh → server.phase = .fresh ∧ other.nextJob = server.nextJob) :
    Sound other history where
  keyed := by
    intro uri document held
    rw [documents] at held
    exact sound.keyed uri document held
  counted := counted
  kept := by
    intro uri
    rw [documents, sound.kept]
  found := by
    intro uri
    rw [diagnostics, sound.found]
  bare := by
    intro uri absent
    rw [documents] at absent
    rw [diagnostics]
    exact sound.bare uri absent
  numbered := fun number job held => (earlier number job held).1
  begun := by
    intro number document member
    obtain ⟨bound, own⟩ := sound.begun number document member
    refine ⟨Nat.lt_of_lt_of_le bound next, fun job held => ?_⟩
    rcases (earlier number job held).2 with ⟨entry, held, same⟩ | ⟨fresh, -⟩
    · rw [← same.errand, ← same.document]
      exact own entry held
    · exact absurd bound (Nat.not_lt.mpr fresh)
  known := fun deed member number about =>
    Nat.lt_of_lt_of_le (sound.known deed member number about) next
  formats := by
    intro number job held formats
    rcases (earlier number job held).2 with ⟨entry, held, same⟩ | ⟨-, -, counts⟩
    · exact same.superseded ▸ sound.formats number entry held (same.errand ▸ formats)
    · exact counts
  watched := by
    intro number job held lints
    rcases (earlier number job held).2 with ⟨entry, held, same⟩ | ⟨-, formats, -⟩
    · exact (sound.watched number entry held (same.errand ▸ lints)).same same
    · rw [formats] at lints
      cases lints
  current := by
    intro number job held lints counts
    rcases (earlier number job held).2 with ⟨entry, held, same⟩ | ⟨-, formats, -⟩
    · rw [documents, ← same.document]
      exact sound.current number entry held (same.errand ▸ lints) (same.superseded ▸ counts)
    · rw [formats] at lints
      cases lints
  ended := by
    intro number document member
    rcases sound.ended number document member with ⟨job, held⟩ | finished
    · obtain ⟨lints, own⟩ := (sound.begun number document member).2 job held
      rcases later number job held with runs | formats | stopped
      · exact Or.inl runs
      · rw [formats] at lints
        cases lints
      · have standing := sound.watched number job held lints
        rw [Standing, if_pos stopped, own] at standing
        exact Or.inr (Or.inr standing)
    · exact Or.inr finished
  telling := by
    intro number telling held
    obtain ⟨bound, gone, announced⟩ := sound.telling number telling (tellings number telling held)
    refine ⟨Nat.lt_of_lt_of_le bound next, ?_, announced⟩
    by_contra busy
    obtain ⟨job, held⟩ := Option.ne_none_iff_exists'.mp busy
    rcases (earlier number job held).2 with ⟨entry, held, -⟩ | ⟨fresh, -⟩
    · rw [gone] at held
      cases held
    · omega
  idle := by
    intro fresh
    obtain ⟨fresh, same⟩ := serves fresh
    obtain ⟨closed, none⟩ := sound.idle fresh
    exact ⟨fun uri => documents ▸ closed uri, same.trans none⟩
  right := sound.right

/-- A deed that is about no job takes the lints of the documents that it touches out of the
count. -/
theorem touch {deed : Deed} (sound : Sound server history) (apart : deed.job? = none)
    (right : deed.Right history)
    (known : ∀ number, deed.about? = some number → number < server.nextJob)
    (counted : other.Counted)
    (jobs : ∀ number, other.jobs.get? number =
      (server.jobs.get? number).map (Job.stopIf (deed.touches ·)))
    (documents : ∀ uri, other.documents.get? uri =
      (deed.document? uri).getD (server.documents.get? uri))
    (diagnostics : ∀ uri, other.diagnostics.get? uri =
      (deed.found? uri).getD (server.diagnostics.get? uri))
    (tellings : other.tellings = server.tellings) (next : other.nextJob = server.nextJob)
    (serves : other.phase = .fresh → server.phase = .fresh ∧ ∀ uri, deed.document? uri = none) :
    Sound other (history ++ [deed]) := by
  have ofJobs {number : Nat} {job : Job} (held : other.jobs.get? number = some job) :
      ∃ entry, server.jobs.get? number = some entry ∧ entry.stopIf (deed.touches ·) = job := by
    rw [jobs] at held
    exact Option.map_eq_some_iff.mp held
  refine
    { keyed := ?keyed
      counted
      kept := fun uri => by rw [documents, documentIn?_append, sound.kept]
      found := fun uri => by rw [diagnostics, foundIn?_append, sound.found]
      bare := ?bare
      numbered := ?numbered
      begun := ?begun
      known := fun _ member _ about => next ▸ sound.known_append known member about
      formats := ?formats
      watched := ?watched
      current := ?current
      ended := ?ended
      telling := ?telling
      idle := ?idle
      right := sound.right_append right }
  case keyed =>
    intro uri document held
    rw [documents] at held
    cases leaves : deed.document? uri with
    | none =>
        rw [leaves, Option.getD_none] at held
        exact sound.keyed uri document held
    | some left =>
        rw [leaves, Option.getD_some] at held
        exact Deed.document?_own (held ▸ leaves)
  case bare =>
    intro uri absent
    rw [documents] at absent
    rw [diagnostics]
    cases leaves : deed.document? uri with
    | none =>
        rw [leaves, Option.getD_none] at absent
        have unknown := sound.bare uri absent
        rcases Deed.found?_of_job? uri apart with silent | gone
        · simpa [silent] using unknown
        · simp [gone]
    | some left =>
        rw [leaves, Option.getD_some] at absent
        simp [Deed.found?_of_document? (absent ▸ leaves)]
  case numbered =>
    intro number job held
    obtain ⟨entry, earlier, -⟩ := ofJobs held
    exact next ▸ sound.numbered number entry earlier
  case begun =>
    intro number document member
    obtain ⟨-, bound, own⟩ := sound.begun_of_append (Deed.ne_begun apart) member
    refine ⟨next ▸ bound, fun job held => ?_⟩
    obtain ⟨entry, earlier, rfl⟩ := ofJobs held
    simpa using own entry earlier
  case formats =>
    intro number job held formats
    obtain ⟨entry, earlier, rfl⟩ := ofJobs held
    rw [Job.stopIf_errand] at formats
    rw [Job.stopIf_of_format formats]
    exact sound.formats number entry earlier formats
  case watched =>
    intro number job held lints
    obtain ⟨entry, earlier, rfl⟩ := ofJobs held
    rw [Job.stopIf_errand] at lints
    exact (sound.watched number entry earlier lints).touch lints
  case current =>
    intro number job held lints counts
    obtain ⟨entry, earlier, rfl⟩ := ofJobs held
    rw [Job.stopIf_errand] at lints
    obtain ⟨counts, untouched⟩ := (Job.stopIf_counts lints).mp counts
    rw [Job.stopIf_document, documents, Deed.document?_of_apart untouched]
    exact sound.current number entry earlier lints counts
  case ended =>
    intro number document member
    have earlier := (sound.begun_of_append (Deed.ne_begun apart) member).1
    rcases sound.fate_append deed earlier with ⟨job, held⟩ | settled
    · left
      exact ⟨_, by rw [jobs, held]; rfl⟩
    · exact Or.inr settled
  case telling =>
    intro number telling held
    obtain ⟨bound, gone, announced⟩ := sound.telling number telling (tellings ▸ held)
    exact ⟨next ▸ bound, by rw [jobs, gone, Option.map_none], announced.append [deed]⟩
  case idle =>
    intro fresh
    obtain ⟨fresh, silent⟩ := serves fresh
    obtain ⟨closed, none⟩ := sound.idle fresh
    refine ⟨fun uri => ?_, next.trans none⟩
    rw [documents, silent, Option.getD_none, closed]

/-- A lint is taken up on an open document, in the place of the one before. -/
theorem begin {document : Document} {job : Job} (sound : Sound server history)
    (held : server.documents.get? document.uri = some document)
    (lints : job.errand.mode = .lint) (own : job.document = document)
    (counts : job.superseded = false) (counted : other.Counted)
    (jobs : ∀ number, other.jobs.get? number =
      if number = server.nextJob then some job
      else (server.jobs.get? number).map (Job.stopIf (· = document.uri)))
    (documents : other.documents = server.documents)
    (diagnostics : other.diagnostics = server.diagnostics)
    (tellings : other.tellings = server.tellings)
    (next : other.nextJob = server.nextJob + 1) (phase : other.phase = server.phase) :
    Sound other (history ++ [.begun server.nextJob document]) := by
  have earlier {number : Nat} {found : Job} (held : other.jobs.get? number = some found) :
      (number = server.nextJob ∧ found = job) ∨
        ∃ entry, server.jobs.get? number = some entry ∧
          found = entry.stopIf (Deed.touches · (.begun server.nextJob document)) := by
    rw [jobs] at held
    split at held
    · next same => exact Or.inl ⟨same, (Option.some.inj held).symm⟩
    · obtain ⟨entry, earlier, rfl⟩ := Option.map_eq_some_iff.mp held
      exact Or.inr ⟨entry, earlier, rfl⟩
  have unused : ∀ deed ∈ history, deed.about? ≠ some server.nextJob :=
    fun deed member about => Nat.lt_irrefl _ (sound.known deed member _ about)
  refine
    { keyed := fun uri document held => sound.keyed uri document (documents ▸ held)
      counted
      kept := fun uri => by rw [documents, documentIn?_append, sound.kept]; rfl
      found := fun uri => by rw [diagnostics, foundIn?_append, sound.found]; rfl
      bare := fun uri absent => diagnostics ▸ sound.bare uri (documents ▸ absent)
      numbered := ?numbered
      begun := ?begun
      known := ?known
      formats := ?formats
      watched := ?watched
      current := ?current
      ended := ?ended
      telling := ?telling
      idle := ?idle
      right := ?right }
  case numbered =>
    intro number found held
    rcases earlier held with ⟨rfl, -⟩ | ⟨entry, held, -⟩
    · omega
    · have bound := sound.numbered number entry held
      omega
  case begun =>
    intro number other member
    rcases List.mem_append.mp member with before | here
    · obtain ⟨bound, own⟩ := sound.begun number other before
      refine ⟨by omega, fun found held => ?_⟩
      rcases earlier held with ⟨rfl, -⟩ | ⟨entry, before, rfl⟩
      · omega
      · simpa using own entry before
    · cases List.mem_singleton.mp here
      refine ⟨by omega, fun found held => ?_⟩
      rcases earlier held with ⟨-, rfl⟩ | ⟨entry, held, -⟩
      · exact ⟨lints, own⟩
      · exact absurd (sound.numbered _ entry held) (Nat.lt_irrefl _)
  case known =>
    intro deed member number about
    rw [next]
    rcases List.mem_append.mp member with before | here
    · exact Nat.lt_succ_of_lt (sound.known deed before number about)
    · cases List.mem_singleton.mp here
      cases about
      exact Nat.lt_succ_self _
  case formats =>
    intro number found held formats
    rcases earlier held with ⟨rfl, rfl⟩ | ⟨entry, before, rfl⟩
    · exact counts
    · rw [Job.stopIf_errand] at formats
      rw [Job.stopIf_of_format formats]
      exact sound.formats number entry before formats
  case watched =>
    intro number found held foundLints
    rcases earlier held with ⟨rfl, rfl⟩ | ⟨entry, before, rfl⟩
    · rw [Standing, if_neg (by simp [counts]), own]
      exact Current.begun _ document history
    · rw [Job.stopIf_errand] at foundLints
      exact (sound.watched number entry before foundLints).touch foundLints
  case current =>
    intro number found found' foundLints foundCounts
    rw [documents]
    rcases earlier found' with ⟨rfl, rfl⟩ | ⟨entry, held, rfl⟩
    · rw [own, held]
    · rw [Job.stopIf_errand] at foundLints
      rw [Job.stopIf_document]
      exact sound.current number entry held foundLints
        ((Job.stopIf_counts foundLints).mp foundCounts).1
  case ended =>
    intro number other member
    rcases List.mem_append.mp member with before | here
    · rcases sound.fate_append _ before with ⟨entry, held⟩ | settled
      · have bound := sound.numbered number entry held
        left
        exact ⟨_, by rw [jobs, if_neg (by omega), held]; rfl⟩
      · exact Or.inr settled
    · cases List.mem_singleton.mp here
      left
      exact ⟨job, by rw [jobs, if_pos rfl]⟩
  case telling =>
    intro number telling held
    obtain ⟨bound, gone, announced⟩ := sound.telling number telling (tellings ▸ held)
    refine ⟨by omega, ?_, announced.append _⟩
    rw [jobs, if_neg (by omega), gone, Option.map_none]
  case idle =>
    -- A document is open, so that the server serves already.
    intro fresh
    have absent := (sound.idle (phase ▸ fresh)).1 document.uri
    rw [held] at absent
    cases absent
  case right => exact sound.right_append ⟨unused, by rw [← sound.kept, held]⟩

/-- A job ends and its finding is told: a lint must count. -/
theorem tell {number : Nat} {finding : Finding} {entry : Job} (sound : Sound server history)
    (held : server.jobs.get? number = some entry) (same : entry.Same finding.job)
    (counts : finding.job.errand.mode = .lint → finding.job.superseded = false)
    (counted : other.Counted)
    (jobs : ∀ name, other.jobs.get? name = if name = number then none else server.jobs.get? name)
    (documents : other.documents = server.documents)
    (diagnostics : ∀ uri, other.diagnostics.get? uri =
      ((Deed.told number finding).found? uri).getD (server.diagnostics.get? uri))
    (tellings : other.tellings = server.tellings) (next : other.nextJob = server.nextJob)
    (phase : other.phase = server.phase) :
    Sound other (history ++ [.told number finding]) := by
  have ofJobs {name : Nat} {job : Job} (found : other.jobs.get? name = some job) :
      server.jobs.get? name = some job := by
    rw [jobs] at found
    split at found
    · cases found
    · exact found
  have bound := sound.numbered number entry held
  have open? (lints : finding.job.errand.mode = .lint) :
      server.documents.get? finding.job.document.uri = some finding.job.document := by
    rw [← same.document]
    exact sound.current number entry held (same.errand ▸ lints) (same.superseded ▸ counts lints)
  refine
    { keyed := fun uri document held => sound.keyed uri document (documents ▸ held)
      counted
      kept := fun uri => by rw [documents, documentIn?_append, sound.kept]; rfl
      found := fun uri => by rw [diagnostics, foundIn?_append, sound.found]
      bare := ?bare
      numbered := fun name job found => next ▸ sound.numbered name job (ofJobs found)
      begun := ?begun
      known := fun _ member _ about =>
        next ▸ sound.known_append (by rintro _ ⟨⟩; exact bound) member about
      formats := fun name job found => sound.formats name job (ofJobs found)
      watched := fun name job found lints =>
        (sound.watched name job (ofJobs found) lints).append rfl
      current := fun name job found lints counts =>
        documents ▸ sound.current name job (ofJobs found) lints counts
      ended := ?ended
      telling := ?telling
      idle := ?idle
      right := ?right }
  case bare =>
    -- The lint counts, so that its document is still open and may have an entry.
    intro uri absent
    rw [documents] at absent
    rw [diagnostics]
    cases leaves : (Deed.told number finding).found? uri with
    | none => exact sound.bare uri absent
    | some left =>
        have lints := Deed.told_found? leaves
        rw [← lints.2, open? lints.1] at absent
        cases absent
  case begun =>
    intro name document member
    obtain ⟨-, bound, own⟩ := sound.begun_of_append (by rintro _ _ ⟨⟩) member
    exact ⟨next ▸ bound, fun job found => own job (ofJobs found)⟩
  case ended =>
    intro name document member
    obtain ⟨earlier, -⟩ := sound.begun_of_append (by rintro _ _ ⟨⟩) member
    rcases sound.fate_append _ earlier with ⟨job, found⟩ | settled
    · by_cases here : name = number
      · exact Or.inr (Or.inl ⟨finding, by simp [here]⟩)
      · exact Or.inl ⟨job, by rw [jobs, if_neg here, found]⟩
    · exact Or.inr settled
  case telling =>
    intro name telling told
    obtain ⟨bound, gone, announced⟩ := sound.telling name telling (tellings ▸ told)
    refine ⟨next ▸ bound, ?_, announced.append _⟩
    rw [jobs]
    split
    · rfl
    · exact gone
  case idle =>
    intro fresh
    have none := sound.jobless (phase ▸ fresh) number
    rw [held] at none
    cases none
  case right =>
    refine sound.right_append ⟨fun lints => ?_, fun document begun => ?_⟩
    · have standing := sound.watched number entry held (same.errand ▸ lints)
      rw [Standing, if_neg (by simp [same.superseded, counts lints]), same.document] at standing
      exact ⟨standing, by rw [← sound.kept, open? lints]⟩
    · rw [← same.errand]
      exact ((sound.begun number document begun).2 entry held).1

/-- Nothing that the invariant speaks of is changed. -/
theorem alike (sound : Sound server history) (documents : other.documents = server.documents)
    (diagnostics : other.diagnostics = server.diagnostics)
    (inFlight : other.inFlight = server.inFlight) (jobs : other.jobs = server.jobs)
    (tellings : other.tellings = server.tellings) (next : other.nextJob = server.nextJob)
    (serves : other.phase = .fresh → server.phase = .fresh) : Sound other history := by
  have counted : other.Counted := by
    intro uri number
    rw [inFlight, Server.Runs, jobs]
    exact sound.counted uri number
  refine sound.rework documents diagnostics counted ?_ ?_ (fun _ _ held => tellings ▸ held)
    (Nat.le_of_eq next.symm) fun fresh => ⟨serves fresh, next⟩
  · intro number job held
    rw [jobs] at held
    exact ⟨next ▸ sound.numbered number job held, Or.inl ⟨job, held, Job.Same.refl job⟩⟩
  · intro number job held
    exact Or.inl ⟨job, jobs ▸ held⟩

/-- A deed that concerns no document changes nothing that the server keeps. -/
theorem note {deed : Deed} (sound : Sound server history) (apart : deed.job? = none)
    (still : ∀ uri, deed.touches uri = false ∧ deed.found? uri = none)
    (right : deed.Right history)
    (known : ∀ number, deed.about? = some number → number < server.nextJob) :
    Sound server (history ++ [deed]) := by
  have silent (uri : Uri) : deed.document? uri = none := Deed.document?_of_apart (still uri).1
  have kept (job : Job) : job.stopIf (deed.touches ·) = job := Job.stopIf_of_apart (still _).1
  refine sound.touch apart right known sound.counted ?_ (fun uri => ?_) (fun uri => ?_) rfl rfl
    fun fresh => ⟨fresh, silent⟩
  · intro number
    cases held : server.jobs.get? number with
    | none => rfl
    | some job => rw [Option.map_some, kept]
  · rw [silent, Option.getD_none]
  · rw [(still uri).2, Option.getD_none]

theorem effect {effect : Effect} (sound : Sound server history) (right : effect.Right history)
    (known : ∀ number, (Deed.effect effect).about? = some number → number < server.nextJob) :
    Sound server (history ++ [.effect effect]) :=
  sound.note rfl (fun _ => ⟨rfl, rfl⟩) right known

/-- The failure of a job goes to the log. -/
theorem log {number : Nat} {job : Job} {failure : Failure} (sound : Sound server history)
    (told : .told number ⟨job, .error failure⟩ ∈ history) :
    Sound server (history ++ [.logged number job failure]) :=
  sound.note rfl (fun _ => ⟨rfl, rfl⟩) told (by rintro _ ⟨⟩; exact sound.known _ told _ rfl)

/-- It is considered whether the failure of a job is shown. -/
theorem consider {number : Nat} {job : Job} {failure : Failure} (sound : Sound server history)
    (logged : .logged number job failure ∈ history) :
    Sound server (history ++ [.considered number job failure]) :=
  sound.note rfl (fun _ => ⟨rfl, rfl⟩) logged (by rintro _ ⟨⟩; exact sound.known _ logged _ rfl)

/-- A job that is over has still something to tell. -/
theorem pause {number : Nat} {telling : Telling} (sound : Sound server history)
    (bound : number < server.nextJob) (gone : server.jobs.get? number = none)
    (announced : telling.Announced number history) :
    Sound { server with tellings := server.tellings.put number telling } history := by
  refine { sound with telling := fun name other held => ?_ }
  rw [Table.get?_put] at held
  split at held
  · next here =>
      cases held
      subst here
      exact ⟨bound, gone, announced⟩
  · exact sound.telling name other held

/-- A job has nothing more to tell. -/
theorem silence (sound : Sound server history) (number : Nat) :
    Sound { server with tellings := server.tellings.erase number } history := by
  refine { sound with telling := fun name telling held => ?_ }
  rw [Table.get?_erase] at held
  split at held
  · cases held
  · exact sound.telling name telling held

/-- A job that is under way comes to another stage. -/
theorem restage {number : Nat} {job entry : Job} (sound : Sound server history)
    (held : server.jobs.get? number = some entry) (same : entry.Same job) :
    Sound { server with jobs := server.jobs.put number job } history := by
  have runs (name : Nat) (uri : Uri) :
      ({ server with jobs := server.jobs.put number job } : Server).Runs name uri ↔
        server.Runs name uri := by
    simp only [Server.Runs, Table.get?_put]
    split
    · next here =>
        simp [here, held, Job.Lints, same.errand, same.document, same.superseded]
    · rfl
  refine sound.rework rfl rfl (fun uri name => (sound.counted uri name).trans (runs name uri).symm)
    ?_ ?_ (fun _ _ held => held) (Nat.le_refl _) fun fresh => ⟨fresh, rfl⟩
  · intro name found present
    rw [Table.get?_put] at present
    split at present
    · next here =>
        subst here
        cases present
        exact ⟨sound.numbered name entry held, Or.inl ⟨entry, held, same⟩⟩
    · exact ⟨sound.numbered name found present, Or.inl ⟨found, present, Job.Same.refl found⟩⟩
  · intro name found present
    refine Or.inl ?_
    rw [Table.get?_put]
    split
    · exact ⟨job, rfl⟩
    · exact ⟨found, present⟩

/-- A formatting is taken up while the server serves. -/
theorem format {job : Job} (sound : Sound server history) (formats : job.errand.mode = .format)
    (counts : job.superseded = false) (serves : server.phase ≠ .fresh) :
    Sound { server with
      jobs := server.jobs.put server.nextJob job
      nextJob := server.nextJob + 1 } history := by
  have runs (name : Nat) (uri : Uri) :
      ({ server with
          jobs := server.jobs.put server.nextJob job
          nextJob := server.nextJob + 1 } : Server).Runs name uri ↔
        server.Runs name uri := by
    simp only [Server.Runs, Table.get?_put]
    split
    · next here =>
        constructor
        · rintro ⟨found, ⟨⟩, lints, -⟩
          rw [Job.Lints, formats] at lints
          cases lints.1
        · rintro ⟨found, held, -⟩
          exact absurd (here ▸ sound.numbered name found held) (Nat.lt_irrefl _)
    · rfl
  refine sound.rework rfl rfl (fun uri name => (sound.counted uri name).trans (runs name uri).symm)
    ?_ ?_ (fun _ _ held => held) (Nat.le_succ _) fun fresh => absurd fresh serves
  · intro name found present
    rw [Table.get?_put] at present
    split at present
    · next here =>
        cases present
        exact here ▸ ⟨Nat.lt_succ_self _, Or.inr ⟨Nat.le_refl _, formats, counts⟩⟩
    · exact ⟨Nat.lt_succ_of_lt (sound.numbered name found present),
        Or.inl ⟨found, present, Job.Same.refl found⟩⟩
  · intro name found present
    refine Or.inl ?_
    rw [Table.get?_put]
    split
    · exact ⟨job, rfl⟩
    · exact ⟨found, present⟩

/-- A job that does not count goes without being told. -/
theorem remove {number : Nat} {entry : Job} (sound : Sound server history)
    (held : server.jobs.get? number = some entry)
    (finished : entry.errand.mode = .format ∨ entry.superseded = true) :
    Sound { server with jobs := server.jobs.erase number } history := by
  have counted : ({ server with jobs := server.jobs.erase number } : Server).Counted := by
    intro uri name
    rw [Server.runs_erase, ← sound.counted uri name]
    refine ⟨fun newest => ⟨newest, ?_⟩, And.left⟩
    rintro rfl
    obtain ⟨job, present, lints, counts⟩ := (sound.counted uri name).mp newest
    cases held.symm.trans present
    rcases finished with formats | stopped
    · rw [Job.Lints, formats] at lints
      cases lints.1
    · rw [stopped] at counts
      cases counts
  refine sound.rework rfl rfl counted ?_ ?_ (fun _ _ held => held) (Nat.le_refl _)
    fun fresh => ⟨fresh, rfl⟩
  · intro name found present
    rw [Table.get?_erase] at present
    split at present
    · cases present
    · exact ⟨sound.numbered name found present, Or.inl ⟨found, present, Job.Same.refl found⟩⟩
  · intro name found present
    by_cases here : name = number
    · cases held.symm.trans (here ▸ present)
      exact Or.inr finished
    · exact Or.inl ⟨found, by rw [Table.get?_erase, if_neg here, present]⟩

end Sound

end TemplateLint
