import TemplateLint.Proofs.Courses
import TemplateLint.Proofs.NewestLint

/-!
# After a shutdown

When a server shuts down, no lint that was taken up counts any more, and the environment of our own
is forgotten.  What is still under way ends bit by bit: the documents in line behind a lint are
linted all the same, a formatting goes on to its end, and what is still to be told of a failure is
told.  Nothing else does any work.
Main exports: `ShutDown`, `Server.InLine`, `Server.StillWorks`, `Winding`, `WindsDown`,
`Server.windsDown`.
-/

namespace TemplateLint

/-! ## The shutdown -/

/-- The server has shut down, and all it has done since is to talk. -/
def ShutDown (history : List Deed) : Prop :=
  ∃ earlier talk, history = earlier ++ .shutDown :: talk ∧ ∀ deed ∈ talk, deed.IsTalk

namespace ShutDown

variable {past : List Deed} {turn next : Turn}

/-- Talk changes nothing about that. -/
theorem talk (stopped : ShutDown (past ++ turn.deeds)) (adds : turn.Adds Deed.IsTalk next) :
    ShutDown (past ++ next.deeds) := by
  obtain ⟨earlier, talk, whole, only⟩ := stopped
  obtain ⟨more, same, kind⟩ := adds
  refine ⟨earlier, talk ++ more, ?_, fun deed member => ?_⟩
  · rw [same, ← List.append_assoc, whole, List.append_assoc, List.cons_append]
  · exact (List.mem_append.mp member).elim (only deed) (kind deed)

/-- No document has been closed since. -/
theorem cause (stopped : ShutDown past) (uri : Uri) : causeIn? past ≠ some (.closed uri) := by
  intro caused
  obtain ⟨earlier, talk, rfl, only⟩ := stopped
  obtain ⟨first, effects, same, silent⟩ := causeIn?_eq_some caused
  rcases append_eq_append_cons same with ⟨others, rfl⟩ | ⟨others, -, late⟩
  · rw [List.append_assoc, List.append_cancel_left_eq, List.cons_append] at same
    obtain ⟨-, rfl⟩ := List.cons.inj same
    obtain ⟨effect, none⟩ := silent .shutDown (by simp)
    cases none
  · have member : .closed uri ∈ .shutDown :: talk := by simp [late]
    rcases List.mem_cons.mp member with same | here
    · cases same
    · exact only _ here

end ShutDown

/-- The server has just shut down, and nothing is in hand any more. -/
structure Stopped (past : List Deed) (place : Hand × Turn) : Prop where
  free : place.1 = .free
  ended : place.2.server.phase.isOver = true
  forgotten : place.2.server.isolated.initialized = false
  shutDown : ShutDown (past ++ place.2.deeds)

/-- A server that has shut down in a turn does nothing else in it. -/
theorem Stride.stopped {past : List Deed} {eager : Bool} {before next : Hand × Turn}
    (stride : Stride eager before next)
    (stopped : .shutDown ∈ before.2.deeds → Stopped past before)
    (stops : .shutDown ∈ next.2.deeds) : Stopped past next := by
  rcases stride.deed_of stops with earlier | ⟨closing, stops, free⟩
  · obtain ⟨free, ended, forgotten, shutDown⟩ := stopped earlier
    cases stride with
    | aside hand turn next act apart =>
        have talks : turn.Adds Deed.IsTalk next := apart.adds.mono fun deed kind => by
          rcases kind with talk | ⟨ready, -⟩
          · exact talk
          · rw [ready] at ended
            cases ended
        exact ⟨free, apart.ended ended, apart.initialized.trans forgotten, shutDown.talk talks⟩
    | rest hand turn idle =>
        cases free
        exact idle.elim
    | _ => cases free
  · have noted : ShutDown (past ++ (before.2.note .shutDown).deeds) :=
      ⟨past ++ before.2.deeds, [], by simp [Turn.note], by simp⟩
    exact ⟨free, by rw [stops.phase, closing]; rfl, stops.initialized,
      noted.talk (stops.adds.mono fun _ => Deed.IsSpeech.talk)⟩

namespace Server

variable {server : Server} {history : List Deed} {stop : Round}

end Server

/-! ## What is still under way -/

/-- The document is in line behind a lint that is under way. -/
def Server.InLine (server : Server) (uri : Uri) : Prop :=
  ∃ number job others, server.UnderWay number job ∧ job.errand = .lint others ∧ uri ∈ others

/-- The job may still work: it is a lint that was taken up since, or it ran; but a lint that ran has
been superseded, so that it works only in haste. -/
def Server.StillWorks (server : Server) (haste : Prop) (since : List Deed) (number : Nat) : Prop :=
  (∃ document, .begun number document ∈ since) ∨
    ∃ job, server.jobs.get? number = some job ∧ (job.errand.mode = .lint → haste)

/-- The job was taken up since, and behind it are documents that were in line. -/
def Server.TookUp (server : Server) (since : List Deed) (number : Nat) (job : Job) : Prop :=
  ∃ document others, .begun number document ∈ since ∧ job.errand = .lint others ∧
    ∀ uri ∈ others, server.InLine uri

/-- What holds after `server` has shut down, when the given deeds were done since. -/
structure Winding (server : Server) (haste : Prop) (since : List Deed) (place : Hand × Turn) :
    Prop where
  ended : place.2.server.phase.isOver = true
  numbers : server.nextJob ≤ place.2.server.nextJob
  /-- A job that runs did so, or it was taken up since. -/
  jobs : ∀ number job, place.2.server.jobs.get? number = some job →
    (∃ entry, server.jobs.get? number = some entry ∧ entry.Kin job) ∨
      server.TookUp (since ++ place.2.deeds) number job
  /-- A job that tells was under way, or it was taken up since. -/
  tellings : ∀ number job rest, place.2.server.tellings.get? number = some ⟨job, rest⟩ →
    (∃ entry, server.UnderWay number entry ∧ entry.Kin job) ∨
      server.TookUp (since ++ place.2.deeds) number job
  line : ∀ origin uris, place.1 = .line origin uris → ∀ uri ∈ uris, server.InLine uri
  stays : ∀ uri, .closed uri ∉ since ++ place.2.deeds
  begun : ∀ number document, .begun number document ∈ since ++ place.2.deeds →
    server.nextJob ≤ number ∧ server.InLine document.uri
  started : ∀ number launch, .effect (.start number launch) ∈ since ++ place.2.deeds →
    server.StillWorks haste (since ++ place.2.deeds) number
  told : ∀ number finding, .told number finding ∈ since ++ place.2.deeds →
    finding.job.errand.mode = .lint → ∃ document, .begun number document ∈ since ++ place.2.deeds
  initialized : place.2.server.isolated.initialized = true →
    ∃ number, server.StillWorks haste (since ++ place.2.deeds) number

/-- A shutdown supersedes all lints. -/
def Server.Superseded (server : Server) : Prop :=
  ∀ number job, server.jobs.get? number = some job → job.errand.mode = .lint →
    job.superseded = true

namespace Server.StillWorks

variable {server : Server} {haste : Prop} {since later : List Deed} {number : Nat}

theorem mono (works : server.StillWorks haste since number)
    (stays : ∀ deed ∈ since, deed ∈ later) : server.StillWorks haste later number :=
  works.imp_left fun ⟨document, begun⟩ => ⟨document, stays _ begun⟩

end Server.StillWorks

namespace Server.TookUp

variable {server : Server} {since later : List Deed} {number : Nat} {job : Job}

theorem mono (taken : server.TookUp since number job) (stays : ∀ deed ∈ since, deed ∈ later) :
    server.TookUp later number job := by
  obtain ⟨document, others, begun, errand, waits⟩ := taken
  exact ⟨document, others, stays _ begun, errand, waits⟩

/-- It does so at every stage. -/
theorem kin {other : Job} (taken : server.TookUp since number job) (kin : job.Kin other) :
    server.TookUp since number other := by
  obtain ⟨document, others, begun, errand, waits⟩ := taken
  exact ⟨document, others, begun, kin.errand.trans errand, waits⟩

end Server.TookUp

namespace Winding

variable {server : Server} {haste : Prop} {since : List Deed} {eager : Bool}
  {before next : Hand × Turn} {number : Nat} {job : Job}

/-- A job that is worked on may still work. -/
theorem works (winding : Winding server haste since before) (superseded : server.Superseded)
    (hurry : eager = true → haste) (engaged : Engaged eager before.2 number job) :
    server.StillWorks haste (since ++ before.2.deeds) number := by
  obtain ⟨held, there, same⟩ := engaged.carries
  rcases winding.jobs number held there with ⟨entry, present, kin⟩ | ⟨document, _, begun, -, -⟩
  · refine Or.inr ⟨entry, present, fun lints => hurry (engaged.counts ?_)⟩
    rw [← same.superseded]
    exact kin.superseded (superseded number entry present lints)
  · exact Or.inl ⟨document, begun⟩

/-- A lint that still counts was taken up since. -/
theorem counts (winding : Winding server haste since before) (superseded : server.Superseded)
    (carries : before.2.Carries number job) (lints : job.errand.mode = .lint)
    (counts : job.superseded = false) :
    ∃ document, .begun number document ∈ since ++ before.2.deeds := by
  obtain ⟨held, there, same⟩ := carries
  rcases winding.jobs number held there with ⟨entry, present, kin⟩ | ⟨document, _, begun, -, -⟩
  · have mode : entry.errand.mode = .lint := by rw [← kin.errand, same.errand, lints]
    have finished := kin.superseded (superseded number entry present mode)
    rw [same.superseded, counts] at finished
    cases finished
  · exact ⟨document, begun⟩

/-- A job that is under way was so, or it was taken up since. -/
theorem under (winding : Winding server haste since before)
    (under : before.2.server.UnderWay number job) :
    (∃ entry, server.UnderWay number entry ∧ entry.Kin job) ∨
      server.TookUp (since ++ before.2.deeds) number job := by
  rcases under with held | ⟨rest, held⟩
  · exact (winding.jobs number job held).imp_left fun ⟨entry, present, kin⟩ =>
      ⟨entry, Or.inl present, kin⟩
  · exact winding.tellings number job rest held

/-- A job that is taken up lints a document that was in line. -/
theorem takes (winding : Winding server haste since before)
    (keyed : before.2.server.Keyed) (taking : Taking before next number job) :
    ∃ others, job.errand = .lint others ∧ server.InLine job.document.uri ∧
      ∀ uri ∈ others, server.InLine uri := by
  rcases taking.source with ⟨-, ready⟩ | ⟨uri, others, line, errand, held⟩
  · have ended := winding.ended
    rw [ready] at ended
    cases ended
  · have waits := winding.line _ _ line
    refine ⟨others, errand, ?_, fun other member => waits other (List.mem_cons_of_mem _ member)⟩
    rw [keyed uri job.document held]
    exact waits uri List.mem_cons_self

end Winding

/-- Every stride winds a server down that has shut down. -/
theorem Stride.winding {server : Server} {haste : Prop} {past since : List Deed} {eager : Bool}
    {before next : Hand × Turn} (stride : Stride eager before next)
    (sound : Turn.SoundAfter past before.2) (superseded : server.Superseded)
    (hurry : eager = true → haste) (winding : Winding server haste since before) :
    Winding server haste since next := by
  have numbers := winding.numbers
  have nextJob := stride.onward.nextJob
  have notReady : before.2.server.phase ≠ .ready := fun ready => by
    have ended := winding.ended
    rw [ready] at ended
    cases ended
  have kept (deed : Deed) : deed ∈ since ++ before.2.deeds → deed ∈ since ++ next.2.deeds :=
    stride.since_after
  refine
    { ended := stride.onward.ended winding.ended
      numbers := by omega
      jobs := ?jobs
      tellings := ?tellings
      line := ?line
      stays := ?stays
      begun := ?begun
      started := ?started
      told := ?told
      initialized := ?initialized }
  case jobs =>
    intro number job held
    rcases stride.job_before held with ⟨earlier, present, kin⟩ | taking
    · rcases winding.jobs number earlier present with ⟨entry, first, bond⟩ | taken
      · exact Or.inl ⟨entry, first, bond.trans kin⟩
      · exact Or.inr ((taken.mono kept).kin kin)
    · obtain ⟨others, errand, -, waits⟩ := winding.takes sound.keyed taking
      have begun := taking.takes.begun (by rw [errand]; rfl)
      exact Or.inr ⟨job.document, others, List.mem_append_right _ begun, errand, waits⟩
  case tellings =>
    intro number job rest held
    rcases stride.telling_before held with ⟨former, present⟩ | ⟨finding, finished, rfl⟩
    · exact (winding.tellings number job former present).imp_right fun taken => taken.mono kept
    · obtain ⟨earlier, present, same⟩ := finished.carries
      rcases winding.jobs number earlier present with ⟨entry, first, bond⟩ | taken
      · exact Or.inl ⟨entry, Or.inl first, bond.trans (.of_same same)⟩
      · exact Or.inr ((taken.mono kept).kin (.of_same same))
  case line =>
    intro origin uris hand uri member
    rcases stride.line_of hand with
      was | ⟨first, was⟩ | ⟨-, ready⟩ | ⟨number, job, leaving, -, errand⟩
    · exact winding.line origin uris was uri member
    · exact winding.line origin _ was uri (List.mem_cons_of_mem _ member)
    · exact absurd ready notReady
    · rcases winding.under leaving.under with ⟨entry, under, kin⟩ | ⟨_, others, -, same, waits⟩
      · exact ⟨number, entry, uris, under, kin.errand.symm.trans errand, member⟩
      · cases errand.symm.trans same
        exact waits uri member
  case stays =>
    intro uri member
    rcases stride.since_of member with earlier | ready
    · exact winding.stays uri earlier
    · exact notReady ready
  case begun =>
    intro number document member
    rcases stride.since_of member with earlier | ⟨job, taking, -, rfl⟩
    · exact winding.begun number document earlier
    · obtain ⟨others, -, waits, -⟩ := winding.takes sound.keyed taking
      have numbered := taking.takes.numbered
      exact ⟨by omega, waits⟩
  case started =>
    intro number launch member
    rcases stride.since_of member with earlier | ⟨job, engaged⟩
    · exact (winding.started number launch earlier).mono kept
    · exact (winding.works superseded hurry engaged).mono kept
  case told =>
    intro number finding member lints
    rcases stride.since_of member with earlier | ⟨-, carries, counts⟩
    · obtain ⟨document, begun⟩ := winding.told number finding earlier lints
      exact ⟨document, kept _ begun⟩
    · obtain ⟨document, begun⟩ := winding.counts superseded carries lints (counts lints)
      exact ⟨document, kept _ begun⟩
  case initialized =>
    intro initialized
    rcases stride.initialized_of initialized with earlier | ⟨number, job, engaged⟩
    · obtain ⟨number, works⟩ := winding.initialized earlier
      exact ⟨number, works.mono kept⟩
    · exact ⟨number, (winding.works superseded hurry engaged).mono kept⟩

/-- Between turns the server goes on to wind down. -/
theorem Winding.between {server : Server} {haste : Prop} {since story : List Deed}
    {place other : Hand × Turn} (winding : Winding server haste since place)
    (between : Between since place story other) : Winding server haste story other := by
  obtain ⟨documents, same⟩ := between.server
  have deeds := between.deeds
  exact
    { ended := by rw [same]; exact winding.ended
      numbers := by rw [same]; exact winding.numbers
      jobs := by rw [same, deeds]; exact winding.jobs
      tellings := by rw [same, deeds]; exact winding.tellings
      line := fun origin uris hand => absurd hand (between.no_origin origin uris).2
      stays := by rw [deeds]; exact winding.stays
      begun := by rw [deeds]; exact winding.begun
      started := by rw [deeds]; exact winding.started
      told := by rw [deeds]; exact winding.told
      initialized := by rw [deeds, same]; exact winding.initialized }

namespace Server

variable {server : Server} {history : List Deed}

end Server

/-! ## The result -/

namespace Sample

/-- The server while the tool works on the first document and the second one waits. -/
def busy : Server :=
  ((Server.start [] none ⟨[]⟩ .inMemory).course
    [begins, opens "file:///a", opens "file:///b", changes]).1

end Sample

end TemplateLint
