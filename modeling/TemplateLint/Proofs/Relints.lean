import TemplateLint.Proofs.Courses

/-!
# Lints after a change of the settings

When the editor pushes settings that are accepted, every open document is linted, one after the
other: a document is linted when the lints before it have ended, and all is told of them.  Until
then it waits in line behind the only lint that is under way for the message, however long that one
takes.
Main exports: `Server.accepted?`, `Singular`, `Owed`, `OneByOne`, `Server.relintsOneByOne`.
-/

namespace TemplateLint

/-! ## One job for each message -/

/-- The message that something is in hand for, before a job has been taken up for it. -/
def Hand.origin? : Hand → Option Nat
  | message origin => some origin
  | line origin _ => some origin
  | _ => none

/-- At most one job is under way for each message, and none while documents are in hand for it. -/
structure Singular (hand : Hand) (server : Server) : Prop where
  counted : ∀ number job, server.UnderWay number job → job.origin < server.messages
  single : ∀ number other job entry, server.UnderWay number job → server.UnderWay other entry →
    job.origin = entry.origin → number = other
  idle : ∀ origin, hand.origin? = some origin →
    origin < server.messages ∧ ∀ number job, server.UnderWay number job → job.origin ≠ origin

theorem Taking.origin {before next : Hand × Turn} {number : Nat} {job : Job}
    (taking : Taking before next number job) : before.1.origin? = some job.origin := by
  rcases taking.source with ⟨message, -⟩ | ⟨uri, others, line, -, -⟩
  · rw [message]
    rfl
  · rw [line]
    rfl

/-- A stride keeps the jobs of different messages apart. -/
theorem Stride.singular {eager : Bool} {before next : Hand × Turn}
    (stride : Stride eager before next) (parted : before.2.server.Parted)
    (singular : Singular before.1 before.2.server) :
    Singular next.1 next.2.server := by
  have messages := stride.onward.messages
  refine ⟨fun number job held => ?counted, fun number other job entry held there same => ?single,
    fun origin hand => ?idle⟩
  case counted =>
    rcases stride.under_before held with ⟨earlier, present, kin⟩ | taking
    · have bound := singular.counted number earlier present
      rw [kin.origin]
      omega
    · have bound := (singular.idle _ taking.origin).1
      omega
  case single =>
    rcases stride.under_before held with ⟨earlier, present, kin⟩ | taking
    · rcases stride.under_before there with ⟨former, known, bond⟩ | taking
      · refine singular.single number other earlier former present known ?_
        rw [← kin.origin, ← bond.origin, same]
      · refine absurd ?_ ((singular.idle _ taking.origin).2 number earlier present)
        rw [← kin.origin, same]
    · rcases stride.under_before there with ⟨former, known, bond⟩ | second
      · refine absurd ?_ ((singular.idle _ taking.origin).2 other former known)
        rw [← bond.origin, same]
      · have hand := taking.hand.symm.trans second.hand
        cases hand
        rfl
  case idle =>
    -- No job is taken up in a stride that leaves documents or a message in hand.
    have earlier {number : Nat} {job : Job} (held : next.2.server.UnderWay number job) :
        ∃ entry, before.2.server.UnderWay number entry ∧ entry.Kin job := by
      rcases stride.under_before held with found | taking
      · exact found
      · rw [taking.hand] at hand
        cases hand
    have still (waits : before.1.origin? = some origin) :
        origin < next.2.server.messages ∧
          ∀ number job, next.2.server.UnderWay number job → job.origin ≠ origin := by
      obtain ⟨bound, apart⟩ := singular.idle origin waits
      refine ⟨by omega, fun number job held => ?_⟩
      obtain ⟨entry, present, kin⟩ := earlier held
      rw [kin.origin]
      exact apart number entry present
    cases now : next.1 with
    | message number =>
        rw [now] at hand
        cases hand
        rcases stride.onward.message origin now with was | ⟨bound, here⟩
        · exact still (by rw [was]; rfl)
        · refine ⟨here, fun number job held => ?_⟩
          obtain ⟨entry, present, kin⟩ := earlier held
          have least := singular.counted number entry present
          rw [kin.origin]
          omega
    | line number uris =>
        rw [now] at hand
        cases hand
        rcases stride.line_of now with
          was | ⟨uri, was⟩ | ⟨was, -⟩ | ⟨number, job, leaving, own, -⟩
        · exact still (by rw [was]; rfl)
        · exact still (by rw [was]; rfl)
        · exact still (by rw [was]; rfl)
        · have bound := singular.counted number job leaving.under
          refine ⟨by omega, fun other entry there same => ?_⟩
          obtain ⟨former, present, kin⟩ := earlier there
          have here := singular.single number other job former leaving.under present
            (by rw [own, ← same, kin.origin])
          subst here
          exact leaving.gone parted entry there
    | _ =>
        rw [now] at hand
        cases hand

/-- Between turns the jobs stay, and nothing is in hand for a message. -/
theorem Singular.between {since story : List Deed} {place other : Hand × Turn}
    (singular : Singular place.1 place.2.server) (between : Between since place story other) :
    Singular other.1 other.2.server := by
  obtain ⟨documents, same⟩ := between.server
  rw [same]
  refine ⟨singular.counted, singular.single, fun origin hand => ?_⟩
  rcases between.begins with begins | begins <;> rw [begins] at hand <;> cases hand

namespace Server

variable {server : Server} {history : List Deed}

theorem course_singular (sound : Sound server history) (singular : Singular .free server)
    (rounds : List Round) : Singular .free (server.course rounds).1 :=
  course_kept (fun _ place => Singular place.1 place.2.server) sound rounds singular
    (fun _ _ _ _ between singular => singular.between between)
    fun _ _ _ _ _ sound singular stride => stride.singular sound.parted singular

theorem start_singular (environ : Variables) (configFile : Option Path) (venv : Path)
    (store : Store) : Singular .free (start environ configFile venv store) := by
  have none (number : Nat) (job : Job) :
      ¬ (start environ configFile venv store).UnderWay number job := by
    rintro (⟨⟨⟩⟩ | ⟨rest, ⟨⟩⟩)
  exact ⟨fun number job held => absurd held (none number job),
    fun number _ job _ held => absurd held (none number job), by rintro _ ⟨⟩⟩

end Server

/-! ## What a change owes to the documents -/

/-- A lint of the document has been taken up under the number or a later one. -/
def Relinted (first : Nat) (uri : Uri) (deeds : List Deed) : Prop :=
  ∃ number document, first ≤ number ∧ document.uri = uri ∧ .begun number document ∈ deeds

instance (first : Nat) (uri : Uri) (deeds : List Deed) : Decidable (Relinted first uri deeds) :=
  decidable_of_iff
    (deeds.any (fun deed => match deed with
      | .begun number document => first ≤ number && document.uri = uri
      | _ => false) = true) <| by
    rw [List.any_eq_true]
    constructor
    · rintro ⟨deed, member, fits⟩
      cases deed with
      | begun number document =>
          simp only [Bool.and_eq_true, decide_eq_true_eq] at fits
          exact ⟨number, document, fits.1, fits.2, member⟩
      | _ => cases fits
    · rintro ⟨number, document, bound, own, member⟩
      exact ⟨_, member, by simp [bound, own]⟩

/-- A lint of the document is to follow: the document is in hand for the message, or it is in line
behind the job for it. -/
def Awaited (origin : Nat) (uri : Uri) (place : Hand × Turn) : Prop :=
  (∃ uris, place.1 = .line origin uris ∧ uri ∈ uris) ∨
    ∃ number job others, place.2.server.UnderWay number job ∧ job.origin = origin ∧
      job.errand = .lint others ∧ uri ∈ others

/-- A document that waits is linted, or it is still to follow, or it is no longer open. -/
theorem Stride.awaited {past : List Deed} {eager : Bool} {before next : Hand × Turn}
    (stride : Stride eager before next) (sound : Turn.SoundAfter past before.2) {origin : Nat}
    {uri : Uri} (awaited : Awaited origin uri before) :
    Awaited origin uri next ∨ Relinted before.2.server.nextJob uri next.2.deeds ∨
      before.2.server.documents.get? uri = none := by
  rcases awaited with ⟨uris, hand, member⟩ | ⟨number, job, others, held, own, errand, member⟩
  · rcases stride.line_after hand with same | rfl | ⟨first, others, rfl, step⟩
    · exact Or.inl (Or.inl ⟨uris, same, member⟩)
    · cases member
    · rcases List.mem_cons.mp member with rfl | later
      · rcases step with ⟨-, absent⟩ | ⟨number, job, taking, own, errand, held⟩
        · exact Or.inr (Or.inr absent)
        · have lints : job.errand.mode = .lint := by rw [errand]; rfl
          exact Or.inr (Or.inl ⟨number, job.document, Nat.le_of_eq taking.takes.numbered.symm,
            sound.keyed _ _ held, taking.takes.begun lints⟩)
      · rcases step with ⟨line, -⟩ | ⟨number, job, taking, own, errand, -⟩
        · exact Or.inl (Or.inl ⟨others, line, later⟩)
        · exact Or.inl
            (Or.inr ⟨number, job, others, Or.inl taking.takes.held, own, errand, later⟩)
  · have lints : job.errand.mode = .lint := by rw [errand]; rfl
    have bound := sound.under_numbered held
    rcases stride.under_after sound.parted bound held lints with ⟨entry, there, kin⟩ | behind
    · exact Or.inl (Or.inr ⟨number, entry, others, there, kin.origin.trans own,
        kin.errand.trans errand, member⟩)
    · rw [Hand.behind, errand, own] at behind
      exact Or.inl (Or.inl ⟨others, behind, member⟩)

/-- A document that was open and is so no longer was closed. -/
theorem closed_of_gone {uri : Uri} {history more : List Deed}
    (opened : documentIn? uri history ≠ none) (gone : documentIn? uri (history ++ more) = none) :
    .closed uri ∈ more := by
  induction more using List.reverseRecOn with
  | nil => exact absurd (by simpa using gone) opened
  | append_singleton more last inductionHypothesis =>
      rw [← List.append_assoc, documentIn?_append] at gone
      cases said : last.document? uri with
      | none =>
          rw [said] at gone
          exact List.mem_append_left _ (inductionHypothesis gone)
      | some left =>
          rw [said] at gone
          cases last with
          | kept document =>
              simp only [Deed.document?] at said
              split at said
              · cases said
                cases gone
              · cases said
          | closed other =>
              simp only [Deed.document?] at said
              split at said
              · next same => simp [same]
              · cases said
          | _ => cases said

/-- What holds since a change of the settings that came as the message `origin`, when `first` was
the next number of a job and the documents were to be visited in the given order. -/
structure Relinting (origin first : Nat) (order : List Uri) (since : List Deed)
    (place : Hand × Turn) : Prop where
  later : origin < place.2.server.messages
  numbers : first ≤ place.2.server.nextJob
  begun : ∀ number document, .begun number document ∈ since ++ place.2.deeds → first ≤ number
  message : place.1 ≠ .message origin
  /-- The documents that are still to come are the last ones. -/
  line : ∀ uris, place.1 = .line origin uris → uris <:+ order
  jobs : ∀ number job, place.2.server.UnderWay number job → job.origin = origin →
    ∃ others, job.errand = .lint others ∧ job.document.uri :: others <:+ order
  /-- No document is forgotten. -/
  owed : ∀ uri ∈ order, .closed uri ∈ since ++ place.2.deeds ∨
    Relinted first uri (since ++ place.2.deeds) ∨ Awaited origin uri place

/-- Every stride keeps to what a change owes to the documents. -/
theorem Stride.relinting {history since : List Deed} {eager : Bool} {before next : Hand × Turn}
    {origin first : Nat} {order : List Uri} (stride : Stride eager before next)
    (sound : Turn.SoundAfter (history ++ since) before.2)
    (opened : ∀ uri ∈ order, documentIn? uri history ≠ none)
    (relinting : Relinting origin first order since before) :
    Relinting origin first order since next := by
  have later := relinting.later
  have numbers := relinting.numbers
  have messages := stride.onward.messages
  have nextJob := stride.onward.nextJob
  refine
    { later := by omega
      numbers := by omega
      begun := ?begun
      message := ?message
      line := ?line
      jobs := ?jobs
      owed := ?owed }
  case begun =>
    intro number document member
    rcases stride.since_of member with earlier | ⟨job, taking, -, -⟩
    · exact relinting.begun number document earlier
    · have numbered := taking.takes.numbered
      omega
  case message =>
    intro hand
    rcases stride.onward.message origin hand with was | ⟨bound, -⟩
    · exact relinting.message was
    · omega
  case line =>
    intro uris hand
    rcases stride.line_of hand with
      was | ⟨uri, was⟩ | ⟨was, -⟩ | ⟨number, job, leaving, own, errand⟩
    · exact relinting.line uris was
    · exact (List.suffix_cons uri uris).trans (relinting.line _ was)
    · exact absurd was relinting.message
    · obtain ⟨others, same, suffix⟩ := relinting.jobs number job leaving.under own
      cases errand.symm.trans same
      exact (List.suffix_cons _ _).trans suffix
  case jobs =>
    intro number job held own
    rcases stride.under_before held with ⟨entry, present, kin⟩ | taking
    · rw [kin.errand, kin.document]
      exact relinting.jobs number entry present (kin.origin.symm.trans own)
    · rcases taking.source with ⟨message, -⟩ | ⟨uri, others, line, errand, open?⟩
      · rw [own] at message
        exact absurd message relinting.message
      · rw [own] at line
        refine ⟨others, errand, ?_⟩
        rw [sound.keyed uri job.document open?]
        exact relinting.line _ line
  case owed =>
    intro uri member
    rcases relinting.owed uri member with closed | ⟨number, document, bound, own, begun⟩ | awaited
    · exact Or.inl (stride.since_after closed)
    · exact Or.inr (Or.inl ⟨number, document, bound, own, stride.since_after begun⟩)
    · rcases stride.awaited sound awaited with still | relinted | gone
      · exact Or.inr (Or.inr still)
      · obtain ⟨number, document, bound, own, begun⟩ := relinted
        exact Or.inr (Or.inl ⟨number, document, by omega, own, List.mem_append_right _ begun⟩)
      · rw [sound.kept, List.append_assoc] at gone
        exact Or.inl (stride.since_after (closed_of_gone (opened uri member) gone))

/-- Between turns the server keeps what it owes. -/
theorem Relinting.between {origin first : Nat} {order : List Uri} {since story : List Deed}
    {place other : Hand × Turn} (relinting : Relinting origin first order since place)
    (between : Between since place story other) : Relinting origin first order story other := by
  obtain ⟨documents, same⟩ := between.server
  have deeds := between.deeds
  refine
    { later := by rw [same]; exact relinting.later
      numbers := by rw [same]; exact relinting.numbers
      begun := by rw [deeds]; exact relinting.begun
      message := (between.no_origin origin []).1
      line := fun uris hand => absurd hand (between.no_origin origin uris).2
      jobs := by rw [same]; exact relinting.jobs
      owed := fun uri member => ?_ }
  rw [deeds]
  refine (relinting.owed uri member).imp_right (Or.imp_right fun awaited => ?_)
  rcases awaited with ⟨uris, hand, -⟩ | waits
  · rw [between.ended] at hand
    cases hand
  · right
    rw [same]
    exact waits

/-! ## The change -/

/-- The value that the editor pushes when it tells that the settings changed. -/
def Event.configuration? : Event → Option Json
  | .received (.message message) =>
      if message.method = "workspace/didChangeConfiguration" ∧ message.id = none then
        message.params.bind Params.configuration?
      else none
  | _ => none

/-- The settings of the editor after an event with which it pushes settings; none when the server
does not serve or the value is refused. -/
def Server.accepted? (server : Server) (event : Event) : Option Settings :=
  if server.phase = .ready then event.configuration?.bind (Turn.pushed? server.client) else none

namespace Turn

variable {turn : Turn}

/-- A notification of a change is heeded by a server that serves; another one counts it, and one
that has exited does not even do that. -/
theorem step_configuration {event : Event} {value : Json} (eager : Bool)
    (pushed : event.configuration? = some value) :
    turn.step event eager =
      if turn.server.phase = .exited then turn
      else if turn.server.phase = .ready then
        (turn.update fun server =>
          { server with messages := server.messages + 1 }).heedConfigured turn.server.messages value
      else turn.update fun server => { server with messages := server.messages + 1 } := by
  unfold Event.configuration? at pushed
  split at pushed
  · next message =>
      obtain ⟨method, id, params⟩ := message
      split at pushed
      · next known =>
          obtain ⟨rfl, rfl⟩ := known
          obtain ⟨given, rfl, read⟩ := Option.bind_eq_some_iff.mp pushed
          have received :
              turn.receiveMessage ⟨"workspace/didChangeConfiguration", none, some given⟩ =
                (turn.update fun server =>
                  { server with messages := server.messages + 1 }).receiveNotification
                  turn.server.messages ⟨"workspace/didChangeConfiguration", none, some given⟩
                  fun params => (Params.configuration? params).map .configured := rfl
          rw [step, receive, received]
          cases phase : turn.server.phase <;>
            simp [receiveNotification, phase, Phase.refusal?, update, read, heed, refuse]
      · cases pushed
  · cases pushed

/-- The settings are changed, and the documents are still to be linted. -/
def configured (turn : Turn) (client : Settings) : Turn :=
  turn.update fun server =>
    { server with messages := server.messages + 1, client, lastError := none }

end Turn

namespace Server

variable {server : Server} {history : List Deed} {change : Round} {client : Settings}

/-- The order in which a server visits the documents when the settings change. -/
def visits (server : Server) (change : Round) : List Uri :=
  (server.arranged change.rank).documents.keys

/-- The server in the turn of a change, before the documents are linted. -/
def changing (server : Server) (change : Round) (client : Settings) : Turn :=
  Turn.configured ⟨server.arranged change.rank, change.disk, []⟩ client

theorem turnIn_accepted (accepted : server.accepted? change.event = some client) :
    server.turnIn change =
      (server.changing change client).lintAll server.messages (server.visits change) := by
  unfold accepted? at accepted
  split at accepted
  · next ready =>
      obtain ⟨value, pushed, taken⟩ := Option.bind_eq_some_iff.mp accepted
      have serves : (server.arranged change.rank).phase = .ready := ready
      have here : Turn.pushed? (server.arranged change.rank).client value = some client := taken
      have listens : (server.arranged change.rank).phase ≠ .exited := by simp [serves]
      rw [turnIn, turnOn, step, Turn.step_configuration change.eager pushed, if_neg listens,
        if_pos serves, Turn.heedConfigured]
      simp only [Turn.update]
      rw [here]
      rfl
  · cases accepted

/-- The documents to be visited are those that are open. -/
theorem mem_visits {uri : Uri} :
    uri ∈ server.visits change ↔ ∃ document, server.documents.get? uri = some document := by
  rw [visits, arranged, (Table.keys_arrange _ _).mem_iff]
  constructor
  · intro member
    obtain ⟨⟨_, document⟩, here, rfl⟩ := List.mem_map.mp member
    exact ⟨document, Table.get?_of_mem here⟩
  · rintro ⟨document, held⟩
    exact Table.mem_keys_of_get? held

theorem changing_sound (sound : Sound server history) :
    Turn.SoundAfter history (server.changing change client) := by
  have begun : Turn.SoundAfter history ⟨server.arranged change.rank, change.disk, []⟩ := by
    simpa [Turn.SoundAfter] using arranged_sound sound change.rank
  exact begun.alike rfl rfl rfl rfl rfl rfl id

/-- At first all documents are in line. -/
theorem changing_relinting (singular : Singular .free server) :
    Relinting server.messages server.nextJob (server.visits change) []
      (.line server.messages (server.visits change), server.changing change client) where
  later := Nat.lt_succ_self _
  numbers := Nat.le_refl _
  begun := by rintro _ _ ⟨⟩
  message := by rintro ⟨⟩
  line := by
    rintro _ ⟨⟩
    exact List.suffix_rfl
  jobs := by
    intro number job held own
    have bound := singular.counted number job held
    omega
  owed := fun uri member => Or.inr (Or.inr (Or.inl ⟨_, rfl, member⟩))

/-- What every stride keeps after the settings have changed holds at the end of the turn. -/
theorem changing_kept (kept : Hand × Turn → Prop) (sound : Sound server history)
    (accepted : server.accepted? change.event = some client)
    (start : kept (.line server.messages (server.visits change), server.changing change client))
    (stride : ∀ one two, Turn.SoundAfter history one.2 → kept one →
      Stride change.eager one two → kept two) :
    kept (.free, server.turnIn change) := by
  have leads : Turn.Leads change.eager (.line server.messages (server.visits change))
      (server.changing change client) (server.turnIn change) := by
    rw [turnIn_accepted accepted]
    exact Turn.lintAll_strides _ _ _
  exact Strides.kept kept leads (changing_sound sound) start stride

/-- What the change owes is kept to in its own turn and in every turn after it. -/
theorem course_relinting (sound : Sound server history) (singular : Singular .free server)
    (accepted : server.accepted? change.event = some client) (during : List Round) :
    Relinting server.messages server.nextJob (server.visits change)
      (server.course (change :: during)).2
      (.free, ⟨(server.course (change :: during)).1, Disk.empty, []⟩) := by
  have opened : ∀ uri ∈ server.visits change, documentIn? uri history ≠ none := by
    intro uri member
    obtain ⟨document, held⟩ := mem_visits.mp member
    rw [← sound.kept, held]
    simp
  have first : Relinting server.messages server.nextJob (server.visits change) []
      (.free, server.turnIn change) :=
    changing_kept _ sound accepted (changing_relinting singular)
      fun one two sound relinting stride => stride.relinting (by simpa using sound) opened relinting
  rw [course_cons]
  refine course_kept (fun since => Relinting server.messages server.nextJob (server.visits change)
    ((server.turnIn change).deeds ++ since)) (turnIn_sound sound change) during ?_ ?_ ?_
  · exact first.between ⟨rfl, Or.inr rfl, ⟨_, rfl⟩, by simp⟩
  · intro since place story other between relinting
    exact relinting.between
      ⟨between.ended, between.begins, between.server, by simp [between.deeds]⟩
  · intro since round _ one two sound relinting stride
    exact stride.relinting (by simpa using sound) opened relinting

end Server

/-! ## The result -/

/-- How the documents that were open when settings changed are linted: the change came to `server`
in the round `change`, and the rounds `during` followed it.  A job is under way while it runs and
while it tells what it has come to. -/
structure OneByOne (server : Server) (change : Round) (during : List Round) : Prop where
  /-- One job at most is under way for the change. -/
  single : ∀ number other job entry,
    (server.course (change :: during)).1.UnderWay number job →
    (server.course (change :: during)).1.UnderWay other entry →
    job.origin = server.messages → entry.origin = server.messages → number = other
  /-- It lints a document, and behind it wait those that are visited after this one. -/
  waits : ∀ number job,
    (server.course (change :: during)).1.UnderWay number job → job.origin = server.messages →
      ∃ others, job.errand = .lint others ∧ job.document.uri :: others <:+ server.visits change
  /-- Every other document that was open has had its lint, unless it was closed. -/
  served : ∀ number job others,
    (server.course (change :: during)).1.UnderWay number job →
    job.origin = server.messages → job.errand = .lint others →
      ∀ uri document, server.documents.get? uri = some document →
        .closed uri ∉ (server.course (change :: during)).2 → uri ∉ others →
          Relinted server.nextJob uri (server.course (change :: during)).2
  /-- When no job is under way for the change, all of them have. -/
  done : (∀ number job, (server.course (change :: during)).1.UnderWay number job →
      job.origin ≠ server.messages) →
    ∀ uri document, server.documents.get? uri = some document →
      .closed uri ∉ (server.course (change :: during)).2 →
        Relinted server.nextJob uri (server.course (change :: during)).2

/-- After an accepted change the documents are linted one by one, in every course of events and in
whatever order they are visited. -/
theorem Server.relintsOneByOne (environ : Variables) (configFile : Option Path) (venv : Path)
    (store : Store) (before : List Round) (change : Round) (during : List Round)
    (client : Settings)
    (accepted : ((start environ configFile venv store).course before).1.accepted? change.event =
      some client) :
    OneByOne ((start environ configFile venv store).course before).1 change during := by
  have begins := start_sound environ configFile venv store
  have sound := course_sound begins before
  have singular := course_singular begins (start_singular environ configFile venv store) before
  generalize ((start environ configFile venv store).course before).1 = server at *
  have apart := (course_singular sound singular (change :: during)).single
  have parted := (course_sound sound (change :: during)).parted
  have relinting := course_relinting sound singular accepted during
  -- A document that is not linted yet is in line behind the job for the change.
  have owed {uri : Uri} {document : Document} (held : server.documents.get? uri = some document)
      (stays : .closed uri ∉ (server.course (change :: during)).2) :
      Relinted server.nextJob uri (server.course (change :: during)).2 ∨
        ∃ number job others, (server.course (change :: during)).1.UnderWay number job ∧
          job.origin = server.messages ∧ job.errand = .lint others ∧ uri ∈ others := by
    have paid := relinting.owed uri (mem_visits.mpr ⟨document, held⟩)
    simp only [List.append_nil] at paid
    rcases paid with closed | relinted | ⟨uris, ⟨⟩, -⟩ | waits
    · exact absurd closed stays
    · exact Or.inl relinted
    · exact Or.inr waits
  refine
    { single := fun number other job entry held there own same =>
        apart number other job entry held there (own.trans same.symm)
      waits := relinting.jobs
      served := ?served
      done := ?done }
  case served =>
    intro number job others held own errand uri document open? stays passed
    rcases owed open? stays with relinted | ⟨other, entry, line, there, same, waits, member⟩
    · exact relinted
    · have here := apart number other job entry held there (own.trans same.symm)
      subst here
      cases parted.unique held there
      cases errand.symm.trans waits
      exact absurd member passed
  case done =>
    intro none uri document open? stays
    rcases owed open? stays with relinted | ⟨number, job, others, held, own, -, -⟩
    · exact relinted
    · exact absurd own (none number job held)

theorem Sample.changes_accepted :
    (Sample.server.accepted? Sample.changes.event).isSome = true := by
  decide +kernel

theorem sample_relintsOneByOne :
    ∃ client, Sample.server.accepted? Sample.changes.event = some client ∧
      OneByOne Sample.server Sample.changes [] := by
  obtain ⟨client, accepted⟩ := Option.isSome_iff_exists.mp Sample.changes_accepted
  refine ⟨client, accepted, ?_⟩
  rw [Sample.server] at accepted ⊢
  exact Server.relintsOneByOne [] none ⟨[]⟩ .inMemory
    [Sample.begins, Sample.opens "file:///a", Sample.opens "file:///b"] Sample.changes [] client
    accepted

/-- While the tool works on one document for the change, every other one has had its lint. -/
def NoneWaits (server : Server) (change : Round) (during : List Round) : Prop :=
  ∀ number job python, (server.course (change :: during)).1.jobs.get? number = some job →
    job.origin = server.messages → job.wait = .tool python →
      ∀ uri document, server.documents.get? uri = some document → uri ≠ job.document.uri →
        .closed uri ∉ (server.course (change :: during)).2 →
          Relinted server.nextJob uri (server.course (change :: during)).2

/-- The tool works on the first document, and the second one has to wait. -/
theorem sample_waits :
    (Sample.server.accepted? Sample.changes.event).isSome = true ∧
      ¬ NoneWaits Sample.server Sample.changes [] := by
  obtain ⟨working, opened, untouched, late⟩ :
      ((Sample.server.course [Sample.changes]).1.jobs.get? 2).map
            (fun job => (job.origin, job.document.uri, job.wait)) =
          some (Sample.server.messages, Sample.page "a", .tool (Path.ofString "/python")) ∧
        (Sample.server.documents.get? (Sample.page "b")).isSome = true ∧
        (Sample.server.course [Sample.changes]).2.all
            (fun deed => (deed.document? (Sample.page "b")).isNone) = true ∧
        ¬ Relinted Sample.server.nextJob (Sample.page "b")
          (Sample.server.course [Sample.changes]).2 := by
    decide +kernel
  refine ⟨Sample.changes_accepted, fun noneWaits => ?_⟩
  obtain ⟨job, held, same⟩ := Option.map_eq_some_iff.mp working
  obtain ⟨document, kept⟩ := Option.isSome_iff_exists.mp opened
  obtain ⟨own, here, waits⟩ : job.origin = Sample.server.messages ∧
      job.document.uri = Sample.page "a" ∧ job.wait = .tool (Path.ofString "/python") := by
    simpa using same
  have other : Sample.page "b" ≠ job.document.uri := by
    rw [here]
    decide
  have stays : .closed (Sample.page "b") ∉ (Sample.server.course [Sample.changes]).2 := by
    intro member
    have touched := List.all_eq_true.mp untouched _ member
    simp [Deed.document?] at touched
  exact late (noneWaits 2 job _ held own waits _ document kept other stays)

end TemplateLint
