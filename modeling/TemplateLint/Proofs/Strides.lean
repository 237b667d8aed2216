import TemplateLint.Proofs.Acts

/-!
# The strides of a turn

In the middle of a turn a server has something in hand that it goes on with: a message, documents
that are to be linted one after the other, or a job.  A stride does the next thing and says what is
in hand afterwards, so that a property of turns can speak of what is still to come.  Every turn is
a run of strides that ends with nothing in hand.
Main exports: `Hand`, `Stride`, `Strides`, `Turn.step_strides`, `Turn.step_acts`.
-/

namespace TemplateLint

/-- What a server has in hand in the middle of a turn. -/
inductive Hand where
  /-- The turn has just begun. -/
  | fresh
  /-- A message, under its number. -/
  | message (origin : Nat)
  /-- Documents that are to be linted for a message, one after the other. -/
  | line (origin : Nat) (uris : List Uri)
  /-- A job that was just taken up. -/
  | taken (number : Nat) (job : Job)
  /-- A job that has come to a finding. -/
  | found (number : Nat) (finding : Finding)
  /-- A superseded job that is to be dropped. -/
  | stale (number : Nat) (job : Job)
  /-- Nothing any more. -/
  | free

namespace Hand

/-- The turn may end here. -/
def IsIdle : Hand → Prop
  | fresh => True
  | message _ => True
  | line _ uris => uris = []
  | _ => False

/-- What is in hand after a piece of work: its finding, if it has come to one. -/
def after (number : Nat) : Option Finding → Hand
  | some finding => found number finding
  | none => free

/-- What is in hand after a job: the documents that wait behind it. -/
def behind (job : Job) : Hand :=
  match job.errand with
  | .lint others => line job.origin others
  | .format .. => free

end Hand

/-- The next thing that a server does, and what it has in hand before and after it.  An eager
server may go on a little with a job that is to be dropped. -/
inductive Stride (eager : Bool) : Hand × Turn → Hand × Turn → Prop where
  | aside (hand : Hand) (turn next : Turn) (act : Act turn next) (apart : turn.Apart next) :
      Stride eager (hand, turn) (hand, next)
  | rest (hand : Hand) (turn : Turn) (idle : hand.IsIdle) : Stride eager (hand, turn) (.free, turn)
  -- A message
  | count (turn : Turn) :
      Stride eager (.fresh, turn)
        (.message turn.server.messages,
          turn.update fun server => { server with messages := server.messages + 1 })
  | configure (turn : Turn) (origin : Nat) (client : Settings)
      (ready : turn.server.phase = .ready) :
      Stride eager (.message origin, turn)
        (.line origin turn.server.documents.keys,
          turn.update fun server => { server with client, lastError := none })
  | save (turn : Turn) (origin : Nat) (uri : Uri) (ready : turn.server.phase = .ready) :
      Stride eager (.message origin, turn) (.line origin [uri], turn)
  | renewLint (turn : Turn) (origin : Nat) (document : Document)
      (ready : turn.server.phase = .ready) :
      Stride eager (.message origin, turn)
        (.taken ((turn.keep document).beginLint origin document []).1.1
          ((turn.keep document).beginLint origin document []).1.2,
          ((turn.keep document).beginLint origin document []).2)
  | beginFormat (turn : Turn) (origin : Nat) (request : RpcId) (tabSize : Nat) (uri : Uri)
      (document : Document) (held : turn.server.documents.get? uri = some document)
      (ready : turn.server.phase = .ready) :
      Stride eager (.message origin, turn)
        (.taken (turn.beginFormat origin request tabSize document).1.1
          (turn.beginFormat origin request tabSize document).1.2,
          (turn.beginFormat origin request tabSize document).2)
  | shutDown (turn : Turn) (origin : Nat) (id : RpcId)
      (closing : turn.server.phase = .closing) :
      Stride eager (.message origin, turn) (.free, turn.shutDown id)
  -- Documents in line
  | skip (turn : Turn) (origin : Nat) (uri : Uri) (others : List Uri)
      (absent : turn.server.documents.get? uri = none) :
      Stride eager (.line origin (uri :: others), turn) (.line origin others, turn)
  | beginLint (turn : Turn) (origin : Nat) (uri : Uri) (others : List Uri) (document : Document)
      (held : turn.server.documents.get? uri = some document) :
      Stride eager (.line origin (uri :: others), turn)
        (.taken (turn.beginLint origin document others).1.1
          (turn.beginLint origin document others).1.2,
          (turn.beginLint origin document others).2)
  -- A job
  | proceed (turn : Turn) (number : Nat) (job : Job) (carries : turn.Carries number job)
      (counts : job.superseded = false) :
      Stride eager (.taken number job, turn)
        (.after number (turn.proceed number job).2, (turn.proceed number job).1)
  | resume (turn : Turn) (number : Nat) (job : Job) (news : News)
      (held : turn.server.jobs.get? number = some job) (counts : job.superseded = false) :
      Stride eager (.fresh, turn)
        (.after number (turn.resume number job news).2, (turn.resume number job news).1)
  | linger (turn : Turn) (number : Nat) (job : Job) (news : News) (eagerly : eager = true)
      (held : turn.server.jobs.get? number = some job) (superseded : job.superseded = true) :
      Stride eager (.fresh, turn) (.stale number job, (turn.resume number job news).1)
  | spot (turn : Turn) (number : Nat) (job : Job)
      (held : turn.server.jobs.get? number = some job) (superseded : job.superseded = true) :
      Stride eager (.fresh, turn) (.stale number job, turn)
  -- The end of a job
  | drop (turn : Turn) (number : Nat) (job : Job) (carries : turn.Carries number job)
      (superseded : job.superseded = true) :
      Stride eager (.stale number job, turn)
        (.behind job, (turn.abandon number).clearInFlight number job.document.uri)
  | finishLint (turn : Turn) (number : Nat) (finding : Finding)
      (carries : turn.Carries number finding.job) (lints : finding.job.errand.mode = .lint)
      (counts : finding.job.superseded = false) :
      Stride eager (.found number finding, turn) (.free, turn.finishLint number finding)
  | finishFormat (turn : Turn) (number : Nat) (request : RpcId) (finding : Finding)
      (carries : turn.Carries number finding.job)
      (formats : finding.job.errand.request? = some request) :
      Stride eager (.found number finding, turn) (.free, turn.finishFormat number request finding)
  /-- All is told. -/
  | conclude (turn : Turn) (number : Nat) (telling : Telling)
      (held : turn.server.tellings.get? number = some telling)
      (all : turn.IsTold number telling) :
      Stride eager (.fresh, turn) (.behind telling.job, turn.silence number)

/-- A run of strides. -/
abbrev Strides (eager : Bool) : Hand × Turn → Hand × Turn → Prop :=
  Relation.ReflTransGen (Stride eager)

/-- A stride is an act, or none, or several. -/
theorem Stride.acts {eager : Bool} {before next : Hand × Turn}
    (stride : Stride eager before next) : Acts before.2 next.2 := by
  cases stride with
  | aside hand turn next act apart => exact .single act
  | rest hand turn idle => exact .refl
  | count turn => exact .single (.count turn)
  | configure turn origin client ready => exact .single (.configure turn client ready)
  | save turn origin uri ready => exact .refl
  | renewLint turn origin document ready => exact .single (.renewLint turn origin document ready)
  | beginFormat turn origin request tabSize uri document held ready =>
      exact .single (.beginFormat turn origin request tabSize uri document held)
  | shutDown turn origin id closing => exact .single (.shutDown turn id closing)
  | skip turn origin uri others absent => exact .refl
  | beginLint turn origin uri others document held =>
      exact .single (.beginLint turn origin uri document others held)
  | proceed turn number job carries counts => exact (Turn.proceed_works carries).acts
  | resume turn number job news held counts =>
      exact (Turn.resume_works (Turn.carries_of_get? held) news).acts
  | linger turn number job news eagerly held superseded =>
      exact (Turn.resume_works (Turn.carries_of_get? held) news).acts
  | spot turn number job held superseded => exact .refl
  | drop turn number job carries superseded =>
      exact .single (.drop turn number job carries superseded)
  | finishLint turn number finding carries lints counts =>
      exact .single (.finishLint turn number finding carries lints counts)
  | finishFormat turn number request finding carries formats =>
      exact .single (.finishFormat turn number request finding carries formats)
  | conclude turn number telling held all => exact .single (.conclude turn number telling held all)

/-- What is done stride by stride is done act by act. -/
theorem Strides.acts {eager : Bool} {before next : Hand × Turn}
    (strides : Strides eager before next) : Acts before.2 next.2 := by
  induction strides with
  | refl => exact .refl
  | tail _ stride inductionHypothesis => exact inductionHypothesis.trans stride.acts

namespace Turn

variable {turn middle : Turn} {number : Nat} {job : Job} {eager : Bool}

/-- The turn goes on from what is in hand to its end. -/
abbrev Leads (eager : Bool) (hand : Hand) (turn next : Turn) : Prop :=
  Strides eager (hand, turn) (.free, next)

theorem leads_rest (turn : Turn) {hand : Hand} (idle : hand.IsIdle) :
    Leads eager hand turn turn :=
  .single (.rest hand turn idle)

/-- Something is done aside, and then the turn ends. -/
theorem leads_aside {next : Turn} {hand : Hand} (act : Act turn next) (apart : turn.Apart next)
    (idle : hand.IsIdle) : Leads eager hand turn next :=
  .head (.aside hand turn next act apart) (leads_rest next idle)

/-! ## From one lint to the next -/

/-- Go on after work on a lint: it is told, once it has come to a finding. -/
def lintRest (number : Nat) : Turn × Option Finding → Turn
  | (turn, none) => turn
  | (turn, some finding) => turn.finishLint number finding

theorem lintAll_cons (turn : Turn) (origin : Nat) {uri : Uri} {document : Document}
    (others : List Uri) (held : turn.server.documents.get? uri = some document) :
    turn.lintAll origin (uri :: others) =
      lintRest (turn.beginLint origin document others).1.1
        ((turn.beginLint origin document others).2.proceed
          (turn.beginLint origin document others).1.1
          (turn.beginLint origin document others).1.2) := by
  simp only [lintAll, held]
  rcases turn.beginLint origin document others with ⟨⟨number, job⟩, begun⟩
  rcases begun.proceed number job with ⟨ended, - | finding⟩
  · rfl
  · rfl

/-- A lint that was taken up comes to a wait, or to its finding. -/
theorem lintRest_strides (carries : turn.Carries number job) (lints : job.errand.mode = .lint)
    (counts : job.superseded = false) :
    Leads eager (.taken number job) turn (lintRest number (turn.proceed number job)) := by
  have works := proceed_works carries
  refine .head (.proceed turn number job carries counts) ?_
  generalize turn.proceed number job = result at works ⊢
  rcases result with ⟨ended, - | finding⟩
  · exact .refl
  · have same : job.Same finding.job := works.finding finding rfl
    exact .single (.finishLint ended number finding (works.carries.same same)
      (same.errand ▸ lints) (same.superseded ▸ counts))

/-- The loop goes over the documents in line one by one, as long as each lint is through at once. -/
theorem lintAll_strides (turn : Turn) (origin : Nat) (uris : List Uri) :
    Leads eager (.line origin uris) turn (turn.lintAll origin uris) := by
  induction uris generalizing turn with
  | nil => exact leads_rest turn rfl
  | cons uri others inductionHypothesis =>
      cases held : turn.server.documents.get? uri with
      | none =>
          simp only [lintAll, held]
          exact .head (.skip turn origin uri others held) (inductionHypothesis turn)
      | some document =>
          rw [lintAll_cons turn origin others held]
          have begun := (beginLint_takes turn origin document others).held
          exact .head (.beginLint turn origin uri others document held)
            (lintRest_strides (carries_of_get? begun) rfl rfl)

/-- A document that has just been kept is linted. -/
theorem keep_lintAll_strides (origin : Nat) (document : Document)
    (ready : turn.server.phase = .ready) :
    Leads eager (.message origin) turn ((turn.keep document).lintAll origin [document.uri]) := by
  have held : (turn.keep document).server.documents.get? document.uri = some document := by
    simp [keep, update, note, Table.get?_put]
  rw [lintAll_cons _ origin [] held]
  have begun := (renewLint_takes turn origin document).held
  exact .head (.renewLint turn origin document ready)
    (lintRest_strides (carries_of_get? begun) rfl rfl)

/-! ## From one event to the next -/

/-- A finding is told before anything behind it goes on. -/
theorem finish_strides {finding : Finding} (carries : turn.Carries number finding.job)
    (counts : finding.job.superseded = false) :
    Leads eager (.found number finding) turn (turn.finish number finding) := by
  unfold finish
  split
  · next others errand =>
      exact .single (.finishLint turn number finding carries (by rw [errand]; rfl) counts)
  · next request tabSize errand =>
      exact .single (.finishFormat turn number request finding carries (by rw [errand]; rfl))

theorem finishIfDone_strides {result : Turn × Option Finding}
    (works : Works turn number job result) (counts : job.superseded = false) :
    Leads eager (.after number result.2) result.1 (finishIfDone number result) := by
  obtain ⟨middle, found⟩ := result
  cases found with
  | none => exact .refl
  | some finding =>
      have same : job.Same finding.job := works.finding finding rfl
      exact finish_strides (works.carries.same same) (same.superseded ▸ counts)

/-- A lint that is dropped leaves the documents behind it to the loop. -/
theorem dropLint_strides (carries : turn.Carries number job) (superseded : job.superseded = true) :
    Leads eager (.stale number job) turn (turn.dropLint number job) := by
  have dropped : Stride eager (.stale number job, turn)
      (.behind job, (turn.abandon number).clearInFlight number job.document.uri) :=
    .drop turn number job carries superseded
  unfold dropLint
  unfold Hand.behind at dropped
  split
  · next errand =>
      simp only [errand] at dropped
      exact .head dropped (lintAll_strides _ _ _)
  · next errand =>
      simp only [errand] at dropped
      exact .single dropped

/-- News of a program is taken with a free hand, and the hand is free after it. -/
theorem deliver_strides (turn : Turn) (number : Nat) (news : News) (eager : Bool) :
    Leads eager .fresh turn (turn.deliver number news eager) := by
  unfold deliver
  split
  · exact leads_rest turn trivial
  · next job held =>
      split
      · exact leads_rest turn trivial
      · split
        · next superseded =>
            cases eager with
            | false =>
                exact .head (.spot turn number job held superseded)
                  (dropLint_strides (carries_of_get? held) superseded)
            | true =>
                exact .head (.linger turn number job news rfl held superseded)
                  (dropLint_strides (resume_works (carries_of_get? held) news).carries superseded)
        · next counts =>
            have counts : job.superseded = false := by simpa using counts
            exact .head (.resume turn number job news held counts)
              (finishIfDone_strides (resume_works (carries_of_get? held) news) counts)

/-- When all is told, the lints in line are gone on with, or a request is answered. -/
theorem conclude_strides {telling : Telling}
    (held : turn.server.tellings.get? number = some telling)
    (all : turn.IsTold number telling) :
    Leads eager .fresh turn (turn.conclude number telling.job) := by
  have concluded : Stride eager (.fresh, turn) (.behind telling.job, turn.silence number) :=
    .conclude turn number telling held all
  unfold conclude
  unfold Hand.behind at concluded
  split
  · next errand =>
      simp only [errand] at concluded
      exact .head concluded (lintAll_strides _ _ _)
  · next request _ errand =>
      simp only [errand] at concluded
      exact .head concluded (.single (.aside .free _ _ (.reply _ request _ (by simp))
        (Speaks.reply _ request _).apart))

/-- What remains to be told of a finding is told step by step. -/
theorem tellOn_strides {telling : Telling}
    (held : turn.server.tellings.get? number = some telling) :
    Leads eager .fresh turn (turn.tellOn number telling) := by
  obtain ⟨job, rest⟩ := telling
  cases rest with
  | nothing => exact conclude_strides held (Or.inl rfl)
  | log failure =>
      exact leads_aside (.report turn number job failure held) (.report held) trivial
  | display failure =>
      have still : (turn.popUp number job failure).server.tellings.get? number =
          some ⟨job, .display failure⟩ := by
        rw [(Talks.popUp turn number job failure).2, held]
      exact .head (.aside .fresh turn _ (.popUp turn number job failure held)
          (.popUp turn number job failure))
        (conclude_strides still (Or.inr ⟨failure, turn, rfl, rfl⟩))

theorem wake_strides (turn : Turn) (number : Nat) (eager : Bool) :
    Leads eager .fresh turn (turn.wake number eager) := by
  unfold wake
  split
  · next held => exact tellOn_strides held
  · exact deliver_strides turn number .wake eager

theorem format_strides (origin : Nat) (request : RpcId) (tabSize : Nat) {uri : Uri}
    {document : Document} (held : turn.server.documents.get? uri = some document)
    (ready : turn.server.phase = .ready) :
    Leads eager (.message origin) turn (turn.format origin request tabSize document) := by
  have carries := carries_of_get? (beginFormat_takes turn origin request tabSize document).held
  exact .head (.beginFormat turn origin request tabSize uri document held ready)
    (.head (.proceed _ _ _ carries rfl) (finishIfDone_strides (proceed_works carries) rfl))

/-! ## Cancelled requests -/

/-- Requests are cancelled one by one: if each can be cancelled as long as its job is there, and the
other jobs stay there, then all are. -/
theorem cancelEach_strides (hand : Hand) (meant : RpcId → Bool)
    {cancel : Turn → Nat → RpcId → Turn} (held : Turn → Nat × Job → Prop)
    (cancels : ∀ turn pair request, held turn pair → pair.2.errand.request? = some request →
      Strides eager (hand, turn) (hand, cancel turn pair.1 request))
    (spares : ∀ turn pair number request, held turn pair → pair.1 ≠ number →
      held (cancel turn number request) pair)
    {pairs : List (Nat × Job)} (distinct : (pairs.map Prod.fst).Nodup)
    (all : ∀ pair ∈ pairs, held turn pair) :
    Strides eager (hand, turn) (hand, turn.cancelEach cancel meant pairs) := by
  induction pairs generalizing turn with
  | nil => exact .refl
  | cons pair rest inductionHypothesis =>
      rw [List.map_cons, List.nodup_cons] at distinct
      have here := all pair (by simp)
      have later : ∀ other ∈ rest, held turn other := fun other member => all other (by simp [member])
      have unmoved := inductionHypothesis distinct.2 later
      rw [cancelEach, List.foldl_cons]
      split
      · next request asked =>
          split
          · refine (cancels turn pair request here asked).trans
              (inductionHypothesis distinct.2 fun other member => ?_)
            exact spares turn other pair.1 request (later other member) fun same =>
              distinct.1 (same ▸ List.mem_map_of_mem member)
          · exact unmoved
      · exact unmoved

/-- Requests are cancelled one by one, those that run before those that tell. -/
theorem cancelRequests_strides (turn : Turn) (hand : Hand) (meant : RpcId → Bool)
    (idle : hand.IsIdle) : Leads eager hand turn (turn.cancelRequests meant) := by
  have jobs : Strides eager (hand, turn)
      (hand, turn.cancelEach cancelJob meant turn.server.jobs.pairs) := by
    refine cancelEach_strides hand meant
      (fun turn pair => turn.server.jobs.get? pair.1 = some pair.2) ?_ ?_
      turn.server.jobs.distinct fun _ member => Table.get?_of_mem member
    · intro turn pair request here asked
      have formats := Errand.mode_of_request? asked
      exact .single (.aside hand turn _
        (.cancel turn pair.1 request pair.2 (carries_of_get? here) formats)
        (.cancel request here formats))
    · intro turn pair number request here different
      exact (get?_abandon turn number pair.1).trans ((if_neg different).trans here)
  have tellers : ∀ turn : Turn, Strides eager (hand, turn)
      (hand, turn.cancelEach cancelTelling meant turn.server.tellers) := by
    intro turn
    refine cancelEach_strides hand meant
      (fun turn pair => ∃ rest, turn.server.tellings.get? pair.1 = some ⟨pair.2, rest⟩) ?_ ?_ ?_ ?_
    · rintro turn pair request ⟨rest, here⟩ asked
      exact .single (.aside hand turn _ (.cancelTelling turn pair.1 request _ here asked)
        (.cancelTelling request here (Errand.mode_of_request? asked)))
    · rintro turn pair number request ⟨rest, here⟩ different
      refine ⟨rest, ?_⟩
      simp only [cancelTelling, reply, emit, note, silence, update, Table.get?_erase]
      rw [if_neg different, here]
    · simpa [Server.tellers, Function.comp_def] using turn.server.tellings.distinct
    · intro pair member
      obtain ⟨⟨number, job, rest⟩, here, rfl⟩ := List.mem_map.mp member
      exact ⟨rest, Table.get?_of_mem here⟩
  exact (jobs.trans (tellers _)).trans (leads_rest _ idle)

/-! ## Messages -/

/-- A notification is heeded in strides, whichever it is. -/
theorem heed_strides (keyed : turn.server.Keyed) (ready : turn.server.phase = .ready)
    (origin : Nat) (notification : Notification) :
    Leads eager (.message origin) turn (turn.heed origin notification) := by
  have still : Leads eager (.message origin) turn turn := leads_rest turn trivial
  cases notification with
  | initialized => exact leads_aside (.greet turn _) (Speaks.tell turn _).apart trivial
  | opened document => exact keep_lintAll_strides origin document ready
  | changed change =>
      simp only [heed, heedChanged]
      split
      · next text document _ held =>
          have own : document.uri = change.uri := keyed change.uri document held
          rw [← own]
          exact keep_lintAll_strides origin
            { document with text, version := some change.version } ready
      · exact still
  | saved uri text =>
      simp only [heed, heedSaved]
      split
      · next text document held =>
          have own : document.uri = uri := keyed uri document held
          rw [← own]
          exact keep_lintAll_strides origin { document with text } ready
      · exact .head (.save turn origin uri ready) (lintAll_strides turn origin [uri])
  | closed uri => exact leads_aside (.close turn uri ready) (.close uri ready) trivial
  | configured value =>
      simp only [heed, heedConfigured]
      split
      · exact still
      · next client _ =>
          exact .head (.configure turn origin client ready) (lintAll_strides _ _ _)
  | foldersChanged change =>
      exact leads_aside (.folders turn change) (.folders turn change) trivial
  | useless => exact still

theorem refuse_strides (turn : Turn) {origin : Nat} (id : Option RpcId) (error : RpcError) :
    Leads eager (.message origin) turn (turn.refuse id error) := by
  cases id with
  | none => exact leads_rest turn trivial
  | some request =>
      exact leads_aside (.reply turn request _ (by simp)) (Speaks.reply turn _ _).apart trivial

theorem request_strides {origin : Nat} (id : Option RpcId) {handle : RpcId → Turn}
    (handled : ∀ id, Leads eager (.message origin) turn (handle id)) :
    Leads eager (.message origin) turn (turn.request id handle) := by
  unfold request
  split
  · exact leads_rest turn trivial
  · split
    · exact refuse_strides turn _ _
    · exact handled _

theorem ready_of_refusal? {phase : Phase} (serves : phase.refusal? = none) : phase = .ready := by
  cases phase <;> simp_all [Phase.refusal?]

/-- A guarded request is handled only while the server is ready. -/
theorem guarded_strides {origin : Nat} (id : Option RpcId) {handle : RpcId → Turn}
    (handled : turn.server.phase = .ready → ∀ id, Leads eager (.message origin) turn (handle id)) :
    Leads eager (.message origin) turn (turn.guarded id handle) := by
  unfold guarded
  split
  · exact refuse_strides turn id _
  · next serves => exact request_strides id (handled (ready_of_refusal? serves))

theorem receiveBeginning_strides (turn : Turn) (origin : Nat) (message : Message) :
    Leads eager (.message origin) turn (turn.receiveBeginning message) := by
  unfold receiveBeginning
  split
  · next fresh =>
      refine request_strides _ fun id => ?_
      split
      · exact leads_aside (.serve turn id _ fresh) (.serve id _ fresh) trivial
      · exact refuse_strides turn _ _
  · exact refuse_strides turn _ _

theorem receiveShutdown_strides (turn : Turn) (origin : Nat) (message : Message) :
    Leads eager (.message origin) turn (turn.receiveShutdown message) := by
  unfold receiveShutdown
  split
  · exact refuse_strides turn _ _
  · next serves =>
      have ready := ready_of_refusal? serves
      refine .head (.aside _ turn _ (.closing turn ready) (.closing ready)) ?_
      refine request_strides _ fun id => ?_
      split
      · exact refuse_strides _ _ _
      · exact .single (.shutDown _ origin id rfl)

theorem receiveExit_strides (turn : Turn) (origin : Nat) :
    Leads eager (.message origin) turn turn.receiveExit :=
  .head (.aside _ turn _ (.exit turn) (.exit turn)) (cancelRequests_strides _ _ _ trivial)

theorem receiveCancel_strides (turn : Turn) (origin : Nat) (message : Message) :
    Leads eager (.message origin) turn (turn.receiveCancel message) := by
  unfold receiveCancel
  split
  · exact refuse_strides turn _ _
  · exact cancelRequests_strides turn _ _ trivial
  · exact leads_rest turn trivial

theorem receiveFormatting_strides (turn : Turn) (origin : Nat) (message : Message) :
    Leads eager (.message origin) turn (turn.receiveFormatting origin message) := by
  refine guarded_strides _ fun ready id => ?_
  split
  · simp only [answerFormatting]
    split
    · exact leads_aside (.reply turn id _ (by simp)) (Speaks.reply turn _ _).apart trivial
    · next held => exact format_strides origin id _ held ready
  · exact refuse_strides turn _ _

theorem receiveNotification_strides (keyed : turn.server.Keyed) (origin : Nat) (message : Message)
    (read : Json → Option Notification) :
    Leads eager (.message origin) turn (turn.receiveNotification origin message read) := by
  unfold receiveNotification
  split
  · exact refuse_strides turn _ _
  · exact refuse_strides turn _ _
  · next serves _ =>
      split
      · exact heed_strides keyed (ready_of_refusal? serves) origin _
      · exact leads_rest turn trivial

theorem receiveUnoffered_strides (turn : Turn) (origin : Nat) (message : Message)
    (needs : List Unoffered.Need) :
    Leads eager (.message origin) turn (turn.receiveUnoffered message needs) := by
  refine guarded_strides _ fun _ id => ?_
  split
  · exact refuse_strides turn _ _
  · exact refuse_strides turn _ _

theorem receiveUnknown_strides (turn : Turn) (origin : Nat) (message : Message) :
    Leads eager (.message origin) turn (turn.receiveUnknown message) := by
  unfold receiveUnknown
  split
  · exact leads_rest turn trivial
  · exact refuse_strides turn _ _

/-- A message is counted and then handled, and the hand is free after it. -/
theorem receiveMessage_strides (keyed : turn.server.Keyed) (message : Message) :
    Leads eager .fresh turn (turn.receiveMessage message) := by
  unfold receiveMessage
  refine .head (.count turn) ?_
  simp only
  split
  · exact receiveBeginning_strides _ _ _
  · exact receiveShutdown_strides _ _ _
  · exact receiveExit_strides _ _
  · exact receiveCancel_strides _ _ _
  · exact receiveFormatting_strides _ _ _
  · split
    · refine receiveNotification_strides ?_ _ _ _
      exact keyed
    · exact receiveUnoffered_strides _ _ _ _
    · exact receiveUnknown_strides _ _ _

/-- An answer is taken with a free hand. -/
theorem receiveAnswer_strides (turn : Turn) (id : RpcId) (result : Option Json) (eager : Bool) :
    Leads eager .fresh turn (turn.receiveAnswer id result eager) := by
  unfold receiveAnswer
  split
  · next value =>
    simp only
    split
    · exact leads_rest turn trivial
    · have answered := Act.answered turn value.toNat
      refine .head (.aside _ turn _ answered (.answered turn value.toNat)) ?_
      split
      · exact deliver_strides _ _ _ _
      · split
        · exact leads_aside (.choose _ _ _ _) (.choose _ _ _ _) trivial
        · exact leads_rest _ trivial
  · exact leads_rest turn trivial

/-- Every turn is a run of strides that ends with nothing in hand. -/
theorem step_strides (keyed : turn.server.Keyed) (event : Event) (eager : Bool) :
    Leads eager .fresh turn (turn.step event eager) := by
  cases event with
  | received incoming =>
      cases incoming with
      | message message =>
          simp only [step, receive]
          split
          · exact leads_rest turn trivial
          · exact receiveMessage_strides keyed message
      | answer id result => exact receiveAnswer_strides turn id result eager
  | ended job result => exact deliver_strides turn job _ eager
  | removed job result => exact deliver_strides turn job _ eager
  | woken job => exact wake_strides turn job eager

/-- Every turn is a chain of acts. -/
theorem step_acts (keyed : turn.server.Keyed) (event : Event) (eager : Bool) :
    Acts turn (turn.step event eager) :=
  (step_strides keyed event eager).acts

end Turn

end TemplateLint
