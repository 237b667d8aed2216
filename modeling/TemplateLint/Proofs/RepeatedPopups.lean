import TemplateLint.Proofs.Remarks

/-!
# Popups are not repeated

The remarks of a server are put down turn by turn in a ledger.  What the last popup said, as far as
the server remembers it, can be read off the ledger: it is the last popup in it, unless a lint came
to its problems or settings were accepted since.  So one popup follows another with the same
message only when something came between them, and a failure that is considered without a popup is
one that the settings hide or that the last popup told.  Between the log of a failure and the moment
when it is considered, other failures may be logged and shown.  Nothing is shown any more when the
server has exited, and a failure is not even considered when its request is cancelled before that.
Main exports: `Server.ledger`, `Remark.Clears`, `Unrepeated`, `Server.popupsUnrepeated`,
`NoneUnshown`.
-/

namespace TemplateLint

/-! ## What is remembered -/

namespace Remark

/-- What the last popup said, after a remark. -/
def remember (last : Option String) : Remark → Option String
  | accepted => none
  | succeeded => none
  | popup message => some message
  | _ => last

/-- A popup with the message may come after this although there has been one. -/
def Clears (message : String) : Remark → Prop
  | accepted => True
  | succeeded => True
  | popup other => other ≠ message
  | _ => False

end Remark

/-- What the last popup said, after some remarks. -/
def remembered (last : Option String) (remarks : List Remark) : Option String :=
  remarks.foldl Remark.remember last

theorem remembered_append (last : Option String) (one two : List Remark) :
    remembered last (one ++ two) = remembered (remembered last one) two :=
  List.foldl_append

/-- A message is remembered until something clears it. -/
theorem remembered_of_uncleared {message : String} {remarks : List Remark}
    (uncleared : ∀ remark ∈ remarks, ¬ remark.Clears message) :
    remembered (some message) remarks = some message := by
  induction remarks with
  | nil => rfl
  | cons remark rest inductionHypothesis =>
      have here := uncleared remark List.mem_cons_self
      have kept : remark.remember (some message) = some message := by
        cases remark with
        | accepted => exact absurd trivial here
        | succeeded => exact absurd trivial here
        | popup other => exact congrArg some (not_not.mp here)
        | _ => rfl
      rw [remembered, List.foldl_cons, kept]
      exact inductionHypothesis fun other member => uncleared other (List.mem_cons_of_mem _ member)

/-- A message that is remembered has been shown, and there was no popup since and nothing that
clears it. -/
theorem remembered_eq_some {message : String} {remarks : List Remark}
    (known : remembered none remarks = some message) :
    ∃ earlier since, remarks = earlier ++ .popup message :: since ∧
      ∀ remark ∈ since, (∀ other, remark ≠ .popup other) ∧ ¬ remark.Clears message := by
  induction remarks using List.reverseRecOn with
  | nil => cases known
  | append_singleton rest last inductionHypothesis =>
      rw [remembered_append] at known
      -- What is not remarkable leaves the popup that was there before it.
      have goesOn (same : last.remember (remembered none rest) = remembered none rest)
          (unshown : ∀ other, last ≠ .popup other) (uncleared : ¬ last.Clears message) :
          ∃ earlier since, rest ++ [last] = earlier ++ .popup message :: since ∧
            ∀ remark ∈ since, (∀ other, remark ≠ .popup other) ∧ ¬ remark.Clears message := by
        obtain ⟨earlier, since, whole, plain⟩ := inductionHypothesis (same.symm.trans known)
        refine ⟨earlier, since ++ [last], by simp [whole], fun remark member => ?_⟩
        rcases List.mem_append.mp member with before | here
        · exact plain remark before
        · cases List.mem_singleton.mp here
          exact ⟨unshown, uncleared⟩
      cases last with
      | accepted => cases known
      | succeeded => cases known
      | popup other =>
          cases known
          exact ⟨rest, [], rfl, by simp⟩
      | _ => exact goesOn rfl (by rintro _ ⟨⟩) id

/-! ## Where remarks stand -/

section stands

variable {last final : Option String} {group remarks before after : List Remark}
  {remark : Remark} {message : String} {number : Nat} {job : Job} {failure : Failure}

/-- How a remark stands among others: what is heard comes right after what it is about, and for
anything else what the last popup said can be read off the remarks before it. -/
inductive Stands (last : Option String) (before : List Remark) (remark : Remark)
    (after : List Remark) (final : Option String) : Prop where
  | opens (unheard : ¬ remark.IsHeard)
      (tells : Tells (remembered last before) (remark :: after) final)
  | follows (earlier : List Remark) (about : Remark) (here : before = earlier ++ [about])
      (heard : remark.IsHeard)
      (tells : Tells (remembered last earlier) (about :: remark :: after) final)

theorem Stands.behind (group : List Remark)
    (stands : Stands (remembered last group) before remark after final) :
    Stands last (group ++ before) remark after final := by
  cases stands with
  | opens unheard tells => exact .opens unheard (by rwa [remembered_append])
  | follows earlier about here heard tells =>
      exact .follows (group ++ earlier) about (by simp [here]) heard (by rwa [remembered_append])

/-- After a remark that comes alone the others stand as they would without it. -/
theorem Stands.alone {first : Remark} {rest : List Remark}
    (whole : before ++ remark :: after = first :: rest) (unheard : ¬ first.IsHeard)
    (tells : Tells last (first :: rest) final)
    (later : ∀ {before : List Remark}, before ++ remark :: after = rest →
      Stands (remembered last [first]) before remark after final) :
    Stands last before remark after final := by
  obtain - | ⟨own, others⟩ := before
  · obtain ⟨rfl, rfl⟩ := List.cons_eq_cons.mp whole
    exact .opens unheard tells
  · obtain ⟨rfl, below⟩ := List.cons_eq_cons.mp whole
    exact .behind [own] (later below)

/-- After two remarks of which the second is heard, the others stand as they would without them. -/
theorem Stands.pair {first second : Remark} {rest : List Remark}
    (whole : before ++ remark :: after = first :: second :: rest) (unheard : ¬ first.IsHeard)
    (heard : second.IsHeard) (tells : Tells last (first :: second :: rest) final)
    (later : ∀ {before : List Remark}, before ++ remark :: after = rest →
      Stands (remembered last [first, second]) before remark after final) :
    Stands last before remark after final := by
  obtain - | ⟨own, - | ⟨other, others⟩⟩ := before
  · obtain ⟨rfl, rfl⟩ := List.cons_eq_cons.mp whole
    exact .opens unheard tells
  · obtain ⟨rfl, below⟩ := List.cons_eq_cons.mp whole
    obtain ⟨rfl, rfl⟩ := List.cons_eq_cons.mp below
    exact .follows [] own rfl heard tells
  · rw [List.cons_append, List.cons_append] at whole
    obtain ⟨rfl, below⟩ := List.cons_eq_cons.mp whole
    obtain ⟨rfl, deeper⟩ := List.cons_eq_cons.mp below
    exact .behind [own, other] (later deeper)

namespace Tells

/-- The remarks come one by one, or in twos of which the second is heard. -/
theorem stands (tells : Tells last (before ++ remark :: after) final) :
    Stands last before remark after final := by
  generalize whole : before ++ remark :: after = remarks at tells
  induction tells generalizing before with
  | nil => simp at whole
  | accepted later inductionHypothesis =>
      exact .alone whole id (.accepted later) inductionHypothesis
  | succeeded later inductionHypothesis =>
      exact .alone whole id (.succeeded later) inductionHypothesis
  | failed number job failure later inductionHypothesis =>
      exact .alone whole id (.failed number job failure later) inductionHypothesis
  | logged number job failure later inductionHypothesis =>
      exact .pair whole id trivial (.logged number job failure later) inductionHypothesis
  | unshown number quiet later inductionHypothesis =>
      exact .alone whole id (.unshown number quiet later) inductionHypothesis
  | shown number shows other later inductionHypothesis =>
      exact .pair whole id trivial (.shown number shows other later) inductionHypothesis

/-- After what goes to the log the editor is told of it. -/
theorem logged_inv (tells : Tells last (before ++ .logged number job failure :: after) final) :
    ∃ rest, after = .details failure.details :: rest := by
  cases tells.stands with
  | opens unheard tells =>
      cases tells with
      | logged _ _ _ later => exact ⟨_, rfl⟩
  | follows earlier about here heard tells => exact heard.elim

/-- After a failure is considered comes its popup, unless that is hidden or was the last. -/
theorem considered_inv
    (tells : Tells last (before ++ .considered number job failure :: after) final) :
    (failure.isHidden job.settings = true ∨ remembered last before = some failure.message) ∨
      ∃ rest, after = .popup failure.message :: rest := by
  cases tells.stands with
  | opens unheard tells =>
      cases tells with
      | unshown _ quiet later => exact Or.inl quiet
      | shown _ shows other later => exact Or.inr ⟨_, rfl⟩
  | follows earlier about here heard tells => exact heard.elim

/-- Right before a popup its failure was considered, and the settings do not hide it; the last popup
said something else. -/
theorem popup_inv (tells : Tells last (before ++ .popup message :: after) final) :
    remembered last before ≠ some message ∧
      ∃ earlier number job failure, failure.message = message ∧
        failure.isHidden job.settings = false ∧
        before = earlier ++ [.considered number job failure] := by
  cases tells.stands with
  | opens unheard tells => exact absurd trivial unheard
  | follows earlier about here heard grouped =>
      subst here
      rw [remembered_append]
      cases grouped with
      | shown number shows other later => exact ⟨other, earlier, number, _, _, rfl, shows, rfl⟩
      | accepted later => cases later
      | succeeded later => cases later
      | failed number job failure later => cases later
      | unshown number quiet later => cases later

end Tells

end stands

/-! ## The ledger -/

namespace Server

variable {server : Server} {round : Round}

/-- The remarks of a turn: the settings that come with its event, and what is told. -/
def remarks (server : Server) (round : Round) : List Remark :=
  (server.accepted? round.event).toList.map (fun _ => Remark.accepted) ++
    (server.turnIn round).deeds.filterMap Deed.remark?

/-- All remarks that are made in some rounds. -/
def ledger (server : Server) : List Round → List Remark
  | [] => []
  | round :: rest => server.remarks round ++ (server.turnIn round).server.ledger rest

/-- A turn in which no settings are accepted. -/
theorem turnIn_accounts (unaccepted : server.accepted? round.event = none) :
    Turn.Accounts ⟨server.arranged round.rank, round.disk, []⟩ (server.turnIn round) := by
  cases pushed : round.event.configuration? with
  | none => exact Turn.step_accounts _ round.eager pushed
  | some value =>
      refine (Turn.step_refused _ round.eager pushed fun ready => ?_).recounts.toAccounts
      have serves : server.phase = .ready := ready
      rw [accepted?, if_pos serves, pushed] at unaccepted
      exact unaccepted

/-- After the server has exited nobody hears anything any more. -/
theorem remarks_of_exited (gone : server.phase = .exited) (round : Round) :
    (server.turnIn round).server.phase = .exited ∧
      ∀ remark ∈ server.remarks round, ¬ remark.IsHeard := by
  have unaccepted : server.accepted? round.event = none := if_neg (by simp [gone])
  obtain ⟨exits, more, same, hushed, -⟩ := turnIn_accounts unaccepted
  have deeds : (server.turnIn round).deeds = more := same
  refine ⟨exits gone, ?_⟩
  rw [remarks, unaccepted, deeds]
  exact hushed gone

/-- Until then the remarks of every turn are as they should be. -/
theorem tells_remarks (hears : server.phase ≠ .exited) (round : Round) :
    TemplateLint.Tells server.lastError (server.remarks round)
      (server.turnIn round).server.lastError := by
  unfold remarks
  cases accepted : server.accepted? round.event with
  | none =>
      obtain ⟨-, more, same, -, tells⟩ := turnIn_accounts accepted
      have deeds : (server.turnIn round).deeds = more := same
      rw [deeds]
      exact tells hears
  | some client =>
      rw [turnIn_accepted accepted]
      obtain ⟨⟨-, more, same, -, tells⟩, -⟩ :=
        Turn.lintAll_recounts (server.changing round client) server.messages (server.visits round)
      rw [same]
      exact .accepted (tells hears)

theorem ledger_of_exited (gone : server.phase = .exited) (rounds : List Round) :
    (server.course rounds).1.phase = .exited ∧
      ∀ remark ∈ server.ledger rounds, ¬ remark.IsHeard := by
  induction rounds generalizing server with
  | nil => exact ⟨gone, by simp [ledger]⟩
  | cons round rest inductionHypothesis =>
      obtain ⟨exits, hushed⟩ := remarks_of_exited gone round
      obtain ⟨exited, later⟩ := inductionHypothesis exits
      rw [course_cons]
      refine ⟨exited, fun remark member => ?_⟩
      rcases List.mem_append.mp member with here | after
      · exact hushed remark here
      · exact later remark after

/-- By the time of these remarks the server had exited. -/
def GoneBy (server : Server) (rounds : List Round) (remarks : List Remark) : Prop :=
  ∃ first later, rounds = first ++ later ∧ (server.course first).1.phase = .exited ∧
    server.ledger first <+: remarks

/-- The ledger is as it should be up to where the server exits. -/
theorem ledger_parts (server : Server) (rounds : List Round) :
    ∃ heard unheard final, server.ledger rounds = heard ++ unheard ∧
      TemplateLint.Tells server.lastError heard final ∧ (∀ remark ∈ unheard, ¬ remark.IsHeard) ∧
        (unheard ≠ [] → server.GoneBy rounds heard) := by
  induction rounds generalizing server with
  | nil => exact ⟨[], [], _, rfl, .nil _, by simp, by simp⟩
  | cons round rest inductionHypothesis =>
      by_cases gone : server.phase = .exited
      · obtain ⟨-, hushed⟩ := ledger_of_exited gone (round :: rest)
        exact ⟨[], _, _, rfl, .nil _, hushed, fun _ => ⟨[], _, rfl, gone, List.prefix_rfl⟩⟩
      · obtain ⟨heard, unheard, final, whole, tells, hushed, exited⟩ :=
          inductionHypothesis (server.turnIn round).server
        refine ⟨server.remarks round ++ heard, unheard, final, ?_,
          (tells_remarks gone round).append tells, hushed, fun more => ?_⟩
        · rw [ledger, whole, List.append_assoc]
        · obtain ⟨first, later, rfl, exits, early⟩ := exited more
          refine ⟨round :: first, later, rfl, ?_, (List.prefix_append_right_inj _).mpr early⟩
          rw [course_cons]
          exact exits

theorem GoneBy.mono {server : Server} {rounds : List Round} {remarks more : List Remark}
    (gone : server.GoneBy rounds remarks) (grows : remarks <+: more) :
    server.GoneBy rounds more := by
  obtain ⟨first, later, same, exited, early⟩ := gone
  exact ⟨first, later, same, exited, early.trans grows⟩

end Server

/-! ## The ledger and the history -/

/-- The settings that the editor pushed are accepted. -/
def Remark.isAccepted : Remark → Bool
  | accepted => true
  | _ => false

theorem Deed.remark?_not_accepted {deed : Deed} {remark : Remark}
    (made : deed.remark? = some remark) : remark.isAccepted = false := by
  unfold Deed.remark? at made
  split at made
  · unfold Finding.remark? at made
    split at made
    · cases made; rfl
    · cases made; rfl
    · cases made
  all_goals
    cases made
    try rfl

/-- Apart from the settings that are accepted, the ledger has what was remarked on. -/
theorem Server.ledger_remarks (server : Server) (rounds : List Round) :
    (server.ledger rounds).filter (fun remark => !remark.isAccepted) =
      (server.course rounds).2.filterMap Deed.remark? := by
  induction rounds generalizing server with
  | nil => rfl
  | cons round rest inductionHypothesis =>
      have plain : ∀ remark ∈ (server.turnIn round).deeds.filterMap Deed.remark?,
          remark.isAccepted = false := by
        intro remark member
        obtain ⟨deed, -, made⟩ := List.mem_filterMap.mp member
        exact Deed.remark?_not_accepted made
      have here : (server.remarks round).filter (fun remark => !remark.isAccepted) =
          (server.turnIn round).deeds.filterMap Deed.remark? := by
        have all : ((server.turnIn round).deeds.filterMap Deed.remark?).filter
            (fun remark => !remark.isAccepted) =
              (server.turnIn round).deeds.filterMap Deed.remark? :=
          List.filter_eq_self.mpr fun remark member => by simp [plain remark member]
        rw [remarks, List.filter_append, all]
        cases server.accepted? round.event with
        | none => rfl
        | some client => simp [Remark.isAccepted]
      rw [ledger, List.filter_append, here, inductionHypothesis, course_cons,
        List.filterMap_append]

/-- Wherever a remark stands in a ledger, the deed that made it stands in the history after those
that made the remarks before it. -/
theorem Server.ledger_comes {server : Server} {rounds : List Round} {before after : List Remark}
    {remark : Remark} (whole : server.ledger rounds = before ++ remark :: after)
    (made : remark.isAccepted = false) :
    ∃ earlier deed, Comes (server.course rounds).2 earlier deed ∧ deed.remark? = some remark ∧
      earlier.filterMap Deed.remark? = before.filter fun remark => !remark.isAccepted := by
  have same := ledger_remarks server rounds
  rw [whole, List.filter_append, List.filter_cons_of_pos (by simp [made])] at same
  obtain ⟨early, late, history, one, two⟩ := List.filterMap_eq_append_iff.mp same.symm
  obtain ⟨quiet, deed, rest, rfl, silent, own, -⟩ := List.filterMap_eq_cons_iff.mp two
  refine ⟨early ++ quiet, deed, ⟨rest, by simp [history]⟩, own, ?_⟩
  rw [List.filterMap_append, one, Turn.remarks_eq_nil silent, List.append_nil]

/-! ## The result -/

/-- How the popups of a server follow one another in some rounds. -/
structure Unrepeated (server : Server) (rounds : List Round) : Prop where
  /-- Apart from the settings that are accepted, the ledger has what was remarked on. -/
  remarks : (server.ledger rounds).filter (fun remark => !remark.isAccepted) =
    (server.course rounds).2.filterMap Deed.remark?
  /-- Between two popups with the same message a lint came to its problems, settings were accepted,
  or there was a popup with another message. -/
  apart : ∀ before between after message,
    server.ledger rounds = before ++ .popup message :: (between ++ .popup message :: after) →
      ∃ remark ∈ between, remark.Clears message
  /-- A failure that is considered without a popup is one of a tool that is not installed and about
  which the settings want no popups, or the last popup had its message and nothing cleared it
  since; unless the server had exited by then, and nothing is heard any more. -/
  unshown : ∀ before after number job failure,
    server.ledger rounds = before ++ .considered number job failure :: after →
      after.head? ≠ some (.popup failure.message) →
        (failure.isNotInstalled = true ∧ job.settings.isOn "showInstallError" = false) ∨
          (∃ earlier since, before = earlier ++ .popup failure.message :: since ∧
            ∀ remark ∈ since,
              (∀ other, remark ≠ .popup other) ∧ ¬ remark.Clears failure.message) ∨
          (server.GoneBy rounds before ∧ ∀ remark ∈ after, ¬ remark.IsHeard)
  /-- Every popup is about the failure that was just considered, and that the settings of its job do
  not hide. -/
  grounded : ∀ before after message, server.ledger rounds = before ++ .popup message :: after →
    ∃ earlier number job failure, failure.message = message ∧
      failure.isHidden job.settings = false ∧
      before = earlier ++ [.considered number job failure]
  /-- A failure is considered when it has been logged, and logged when the job has come to it. -/
  ordered : ∀ before after number job failure,
    (server.ledger rounds = before ++ .considered number job failure :: after →
        .logged number job failure ∈ before) ∧
      (server.ledger rounds = before ++ .logged number job failure :: after →
        .failed number job failure ∈ before)
  /-- What goes to the log is told the editor at once, unless the server had exited by then. -/
  logged : ∀ before after number job failure,
    server.ledger rounds = before ++ .logged number job failure :: after →
      (∃ rest, after = .details failure.details :: rest) ∨
        (server.GoneBy rounds before ∧ ∀ remark ∈ after, ¬ remark.IsHeard)
  /-- Every failure is logged, and what is logged is considered in the end, unless the request is
  cancelled before that. -/
  accounted : Accounted (server.course rounds).1 (server.course rounds).2

/-- A place in a ledger is in the part in which remarks are heard, or in the other. -/
theorem ledger_split {heard unheard before after : List Remark} {remark : Remark}
    (hushed : ∀ other ∈ unheard, ¬ other.IsHeard)
    (whole : heard ++ unheard = before ++ remark :: after) :
    (∃ rest, heard = before ++ remark :: rest ∧ after = rest ++ unheard) ∨
      (unheard ≠ [] ∧ heard <+: before ∧ ¬ remark.IsHeard ∧ ∀ other ∈ after, ¬ other.IsHeard) := by
  rcases append_eq_append_cons whole with ⟨rest, early⟩ | ⟨others, -, late⟩
  · refine Or.inl ⟨rest, early, ?_⟩
    rw [early, List.append_assoc, List.cons_append] at whole
    exact (List.cons_eq_cons.mp (List.append_cancel_left whole)).2.symm
  · refine Or.inr ⟨by simp [late], ⟨others, ?_⟩, hushed remark (by simp [late]),
      fun other member => hushed other (by simp [late, member])⟩
    rw [late, ← List.append_assoc] at whole
    exact List.append_cancel_right whole

section ledger

variable {heard unheard before after : List Remark} {final : Option String} {message : String}
  {number : Nat} {job : Job} {failure : Failure}

/-- Two popups with the same message have something between them that clears it. -/
theorem Tells.apart {between : List Remark} (tells : Tells none heard final)
    (hushed : ∀ remark ∈ unheard, ¬ remark.IsHeard)
    (whole : heard ++ unheard =
      before ++ .popup message :: (between ++ .popup message :: after)) :
    ∃ remark ∈ between, remark.Clears message := by
  have second : heard ++ unheard =
      (before ++ .popup message :: between) ++ .popup message :: after := by
    simpa using whole
  rcases ledger_split hushed second with ⟨rest, early, -⟩ | ⟨-, -, unheard, -⟩
  · rw [early] at tells
    have other := tells.popup_inv.1
    rw [remembered_append] at other
    by_contra uncleared
    refine other (remembered_of_uncleared fun remark member clears => ?_)
    exact uncleared ⟨remark, member, clears⟩
  · exact absurd trivial unheard

theorem Tells.unshown_cases (tells : Tells none heard final)
    (hushed : ∀ remark ∈ unheard, ¬ remark.IsHeard)
    (whole : heard ++ unheard = before ++ .considered number job failure :: after)
    (unshown : after.head? ≠ some (.popup failure.message)) :
    (failure.isNotInstalled = true ∧ job.settings.isOn "showInstallError" = false) ∨
      (∃ earlier since, before = earlier ++ .popup failure.message :: since ∧
        ∀ remark ∈ since,
          (∀ other, remark ≠ .popup other) ∧ ¬ remark.Clears failure.message) ∨
      ((unheard ≠ [] ∧ heard <+: before) ∧ ∀ remark ∈ after, ¬ remark.IsHeard) := by
  rcases ledger_split hushed whole with ⟨rest, early, rfl⟩ | ⟨more, late, -, silent⟩
  · rw [early] at tells
    rcases tells.considered_inv with (hides | known) | ⟨others, rfl⟩
    · exact Or.inl (by simpa [Failure.isHidden] using hides)
    · exact Or.inr (Or.inl (remembered_eq_some known))
    · exact absurd rfl unshown
  · exact Or.inr (Or.inr ⟨⟨more, late⟩, silent⟩)

theorem Tells.logged_cases (tells : Tells none heard final)
    (hushed : ∀ remark ∈ unheard, ¬ remark.IsHeard)
    (whole : heard ++ unheard = before ++ .logged number job failure :: after) :
    (∃ rest, after = .details failure.details :: rest) ∨
      ((unheard ≠ [] ∧ heard <+: before) ∧ ∀ remark ∈ after, ¬ remark.IsHeard) := by
  rcases ledger_split hushed whole with ⟨rest, early, rfl⟩ | ⟨more, late, -, silent⟩
  · rw [early] at tells
    obtain ⟨others, rfl⟩ := tells.logged_inv
    exact Or.inl ⟨_, rfl⟩
  · exact Or.inr ⟨⟨more, late⟩, silent⟩

theorem Tells.grounded (tells : Tells none heard final)
    (hushed : ∀ remark ∈ unheard, ¬ remark.IsHeard)
    (whole : heard ++ unheard = before ++ .popup message :: after) :
    ∃ earlier number job failure, failure.message = message ∧
      failure.isHidden job.settings = false ∧
      before = earlier ++ [.considered number job failure] := by
  rcases ledger_split hushed whole with ⟨rest, early, -⟩ | ⟨-, -, unheard, -⟩
  · rw [early] at tells
    exact tells.popup_inv.2
  · exact absurd trivial unheard

end ledger

/-- What a job comes to is neither that its failure is logged nor that it is considered. -/
theorem Finding.remark?_cases {finding : Finding} {number : Nat} {remark : Remark}
    (made : finding.remark? number = some remark) :
    remark = .succeeded ∨ ∃ failure, remark = .failed number finding.job failure := by
  unfold Finding.remark? at made
  split at made
  · cases made
    exact Or.inr ⟨_, rfl⟩
  · cases made
    exact Or.inl rfl
  · cases made

theorem Deed.eq_of_considered {deed : Deed} {number : Nat} {job : Job} {failure : Failure}
    (made : deed.remark? = some (.considered number job failure)) :
    deed = .considered number job failure := by
  unfold Deed.remark? at made
  split at made
  · rcases Finding.remark?_cases made with same | ⟨_, same⟩ <;> cases same
  all_goals cases made
  rfl

theorem Deed.eq_of_logged {deed : Deed} {number : Nat} {job : Job} {failure : Failure}
    (made : deed.remark? = some (.logged number job failure)) :
    deed = .logged number job failure := by
  unfold Deed.remark? at made
  split at made
  · rcases Finding.remark?_cases made with same | ⟨_, same⟩ <;> cases same
  all_goals cases made
  rfl

namespace Server

/-- What is considered was logged before, and what is logged was told before. -/
theorem ledger_ordered {server : Server} {rounds : List Round}
    (sound : Sound (server.course rounds).1 (server.course rounds).2) {before after : List Remark}
    {number : Nat} {job : Job} {failure : Failure} :
    (server.ledger rounds = before ++ .considered number job failure :: after →
        .logged number job failure ∈ before) ∧
      (server.ledger rounds = before ++ .logged number job failure :: after →
        .failed number job failure ∈ before) := by
  -- A deed that came before is remarked on before.
  have remarked {earlier : List Deed} {deed : Deed} {remark : Remark}
      (same : earlier.filterMap Deed.remark? = before.filter fun remark => !remark.isAccepted)
      (member : deed ∈ earlier) (made : deed.remark? = some remark) : remark ∈ before := by
    have among : remark ∈ earlier.filterMap Deed.remark? :=
      List.mem_filterMap.mpr ⟨deed, member, made⟩
    rw [same] at among
    exact (List.mem_filter.mp among).1
  constructor
  · intro whole
    obtain ⟨earlier, deed, comes, made, same⟩ := ledger_comes whole rfl
    cases Deed.eq_of_considered made
    exact remarked same (sound.right _ _ comes) rfl
  · intro whole
    obtain ⟨earlier, deed, comes, made, same⟩ := ledger_comes whole rfl
    cases Deed.eq_of_logged made
    exact remarked same (sound.right _ _ comes) rfl

/-- Popups are not repeated, in every course of events, in whatever order documents are visited and
however lints and formattings come in between. -/
theorem popupsUnrepeated (environ : Variables) (configFile : Option Path) (venv : Path)
    (store : Store) (rounds : List Round) :
    Unrepeated (start environ configFile venv store) rounds := by
  have sound := course_sound (start_sound environ configFile venv store) rounds
  obtain ⟨heard, unheard, final, whole, tells, hushed, exited⟩ :=
    ledger_parts (start environ configFile venv store) rounds
  have gone {before : List Remark} (late : unheard ≠ [] ∧ heard <+: before) :
      (start environ configFile venv store).GoneBy rounds before :=
    (exited late.1).mono late.2
  exact
    { remarks := ledger_remarks _ rounds
      apart := fun _ _ _ _ split => tells.apart hushed (whole ▸ split)
      unshown := fun _ _ _ _ _ split unshown =>
        (tells.unshown_cases hushed (whole ▸ split) unshown).imp_right
          (Or.imp_right (And.imp_left gone))
      grounded := fun _ _ _ split => tells.grounded hushed (whole ▸ split)
      ordered := fun _ _ _ _ _ => ledger_ordered sound
      logged := fun _ _ _ _ _ split =>
        (tells.logged_cases hushed (whole ▸ split)).imp_right (And.imp_left gone)
      accounted :=
        course_accounted (start_sound environ configFile venv store) (fun _ => rfl) rounds }

end Server

/-! ### Failures that are not shown -/

/-- Every failure that is logged, and of which nothing is left to be told, is hidden by the settings
of its job, or the last popup has its message when it is logged or later. -/
def NoneUnshown (server : Server) (rounds : List Round) : Prop :=
  ∀ before after number job failure,
    server.ledger rounds = before ++ .logged number job failure :: after →
      (server.course rounds).1.tellings.get? number = none →
        failure.isHidden job.settings = true ∨
          ∃ since later, after = since ++ later ∧
            remembered none (before ++ .logged number job failure :: since) = some failure.message

namespace Remark

/-- The user is shown an error. -/
def isPopup : Remark → Bool
  | popup _ => true
  | _ => false

/-- The log is about a failure that is not hidden, and nothing more is told of it. -/
def isLast (server : Server) : Remark → Bool
  | logged number job failure =>
      !failure.isHidden job.settings && (server.tellings.get? number).isNone
  | _ => false

end Remark

/-- Where there is no popup at all, a failure stays unshown once nothing is left to be told. -/
theorem not_noneUnshown {server : Server} {rounds : List Round}
    (unshown : (server.ledger rounds).any Remark.isPopup = false)
    (last : (server.ledger rounds).any (Remark.isLast (server.course rounds).1) = true) :
    ¬ NoneUnshown server rounds := by
  intro shown
  obtain ⟨remark, member, ends⟩ := List.any_eq_true.mp last
  obtain ⟨before, after, whole⟩ := List.append_of_mem member
  cases remark with
  | logged number job failure =>
      obtain ⟨stands, told⟩ : failure.isHidden job.settings = false ∧
          (server.course rounds).1.tellings.get? number = none := by
        simpa [Remark.isLast] using ends
      rcases shown _ _ _ _ _ whole told with hides | ⟨since, later, rfl, known⟩
      · rw [stands] at hides
        cases hides
      · obtain ⟨early, rest, same, -⟩ := remembered_eq_some known
        have among : .popup failure.message ∈ server.ledger rounds := by
          rw [whole, ← List.cons_append, ← List.append_assoc, same]
          simp
        exact Bool.false_ne_true (unshown.symm.trans (List.any_eq_true.mpr ⟨_, among, rfl⟩))
  | _ => cases ends

namespace Sample

/-- The request for a formatting is cancelled. -/
def cancels : Round :=
  sends interpreter "$/cancelRequest" none (some (.object [("id", Json.ofNat 2)]))

/-- The tool fails for a lint when the server has been told to exit. -/
def failsLate : List Round :=
  [begins, opensThere, exits, fails 0 3 "boom", wakes 0]

/-- The tool fails for a formatting, whose request is cancelled before the editor has taken what
goes to the log. -/
def failsInVain : List Round :=
  [beginsUnlinted, opensText, wakes 0, asksFormatting, fails 1 3 "boom", cancels]

end Sample

open Sample in
/-- There are failures of which all is told, and none of them is shown: one after the exit, and one
of a formatting that is cancelled. -/
theorem sample_unshown :
    ¬ NoneUnshown (.start [] none ⟨[]⟩ .inMemory) failsLate ∧
      ¬ NoneUnshown (.start [] none ⟨[]⟩ .inMemory) failsInVain :=
  ⟨not_noneUnshown (by decide +kernel) (by decide +kernel),
    not_noneUnshown (by decide +kernel) (by decide +kernel)⟩

/-- Two documents fail alike: both failures are logged before one of them is shown, and the other
one is not shown after that. -/
example :
    ((Server.start [] none ⟨[]⟩ .inMemory).ledger
      [Sample.begins, Sample.opens "file:///a", Sample.opens "file:///b", Sample.wakes 0,
        Sample.wakes 1, Sample.wakes 1, Sample.wakes 0]).map
      (fun remark => match remark with
        | .accepted => "accepted"
        | .succeeded => "succeeded"
        | .failed number .. => s!"failed {number}"
        | .logged number .. => s!"logged {number}"
        | .details _ => "details"
        | .considered number .. => s!"considered {number}"
        | .popup _ => "popup") =
    ["failed 0", "failed 1", "logged 0", "details", "logged 1", "details", "considered 1", "popup",
      "considered 0"] := by
  decide +kernel

end TemplateLint
