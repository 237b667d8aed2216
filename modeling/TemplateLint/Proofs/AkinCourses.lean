import TemplateLint.Proofs.AkinEvents
import TemplateLint.Proofs.Courses

/-!
# Courses under different choices

Two courses run alongside each other when the servers are told the same: every event comes to both,
and what jobs have asked is answered alike; but each server alone is told what the user chose in its
popups, since the other may not have shown them.  Two servers that started with different choices
then do the same but for popups, and every course of the one has a course of the other alongside.
Main exports: `Server.Alongside`, `Server.Alongside.akin`, `Server.Akin.alongside`,
`Server.Akin.alongside_unanswered`, `Server.start_akin`.
-/

namespace TemplateLint

namespace Server

/-- Two courses run alongside each other.  The files that the servers find differ in what they hold
at most, and not in the settings that are read from them. -/
inductive Alongside : Server → Server → List Round → List Round → Prop where
  | done (one two : Server) : Alongside one two [] []
  /-- Both servers are told the same. -/
  | both {one two : Server} {round twin : Round} {rounds twins : List Round}
      (told : round.event.Matches one two twin.event) (disk : round.disk.Alike twin.disk)
      (files : ∀ file, Settings.load twin.disk file = Settings.load round.disk file)
      (eager : twin.eager = round.eager) (rank : twin.rank = round.rank)
      (later : Alongside (one.turnIn round).server (two.turnIn twin).server rounds twins) :
      Alongside one two (round :: rounds) (twin :: twins)
  /-- Each server is told something of its own. -/
  | each {one two : Server} {round twin : Round} {rounds twins : List Round}
      (told : round.event.IsAside one) (again : twin.event.IsAside two)
      (rank : twin.rank = round.rank)
      (later : Alongside (one.turnIn round).server (two.turnIn twin).server rounds twins) :
      Alongside one two (round :: rounds) (twin :: twins)
  /-- One server is told something of its own; it visits no documents, and their order stays. -/
  | here {one two : Server} {round : Round} {rounds twins : List Round}
      (told : round.event.IsAside one) (rank : round.rank = fun _ => 0)
      (later : Alongside (one.turnIn round).server two rounds twins) :
      Alongside one two (round :: rounds) twins
  | there {one two : Server} {twin : Round} {rounds twins : List Round}
      (told : twin.event.IsAside two) (rank : twin.rank = fun _ => 0)
      (later : Alongside one (two.turnIn twin).server rounds twins) :
      Alongside one two rounds (twin :: twins)

variable {one two : Server} {round twin : Round} {rounds twins : List Round}

/-! ## One turn -/

theorem Akin.arranged (akin : one.Akin two) (rank : Uri → Nat) :
    (one.arranged rank).Akin (two.arranged rank) :=
  akin.change (fun server => server.arranged rank) fun _ _ _ _ _ _ _ => rfl

theorem arranged_const (server : Server) : server.arranged (fun _ => 0) = server := by
  rw [arranged, Table.arrange_const]

/-- The order of the documents does not matter to what a server is told. -/
theorem matches_arranged {event again : Event} (told : event.Matches one two again)
    (rank : Uri → Nat) : event.Matches (one.arranged rank) (two.arranged rank) again := by
  cases told with
  | message message => exact .message message
  | answer id twin number result here there => exact .answer id twin number result here there
  | ended number result => exact .ended number result
  | removed number result => exact .removed number result
  | woken number => exact .woken number

theorem isAside_arranged {event : Event} (told : event.IsAside one) (rank : Uri → Nat) :
    event.IsAside (one.arranged rank) := by
  cases told with
  | answer id result unasked => exact .answer id result unasked

/-- Servers that are told the same stay akin and do the same in outline. -/
theorem Akin.turnIn (akin : one.Akin two) (told : round.event.Matches one two twin.event)
    (disk : round.disk.Alike twin.disk)
    (files : ∀ file, Settings.load twin.disk file = Settings.load round.disk file)
    (eager : twin.eager = round.eager) (rank : twin.rank = round.rank) :
    (one.turnIn round).Akin (two.turnIn twin) := by
  unfold Server.turnIn turnOn step
  rw [rank, eager]
  have begins : Turn.Akin ⟨one.arranged round.rank, round.disk, []⟩
      ⟨two.arranged round.rank, twin.disk, []⟩ := ⟨akin.arranged _, disk, rfl⟩
  exact begins.step (matches_arranged told _) files _

/-- When a server is told something of its own, nothing is done in outline. -/
theorem turnIn_aside (told : round.event.IsAside one) :
    Turn.Aside ⟨one.arranged round.rank, round.disk, []⟩ (one.turnIn round) :=
  Turn.step_aside (isAside_arranged told _) round.eager

/-! ## Whole courses -/

/-- What was done, in outline. -/
def outline (history : List Deed) : List Deed :=
  history.filterMap Deed.outline?

theorem outline_course_cons (server : Server) (round : Round) (rest : List Round) :
    outline (server.course (round :: rest)).2 =
      (server.turnIn round).outline ++
        outline ((server.turnIn round).server.course rest).2 := by
  rw [course_cons]
  exact List.filterMap_append

/-- Servers that were akin at first are akin after courses that ran alongside each other, and have
done the same in outline. -/
theorem Alongside.akin (alongside : Alongside one two rounds twins) (akin : one.Akin two) :
    (one.course rounds).1.Akin (two.course twins).1 ∧
      outline (two.course twins).2 = outline (one.course rounds).2 := by
  have still (server : Server) : server.Aside server := .of_unasked _ _ _
  induction alongside with
  | done one two => exact ⟨akin, rfl⟩
  | both told disk files eager rank later inductionHypothesis =>
      have went := akin.turnIn told disk files eager rank
      obtain ⟨ends, same⟩ := inductionHypothesis went.server
      rw [outline_course_cons, outline_course_cons, went.outline, same, course_cons, course_cons]
      exact ⟨ends, rfl⟩
  | @each one two round twin rounds twins told again rank later inductionHypothesis =>
      have here := turnIn_aside told
      have there := turnIn_aside again
      have begins := akin.arranged round.rank
      nth_rewrite 2 [← rank] at begins
      obtain ⟨ends, same⟩ := inductionHypothesis (begins.aside here.server there.server)
      rw [outline_course_cons, outline_course_cons, here.outline, there.outline, same, course_cons,
        course_cons]
      exact ⟨ends, rfl⟩
  | @here one two round rounds twins told rank later inductionHypothesis =>
      have here := turnIn_aside told
      rw [rank, arranged_const] at here
      obtain ⟨ends, same⟩ := inductionHypothesis (akin.aside here.server (still two))
      rw [outline_course_cons, here.outline, same, course_cons]
      exact ⟨ends, rfl⟩
  | @there one two twin rounds twins told rank later inductionHypothesis =>
      have there := turnIn_aside told
      rw [rank, arranged_const] at there
      obtain ⟨ends, same⟩ := inductionHypothesis (akin.aside (still one) there.server)
      rw [outline_course_cons, there.outline, same, course_cons]
      exact ⟨ends, rfl⟩

/-- An answer that nobody waits for. -/
def idleAnswer : Event := .received (.answer (.text "") none)

/-- Alongside every course of a server there is one of any server that is akin to it. -/
theorem Akin.alongside (akin : one.Akin two) (rounds : List Round) :
    ∃ twins, Alongside one two rounds twins := by
  induction rounds generalizing one two with
  | nil => exact ⟨[], .done one two⟩
  | cons round rest inductionHypothesis =>
      rcases akin.told round.event with aside | ⟨again, told⟩
      · let twin : Round := { round with event := idleAnswer }
        have idle : twin.event.IsAside two := .answer _ _ rfl
        have here := turnIn_aside aside
        have there := turnIn_aside idle
        obtain ⟨twins, later⟩ := inductionHypothesis
          ((akin.arranged round.rank).aside here.server there.server)
        exact ⟨twin :: twins, .each aside idle rfl later⟩
      · let twin : Round := { round with event := again }
        have went : (one.turnIn round).Akin (two.turnIn twin) :=
          akin.turnIn told (.refl _) (fun _ => rfl) rfl rfl
        obtain ⟨twins, later⟩ := inductionHypothesis went.server
        exact ⟨twin :: twins, .both told (.refl _) (fun _ => rfl) rfl rfl later⟩

/-- Courses in which the editor answers nothing run alongside each other as they are. -/
theorem Akin.alongside_unanswered (akin : one.Akin two) (rounds : List Round)
    (unanswered : ∀ round ∈ rounds, ∀ id result, round.event ≠ .received (.answer id result)) :
    Alongside one two rounds rounds := by
  induction rounds generalizing one two with
  | nil => exact .done one two
  | cons round rest inductionHypothesis =>
      have told : round.event.Matches one two round.event := by
        have plain := unanswered round List.mem_cons_self
        generalize round.event = event at plain
        cases event with
        | received incoming =>
            cases incoming with
            | message message => exact .message message
            | answer id result => exact absurd rfl (plain id result)
        | ended number result => exact .ended number result
        | removed number result => exact .removed number result
        | woken number => exact .woken number
      have went := akin.turnIn told (.refl _) (fun _ => rfl) rfl rfl
      refine .both told (.refl _) (fun _ => rfl) rfl rfl (inductionHypothesis went.server ?_)
      exact fun later member => unanswered later (List.mem_cons_of_mem _ member)

/-- Servers that start with different choices are akin. -/
theorem start_akin (environ : Variables) (configFile : Option Path) (venv : Path)
    (store other : Store) :
    (start environ configFile venv store).Akin (start environ configFile venv other) :=
  .of_store _ (fun _ _ => rfl) other

end Server

end TemplateLint
