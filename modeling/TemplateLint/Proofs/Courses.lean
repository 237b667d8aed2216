import Mathlib.Data.List.Induction
import Mathlib.Data.List.Sort
import TemplateLint.Proofs.Changes
import TemplateLint.Proofs.LintActs

/-!
# Courses of events

A course is turn after turn.  When settings change, the open documents are linted one after the
other, and nothing says in which order; so the order is chosen anew before every turn.
Main exports: `Table.arrange`, `Round`, `Server.course`, `Server.course_append`,
`Server.course_sound`, `Between`, `Server.course_kept`.
-/

namespace TemplateLint

namespace Table

variable {κ α : Type}

/-- The same table in another order: keys of lower rank come first. -/
def arrange (table : Table κ α) (rank : κ → Nat) : Table κ α where
  pairs := table.pairs.insertionSort fun one two => rank one.1 ≤ rank two.1
  distinct := ((List.perm_insertionSort _ table.pairs).map Prod.fst).nodup_iff.mpr table.distinct

/-- Every key is still listed. -/
theorem keys_arrange (table : Table κ α) (rank : κ → Nat) :
    (table.arrange rank).keys.Perm table.keys :=
  (List.perm_insertionSort _ table.pairs).map Prod.fst

/-- Every key still holds its value. -/
theorem get?_arrange [DecidableEq κ] (table : Table κ α) (rank : κ → Nat) (key : κ) :
    (table.arrange rank).get? key = table.get? key := by
  have same := List.perm_insertionSort (fun one two : κ × α => rank one.1 ≤ rank two.1) table.pairs
  ext value
  constructor
  · intro held
    exact get?_of_mem (same.mem_iff.mp (mem_of_find? held))
  · intro held
    exact get?_of_mem (same.mem_iff.mpr (mem_of_find? held))

/-- Among equals the order stays. -/
theorem arrange_const (table : Table κ α) : (table.arrange fun _ => 0) = table := by
  obtain ⟨pairs, distinct⟩ := table
  simp only [arrange, mk.injEq]
  refine List.Pairwise.insertionSort_eq ?_
  exact List.pairwise_of_forall fun _ _ => Nat.le_refl 0

end Table

/-- An occasion, and the order in which documents are visited on it. -/
structure Round extends Occasion where
  rank : Uri → Nat

/-- A job that tells does not run any more. -/
theorem Sound.parted {server : Server} {history : List Deed} (sound : Sound server history) :
    server.Parted :=
  fun number telling held => (sound.telling number telling held).2.1

theorem Sound.under_numbered {server : Server} {history : List Deed} {number : Nat} {job : Job}
    (sound : Sound server history) (under : server.UnderWay number job) :
    number < server.nextJob := by
  rcases under with held | ⟨rest, held⟩
  · exact sound.numbered number job held
  · exact (sound.telling number _ held).1

namespace Server

variable {server : Server} {history : List Deed}

/-- The server with its documents in a certain order. -/
def arranged (server : Server) (rank : Uri → Nat) : Server :=
  { server with documents := server.documents.arrange rank }

/-- The turn that a server takes on an occasion, visiting documents in the given order. -/
def turnIn (server : Server) (round : Round) : Turn :=
  (server.arranged round.rank).turnOn round.toOccasion

/-- Take one turn after the other, with the history so far. -/
def goOnIn (story : Server × List Deed) (round : Round) : Server × List Deed :=
  ((story.1.turnIn round).server, story.2 ++ (story.1.turnIn round).deeds)

/-- The server after some rounds, and all that it did. -/
def course (server : Server) (rounds : List Round) : Server × List Deed :=
  rounds.foldl goOnIn (server, [])

theorem foldl_goOnIn (rounds : List Round) (story : Server × List Deed) :
    rounds.foldl goOnIn story =
      ((story.1.course rounds).1, story.2 ++ (story.1.course rounds).2) := by
  induction rounds generalizing story with
  | nil => simp [course]
  | cons round rest inductionHypothesis =>
      rw [course, List.foldl_cons, List.foldl_cons, inductionHypothesis,
        inductionHypothesis (goOnIn (story.1, []) round)]
      simp [goOnIn]

/-- A course in two parts. -/
theorem course_append (server : Server) (first second : List Round) :
    server.course (first ++ second) =
      (((server.course first).1.course second).1,
        (server.course first).2 ++ ((server.course first).1.course second).2) := by
  rw [course, List.foldl_append, foldl_goOnIn second]
  rfl

theorem course_cons (server : Server) (round : Round) (rest : List Round) :
    server.course (round :: rest) =
      (((server.turnIn round).server.course rest).1,
        (server.turnIn round).deeds ++ ((server.turnIn round).server.course rest).2) := by
  rw [course, List.foldl_cons, foldl_goOnIn rest]
  simp [goOnIn]

theorem course_concat (server : Server) (rounds : List Round) (last : Round) :
    server.course (rounds ++ [last]) =
      (((server.course rounds).1.turnIn last).server,
        (server.course rounds).2 ++ ((server.course rounds).1.turnIn last).deeds) := by
  rw [course_append, course_cons]
  simp [course]

/-- What holds at the start and is kept by every turn holds after every course. -/
theorem course_induction (kept : Server → List Deed → Prop) (start : kept server [])
    (turns : ∀ server history round, kept server history →
      kept (server.turnIn round).server (history ++ (server.turnIn round).deeds))
    (rounds : List Round) : kept (server.course rounds).1 (server.course rounds).2 := by
  induction rounds using List.reverseRecOn with
  | nil => exact start
  | append_singleton rounds last inductionHypothesis =>
      rw [course_concat]
      exact turns _ _ last inductionHypothesis

/-! ## The lints stay in order -/

/-- The order of the documents does not matter to the invariant. -/
theorem arranged_sound (sound : Sound server history) (rank : Uri → Nat) :
    Sound (server.arranged rank) history := by
  have same (uri : Uri) : (server.arranged rank).documents.get? uri = server.documents.get? uri :=
    Table.get?_arrange _ _ _
  exact
    { sound with
      keyed := fun uri document held => sound.keyed uri document ((same uri).symm.trans held)
      counted := sound.counted
      kept := fun uri => (same uri).trans (sound.kept uri)
      bare := fun uri absent => sound.bare uri ((same uri).symm.trans absent)
      current := fun number job held lints counts =>
        (same _).trans (sound.current number job held lints counts)
      idle := fun fresh =>
        ⟨fun uri => (same uri).trans ((sound.idle fresh).1 uri), (sound.idle fresh).2⟩ }

/-- A turn keeps the invariant in whatever order it visits documents. -/
theorem turnIn_sound (sound : Sound server history) (round : Round) :
    Sound (server.turnIn round).server (history ++ (server.turnIn round).deeds) :=
  turnOn_sound (arranged_sound sound round.rank) round.toOccasion

/-- The invariant holds after every course. -/
theorem course_sound (sound : Sound server history) (rounds : List Round) :
    Sound (server.course rounds).1 (history ++ (server.course rounds).2) := by
  refine course_induction (fun server deeds => Sound server (history ++ deeds)) ?_ ?_ rounds
  · simpa using sound
  · intro server deeds round sound
    rw [← List.append_assoc]
    exact turnIn_sound sound round

/-- A turn is a run of strides, whatever the order of the documents. -/
theorem turnIn_leads (sound : Sound server history) (round : Round) :
    Turn.Leads round.eager .fresh ⟨server.arranged round.rank, round.disk, []⟩
      (server.turnIn round) :=
  Turn.step_strides (arranged_sound sound round.rank).keyed round.event round.eager

end Server

/-- What every stride of a sound server keeps is kept by a run of strides. -/
theorem Strides.kept {past : List Deed} {eager : Bool} {before next : Hand × Turn}
    (kept : Hand × Turn → Prop) (strides : Strides eager before next)
    (sound : Turn.SoundAfter past before.2) (start : kept before)
    (stride : ∀ one two, Turn.SoundAfter past one.2 → kept one → Stride eager one two → kept two) :
    kept next := by
  have both : Turn.SoundAfter past next.2 ∧ kept next := by
    induction strides with
    | refl => exact ⟨sound, start⟩
    | tail _ last inductionHypothesis =>
        exact ⟨Turn.acts_sound last.acts inductionHypothesis.1,
          stride _ _ inductionHypothesis.1 inductionHypothesis.2 last⟩
  exact both.2

/-- From the end of one turn to the beginning of the next, or to what is said between the two:
nothing is in hand, and the server differs at most in the order of its documents. -/
structure Between (since : List Deed) (place : Hand × Turn) (story : List Deed)
    (other : Hand × Turn) : Prop where
  ended : place.1 = .free
  begins : other.1 = .fresh ∨ other.1 = .free
  server : ∃ documents, other.2.server = { place.2.server with documents }
  deeds : story ++ other.2.deeds = since ++ place.2.deeds

namespace Between

variable {since story : List Deed} {place other : Hand × Turn}

theorem turn_begins (since : List Deed) (server : Server) (rank : Uri → Nat) (disk : Disk) :
    Between since (.free, ⟨server, Disk.empty, []⟩) since
      (.fresh, ⟨server.arranged rank, disk, []⟩) :=
  ⟨rfl, Or.inl rfl, ⟨_, rfl⟩, rfl⟩

theorem turn_ends (since : List Deed) (turn : Turn) :
    Between since (.free, turn) (since ++ turn.deeds) (.free, ⟨turn.server, Disk.empty, []⟩) :=
  ⟨rfl, Or.inr rfl, ⟨_, rfl⟩, by simp⟩

/-- No message is in hand, and no documents are in line. -/
theorem no_origin (between : Between since place story other) (origin : Nat) (uris : List Uri) :
    other.1 ≠ .message origin ∧ other.1 ≠ .line origin uris := by
  rcases between.begins with fresh | free
  · rw [fresh]
    exact ⟨by rintro ⟨⟩, by rintro ⟨⟩⟩
  · rw [free]
    exact ⟨by rintro ⟨⟩, by rintro ⟨⟩⟩

end Between

namespace Server

variable {server : Server} {history : List Deed}

/-- What every stride of a turn keeps holds at the end of it if it did so at the beginning. -/
theorem turnIn_kept (kept : Hand × Turn → Prop) {round : Round} (sound : Sound server history)
    (start : kept (.fresh, ⟨server.arranged round.rank, round.disk, []⟩))
    (stride : ∀ one two, Turn.SoundAfter history one.2 → kept one →
      Stride round.eager one two → kept two) :
    kept (.free, server.turnIn round) := by
  have starts : Turn.SoundAfter history ⟨server.arranged round.rank, round.disk, []⟩ := by
    simpa [Turn.SoundAfter] using arranged_sound sound round.rank
  exact Strides.kept kept (turnIn_leads sound round) starts start stride

/-- What every stride keeps and what stays between turns holds after every course, if it does so
at the start. -/
theorem course_kept (kept : List Deed → Hand × Turn → Prop) (sound : Sound server history)
    (rounds : List Round) (start : kept [] (.free, ⟨server, Disk.empty, []⟩))
    (between : ∀ since place story other, Between since place story other → kept since place →
      kept story other)
    (stride : ∀ since, ∀ round ∈ rounds, ∀ one two, Turn.SoundAfter (history ++ since) one.2 →
      kept since one → Stride round.eager one two → kept since two) :
    kept (server.course rounds).2 (.free, ⟨(server.course rounds).1, Disk.empty, []⟩) := by
  induction rounds using List.reverseRecOn with
  | nil => exact start
  | append_singleton rounds round inductionHypothesis =>
      have earlier := inductionHypothesis fun since other member =>
        stride since other (by simp [member])
      have later := course_sound sound rounds
      rw [course_concat]
      generalize server.course rounds = story at earlier later
      have begun : kept story.2 (.fresh, ⟨story.1.arranged round.rank, round.disk, []⟩) :=
        between _ _ _ _ (.turn_begins _ _ _ _) earlier
      have ended : kept story.2 (.free, story.1.turnIn round) :=
        turnIn_kept (kept story.2) later begun (stride story.2 round (by simp))
      exact between _ _ _ _ (.turn_ends _ _) ended

end Server

/-! ## A small course -/

namespace Sample

/-- A message of the editor, while the files are those of the disk. -/
def sends (disk : Disk) (method : String) (id : Option RpcId) (params : Option Json) : Round :=
  ⟨⟨disk, .received (.message ⟨method, id, params⟩), false⟩, fun _ => 0⟩

/-- The server is told to begin, and that the interpreter is `/python`. -/
def begins : Round :=
  sends .empty "initialize" (some (.number 1)) (some (.object
    [("capabilities", .object []),
      ("initializationOptions", .object [("pythonPath", .text "/python")])]))

/-- An empty document is opened while there is no interpreter. -/
def opens (uri : String) : Round :=
  sends .empty "textDocument/didOpen" none (some (.object
    [("textDocument", .object
      [("uri", .text uri), ("languageId", .text "html"), ("version", Json.ofNat 1),
        ("text", .text "")])]))

/-- Nothing but the interpreter. -/
def interpreter : Disk := ⟨[([Utf8.encode "python"], .file .empty true)], [], fun _ => none⟩

/-- A document is opened while the interpreter is there. -/
def opensThere : Round := { opens "file:///a" with disk := interpreter }

/-- The editor tells that settings changed, but not how, once the interpreter is there. -/
def changes : Round :=
  sends interpreter "workspace/didChangeConfiguration" none (some (.object [("settings", .null)]))

/-- A job looks around, or it goes on telling. -/
def wakes (number : Nat) : Round := ⟨⟨interpreter, .woken number, false⟩, fun _ => 0⟩

/-- The tool that works for a job ends with an error. -/
def fails (number code : Nat) (stderr : String) : Round :=
  ⟨⟨interpreter, .ended number (.finished ⟨.empty, stderr.toUTF8, .exited code⟩), false⟩,
    fun _ => 0⟩

/-- The server is told to exit. -/
def exits : Round := sends interpreter "exit" none none

/-- The server is told to begin, and not to lint. -/
def beginsUnlinted : Round :=
  sends .empty "initialize" (some (.number 1)) (some (.object
    [("capabilities", .object []),
      ("initializationOptions", .object
        [("pythonPath", .text "/python"), ("enableLinting", .bool false)])]))

def item (members : Members) : Json :=
  .object ([("uri", .text "file:///a")] ++ members)

/-- A document is opened. -/
def opensText : Round :=
  sends interpreter "textDocument/didOpen" none (some (.object
    [("textDocument", item
      [("languageId", .text "html"), ("version", Json.ofNat 1), ("text", .text "old")])]))

/-- It is to be formatted. -/
def asksFormatting : Round :=
  sends interpreter "textDocument/formatting" (some (.number 2)) (some (.object
    [("textDocument", item []),
      ("options", .object [("tabSize", Json.ofNat 4), ("insertSpaces", .bool true)])]))

/-- The documents that are opened. -/
def page (name : String) : Uri :=
  ⟨"file", some ⟨"", "", none⟩, .steps [name], none, none⟩

/-- The server has begun, and two documents are open that could not be linted. -/
def server : Server :=
  ((Server.start [] none ⟨[]⟩ .inMemory).course
    [begins, opens "file:///a", opens "file:///b"]).1

end Sample

end TemplateLint
