import TemplateLint.Proofs.Lists
import TemplateLint.Server.Step

/-!
# Histories of a server

A server takes one turn after the other.  What happens next, what the files look like by then, and
whether a superseded job goes on a little are all left open: any event may come at any time, so
that the turns stand for any interleaving of the jobs at their waits.  A job waits for an answer of
the editor, for its turn to set up the environment, for a removal and for a program; and whenever it
publishes or logs something, until the editor has taken that.  The history is everything that the
server did, the earliest first.
Main exports: `Occasion`, `Server.turnOn`, `Comes`, `latest?`, `latest?_eq_some_iff`, `documentIn?`,
`foundIn?`, `publishedIn?`, `Current`.
-/

namespace TemplateLint

/-- An event with its circumstances. -/
structure Occasion where
  disk : Disk
  event : Event
  /-- A superseded job that is brought news still does one piece of work. -/
  eager : Bool

namespace Server

/-- The turn that a server takes on an occasion. -/
def turnOn (server : Server) (occasion : Occasion) : Turn :=
  server.step occasion.disk occasion.event occasion.eager

end Server

/-! ## Places in a history -/

/-- The deed comes in the history right after the deeds `before`. -/
def Comes (history before : List Deed) (deed : Deed) : Prop :=
  ∃ after, history = before ++ deed :: after

namespace Comes

variable {history before : List Deed} {deed last : Deed}

theorem atEnd (history : List Deed) (deed : Deed) : Comes (history ++ [deed]) history deed :=
  ⟨[], rfl⟩

/-- What comes in a history comes at the same place when it goes on. -/
theorem extend (comes : Comes history before deed) (more : List Deed) :
    Comes (history ++ more) before deed := by
  obtain ⟨after, rfl⟩ := comes
  exact ⟨after ++ more, by simp⟩

/-- In a history with one more deed, a deed is that one or comes in the history before. -/
theorem append_singleton :
    Comes (history ++ [last]) before deed ↔
      Comes history before deed ∨ (before = history ∧ deed = last) := by
  constructor
  · rintro ⟨after, same⟩
    rcases append_singleton_eq.mp same with ⟨rfl, rfl, -⟩ | ⟨others, -, rfl⟩
    · exact Or.inr ⟨rfl, rfl⟩
    · exact Or.inl ⟨others, rfl⟩
  · rintro (comes | ⟨rfl, rfl⟩)
    · exact comes.extend [last]
    · exact Comes.atEnd before deed

theorem not_nil : ¬ Comes [] before deed := by
  rintro ⟨after, same⟩
  simp at same

end Comes

/-! ## The latest of what deeds tell -/

/-- The reading of the latest deed that has one. -/
def latest? {α : Type} (reads : Deed → Option α) (history : List Deed) : Option α :=
  history.reverse.findSome? reads

section latest

variable {α : Type} {reads : Deed → Option α}

/-- The latest of a history that goes on is the latest of what is new, if that tells it. -/
theorem latest?_append (history more : List Deed) :
    latest? reads (history ++ more) = (latest? reads more).or (latest? reads history) := by
  simp [latest?, List.reverse_append, List.findSome?_append]

@[simp] theorem latest?_singleton (deed : Deed) : latest? reads [deed] = reads deed := by
  cases said : reads deed <;> simp [latest?, List.findSome?, said]

/-- One more deed has the last word if it has a reading. -/
theorem latest?_append_singleton (history : List Deed) (deed : Deed) :
    latest? reads (history ++ [deed]) = (reads deed).or (latest? reads history) := by
  rw [latest?_append, latest?_singleton]

/-- The latest reading is that of some deed, and no deed after it has one. -/
theorem latest?_eq_some_iff {history : List Deed} {value : α} :
    latest? reads history = some value ↔
      ∃ before deed after, history = before ++ deed :: after ∧ reads deed = some value ∧
        ∀ later ∈ after, reads later = none := by
  rw [latest?, List.findSome?_eq_some_iff]
  constructor
  · rintro ⟨after, deed, before, same, said, silent⟩
    refine ⟨before.reverse, deed, after.reverse, ?_, said, by simpa using silent⟩
    simpa using congrArg List.reverse same
  · rintro ⟨before, deed, after, rfl, said, silent⟩
    exact ⟨after.reverse, deed, before.reverse, by simp, said, by simpa using silent⟩

end latest

/-! ## What a history tells -/

/-- The job lints a document. -/
def Job.Lints (job : Job) (uri : Uri) : Prop :=
  job.errand.mode = .lint ∧ job.document.uri = uri

instance (job : Job) (uri : Uri) : Decidable (job.Lints uri) :=
  inferInstanceAs (Decidable (_ ∧ _))

/-- The result of a lint: diagnostics that are from now on those of the document, or none when the
failure takes away the old ones; a failure that may pass has no result. -/
def Finding.result? (finding : Finding) : Option (Option (List Diagnostic)) :=
  match finding.output with
  | .ok stdout => some (some (finding.job.diagnostics stdout))
  | .error failure => if failure.isConfiguration then some none else none

namespace Deed

/-- What becomes of a document: how it is now, or that it is no longer open. -/
def document? (uri : Uri) : Deed → Option (Option Document)
  | kept document => if uri = document.uri then some (some document) else none
  | closed other => if uri = other then some none else none
  | _ => none

/-- What becomes of the diagnostics of a document. -/
def found? (uri : Uri) : Deed → Option (Option (List Diagnostic))
  | told _ finding => if finding.job.Lints uri then finding.result? else none
  | closed other => if uri = other then some none else none
  | _ => none

/-- The diagnostics that an editor is told of for a document. -/
def published? (uri : Uri) : Deed → Option (List Diagnostic)
  | effect (.tell (.publish other diagnostics _)) => if uri = other then some diagnostics else none
  | _ => none

/-- What the effects after it are due to: the deed itself, unless it is an effect. -/
def cause? : Deed → Option Deed
  | effect _ => none
  | deed => some deed

/-- After the deed no lint of the document that was taken up before counts any more: the document
is changed, closed or linted anew, or the server shuts down. -/
def touches (uri : Uri) : Deed → Bool
  | kept document => uri = document.uri
  | closed other => uri = other
  | begun _ document => uri = document.uri
  | shutDown => true
  | _ => false

end Deed

/-- The document that is open under a URI after a history. -/
def documentIn? (uri : Uri) (history : List Deed) : Option Document :=
  (latest? (Deed.document? uri) history).join

/-- The diagnostics that the told results of lints leave of a document. -/
def foundIn? (uri : Uri) (history : List Deed) : Option (List Diagnostic) :=
  (latest? (Deed.found? uri) history).join

/-- The diagnostics of a document that were published last. -/
def publishedIn? (uri : Uri) (history : List Deed) : Option (List Diagnostic) :=
  latest? (Deed.published? uri) history

/-- What the effects at the end of a history are due to. -/
def causeIn? (history : List Deed) : Option Deed :=
  latest? Deed.cause? history

/-- The lint was taken up on the document, and nothing has touched the document since. -/
def Current (number : Nat) (document : Document) (history : List Deed) : Prop :=
  ∃ first since, history = first ++ .begun number document :: since ∧
    ∀ deed ∈ since, deed.touches document.uri = false

/-- Something has touched the document since the lint was taken up on it. -/
def Outdated (number : Nat) (document : Document) (history : List Deed) : Prop :=
  ∃ first since, history = first ++ .begun number document :: since ∧
    ∃ deed ∈ since, deed.touches document.uri = true

section standing

variable {number : Nat} {document : Document} {history : List Deed} {deed : Deed}

theorem Current.begun (number : Nat) (document : Document) (history : List Deed) :
    Current number document (history ++ [.begun number document]) :=
  ⟨history, [], rfl, by simp⟩

/-- A lint goes on to count until its document is touched. -/
theorem Current.append (current : Current number document history)
    (apart : deed.touches document.uri = false) : Current number document (history ++ [deed]) := by
  obtain ⟨first, since, rfl, untouched⟩ := current
  refine ⟨first, since ++ [deed], by simp, fun other member => ?_⟩
  rcases List.mem_append.mp member with earlier | here
  · exact untouched other earlier
  · rw [List.mem_singleton.mp here]
    exact apart

/-- A lint whose document is touched counts no more. -/
theorem Current.outdated (current : Current number document history)
    (touched : deed.touches document.uri = true) :
    Outdated number document (history ++ [deed]) := by
  obtain ⟨first, since, rfl, -⟩ := current
  exact ⟨first, since ++ [deed], by simp, deed, by simp, touched⟩

/-- What is outdated stays so. -/
theorem Outdated.append (outdated : Outdated number document history) (more : List Deed) :
    Outdated number document (history ++ more) := by
  obtain ⟨first, since, rfl, other, member, touched⟩ := outdated
  exact ⟨first, since ++ more, by simp, other, by simp [member], touched⟩

end standing

/-! ## Histories with one more deed -/

theorem documentIn?_append (uri : Uri) (history : List Deed) (deed : Deed) :
    documentIn? uri (history ++ [deed]) = (deed.document? uri).getD (documentIn? uri history) := by
  unfold documentIn?
  rw [latest?_append_singleton]
  cases deed.document? uri <;> rfl

theorem foundIn?_append (uri : Uri) (history : List Deed) (deed : Deed) :
    foundIn? uri (history ++ [deed]) = (deed.found? uri).getD (foundIn? uri history) := by
  unfold foundIn?
  rw [latest?_append_singleton]
  cases deed.found? uri <;> rfl

theorem publishedIn?_append (uri : Uri) (history : List Deed) (deed : Deed) :
    publishedIn? uri (history ++ [deed]) = (deed.published? uri).or (publishedIn? uri history) :=
  latest?_append_singleton history deed

theorem causeIn?_append (history : List Deed) (deed : Deed) :
    causeIn? (history ++ [deed]) = deed.cause?.or (causeIn? history) :=
  latest?_append_singleton history deed

end TemplateLint
