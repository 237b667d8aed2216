import TemplateLint.Server.Effect
import TemplateLint.Server.Job

/-!
# Deeds

What a server does in a turn: effects on its surroundings, and what becomes of the documents and
jobs that it keeps.  Main exports: `Deed`, `Deed.effect?`.
-/

namespace TemplateLint

/-- Something that a server does. -/
inductive Deed where
  | effect (effect : Effect)
  /-- A document is kept as it is now: it was opened, changed, or saved with its text. -/
  | kept (document : Document)
  /-- A document is no longer kept. -/
  | closed (uri : Uri)
  /-- A lint of a document is taken up under a number and counts from now on. -/
  | begun (number : Nat) (document : Document)
  /-- What a job came to is told. -/
  | told (number : Nat) (finding : Finding)
  /-- The failure of a job goes to the log. -/
  | logged (number : Nat) (job : Job) (failure : Failure)
  /-- It is considered whether the failure of a job is shown. -/
  | considered (number : Nat) (job : Job) (failure : Failure)
  /-- From now on no lint that was taken up counts. -/
  | shutDown

/-- The effect that a deed is, if it is one. -/
def Deed.effect? : Deed → Option Effect
  | effect done => some done
  | _ => none

end TemplateLint
