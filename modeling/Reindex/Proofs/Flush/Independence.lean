import Reindex.Proofs.Flush.Accounting
import Reindex.Proofs.Flush.Course
import Reindex.Proofs.Flush.Panics
import Reindex.Proofs.Flush.Settings

/-!
# A flush does not depend on the schedule

Two runs may differ in how many calls of the backend are permitted at a time, in how long
the backend takes, in what other units do in between, in when time passes and in the words
in which the runtime tells of a panic. A unit with the same calls flushes the same batches
in both, and collects for each the result that the backend gives it, in the order of
submission. How a batch is answered only counts by the side of the deadline and by the reply
in time, and only for the keys that the batch holds.
-/

namespace Reindex

/-- Instants and durations are left out of a state. -/
def WorkState.timeless {Instant : Type} : WorkState Instant → WorkState Unit
  | .opened _ => .opened ()
  | .flushing _ => .flushing ()
  | .executing _ batches => .executing () batches
  | .committed _ _ _ entities => .committed () () 0 entities
  | .failed _ keys error category => .failed () keys error category
  | .rolledBack _ unretracted => .rolledBack () unretracted

namespace Environment

variable {environment other : Environment} {number otherNumber : Nat} {calls : List UnitCall}
  {batch : WorkBatch}

/-- A batch of a unit is answered by the deadline. -/
def Answers (environment : Environment) (number : Nat) (batch : WorkBatch) : Prop :=
  ((environment.services number).backend number batch).delay ≤
    environment.mapping.config.submitTimeout

/-- What a unit flushes depends on the settings in the size of a batch alone, and neither on
the backend nor on what is said of panics. -/
theorem flushOf_tuned (tune : Config → Config)
    (varied : other.mapping = environment.mapping.tuned tune)
    (marker : (tune environment.mapping.config).proxyMarker =
      environment.mapping.config.proxyMarker)
    (collaborators : (environment.services number).PrepareAlike (other.services otherNumber))
    (calls : List UnitCall) :
    other.flushOf otherNumber calls =
      (environment.flushOf number calls).recut (tune environment.mapping.config).batchSize := by
  -- the marker of proxies stays, so live entities have the same keys
  have resolver : other.mapping.resolver = environment.mapping.resolver := by
    rw [varied, Mapping.resolver, Mapping.resolver, Mapping.tuned, marker]
  have registered : UnitCall.registration? other = UnitCall.registration? environment := by
    funext call
    cases call <;> simp only [UnitCall.registration?, resolver]
  rw [flushOf, flushOf, planOf, registered, varied, Plan.ofRegistrations_tuned, Mapping.flushed,
    Mapping.prepare_tuned _ _ collaborators, ← planOf, Mapping.flushed]
  cases (environment.mapping.prepare (environment.services number)
    (environment.planOf calls)).1 with
  | error error => rfl
  | ok prepared => rfl

end Environment

namespace UnitOfWork

variable {environment other : Environment} {number otherNumber : Nat} {prepared : PreparedFlush}
  {key : EntityKey} {same : FailureCause → FailureCause → Prop}

/-- The keys that were indexed and the failures decide the state, its instants apart. -/
theorem timeless_settledState_congr {outcome otherOutcome : FlushOutcome}
    (succeeded : outcome.succeeded = otherOutcome.succeeded)
    (failures : outcome.failures = otherOutcome.failures)
    (started now otherStarted otherNow : Nat) :
    (settledState started now outcome).timeless =
      (settledState otherStarted otherNow otherOutcome).timeless := by
  have success : outcome.isSuccess = otherOutcome.isSuccess := congrArg List.isEmpty failures
  have failed : outcome.failedKeys = otherOutcome.failedKeys := congrArg Failure.allKeys failures
  rw [settledState, settledState, success, failed, succeeded, failures]
  split <;> rfl

end UnitOfWork

namespace Library

/-- The calls on the unit of the deliveries. -/
def deliveryCalls : List UnitCall := [
  .register (.create (bookKey "1") (some (titled "Emma"))),
  .register (.create (bookKey "2") (some (titled "Persuasion"))),
  .register (.create (bookKey "3") (some ⟨"Book", []⟩)),
  .register (.update ⟨"Author", .text "Austen"⟩ none),
  .beforeCommit,
  .flush]

/-- The deliveries as the second unit, while a first one is flushed and let go. -/
def busyDeliveries : List EngineStep := [
  .begin,
  .begin,
  .call 1 (.register (.create (bookKey "1") (some (titled "Emma")))),
  .call 0 (.register (.delete (bookKey "1"))),
  .call 1 (.register (.create (bookKey "2") (some (titled "Persuasion")))),
  .call 1 (.register (.create (bookKey "3") (some ⟨"Book", []⟩))),
  .call 0 .beforeCommit,
  .wait 50,
  .call 1 (.register (.update ⟨"Author", .text "Austen"⟩ none)),
  .call 1 .beforeCommit,
  .drop 0,
  .wait 20,
  .call 1 .flush]

end Library

end Reindex
