import Reindex.Proofs.Flush.Independence
import Reindex.Proofs.UnitOfWork.Answers

/-!
# A flush does not depend on the size of a batch

Where the work is cut decides which keys share a call of the backend, and with the number of
permits also when each call is made. It does not decide what becomes of a key as long as the
backend acknowledges every batch in time and refuses a key by a rule of its own, whatever
else is in the batch. Then the outcome of all batches is the one that the rule gives for all
keys at once, in the order of the work, and what failed before submission stands in front of
it as ever. So two runs that differ in these settings alone, and in what a schedule decides,
tell the same of every key.
-/

namespace Reindex

/-- The settings with another size of a batch and another number of permits. -/
def Config.batching (size permits : Nat) (config : Config) : Config :=
  { config with batchSize := size, maxInFlight := permits }

/-- What an outcome tells of the keys, the number of batches and the duration apart. -/
def FlushOutcome.ofKeys (outcome : FlushOutcome) : FlushOutcome :=
  { outcome with batches := 0, duration := 0 }

namespace FlushOutcome

/-- Outcomes with the same keys and failures are answered alike, the number of batches and
the duration apart. -/
theorem ofKeys_toResult {outcome other : FlushOutcome}
    (succeeded : outcome.succeeded = other.succeeded)
    (failures : outcome.failures = other.failures) :
    outcome.toResult.map ofKeys = other.toResult.map ofKeys := by
  have success : outcome.isSuccess = other.isSuccess := congrArg List.isEmpty failures
  have failed : outcome.failedKeys = other.failedKeys := congrArg Failure.allKeys failures
  rw [toResult, toResult, success, failed, succeeded, failures]
  split
  · simp [Except.map, ofKeys, succeeded, failures]
  · rfl

end FlushOutcome

namespace Environment

variable {environment : Environment} {number : Nat} {calls : List UnitCall} {call : UnitCall}

/-- The backend acknowledges a batch in time, and of the keys in it the report refuses those
that the rule refuses. What it says of other keys is left open. -/
def Judges (environment : Environment) (number : Nat) (reject : EntityKey → Option String)
    (batch : WorkBatch) : Prop :=
  ∃ report, environment.Acknowledges number batch report ∧
    ∀ key ∈ batch.keys, report.rejection? key = reject key

/-- A last commit adds nothing to what is flushed. -/
theorem flushOf_concat (commits : call = .afterCommit ∨ call = .flush) :
    environment.flushOf number (calls ++ [call]) = environment.flushOf number calls := by
  have silent : call.registers = false := by
    rcases commits with rfl | rfl <;> rfl
  have registering : (calls ++ [call]).takeWhile UnitCall.registers =
      calls.takeWhile UnitCall.registers := by
    rw [List.takeWhile_append]
    split
    · rename_i all
      rw [List.takeWhile_cons_of_neg (by simp [silent]), List.append_nil]
      exact ((List.takeWhile_prefix _).eq_of_length all).symm
    · rfl
  rw [flushOf, flushOf, planOf, planOf, registering]

end Environment

namespace UnitOfWork

variable {environment : Environment} {number : Nat} {prepared : PreparedFlush}
  {reject : EntityKey → Option String} {unit : UnitOfWork} {outcome : FlushOutcome}

/-- When every batch is judged by one rule, the outcome of a flush that has ended is the
judgement of all keys of the batches, and what failed before stands in front. -/
theorem Collected.outcome_of_judged (collected : Collected environment number prepared unit)
    (stored : unit.outcome = some outcome)
    (judged : ∀ batch ∈ prepared.batches, environment.Judges number reject batch) :
    outcome.succeeded = prepared.keys.filter (fun key => (reject key).isNone) ∧
      outcome.failures = prepared.failures ++ FlushOutcome.refusals reject prepared.keys := by
  obtain ⟨started, now, work, -, rfl⟩ := collected
  cases stored
  have settled : ∀ batch ∈ prepared.batches.map fun batch =>
      (batch.keys, environment.resultOf number batch), ∃ report, batch.2 = .acknowledged report ∧
        ∀ key ∈ batch.1, report.rejection? key = reject key := by
    intro settled member
    obtain ⟨batch, listed, rfl⟩ := List.mem_map.1 member
    obtain ⟨report, acknowledged, ruled⟩ := judged batch listed
    exact ⟨report, Environment.resultOf_eq_acknowledged_iff.2 acknowledged, ruled⟩
  rw [← keys_settled environment number prepared]
  obtain ⟨succeeded, failures⟩ := FlushOutcome.ofBatches_of_judged settled
  exact ⟨succeeded, congrArg (prepared.failures ++ ·) failures⟩

/-- The outcome of a flush that has ended decides the state of the unit. -/
theorem Collected.state_eq (collected : Collected environment number prepared unit)
    (stored : unit.outcome = some outcome) :
    ∃ started now, unit.state = settledState started now outcome := by
  obtain ⟨started, now, work, -, rfl⟩ := collected
  cases stored
  exact ⟨started, now, rfl⟩

end UnitOfWork

namespace Engine

variable {environment : Environment} {number : Nat} {steps : List EngineStep}
  {calls : List UnitCall} {call : UnitCall}

/-- A commit of a unit that was not rolled back answers with the outcome that the unit keeps,
and this has the results of what the calls of the unit flush. -/
theorem run_answers (permitted : 0 < environment.mapping.config.maxInFlight)
    (course : CalledWith environment number steps calls) (kept : .afterRollback ∉ calls)
    (commits : call = .afterCommit ∨ call = .flush) :
    ∃ settled outcome,
      (((start environment).run steps).step (.call number call)).2.unit? number = some settled ∧
        settled.outcome = some outcome ∧
        (((start environment).run steps).step (.call number call)).1 =
          some (outcome.toResult.map .flushed) ∧
        UnitOfWork.Collected environment number (environment.flushOf number calls) settled := by
  have whole : CalledWith environment number (steps ++ [.call number call]) (calls ++ [call]) := by
    obtain ⟨before, since, rfl, length, undropped, made⟩ := course
    refine ⟨before, since ++ [.call number call], by simp, length, by simpa using undropped, ?_⟩
    rw [List.filterMap_append, made]
    simp [EngineStep.callOn?]
  have keptToo : .afterRollback ∉ calls ++ [call] := by
    rcases commits with rfl | rfl <;> simpa using kept
  have commitsToo : .afterCommit ∈ calls ++ [call] ∨ .flush ∈ calls ++ [call] := by
    rcases commits with rfl | rfl <;> simp
  obtain ⟨settled, held, collected⟩ := run_settles permitted whole keptToo commitsToo
  rw [Environment.flushOf_concat commits] at collected
  rw [run_append] at held
  obtain ⟨consistent, agreed⟩ := run_consistent environment steps
  generalize (start environment).run steps = engine at *
  change (engine.step (.call number call)).2.unit? number = some settled at held
  cases atHand : engine.unit? number with
  | none =>
    -- a call on a unit that is not there leaves it so
    simp [step, atHand] at held
  | some unit =>
    have left := (leaves_step consistent atHand call).held
    have same : (unit.called engine.environment number engine.now call).2 = settled := by
      rw [unit?_eq_some_iff, left] at held
      simpa using held
    have unrolled : settled.rollback = none := by
      obtain ⟨started, now, work, -, rfl⟩ := collected
      rfl
    have rolled : settled.rollback = unit.rollback := by
      rw [← same]
      rcases commits with rfl | rfl <;>
        exact (consistent.shape atHand).rollback_commit number engine.now
    obtain ⟨after, outcome, found, stored, answered⟩ :=
      (consistent.upholds atHand).commits (rolled.symm.trans unrolled) call commits
    obtain rfl : after = settled := Option.some.inj (found.symm.trans held)
    exact ⟨after, outcome, held, stored, answered, collected⟩

end Engine

/-- The size of a batch does not decide what a flush ends with. Take two runs with the same
settings, collaborators and types, but for the size of a batch, the number of permits and
the backend; in each of them a unit is called the same way and not given up, while any other
steps come in between, and is then committed. If every batch of either unit is acknowledged
in time and its keys are refused by one rule, both units end with outcomes that list the same
keys as indexed and the same failures, in the same order. The commits are answered alike, the
number of batches and the duration apart, and the states are the same but for their
instants. -/
theorem flush_of_any_size {config : Config} {hierarchy : Hierarchy} {types : List MappedType}
    {size permits number otherNumber : Nat} {environment other : Environment}
    {steps otherSteps : List EngineStep} {calls : List UnitCall} {call : UnitCall}
    {reject : EntityKey → Option String}
    (built : Mapping.build config hierarchy types = .ok environment.mapping)
    (builtToo : Mapping.build { config with batchSize := size, maxInFlight := permits } hierarchy
      types = .ok other.mapping)
    (collaborators : (environment.services number).PrepareAlike (other.services otherNumber))
    (course : CalledWith environment number steps calls)
    (otherCourse : CalledWith other otherNumber otherSteps calls)
    (kept : .afterRollback ∉ calls) (commits : call = .afterCommit ∨ call = .flush)
    (judged : ∀ batch ∈ (environment.flushOf number calls).batches,
      environment.Judges number reject batch)
    (judgedToo : ∀ batch ∈ (other.flushOf otherNumber calls).batches,
      other.Judges otherNumber reject batch) :
    let last := ((Engine.start environment).run steps).step (.call number call)
    let otherLast := ((Engine.start other).run otherSteps).step (.call otherNumber call)
    ∃ unit otherUnit outcome otherOutcome,
      last.2.unit? number = some unit ∧ otherLast.2.unit? otherNumber = some otherUnit ∧
        unit.outcome = some outcome ∧ otherUnit.outcome = some otherOutcome ∧
        outcome.succeeded = otherOutcome.succeeded ∧ outcome.failures = otherOutcome.failures ∧
        last.1 = some (outcome.toResult.map .flushed) ∧
        otherLast.1 = some (otherOutcome.toResult.map .flushed) ∧
        outcome.toResult.map FlushOutcome.ofKeys = otherOutcome.toResult.map FlushOutcome.ofKeys ∧
        unit.state.timeless = otherUnit.state.timeless := by
  intro last otherLast
  have varied := Mapping.tuned_of_build (.batching size permits) built builtToo rfl
  have flushes : other.flushOf otherNumber calls =
      (environment.flushOf number calls).recut size :=
    Environment.flushOf_tuned (.batching size permits) varied rfl collaborators calls
  obtain ⟨unit, outcome, held, stored, answered, collected⟩ :=
    Engine.run_answers (Mapping.permitted_of_build built) course kept commits
  obtain ⟨otherUnit, otherOutcome, otherHeld, otherStored, otherAnswered, otherCollected⟩ :=
    Engine.run_answers (Mapping.permitted_of_build builtToo) otherCourse kept commits
  -- both judge the same keys, and the same keys failed before
  obtain ⟨accepted, failed⟩ := collected.outcome_of_judged stored judged
  obtain ⟨otherAccepted, otherFailed⟩ := otherCollected.outcome_of_judged otherStored judgedToo
  have succeeded : outcome.succeeded = otherOutcome.succeeded := by
    rw [accepted, otherAccepted, flushes, PreparedFlush.keys_recut]
  have failures : outcome.failures = otherOutcome.failures := by
    rw [failed, otherFailed, flushes, PreparedFlush.keys_recut, PreparedFlush.recut]
  obtain ⟨started, now, state⟩ := collected.state_eq stored
  obtain ⟨otherStarted, otherNow, otherState⟩ := otherCollected.state_eq otherStored
  refine ⟨unit, otherUnit, outcome, otherOutcome, held, otherHeld, stored, otherStored, succeeded,
    failures, answered, otherAnswered, FlushOutcome.ofKeys_toResult succeeded failures, ?_⟩
  rw [state, otherState]
  exact UnitOfWork.timeless_settledState_congr succeeded failures _ _ _ _

namespace Library

/-- What the stockroom's backend refuses today, whichever batch it is asked about. -/
def refusedBooks : BatchReport := ⟨[(bookKey "2", "too long"), (bookKey "9", "unknown")]⟩

/-- The stockroom on a day when every batch is acknowledged at once. -/
def calmStockroom : Environment where
  mapping := stockroom.mapping
  services _ := { clerks with backend := fun _ _ => ⟨10, .report refusedBooks⟩ }

/-- The same day with room for three items in a batch and for four calls at a time, and with
a slower backend. -/
def roomyStockroom : Environment where
  mapping := stockroom.mapping.tuned (.batching 3 4)
  services _ := { clerks with backend := fun _ _ => ⟨40, .report refusedBooks⟩ }

/-- Two batches or one, the same books are indexed and the same ones fail. -/
theorem deliveries_of_any_size :
    (calmStockroom.flushOf 0 deliveryCalls.dropLast).batches.length = 2 ∧
      (roomyStockroom.flushOf 1 deliveryCalls.dropLast).batches.length = 1 ∧
      ∃ unit otherUnit outcome otherOutcome,
        (((Engine.start calmStockroom).run (deliveries ++ [.call 0 .beforeCommit])).step
          (.call 0 .flush)).2.unit? 0 = some unit ∧
        (((Engine.start roomyStockroom).run busyDeliveries.dropLast).step
          (.call 1 .flush)).2.unit? 1 = some otherUnit ∧
        unit.outcome = some outcome ∧ otherUnit.outcome = some otherOutcome ∧
        outcome.succeeded = otherOutcome.succeeded ∧ outcome.failures = otherOutcome.failures ∧
        unit.state.timeless = otherUnit.state.timeless := by
  have built : Mapping.build stockroom.mapping.config [] [shelf, book, author] =
      .ok calmStockroom.mapping := rfl
  have builtToo : Mapping.build { stockroom.mapping.config with batchSize := 3, maxInFlight := 4 }
      [] [shelf, book, author] = .ok roomyStockroom.mapping := rfl
  have course : CalledWith calmStockroom 0 (deliveries ++ [.call 0 .beforeCommit])
      deliveryCalls.dropLast := ⟨[], _, rfl, rfl, by simp, rfl⟩
  have otherCourse : CalledWith roomyStockroom 1 busyDeliveries.dropLast deliveryCalls.dropLast :=
    ⟨[.begin], _, rfl, rfl, by simp, rfl⟩
  have kept : .afterRollback ∉ deliveryCalls.dropLast := by simp [deliveryCalls]
  have judged (batch : WorkBatch) : calmStockroom.Judges 0 refusedBooks.rejection? batch :=
    ⟨refusedBooks, ⟨(by decide : 10 ≤ 100), rfl⟩, fun _ _ => rfl⟩
  have judgedToo (batch : WorkBatch) : roomyStockroom.Judges 1 refusedBooks.rejection? batch :=
    ⟨refusedBooks, ⟨(by decide : 40 ≤ 100), rfl⟩, fun _ _ => rfl⟩
  obtain ⟨unit, otherUnit, outcome, otherOutcome, held, otherHeld, ended, otherEnded, succeeded,
    failures, -, -, -, state⟩ :=
    flush_of_any_size built builtToo ⟨rfl, rfl, rfl⟩ course otherCourse kept (.inr rfl)
      (fun batch _ => judged batch) (fun batch _ => judgedToo batch)
  exact ⟨rfl, rfl, unit, otherUnit, outcome, otherOutcome, held, otherHeld, ended, otherEnded,
    succeeded, failures, state⟩

end Library

end Reindex
