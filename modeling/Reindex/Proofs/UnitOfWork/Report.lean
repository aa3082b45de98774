import Reindex.Proofs.Flush.Outcome
import Reindex.Proofs.Flush.Underway
import Reindex.Proofs.UnitOfWork.Faithful

/-!
# The report of a rollback

A rollback gives up what waits, waits for what runs and then reports. What it has to
tell depends on the shape in which it finds the unit: the operations of a plan that was
not prepared, the batches that were and were not called, or what the outcome lists as
indexed. A rolled back unit repeats its report and is left as it is.
-/

namespace Reindex

/-- The report with which the backend acknowledges a batch, if it does so within the
deadline. -/
def Environment.acknowledgment? (environment : Environment) (number : Nat) (batch : WorkBatch) :
    Option BatchReport :=
  if ((environment.services number).backend number batch).delay ≤
      environment.mapping.config.submitTimeout
  then match ((environment.services number).backend number batch).reply with
    | .report report => some report
    | _ => none
  else none

/-- A call ends acknowledged exactly then, and otherwise it has failed. -/
theorem Environment.resultOf_cases (environment : Environment) (number : Nat)
    (batch : WorkBatch) :
    (∃ report, environment.acknowledgment? number batch = some report ∧
        environment.resultOf number batch = .acknowledged report) ∨
      environment.acknowledgment? number batch = none ∧
        (environment.resultOf number batch).isFailure = true := by
  simp only [acknowledgment?, resultOf, Submission.callResult, Submission.answersInTime,
    Submission.response, UnitOfWork.submission, Submission.submit]
  by_cases inTime : ((environment.services number).backend number batch).delay ≤
      environment.mapping.config.submitTimeout
  · cases answer : ((environment.services number).backend number batch).reply <;>
      simp [inTime, BatchResult.isFailure]
  · simp [inTime, BatchResult.isFailure]

/-- The calls end as the environment says. -/
theorem Submission.Agreed.callResult_eq {environment : Environment} {number : Nat}
    {submission : Submission} (agreed : submission.Agreed environment number) :
    submission.callResult = environment.resultOf number :=
  callResult_congr agreed.unit agreed.backend agreed.panicText agreed.timeout

/-- A rollback is refused by a rolled back unit alone. -/
theorem WorkState.rollBack_eq {Instant : Type} {state : WorkState Instant}
    (kept : state.isRolledBack = false) (now : Instant) (unretracted : Nat) :
    state.rollBack now unretracted = .ok (.rolledBack now unretracted) := by
  cases state with
  | rolledBack ended keys => cases kept
  | _ => rfl

/-- What is neither being prepared nor rolled back is open, executing or over. -/
theorem WorkState.open_or_executing_or_settled {Instant : Type} {state : WorkState Instant}
    (prepared : state.isFlushing = false) (kept : state.isRolledBack = false) :
    state.isOpen = true ∨ state.batches?.isSome = true ∨ state.isSettled = true := by
  cases state with
  | opened since => exact .inl rfl
  | flushing started => cases prepared
  | executing started batches => exact .inr (.inl rfl)
  | committed started ended duration entities => exact .inr (.inr rfl)
  | failed ended keys error category => exact .inr (.inr rfl)
  | rolledBack ended unretracted => cases kept

/-- The report of batches of which the first ones were called and the others were not. -/
def RollbackOutcome.ofCalled (environment : Environment) (number : Nat)
    (called uncalled : List WorkBatch) : RollbackOutcome where
  discarded := uncalled.flatMap WorkBatch.keys
  unretracted := called.flatMap fun batch => batch.keys.filter fun key =>
    (environment.acknowledgment? number batch).any fun report => (report.rejection? key).isNone
  ignoredFailures :=
    (called.countP fun batch => (environment.acknowledgment? number batch).isNone) +
      (called.flatMap fun batch => batch.keys.filter fun key =>
        (environment.acknowledgment? number batch).any fun report =>
          (report.rejection? key).isSome).length

/-- That is what a rollback makes of the results of the calls. -/
theorem RollbackOutcome.ofBatches_eq_ofCalled (environment : Environment) (number : Nat)
    (called uncalled : List WorkBatch) :
    ofBatches ((called.map fun batch => (batch.keys, environment.resultOf number batch)) ++
        uncalled.map fun batch => (batch.keys, .discarded)) =
      ofCalled environment number called uncalled := by
  have answered (batch : WorkBatch) :
      (environment.resultOf number batch).isDiscarded = false ∧
      ((environment.resultOf number batch).accepts = fun key =>
        (environment.acknowledgment? number batch).any fun report =>
          (report.rejection? key).isNone) ∧
      ((environment.resultOf number batch).refuses = fun key =>
        (environment.acknowledgment? number batch).any fun report =>
          (report.rejection? key).isSome) ∧
      (environment.resultOf number batch).isFailure =
        (environment.acknowledgment? number batch).isNone := by
    obtain ⟨report, acknowledged, result⟩ | ⟨unacknowledged, failed⟩ :=
      environment.resultOf_cases number batch
    · rw [result, acknowledged]
      exact ⟨rfl, rfl, rfl, rfl⟩
    · rw [unacknowledged, failed]
      obtain ⟨answered, accepts, refuses⟩ := BatchResult.parts_of_failure failed
      exact ⟨answered, accepts, refuses, rfl⟩
  rw [ofBatches_called _ _ _ fun batch => (answered batch).1, ofCalled]
  simp only [(answered _).2]

namespace UnitOfWork

variable {environment : Environment} {mapping : Mapping} {number now : Nat} {unit : UnitOfWork}

/-- What a rollback reports. -/
def report (now : Nat) (unit : UnitOfWork) : RollbackOutcome :=
  (unit.beginRollback.awaited now).2.rollbackOutcome

/-- What the first rollback leaves. -/
theorem Consistent.retract_first (consistent : Consistent mapping unit)
    (first : unit.rollback = none) (now : Nat) :
    ∃ ended, (unit.retract now).2.state = .rolledBack ended (unit.report now).unretracted.length ∧
      (unit.retract now).2.rollback = some (unit.report now) := by
  have waited := consistent.beginRollback.awaited now
  have kept : (unit.beginRollback.awaited now).2.rollback = none := by
    rw [(parts_awaited _ now).2, consistent.beginRollback_eq, first]
  have unended := waited.coherent.rolledBack
  rw [kept] at unended
  refine ⟨(unit.beginRollback.awaited now).1, ?_⟩
  rw [UnitOfWork.retract, UnitOfWork.endRollback, kept]
  simp only [WorkState.rollBack_eq unended]
  exact ⟨rfl, rfl⟩

/-- An open unit has nothing to report but its plan. -/
theorem report_ofPlan (since : Nat) (plan : Plan) (now : Nat) :
    (ofPlan since plan).report now = ⟨plan.resolve.map PlanEntry.key, [], 0⟩ := by
  simp [report, rollbackOutcome, ofPlan, beginRollback, UnitOfWork.awaited, settlesAt?,
    HandedOver.inFlight?]

/-- A unit that has ended reports what its outcome lists as indexed. -/
theorem Consistent.report_of_settled (consistent : Consistent mapping unit)
    (settled : unit.state.isSettled = true) (now : Nat) :
    ∃ stored, unit.outcome = some stored ∧ unit.report now = ⟨[], stored.succeeded, 0⟩ := by
  have coherent := consistent.coherent
  obtain ⟨closed, collected⟩ := coherent.ended (.inl settled)
  have outcome := coherent.settled
  rw [settled] at outcome
  obtain ⟨stored, kept⟩ :=
    Option.isSome_iff_exists.1 ((Bool.and_eq_true _ _).mp outcome.symm).1
  have planless : unit.plan = none := by
    simpa [closed] using coherent.opened.symm
  refine ⟨stored, kept, ?_⟩
  rw [report, beginRollback_of_none collected, awaited_of_none collected]
  simp [rollbackOutcome, planless, collected, kept]

/-- A unit with batches in flight reports what became of them. -/
theorem rollbackOutcome_submitted (started : Nat) (submission : Submission)
    (failures : List Failure) :
    (submitted started submission failures).rollbackOutcome =
      RollbackOutcome.ofBatches submission.settledBatches := by
  simp [rollbackOutcome, submitted, HandedOver.inFlight?]

/-- Batches in flight are called or not when the rollback is over, and it reports them
accordingly. -/
theorem Faithful.report_submitted (permitted : 0 < environment.mapping.config.maxInFlight)
    {started : Nat} {submission : Submission} {failures : List Failure}
    (faithful : (submitted started submission failures).Faithful environment number now) :
    ∃ uncalled,
      submission.tasks.map BatchTask.batch =
          ((submitted started submission failures).retract now).2.work.called ++ uncalled ∧
        (submitted started submission failures).report now =
          .ofCalled environment number
            ((submitted started submission failures).retract now).2.work.called uncalled := by
  have begun : (submitted started submission failures).beginRollback =
      submitted started submission.cancel failures := rfl
  have given : (submitted started submission.cancel failures).Faithful environment number now :=
    ⟨faithful.work.cancel, by rintro ⟨⟩⟩
  obtain ⟨_, waited, settled⟩ := given.awaited permitted
  obtain ⟨batches, _, _⟩ :=
    parts_of_ages (ages_awaited now (submitted started submission.cancel failures))
  obtain ⟨final, rest⟩ : ∃ final, ((submitted started submission.cancel failures).awaited now).2 =
      submitted started final failures := by
    rw [awaited_submitted]
    split
    · exact ⟨_, rfl⟩
    · exact ⟨_, rfl⟩
  have record : ((submitted started submission failures).retract now).2.work.called =
      final.calls.map BackendCall.batch := by
    rw [UnitOfWork.retract, begun, rest]
    rfl
  rw [rest] at waited settled batches
  cases waited.work with
  | inFlight agreed orderly =>
    obtain ⟨uncalled, parted, told, _⟩ := orderly.settledBatches_eq (settled final rfl)
    refine ⟨uncalled, ?_, ?_⟩
    · rw [record, ← parted]
      exact batches.symm
    · have answered := RollbackOutcome.ofBatches_eq_ofCalled environment number
        (final.calls.map BackendCall.batch) uncalled
      rw [List.map_map] at answered
      rw [report, begun, rest, rollbackOutcome_submitted, told, agreed.callResult_eq, record]
      exact answered

end UnitOfWork

end Reindex
