import Reindex.Proofs.UnitOfWork.Faithful
import Mathlib.Algebra.Ring.Nat

/-!
# What a unit tells to be counted

A unit tells three things to whoever counts: how many items it has submitted, how its
flush has ended, and that it was rolled back. It tells each of them at most once, in this
order, and keeps what it told: the batches, the outcome and the report. So what a unit has
told can be read off the unit, and every call adds to it exactly what it tells.
-/

namespace Reindex

namespace Observation

/-- The number of items that were submitted. -/
def items : Observation → Nat
  | .submitted items => items
  | _ => 0

/-- How a flush has ended. -/
def outcome? : Observation → Option FlushOutcome
  | .flushed outcome => some outcome
  | _ => none

/-- Whether a unit was rolled back. -/
def isRollback : Observation → Bool
  | .rolledBack => true
  | _ => false

end Observation

namespace Metrics

/-- The counters of a list of observations, each said for itself. -/
def tally (observations : List Observation) : Metrics :=
  let outcomes := observations.filterMap Observation.outcome?
  { itemsSubmitted := (observations.map Observation.items).sum
    itemsFailed := (outcomes.map fun outcome => outcome.failedKeys.length).sum
    unitsCommitted := outcomes.countP fun outcome => outcome.isSuccess
    unitsFailed := outcomes.countP fun outcome => !outcome.isSuccess
    unitsRolledBack := observations.countP Observation.isRollback
    durations := outcomes.map FlushOutcome.duration }

/-- To count one more observation is to add it to the list. -/
theorem observe_tally (observations : List Observation) (next : Observation) :
    (tally observations).observe next = tally (observations ++ [next]) := by
  cases next with
  | submitted items =>
    simp [tally, observe, Observation.items, Observation.outcome?, Observation.isRollback,
      List.filterMap_cons]
  | flushed outcome =>
    cases success : outcome.isSuccess <;>
      simp [tally, observe, Observation.items, Observation.outcome?, Observation.isRollback,
        success]
  | rolledBack =>
    simp [tally, observe, Observation.items, Observation.outcome?, Observation.isRollback,
      List.filterMap_cons]

/-- So it is for several, one after another. -/
theorem foldl_observe_tally (observations next : List Observation) :
    next.foldl observe (tally observations) = tally (observations ++ next) := by
  induction next generalizing observations with
  | nil => rw [List.append_nil]; rfl
  | cons first rest inductionHypothesis =>
    rw [List.foldl_cons, observe_tally, inductionHypothesis, List.append_assoc]
    rfl

end Metrics

/-- The number of items in batches. -/
def WorkBatch.itemCount (batches : List WorkBatch) : Nat := (batches.flatMap WorkBatch.items).length

/-- What is told of batches when they are submitted. -/
def HandedOver.told : HandedOver → List Observation
  | .nothing => []
  | .inFlight submission | .collected submission =>
    [.submitted (WorkBatch.itemCount (submission.tasks.map BatchTask.batch))]

/-- What a unit has told. -/
def UnitOfWork.told (unit : UnitOfWork) : List Observation :=
  unit.work.told ++ (unit.outcome.map .flushed).toList ++
    (unit.rollback.map fun _ => .rolledBack).toList

namespace HandedOver

/-- Time changes nothing about what was told of batches, -/
theorem told_runUntil (work : HandedOver) (now target : Nat) :
    (work.map fun submission => submission.runUntil now target).told = work.told := by
  cases work with
  | nothing => rfl
  | inFlight submission =>
    simp only [map, told, (Submission.continues_runUntil submission now target).batches_eq]
  | collected submission =>
    simp only [map, told, (Submission.continues_runUntil submission now target).batches_eq]

/-- nor does giving them up, -/
@[simp] theorem told_cancel (work : HandedOver) : work.cancel.told = work.told := by
  cases work <;> rfl

/-- nor putting them on record. -/
@[simp] theorem told_collect (work : HandedOver) : work.collect.told = work.told := by
  cases work <;> rfl

end HandedOver

namespace UnitOfWork

variable {environment : Environment} {mapping : Mapping} {unit : UnitOfWork}

/-- A call tells what it adds to what the unit has told. -/
def Tells {Result : Type} (unit : UnitOfWork) (progress : Progress Result) : Prop :=
  progress.unit.told = unit.told ++ progress.observations

/-- Who only answers tells nothing. -/
theorem tells_answer {Result : Type} (unit : UnitOfWork) (result : Except IndexingError Result) :
    unit.Tells (unit.answer result) := by
  rw [Tells, answer, List.append_nil]

/-- Nobody tells of a registration. -/
theorem tells_register (unit : UnitOfWork) (registration : Registration) :
    unit.Tells (unit.register registration) := by
  unfold register
  split
  · exact (List.append_nil _).symm
  · exact unit.tells_answer _

/-- Nothing is told because time passes, -/
theorem told_runUntil (unit : UnitOfWork) (now target : Nat) :
    (unit.runUntil now target).told = unit.told := by
  simp only [told, runUntil, HandedOver.told_runUntil]

/-- a unit is let go, -/
theorem told_abandon (unit : UnitOfWork) : unit.abandon.told = unit.told := by
  rw [abandon_eq]
  simp only [told, HandedOver.told_cancel]

/-- or begins to be rolled back. -/
theorem Consistent.told_beginRollback (consistent : Consistent mapping unit) :
    unit.beginRollback.told = unit.told := by
  rw [consistent.beginRollback_eq]
  simp only [told, HandedOver.told_cancel]

/-- To prepare a unit tells of the items that are submitted, or how the flush has ended. -/
theorem Consistent.tells_beforeCommit (consistent : Consistent environment.mapping unit)
    (number now : Nat) : unit.Tells (unit.beforeCommit environment number now) := by
  obtain ⟨since, plan, _, rfl⟩ | closed := consistent.open_or_closed
  · cases ready : (environment.mapping.prepare (environment.services number) plan).1 with
    | error error =>
      rw [beforeCommit_of_error ready]
      rfl
    | ok prepared =>
      by_cases nothing : prepared.batches = []
      · rw [beforeCommit_of_nothing ready nothing]
        rfl
      · rw [beforeCommit_of_batches ready nothing]
        simp [Tells, told, ofPlan, submitted, HandedOver.told, submission, Submission.submit,
          WorkBatch.itemCount, PreparedFlush.itemCount, Function.comp_def]
  · rw [beforeCommit_of_closed closed]
    exact unit.tells_answer _

/-- To begin a commit is to prepare the unit. -/
theorem Consistent.beginCommit_eq_beforeCommit
    (consistent : Consistent environment.mapping unit) (number now : Nat) :
    unit.beginCommit environment number now = unit.beforeCommit environment number now := by
  obtain ⟨since, plan, _, rfl⟩ | closed := consistent.open_or_closed
  · rfl
  · rw [beforeCommit_of_closed closed]
    simp [beginCommit, closed]

/-- What is told when batches are collected. -/
theorem observations_endCommit_submitted (started now : Nat) (submission : Submission)
    (failures : List Failure) :
    ((submitted started submission failures).endCommit now).observations =
      [.flushed (outcomeOf started now failures (.ofBatches submission.settledBatches))] := by
  unfold endCommit
  simp only [submitted, HandedOver.inFlight?, HandedOver.collect]
  rw [finish_eq (.inr ⟨_, rfl⟩)]
  rfl

/-- To collect what is in flight tells how the flush has ended. -/
theorem Consistent.tells_endCommit (consistent : Consistent mapping unit) (now : Nat) :
    unit.Tells (unit.endCommit now) := by
  by_cases collected : unit.work.inFlight? = none
  · rw [endCommit_of_none collected]
    exact unit.tells_answer _
  · cases consistent with
    | executing nonempty =>
      rw [Tells, unit_endCommit_submitted, observations_endCommit_submitted]
      rfl
    | opened reached => exact absurd rfl collected
    | settled none => exact absurd none collected
    | rolledBack none => exact absurd none collected

/-- A rollback is told of when it is reported for the first time. -/
theorem Consistent.tells_endRollback (consistent : Consistent mapping unit) (now : Nat) :
    unit.Tells (unit.endRollback now) := by
  cases consistent with
  | opened reached => rfl
  | executing nonempty => rfl
  | settled collected =>
    simp [Tells, UnitOfWork.endRollback, UnitOfWork.settled, rollBack_settledState, told]
  | rolledBack collected => exact UnitOfWork.tells_answer _ _

/-- A unit has told of a flush exactly if it keeps its outcome. -/
theorem outcome_told (unit : UnitOfWork) :
    unit.told.filterMap Observation.outcome? = unit.outcome.toList := by
  have submitted : unit.work.told.filterMap Observation.outcome? = [] := by
    cases unit.work <;> rfl
  have rolledBack : (unit.rollback.map fun _ => Observation.rolledBack).toList.filterMap
      Observation.outcome? = [] := by
    cases unit.rollback <;> rfl
  rw [told, List.filterMap_append, List.filterMap_append, submitted, rolledBack, List.nil_append,
    List.append_nil]
  cases unit.outcome <;> rfl

/-- A unit has told of a rollback exactly if it keeps the report of it. -/
theorem rollback_told (unit : UnitOfWork) :
    unit.told.countP Observation.isRollback = if unit.rollback.isSome then 1 else 0 := by
  have submitted : unit.work.told.countP Observation.isRollback = 0 := by
    cases unit.work <;> rfl
  have flushed : (unit.outcome.map Observation.flushed).toList.countP
      Observation.isRollback = 0 := by
    cases unit.outcome <;> rfl
  simp only [told, List.countP_append, submitted, flushed, Nat.zero_add]
  cases unit.rollback <;> rfl

/-- What a unit has told of submitted items is their number in the batches that it has handed
over. -/
theorem items_told (unit : UnitOfWork) :
    (unit.told.map Observation.items).sum = WorkBatch.itemCount unit.work.batches := by
  have flushed : ((unit.outcome.map Observation.flushed).toList.map Observation.items).sum = 0 := by
    cases unit.outcome <;> rfl
  have rolledBack : ((unit.rollback.map fun _ => Observation.rolledBack).toList.map
      Observation.items).sum = 0 := by
    cases unit.rollback <;> rfl
  rw [told, List.map_append, List.map_append, List.sum_append_nat, List.sum_append_nat,
    flushed, rolledBack]
  cases unit.work <;> rfl

end UnitOfWork

end Reindex
