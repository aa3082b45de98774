import Reindex.Proofs.UnitOfWork.Coherence
import Reindex.Proofs.UnitOfWork.HandedOver

/-!
# Units that tell the truth about their calls

Whatever is done to a unit, its record of calls stays true at the instant that the unit
has come to. A unit that nobody gave up ends with an outcome only after every batch was
called; one that is rolled back makes no further call, and neither does one that is let
go. The batches that a unit has handed over are those of the plan that was prepared.
-/

namespace Reindex

/-- Whether a call prepares a unit that is open. -/
def UnitCall.prepares : UnitCall → Bool
  | .beforeCommit | .afterCommit | .flush => true
  | _ => false

namespace UnitOfWork

/-- What a unit has handed over is told of truly, and is complete once there is an
outcome. -/
structure Faithful (environment : Environment) (number now : Nat) (unit : UnitOfWork) : Prop where
  work : unit.work.Faithful environment number now
  complete : unit.outcome.isSome = true → unit.work.Complete

variable {environment : Environment} {mapping : Mapping} {number now target : Nat}
  {unit : UnitOfWork} {after : Nat × UnitOfWork}

/-- A registration is about the plan alone. -/
theorem parts_register (unit : UnitOfWork) (registration : Registration) :
    (unit.register registration).unit.work = unit.work ∧
      (unit.register registration).unit.outcome = unit.outcome := by
  unfold register
  split <;> exact ⟨rfl, rfl⟩

/-- To let go is to give up what is in flight. -/
theorem abandon_eq (unit : UnitOfWork) : unit.abandon = { unit with work := unit.work.cancel } := by
  obtain ⟨state, plan, work, pendingFailures, flushStarted, outcome, rollback⟩ := unit
  cases work <;> rfl

/-- So is to begin a rollback. -/
theorem Consistent.beginRollback_eq (consistent : Consistent mapping unit) :
    unit.beginRollback = { unit with work := unit.work.cancel } := by
  by_cases collected : unit.work.inFlight? = none
  · rw [beginRollback_of_none collected, HandedOver.cancel_of_none collected]
  · cases consistent with
    | executing nonempty => rfl
    | opened reached => exact absurd rfl collected
    | settled none => exact absurd none collected
    | rolledBack none => exact absurd none collected

/-- A commit puts on record what is in flight. -/
theorem Consistent.work_endCommit (consistent : Consistent mapping unit) (now : Nat) :
    (unit.endCommit now).unit.work = unit.work.collect := by
  by_cases collected : unit.work.inFlight? = none
  · rw [unit_endCommit_of_none collected, HandedOver.collect_of_none collected]
  · cases consistent with
    | executing nonempty => rw [unit_endCommit_submitted]; rfl
    | opened reached => exact absurd rfl collected
    | settled none => exact absurd none collected
    | rolledBack none => exact absurd none collected

/-- A rollback does so too, and leaves the outcome. -/
theorem Consistent.parts_endRollback (consistent : Consistent mapping unit) (now : Nat) :
    (unit.endRollback now).unit.work = unit.work.collect ∧
      (unit.endRollback now).unit.outcome = unit.outcome := by
  cases consistent with
  | opened reached => exact ⟨rfl, rfl⟩
  | executing nonempty => exact ⟨rfl, rfl⟩
  | settled collected =>
    simp only [UnitOfWork.endRollback, UnitOfWork.settled, rollBack_settledState, and_self]
  | rolledBack collected => exact ⟨(HandedOver.collect_of_none collected).symm, rfl⟩

/-- To wait for a unit is to let it age. -/
theorem ages_awaited (now : Nat) (unit : UnitOfWork) : Ages (now, unit) (unit.awaited now) := by
  unfold UnitOfWork.awaited
  split
  · exact .still now unit
  · exact .elapsed now _ unit

/-- A unit that ages stays faithful. -/
theorem Faithful.ages (faithful : unit.Faithful environment number now)
    (ages : Ages (now, unit) after) (passed : now ≤ after.1) :
    after.2.Faithful environment number after.1 := by
  cases ages with
  | still => exact faithful
  | elapsed _ target _ =>
    exact ⟨faithful.work.runUntil passed,
      fun ended => (faithful.complete ended).runUntil now target⟩

/-- Nobody gives a unit up because it ages. -/
theorem kept_of_ages (kept : unit.work.Kept) (ages : Ages (now, unit) after) :
    after.2.work.Kept := by
  cases ages with
  | still => exact kept
  | elapsed _ target _ => exact kept.runUntil now target

/-- A silent unit stays silent while it ages, and no call begins. -/
theorem silent_of_ages (faithful : unit.Faithful environment number now)
    (silent : unit.work.Silent) (ages : Ages (now, unit) after) :
    after.2.work.Silent ∧ after.2.work.started = unit.work.started := by
  cases ages with
  | still => exact ⟨silent, rfl⟩
  | elapsed _ target _ => exact silent.runUntil faithful.work target

/-- A unit that ages keeps its batches, its plan and its state. -/
theorem parts_of_ages (ages : Ages (now, unit) after) :
    after.2.work.batches = unit.work.batches ∧ after.2.plan = unit.plan ∧
      after.2.state = unit.state := by
  cases ages with
  | still => exact ⟨rfl, rfl, rfl⟩
  | elapsed _ target _ => exact ⟨HandedOver.batches_runUntil unit.work now target, rfl, rfl⟩

/-- A unit is waited for when its batches in flight are not settled, and then until
they are. -/
theorem awaited_cases (now : Nat) (unit : UnitOfWork) :
    (unit.awaited now = (now, unit) ∧
        ∀ submission, unit.work.inFlight? = some submission → submission.isSettled = true) ∨
      ∃ submission, unit.work = .inFlight submission ∧
        unit.awaited now = (submission.settlesAt now, { unit with
          work := .inFlight (submission.runUntil now (submission.settlesAt now)) }) := by
  obtain ⟨state, plan, work, pendingFailures, flushStarted, outcome, rollback⟩ := unit
  cases work with
  | nothing => exact .inl ⟨rfl, by rintro _ ⟨⟩⟩
  | collected submission => exact .inl ⟨rfl, by rintro _ ⟨⟩⟩
  | inFlight submission =>
    cases settled : submission.isSettled with
    | true =>
      refine .inl ⟨by simp [UnitOfWork.awaited, settlesAt?, HandedOver.inFlight?, settled], ?_⟩
      rintro _ ⟨⟩
      exact settled
    | false =>
      refine .inr ⟨submission, rfl, ?_⟩
      simp [UnitOfWork.awaited, settlesAt?, HandedOver.inFlight?, settled, runUntil,
        HandedOver.map]

/-- To wait for a unit does not take it back in time, and leaves nothing in flight that
is not settled. -/
theorem Faithful.awaited (permitted : 0 < environment.mapping.config.maxInFlight)
    (faithful : unit.Faithful environment number now) :
    now ≤ (unit.awaited now).1 ∧
      (unit.awaited now).2.Faithful environment number (unit.awaited now).1 ∧
      ∀ submission, (unit.awaited now).2.work.inFlight? = some submission →
        submission.isSettled = true := by
  have later : now ≤ (unit.awaited now).1 ∧
      ∀ submission, (unit.awaited now).2.work.inFlight? = some submission →
        submission.isSettled = true := by
    obtain ⟨waited, settled⟩ | ⟨submission, flies, waited⟩ := awaited_cases now unit
    · rw [waited]
      exact ⟨Nat.le_refl _, settled⟩
    · have work := faithful.work
      rw [flies] at work
      rw [waited]
      cases work with
      | inFlight agreed orderly =>
        refine ⟨orderly.le_settlesAt, ?_⟩
        rintro _ ⟨⟩
        exact Submission.isSettled_runUntil (agreed.permits ▸ permitted) now
  exact ⟨later.1, faithful.ages (ages_awaited now unit) later.1, later.2⟩

/-- How a unit goes on that nobody gives up. -/
structure GoesOn (environment : Environment) (number : Nat) (before after : Nat × UnitOfWork) :
    Prop where
  later : before.1 ≤ after.1
  faithful : after.2.Faithful environment number after.1
  kept : after.2.work.Kept

/-- A unit that is prepared goes on. -/
theorem Faithful.prepare (faithful : unit.Faithful environment number now)
    (consistent : Consistent environment.mapping unit) (kept : unit.work.Kept) :
    GoesOn environment number (now, unit)
      (now, (unit.beforeCommit environment number now).unit) := by
  obtain ⟨since, plan, _, rfl⟩ | closed := consistent.open_or_closed
  · obtain ⟨_, ⟨failures, ended⟩ | ⟨batches, failures, _, ended⟩⟩ :=
      beforeCommit_ofPlan environment number since now plan
    · rw [ended]
      exact ⟨Nat.le_refl _, ⟨.nothing, fun _ => .nothing⟩, by rintro _ ⟨⟩⟩
    · rw [ended]
      refine ⟨Nat.le_refl _, ⟨.inFlight ⟨rfl, rfl, rfl, rfl, rfl⟩ ?_, ?_⟩, ?_⟩
      · exact Submission.orderly_submit _ _ _ _ _ now
      · rintro ⟨⟩
      · rintro _ ⟨⟩
        rfl
  · rw [beforeCommit_of_closed closed]
    exact ⟨Nat.le_refl _, faithful, kept⟩

/-- A unit that is committed goes on: it is waited for, and what was in flight is put on
record. -/
theorem Faithful.settle (permitted : 0 < environment.mapping.config.maxInFlight)
    (faithful : unit.Faithful environment number now)
    (consistent : Consistent environment.mapping unit) (kept : unit.work.Kept) :
    GoesOn environment number (now, unit) (unit.settle now) := by
  obtain ⟨later, waited, settled⟩ := faithful.awaited permitted
  have keptThen := kept_of_ages kept (ages_awaited now unit)
  have work := (consistent.awaited now).work_endCommit (unit.awaited now).1
  refine ⟨later, ⟨?_, fun ended => ?_⟩, ?_⟩
  · rw [UnitOfWork.settle, work]
    exact waited.work.collect settled
  · rw [UnitOfWork.settle] at ended ⊢
    cases outstanding : (unit.awaited now).2.work.inFlight? with
    | none =>
      rw [unit_endCommit_of_none outstanding] at ended ⊢
      exact waited.complete ended
    | some submission =>
      rw [work]
      exact keptThen.complete_collect outstanding
  · rw [UnitOfWork.settle, work]
    intro submission outstanding
    rw [inFlight?_collect] at outstanding
    cases outstanding

/-- A unit that is registered with goes on. -/
theorem Faithful.register (faithful : unit.Faithful environment number now)
    (kept : unit.work.Kept) (registration : Registration) :
    GoesOn environment number (now, unit) (now, (unit.register registration).unit) := by
  obtain ⟨work, outcome⟩ := parts_register unit registration
  refine ⟨Nat.le_refl _, ⟨?_, ?_⟩, ?_⟩
  · rw [work]
    exact faithful.work
  · rw [work, outcome]
    exact faithful.complete
  · rw [work]
    exact kept

/-- A rollback makes no call: it gives up what waits, waits for what runs, and puts it
on record. -/
theorem Faithful.retract (permitted : 0 < environment.mapping.config.maxInFlight)
    (faithful : unit.Faithful environment number now)
    (consistent : Consistent environment.mapping unit) :
    GoesOn environment number (now, unit) (unit.retract now) ∧
      (unit.retract now).2.work.Silent ∧
      (unit.retract now).2.work.started = unit.work.started := by
  have begun := consistent.beginRollback_eq
  have given : unit.beginRollback.Faithful environment number now := by
    rw [begun]
    exact ⟨faithful.work.cancel, fun ended => (faithful.complete ended).cancel⟩
  have silent : unit.beginRollback.work.Silent := by
    rw [begun]
    exact HandedOver.silent_cancel _
  obtain ⟨later, waited, settled⟩ := given.awaited permitted
  obtain ⟨_, started⟩ := silent_of_ages given silent
    (ages_awaited now unit.beginRollback)
  obtain ⟨work, outcome⟩ :=
    (consistent.beginRollback.awaited now).parts_endRollback (unit.beginRollback.awaited now).1
  refine ⟨⟨later, ⟨?_, fun ended => ?_⟩, ?_⟩, ?_, ?_⟩
  · rw [UnitOfWork.retract, work]
    exact waited.work.collect settled
  · rw [UnitOfWork.retract] at ended ⊢
    rw [outcome] at ended
    rw [work]
    exact (waited.complete ended).collect
  · rw [UnitOfWork.retract, work]
    intro submission outstanding
    rw [inFlight?_collect] at outstanding
    cases outstanding
  · rw [UnitOfWork.retract, work]
    exact HandedOver.silent_collect _
  · rw [UnitOfWork.retract, work, HandedOver.started_collect, started, begun,
      HandedOver.started_cancel]

/-- Any call lets a unit go on that nobody gave up. -/
theorem Faithful.called (permitted : 0 < environment.mapping.config.maxInFlight)
    (faithful : unit.Faithful environment number now)
    (consistent : Consistent environment.mapping unit) (kept : unit.work.Kept) (call : UnitCall) :
    GoesOn environment number (now, unit) (unit.called environment number now call) := by
  have prepared := faithful.prepare consistent kept
  have shape := consistent.prepare number now
  cases call with
  | register registration => exact faithful.register kept registration
  | registerInstance kind entity =>
    rw [UnitOfWork.called]
    rcases registerInstance_unit environment unit kind entity with same | ⟨registration, same⟩
    · rw [same]
      exact ⟨Nat.le_refl _, faithful, kept⟩
    · rw [same]
      exact faithful.register kept registration
  | beforeCommit => exact prepared
  | afterCommit =>
    obtain ⟨later, faithfulThen, keptThen⟩ :=
      prepared.faithful.settle permitted shape prepared.kept
    exact ⟨later, faithfulThen, keptThen⟩
  | flush =>
    obtain ⟨later, faithfulThen, keptThen⟩ :=
      prepared.faithful.settle permitted shape prepared.kept
    exact ⟨later, faithfulThen, keptThen⟩
  | afterRollback => exact (faithful.retract permitted consistent).1

/-- To collect does not open a unit, nor close one that is open. -/
theorem Consistent.isOpen_endCommit (consistent : Consistent mapping unit) (now : Nat) :
    (unit.endCommit now).unit.state.isOpen = unit.state.isOpen := by
  by_cases collected : unit.work.inFlight? = none
  · rw [unit_endCommit_of_none collected]
  · cases consistent with
    | executing nonempty =>
      rw [unit_endCommit_submitted]
      exact isOpen_settled _ _ _ _ _
    | opened reached => exact absurd rfl collected
    | settled none => exact absurd none collected
    | rolledBack none => exact absurd none collected

/-- A commit keeps the batches, and does not open a unit. -/
theorem Consistent.parts_settle (consistent : Consistent mapping unit) (now : Nat) :
    (unit.settle now).2.work.batches = unit.work.batches ∧
      (unit.settle now).2.state.isOpen = unit.state.isOpen := by
  obtain ⟨batches, _, state⟩ := parts_of_ages (ages_awaited now unit)
  have waited := consistent.awaited now
  rw [UnitOfWork.settle, waited.work_endCommit, waited.isOpen_endCommit,
    HandedOver.batches_collect, batches, state]
  exact ⟨rfl, rfl⟩

/-- A rollback keeps the batches too, and leaves no unit open. -/
theorem Consistent.parts_retract (consistent : Consistent mapping unit) (now : Nat) :
    (unit.retract now).2.work.batches = unit.work.batches ∧
      (unit.retract now).2.state.isOpen = false := by
  obtain ⟨batches, _, _⟩ := parts_of_ages (ages_awaited now unit.beginRollback)
  have begun := consistent.beginRollback_eq
  have waited := consistent.beginRollback.awaited now
  constructor
  · rw [UnitOfWork.retract, (waited.parts_endRollback _).1, HandedOver.batches_collect, batches,
      begun, HandedOver.batches_cancel]
  · obtain ⟨outcome, _, reported⟩ := waited.endRollback_eq (unit.beginRollback.awaited now).1
    have rolledBack := (consistent.retract now).coherent.rolledBack
    rw [UnitOfWork.retract, reported] at rolledBack
    exact ((consistent.retract now).coherent.ended (.inr rolledBack)).1

/-- No call opens a unit that is not open, or changes its batches. -/
theorem Consistent.parts_called_of_closed (consistent : Consistent mapping unit)
    (closed : unit.state.isOpen = false) (environment : Environment) (number now : Nat)
    (call : UnitCall) :
    (unit.called environment number now call).2.work.batches = unit.work.batches ∧
      (unit.called environment number now call).2.state.isOpen = false := by
  rcases called_of_closed closed environment number now call with same | same | ⟨_, same⟩
  · rw [same]
    exact ⟨rfl, closed⟩
  · rw [same]
    exact closed ▸ consistent.parts_settle now
  · rw [same]
    exact consistent.parts_retract now

/-- The batches of a plan, if it can be prepared. -/
def batchesOf (environment : Environment) (number : Nat) (plan : Plan) : List WorkBatch :=
  match (environment.mapping.prepare (environment.services number) plan).1 with
  | .ok prepared => prepared.batches
  | .error _ => []

/-- A plan with batches can be prepared. -/
theorem prepare_of_batchesOf {plan : Plan}
    (something : batchesOf environment number plan ≠ []) :
    ∃ prepared, (environment.mapping.prepare (environment.services number) plan).1 = .ok prepared ∧
      batchesOf environment number plan = prepared.batches := by
  unfold batchesOf at something ⊢
  cases ready : (environment.mapping.prepare (environment.services number) plan).1 with
  | error error => simp [ready] at something
  | ok prepared => exact ⟨prepared, rfl, rfl⟩

/-- An open unit that is prepared hands over the batches of its plan. -/
theorem batches_beforeCommit (environment : Environment) (number since now : Nat) (plan : Plan) :
    ((ofPlan since plan).beforeCommit environment number now).unit.work.batches =
      batchesOf environment number plan := by
  unfold batchesOf
  cases ready : (environment.mapping.prepare (environment.services number) plan).1 with
  | error error =>
    rw [beforeCommit_of_error ready]
    rfl
  | ok prepared =>
    by_cases nothing : prepared.batches = []
    · rw [beforeCommit_of_nothing ready nothing]
      exact nothing.symm
    · rw [beforeCommit_of_batches ready nothing]
      simp [submitted, HandedOver.batches, submission, Submission.submit, Function.comp_def]

/-- A call that prepares an open unit closes it, and hands over the batches of its plan. -/
theorem Consistent.parts_called_of_plan {since : Nat} {plan : Plan}
    (consistent : Consistent environment.mapping (ofPlan since plan)) (number now : Nat)
    {call : UnitCall} (prepares : call.prepares = true) :
    ((ofPlan since plan).called environment number now call).2.work.batches =
        batchesOf environment number plan ∧
      ((ofPlan since plan).called environment number now call).2.state.isOpen = false := by
  obtain ⟨_, closed⟩ := consistent.beforeCommit_eq number now
  have batches := batches_beforeCommit environment number since now plan
  have settled := (consistent.prepare number now).parts_settle now
  rw [batches, closed] at settled
  cases call with
  | register registration => cases prepares
  | registerInstance kind entity => cases prepares
  | beforeCommit => exact ⟨batches, closed⟩
  | afterCommit => exact settled
  | flush => exact settled
  | afterRollback => cases prepares

/-- Any other call on an open unit hands nothing over. -/
theorem Consistent.batches_called_of_plan {since : Nat} {plan : Plan}
    (consistent : Consistent environment.mapping (ofPlan since plan)) (number now : Nat)
    {call : UnitCall} (other : call.prepares = false) :
    ((ofPlan since plan).called environment number now call).2.work.batches = [] := by
  cases call with
  | register registration =>
    rw [called, (parts_register _ registration).1]
    rfl
  | registerInstance kind entity =>
    rw [called]
    rcases registerInstance_unit environment (ofPlan since plan) kind entity with
      same | ⟨registration, same⟩
    · rw [same]
      rfl
    · rw [same, (parts_register _ registration).1]
      rfl
  | beforeCommit => cases other
  | afterCommit => cases other
  | flush => cases other
  | afterRollback => exact (consistent.parts_retract now).1

end UnitOfWork

end Reindex
