import Reindex.Proofs.Engine
import Reindex.Proofs.Flush.Accounting

/-!
# What the state of a unit says

The state of a unit decides which of its parts are there: a plan while it is open,
batches while it executes, an outcome once it has ended and a report once it was
rolled back. Between two calls a unit is never found while its plan is prepared.

The moves from state to state are checked when they are made, after parts of the
unit have been taken out of it. Since the state tells the truth about the parts, no
such check ever fails, and nothing that was taken out is lost. An ended unit takes
nothing but a rollback, and a rolled back one takes nothing at all.
-/

namespace Reindex

namespace WorkState

variable {Instant : Type}

/-- Whether the work is being prepared. -/
def isFlushing : WorkState Instant → Bool
  | .flushing .. => true
  | _ => false

/-- How many batches an executing unit has submitted. -/
def batches? : WorkState Instant → Option Nat
  | .executing _ batches => some batches
  | _ => none

/-- Whether the unit was committed or has failed. -/
def isSettled : WorkState Instant → Bool
  | .committed .. | .failed .. => true
  | _ => false

/-- Whether the unit was rolled back. -/
def isRolledBack : WorkState Instant → Bool
  | .rolledBack .. => true
  | _ => false

end WorkState

/-- Whether a call registers something. -/
def UnitCall.registers : UnitCall → Bool
  | .register _ | .registerInstance .. => true
  | _ => false

namespace UnitOfWork

/-- The parts of a unit are those that its state speaks of. -/
structure Coherent (unit : UnitOfWork) : Prop where
  /-- It is not found while its plan is prepared. -/
  prepared : unit.state.isFlushing = false
  /-- It is open exactly while it has its plan, -/
  opened : unit.state.isOpen = unit.plan.isSome
  /-- executing exactly while batches are in flight, of which the state gives the number, -/
  executing : unit.state.batches? =
    unit.work.inFlight?.map fun submission => submission.tasks.length
  /-- and there is at least one then, -/
  nonempty : ∀ submission, unit.work.inFlight? = some submission → 1 ≤ submission.tasks.length
  /-- committed or failed exactly when it has an outcome and was not rolled back, -/
  settled : unit.state.isSettled = (unit.outcome.isSome && unit.rollback.isNone)
  /-- rolled back exactly when it has the report of it. -/
  rolledBack : unit.state.isRolledBack = unit.rollback.isSome
  /-- It has failures to tell of later only while it executes. -/
  pending : unit.state.batches? = none → unit.pendingFailures = []

variable {environment : Environment} {mapping : Mapping} {number now : Nat} {unit : UnitOfWork}

/-- Each of the shapes is coherent. -/
theorem Consistent.coherent (consistent : Consistent mapping unit) : unit.Coherent := by
  cases consistent with
  | opened reached =>
    refine ⟨rfl, rfl, rfl, ?_, rfl, rfl, fun _ => rfl⟩
    rintro _ ⟨⟩
  | executing nonempty =>
    refine ⟨rfl, rfl, rfl, ?_, rfl, rfl, ?_⟩
    · rintro _ ⟨⟩
      exact nonempty
    · rintro ⟨⟩
  | settled collected =>
    refine ⟨?_, isOpen_settled _ _ _ _ _, ?_, ?_, ?_, ?_, fun _ => rfl⟩
    · simp only [UnitOfWork.settled, settledState]
      split <;> rfl
    · simp only [UnitOfWork.settled, settledState, collected]
      split <;> rfl
    · simp [UnitOfWork.settled, collected]
    · simp only [UnitOfWork.settled, settledState]
      split <;> rfl
    · simp only [UnitOfWork.settled, settledState]
      split <;> rfl
  | rolledBack collected =>
    refine ⟨rfl, rfl, ?_, ?_, ?_, rfl, fun _ => rfl⟩
    · simp [collected, WorkState.batches?]
    · simp [collected]
    · simp [WorkState.isSettled]

/-- A unit that is not open, with nothing in flight, is left as it is by every call
but a rollback. -/
theorem called_of_ended (closed : unit.state.isOpen = false)
    (collected : unit.work.inFlight? = none) {call : UnitCall} (other : call ≠ .afterRollback) :
    unit.called environment number now call = (now, unit) := by
  rcases called_of_closed closed environment number now call with same | same | rollback
  · exact same
  · rw [same, settle, awaited_of_none collected, unit_endCommit_of_none collected]
  · exact absurd rollback.1 other

/-- A rolled back unit is left as it is by another rollback. -/
theorem retract_of_rolledBack {outcome : RollbackOutcome} (reported : unit.rollback = some outcome)
    (collected : unit.work.inFlight? = none) : unit.retract now = (now, unit) := by
  rw [retract, beginRollback_of_none collected, awaited_of_none collected, endRollback, reported]
  rfl

/-- A unit that has ended has nothing in flight and is not open. -/
theorem Coherent.ended (coherent : unit.Coherent)
    (ended : unit.state.isSettled = true ∨ unit.state.isRolledBack = true) :
    unit.state.isOpen = false ∧ unit.work.inFlight? = none := by
  have still : unit.state.isOpen = false ∧ unit.state.batches? = none := by
    cases state : unit.state <;>
      simp_all [WorkState.isSettled, WorkState.isRolledBack, WorkState.isOpen, WorkState.batches?]
  refine ⟨still.1, ?_⟩
  have none := coherent.executing
  rw [still.2] at none
  exact Option.map_eq_none_iff.1 none.symm

/-- Collecting what is in flight is not refused. -/
theorem Consistent.finish_eq_ok (consistent : Consistent mapping unit) {submission : Submission}
    (outstanding : unit.work.inFlight? = some submission) (batches : FlushOutcome) :
    (({ unit with work := unit.work.collect } : UnitOfWork).finish now batches).result =
      .ok () := by
  cases consistent with
  | opened reached => cases outstanding
  | executing nonempty =>
    rw [finish_eq (.inr ⟨_, rfl⟩)]
  | settled collected => simp [UnitOfWork.settled, collected] at outstanding
  | rolledBack collected => simp [collected] at outstanding

/-- A commit of a unit that was prepared and not rolled back leaves an outcome and
answers with it. -/
theorem Consistent.endCommit_eq (consistent : Consistent mapping unit)
    (prepared : unit.plan = none) (kept : unit.rollback = none) :
    ∃ outcome, (unit.endCommit now).unit.outcome = some outcome ∧
      (unit.endCommit now).result = outcome.toResult := by
  cases consistent with
  | opened reached => cases prepared
  | @executing started current failures nonempty =>
    refine ⟨_, congrArg UnitOfWork.outcome (unit_endCommit_submitted ..), ?_⟩
    unfold UnitOfWork.endCommit
    simp only [submitted, HandedOver.inFlight?, HandedOver.collect]
    rw [finish_eq (.inr ⟨_, rfl⟩)]
    rfl
  | settled collected =>
    refine ⟨_, congrArg UnitOfWork.outcome (unit_endCommit_of_none collected now), ?_⟩
    unfold UnitOfWork.endCommit
    rfl
  | rolledBack collected => cases kept

/-- A prepared unit has no plan, and was rolled back only if it was so before. -/
theorem Consistent.parts_beforeCommit (consistent : Consistent environment.mapping unit)
    (number now : Nat) :
    (unit.beforeCommit environment number now).unit.plan = none ∧
      (unit.beforeCommit environment number now).unit.rollback = unit.rollback := by
  obtain ⟨_, closed⟩ := consistent.beforeCommit_eq number now
  have opened := (consistent.prepare number now).coherent.opened
  rw [closed] at opened
  refine ⟨by simpa using opened.symm, ?_⟩
  obtain ⟨since, plan, _, rfl⟩ | still := consistent.open_or_closed
  · obtain ⟨_, ⟨failures, ended⟩ | ⟨batches, failures, _, ended⟩⟩ :=
      beforeCommit_ofPlan environment number since now plan
    · rw [ended]
      rfl
    · rw [ended]
      rfl
  · rw [beforeCommit_of_closed still]
    rfl

/-- To wait for a unit changes nothing but its batches. -/
theorem parts_awaited (unit : UnitOfWork) (now : Nat) :
    (unit.awaited now).2.plan = unit.plan ∧ (unit.awaited now).2.rollback = unit.rollback := by
  unfold awaited
  split <;> exact ⟨rfl, rfl⟩

/-- A rollback leaves one of the shapes. -/
theorem Consistent.retract (consistent : Consistent mapping unit) (now : Nat) :
    Consistent mapping (unit.retract now).2 :=
  (consistent.beginRollback.awaited now).endRollback _

/-- A rollback is answered with the report that the unit keeps from then on. -/
theorem Consistent.endRollback_eq (consistent : Consistent mapping unit) (now : Nat) :
    ∃ outcome, (unit.endRollback now).result = .ok outcome ∧
      (unit.endRollback now).unit.rollback = some outcome := by
  cases consistent with
  | opened reached => exact ⟨_, rfl, rfl⟩
  | executing nonempty => exact ⟨_, rfl, rfl⟩
  | settled collected =>
    simp only [UnitOfWork.endRollback, UnitOfWork.settled, rollBack_settledState]
    exact ⟨_, rfl, rfl⟩
  | rolledBack collected => exact ⟨_, rfl, rfl⟩

end UnitOfWork

namespace Engine

open UnitOfWork (Consistent)

variable {engine : Engine} {number : Nat} {unit : UnitOfWork}

/-- Putting back a unit that is at hand changes nothing. -/
theorem setUnit_same (atHand : engine.unit? number = some unit) :
    engine.setUnit number unit = engine := by
  have same : engine.slots.set number { unit } = engine.slots := by
    refine List.ext_getElem? fun other => ?_
    have held := unit?_eq_some_iff.1 atHand
    by_cases own : number = other
    · subst own
      rw [List.getElem?_set_self (List.getElem?_eq_some_iff.1 held).1, held]
    · rw [List.getElem?_set_ne own]
  rw [setUnit, same]

/-- To take over an answer alone changes nothing. -/
theorem absorb_answer {Result : Type} (atHand : engine.unit? number = some unit)
    (result : Except IndexingError Result) :
    engine.absorb number (unit.answer result) = (result, engine) := by
  simp [absorb, UnitOfWork.answer, setUnit_same atHand]

/-- What a call on a unit at hand answers and leaves. -/
theorem step_call (atHand : engine.unit? number = some unit) (call : UnitCall) :
    engine.step (.call number call) =
      (some (engine.call number unit call).1, (engine.call number unit call).2) := by
  simp only [step, atHand]

/-- A commit answers with the outcome that it leaves, unless the unit was rolled back. -/
theorem afterCommit_answer (engine : Engine)
    (consistent : unit.Consistent engine.environment.mapping) (kept : unit.rollback = none) :
    ∃ outcome,
      ((unit.beforeCommit engine.environment number engine.now).unit.settle
        engine.now).2.outcome = some outcome ∧
      (engine.afterCommit number unit).1 = outcome.toResult := by
  obtain ⟨_, prepared⟩ := consistent.beginCommit_eq number engine.now
  obtain ⟨planless, unrolled⟩ := consistent.parts_beforeCommit number engine.now
  have waited := (consistent.prepare number engine.now).awaited engine.now
  obtain ⟨samePlan, sameRollback⟩ := UnitOfWork.parts_awaited
    (unit.beforeCommit engine.environment number engine.now).unit engine.now
  obtain ⟨outcome, stored, answered⟩ := waited.endCommit_eq (samePlan.trans planless)
    (sameRollback.trans (unrolled.trans kept))
  refine ⟨outcome, stored, ?_⟩
  obtain ⟨same, now⟩ := await_eq
    (engine.absorb number (unit.beginCommit engine.environment number engine.now)).2
    (unit.beforeCommit engine.environment number engine.now).unit
  rw [afterCommit_eq engine consistent, ← answered]
  simp only [prepared, same, now]
  rfl

/-- So does a flush. -/
theorem flush_answer (engine : Engine)
    (consistent : unit.Consistent engine.environment.mapping) (kept : unit.rollback = none) :
    ∃ outcome,
      ((unit.beforeCommit engine.environment number engine.now).unit.settle
        engine.now).2.outcome = some outcome ∧
      (engine.flush number unit).1 = outcome.toResult := by
  obtain ⟨_, closed⟩ := consistent.beforeCommit_eq number engine.now
  obtain ⟨_, unrolled⟩ := consistent.parts_beforeCommit number engine.now
  obtain ⟨outcome, stored, answered⟩ := @afterCommit_answer number _
    (engine.absorb number (unit.beforeCommit engine.environment number engine.now)).2
    (consistent.prepare number engine.now) (unrolled.trans kept)
  rw [UnitOfWork.beforeCommit_of_closed closed] at stored
  exact ⟨outcome, stored, by rw [flush_eq engine consistent]; exact answered⟩

/-- A rollback answers with the report that it leaves. -/
theorem afterRollback_answer (engine : Engine)
    (consistent : unit.Consistent engine.environment.mapping) :
    ∃ outcome, (unit.retract engine.now).2.rollback = some outcome ∧
      (engine.afterRollback number unit).1 = .ok outcome := by
  have waited := consistent.beginRollback.awaited engine.now
  obtain ⟨outcome, answered, kept⟩ := waited.endRollback_eq
    (unit.beginRollback.awaited engine.now).1
  refine ⟨outcome, kept, ?_⟩
  obtain ⟨same, now⟩ := await_eq (engine.setUnit number unit.beginRollback) unit.beginRollback
  rw [afterRollback, ← answered]
  simp only [same, now]
  rfl

/-- What a unit can count on. -/
structure Upholds (engine : Engine) (number : Nat) (unit : UnitOfWork) : Prop where
  /-- Preparing a unit is never refused, -/
  prepares : (engine.step (.call number .beforeCommit)).1 = some (.ok .done)
  /-- nor is collecting what is in flight, once it was waited for, -/
  collects : ∀ submission, (unit.awaited engine.now).2.work.inFlight? = some submission →
    (({ (unit.awaited engine.now).2 with
        work := (unit.awaited engine.now).2.work.collect } : UnitOfWork).finish
      (unit.awaited engine.now).1 (.ofBatches submission.settledBatches)).result = .ok ()
  /-- so that a commit keeps the outcome that it answers with, unless there was a rollback. -/
  commits : unit.rollback = none → ∀ call, call = .afterCommit ∨ call = .flush →
    ∃ after outcome, (engine.step (.call number call)).2.unit? number = some after ∧
      after.outcome = some outcome ∧
        (engine.step (.call number call)).1 = some (outcome.toResult.map .flushed)
  /-- A rollback is never refused and ends in its own state, -/
  retracts : ∃ after outcome,
    (engine.step (.call number .afterRollback)).2.unit? number = some after ∧
      after.state.isRolledBack = true ∧ after.rollback = some outcome ∧
        (engine.step (.call number .afterRollback)).1 = some (.ok (.rolledBack outcome))
  /-- which no call leads out of. -/
  staysRolledBack : unit.state.isRolledBack = true → ∀ call,
    (engine.step (.call number call)).2.unit? number = some unit
  /-- Only a rollback changes a unit that was committed or has failed. -/
  staysSettled : unit.state.isSettled = true → ∀ call, call ≠ .afterRollback →
    (engine.step (.call number call)).2.unit? number = some unit
  /-- What is not open takes no registration, and to refuse one changes nothing. -/
  refuses : unit.state.isOpen = false → ∀ call, call.registers = true →
    engine.step (.call number call) = (some (.error (.unitClosed unit.state.name)), engine)

/-- A unit that is not open refuses to be registered with. -/
theorem call_of_closed (atHand : engine.unit? number = some unit)
    (closed : unit.state.isOpen = false) {call : UnitCall} (registers : call.registers = true) :
    engine.call number unit call = (.error (.unitClosed unit.state.name), engine) := by
  have refused : unit.state.ensureOpen = .error (.unitClosed unit.state.name) := by
    simp [WorkState.ensureOpen, closed]
  cases call with
  | register registration =>
    have answer : unit.register registration =
        unit.answer (.error (.unitClosed unit.state.name)) := by
      simp [UnitOfWork.register, UnitOfWork.openPlan, refused, bind, Except.bind]
    rw [call, answer, absorb_answer atHand]
    rfl
  | registerInstance kind entity =>
    have answer : unit.registerInstance engine.environment kind entity =
        unit.answer (.error (.unitClosed unit.state.name)) := by
      simp [UnitOfWork.registerInstance, refused, Except.bind]
    rw [call, answer, absorb_answer atHand]
    rfl
  | beforeCommit => cases registers
  | afterCommit => cases registers
  | flush => cases registers
  | afterRollback => cases registers

/-- A call that leaves its unit as it is leaves it at hand. -/
theorem unit?_of_same (consistent : engine.Consistent) (atHand : engine.unit? number = some unit)
    {call : UnitCall}
    (same : unit.called engine.environment number engine.now call = (engine.now, unit)) :
    (engine.step (.call number call)).2.unit? number = some unit := by
  have held := (leaves_step consistent atHand call).held
  rw [same] at held
  exact unit?_eq_some_iff.2 held

/-- Every unit at hand can count on it. -/
theorem Consistent.upholds (consistent : engine.Consistent)
    (atHand : engine.unit? number = some unit) : engine.Upholds number unit := by
  have shape := consistent.shape atHand
  have coherent := shape.coherent
  refine ⟨?_, ?_, ?_, ?_, ?_, ?_, ?_⟩
  · have accepted := (shape.beforeCommit_eq number engine.now).1
    simp [step_call atHand, call, beforeCommit, absorb, accepted, Except.map]
  · intro submission outstanding
    exact (shape.awaited engine.now).finish_eq_ok outstanding _
  · intro kept call commits
    have left := unit?_eq_some_iff.2 (leaves_step consistent atHand call).held
    rcases commits with rfl | rfl
    · obtain ⟨outcome, stored, answered⟩ := @afterCommit_answer number _ engine shape kept
      exact ⟨_, outcome, left, stored, by rw [step_call atHand, ← answered]; rfl⟩
    · obtain ⟨outcome, stored, answered⟩ := @flush_answer number _ engine shape kept
      exact ⟨_, outcome, left, stored, by rw [step_call atHand, ← answered]; rfl⟩
  · have left := unit?_eq_some_iff.2 (leaves_step consistent atHand .afterRollback).held
    obtain ⟨outcome, kept, answered⟩ := @afterRollback_answer number _ engine shape
    have rolledBack := (shape.retract engine.now).coherent.rolledBack
    rw [kept] at rolledBack
    refine ⟨_, outcome, left, rolledBack, kept, ?_⟩
    have carriedOut : (engine.step (.call number .afterRollback)).1 =
        some ((engine.afterRollback number unit).1.map .rolledBack) := by
      rw [step_call atHand]
      rfl
    rw [carriedOut, answered]
    rfl
  · intro rolledBack call
    obtain ⟨closed, collected⟩ := coherent.ended (.inr rolledBack)
    refine unit?_of_same consistent atHand ?_
    by_cases again : call = .afterRollback
    · subst again
      have reported := coherent.rolledBack
      rw [rolledBack] at reported
      obtain ⟨outcome, reported⟩ := Option.isSome_iff_exists.1 reported.symm
      exact UnitOfWork.retract_of_rolledBack reported collected
    · exact UnitOfWork.called_of_ended closed collected again
  · intro settled call other
    obtain ⟨closed, collected⟩ := coherent.ended (.inl settled)
    exact unit?_of_same consistent atHand (UnitOfWork.called_of_ended closed collected other)
  · intro closed call registers
    rw [step_call atHand, call_of_closed atHand closed registers]

end Engine

/-- The state of a unit says what the unit holds, and no move that it makes is ever
refused. Take any run, of any units with any collaborators and any backend, and a
unit that is at hand after it: its parts are those that its state speaks of, and it
can be prepared, collected and rolled back without an error; nothing but a rollback
touches it once it has ended, nothing at all once it was rolled back, and from the
moment that it is not open it refuses to be registered with. -/
theorem unit_coherent {environment : Environment} {steps : List EngineStep} {number : Nat}
    {unit : UnitOfWork} (atHand : ((Engine.start environment).run steps).unit? number = some unit) :
    unit.Coherent ∧ ((Engine.start environment).run steps).Upholds number unit := by
  obtain ⟨consistent, _⟩ := Engine.run_consistent environment steps
  have shape := consistent _ (List.mem_of_getElem? (Engine.unit?_eq_some_iff.1 atHand))
  exact ⟨shape.coherent, consistent.upholds atHand⟩

namespace Library

/-- After its deliveries were submitted the stockroom's unit waits for two batches, has
a failure to tell of later and takes no registration. -/
theorem deliveries_coherent :
    ∃ unit, ((Engine.start stockroom).run (deliveries ++ [.call 0 .beforeCommit])).unit? 0 =
        some unit ∧
      unit.state.batches? = some 2 ∧ unit.pendingFailures.length = 1 ∧ unit.Coherent ∧
        ((Engine.start stockroom).run (deliveries ++ [.call 0 .beforeCommit])).Upholds 0 unit := by
  refine ⟨_, rfl, rfl, rfl, unit_coherent rfl⟩

end Library

end Reindex
