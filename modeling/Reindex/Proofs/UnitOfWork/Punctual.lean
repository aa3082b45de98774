import Reindex.Proofs.Submission.Saturation
import Reindex.Proofs.UnitOfWork.Answers
import Reindex.Proofs.UnitOfWork.Faithful

/-!
# Units whose permits are in use

A unit remembers when its flush began, and that is when its batches were submitted. As long
as it is not rolled back nobody gives them up, so from then on no permit lies idle while a
batch waits, in whatever way time passes. A commit waits for nothing else, and is over
when the rounds of its batches are.
-/

namespace Reindex

namespace HandedOver

/-- The submission, whether its results were taken or not. -/
def submission? : HandedOver → Option Submission
  | .nothing => none
  | .inFlight submission | .collected submission => some submission

/-- Time passes for the submission, -/
theorem submission?_map (work : HandedOver) (f : Submission → Submission) :
    (work.map f).submission? = work.submission?.map f := by
  cases work <;> rfl

/-- and to take its results leaves it. -/
theorem submission?_collect (work : HandedOver) : work.collect.submission? = work.submission? := by
  cases work <;> rfl

/-- What is on record only has ended. -/
theorem Faithful.isSettled {environment : Environment} {number now : Nat} {work : HandedOver}
    (faithful : work.Faithful environment number now) (collected : work.inFlight? = none)
    {submission : Submission} (holds : work.submission? = some submission) :
    submission.isSettled = true := by
  cases faithful with
  | nothing => cases holds
  | inFlight agreed orderly => cases collected
  | collected agreed orderly settled => exact Option.some.inj holds ▸ settled

end HandedOver

namespace UnitOfWork

variable {environment : Environment} {mapping : Mapping} {number now target since : Nat}
  {unit other : UnitOfWork} {after : Nat × UnitOfWork}

/-- Since the flush began no permit has been idle, unless the unit was rolled back. -/
def Punctual (now : Nat) (unit : UnitOfWork) : Prop :=
  unit.rollback = none → ∀ since, unit.flushStarted = some since →
    ∀ submission, unit.work.submission? = some submission → submission.Attended since now

/-- This is about the submission and the start of the flush alone. -/
theorem Punctual.congr (punctual : unit.Punctual now)
    (parts : other.rollback = unit.rollback ∧ other.flushStarted = unit.flushStarted)
    (work : other.work.submission? = unit.work.submission?) : other.Punctual now := by
  rw [Punctual, parts.1, parts.2, work]
  exact punctual

/-- An open unit has not begun a flush. -/
theorem punctual_ofPlan (since : Nat) (plan : Plan) (now : Nat) :
    (ofPlan since plan).Punctual now := by
  rintro _ _ ⟨⟩

/-- A registration is about the plan alone. -/
theorem Punctual.register (punctual : unit.Punctual now) (registration : Registration) :
    (unit.register registration).unit.Punctual now := by
  unfold UnitOfWork.register
  split <;> exact punctual

/-- Time keeps the permits in use. -/
theorem Punctual.ages (punctual : unit.Punctual now) (ages : Ages (now, unit) after)
    (passed : now ≤ after.1) : after.2.Punctual after.1 := by
  cases ages with
  | still => exact punctual
  | elapsed _ target _ =>
    intro kept since started submission holds
    rw [UnitOfWork.runUntil, HandedOver.submission?_map] at holds
    obtain ⟨before, held, rfl⟩ := Option.map_eq_some_iff.1 holds
    exact (punctual kept since started before held).runUntil passed

/-- What is prepared is submitted at that instant. -/
theorem Punctual.prepare (punctual : unit.Punctual now)
    (consistent : Consistent environment.mapping unit) (number : Nat) :
    (unit.beforeCommit environment number now).unit.Punctual now := by
  obtain ⟨opened, plan, _, rfl⟩ | closed := consistent.open_or_closed
  · obtain ⟨_, ⟨failures, ended⟩ | ⟨batches, failures, _, ended⟩⟩ :=
      beforeCommit_ofPlan environment number opened now plan
    · rw [ended]
      rintro _ _ _ _ ⟨⟩
    · rw [ended]
      rintro _ _ ⟨⟩ _ ⟨⟩
      exact Submission.attended_submit _ _ _ _ _ now
  · rw [beforeCommit_of_closed closed]
    exact punctual

/-- A commit waits, and keeps what it takes the results of. -/
theorem Punctual.settle (punctual : unit.Punctual now) (consistent : Consistent mapping unit)
    (passed : now ≤ (unit.awaited now).1) : (unit.settle now).2.Punctual (unit.settle now).1 := by
  have waited := punctual.ages (ages_awaited now unit) passed
  refine waited.congr (parts_endCommit _ _) ?_
  have work := (consistent.awaited now).work_endCommit (unit.awaited now).1
  rw [UnitOfWork.settle, work, HandedOver.submission?_collect]

/-- After a rollback there is nothing to keep. -/
theorem Consistent.punctual_retract (consistent : Consistent mapping unit) (now : Nat) :
    (unit.retract now).2.Punctual (unit.retract now).1 := by
  intro kept
  obtain ⟨outcome, _, reported⟩ :=
    (consistent.beginRollback.awaited now).endRollback_eq (unit.beginRollback.awaited now).1
  rw [UnitOfWork.retract, reported] at kept
  cases kept

/-- Any call keeps the permits in use. -/
theorem Punctual.called (permitted : 0 < environment.mapping.config.maxInFlight)
    (punctual : unit.Punctual now) (consistent : Consistent environment.mapping unit)
    (faithful : unit.Faithful environment number now) (kept : unit.work.Kept) (call : UnitCall) :
    (unit.called environment number now call).2.Punctual
      (unit.called environment number now call).1 := by
  have prepared := punctual.prepare consistent number
  have shape := consistent.prepare number now
  have passed := ((faithful.prepare consistent kept).faithful.awaited permitted).1
  cases call with
  | register registration => exact punctual.register registration
  | registerInstance kind entity =>
    rw [UnitOfWork.called]
    rcases registerInstance_unit environment unit kind entity with same | ⟨registration, same⟩
    · rw [same]
      exact punctual
    · rw [same]
      exact punctual.register registration
  | beforeCommit => exact prepared
  | afterCommit => exact prepared.settle shape passed
  | flush => exact prepared.settle shape passed
  | afterRollback => exact consistent.punctual_retract now

/-- To wait leaves the start of the flush, -/
theorem flushStarted_of_ages (ages : Ages (now, unit) after) :
    after.2.flushStarted = unit.flushStarted := by
  cases ages <;> rfl

/-- a commit does, -/
theorem flushStarted_settle (unit : UnitOfWork) (now : Nat) :
    (unit.settle now).2.flushStarted = unit.flushStarted :=
  (parts_endCommit _ _).2.trans (flushStarted_of_ages (ages_awaited now unit))

/-- and so does a rollback. -/
theorem flushStarted_retract (unit : UnitOfWork) (now : Nat) :
    (unit.retract now).2.flushStarted = unit.flushStarted := by
  have begun : unit.beginRollback.flushStarted = unit.flushStarted := by
    unfold beginRollback
    split <;> rfl
  have ended (unit : UnitOfWork) (now : Nat) :
      (unit.endRollback now).unit.flushStarted = unit.flushStarted := by
    unfold endRollback
    split
    · rfl
    · dsimp only
      split <;> rfl
  rw [retract, ended, flushStarted_of_ages (ages_awaited now unit.beginRollback), begun]

/-- Nothing begins the flush of a unit anew that is not open, -/
theorem flushStarted_called_of_closed (closed : unit.state.isOpen = false)
    (environment : Environment) (number now : Nat) (call : UnitCall) :
    (unit.called environment number now call).2.flushStarted = unit.flushStarted := by
  rcases called_of_closed closed environment number now call with same | same | ⟨_, same⟩
  · rw [same]
  · rw [same, flushStarted_settle]
  · rw [same, flushStarted_retract]

/-- and the flush of an open one begins when it is prepared. -/
theorem flushStarted_called_of_plan (environment : Environment) (number opened now : Nat)
    (plan : Plan) {call : UnitCall} (prepares : call.prepares = true) :
    ((ofPlan opened plan).called environment number now call).2.flushStarted = some now := by
  have begun : ((ofPlan opened plan).beforeCommit environment number now).unit.flushStarted =
      some now := by
    obtain ⟨_, ⟨failures, ended⟩ | ⟨batches, failures, _, ended⟩⟩ :=
      beforeCommit_ofPlan environment number opened now plan
    · rw [ended]
      rfl
    · rw [ended]
      rfl
  cases call with
  | register registration => cases prepares
  | registerInstance kind entity => cases prepares
  | beforeCommit => exact begun
  | afterCommit => exact (flushStarted_settle _ now).trans begun
  | flush => exact (flushStarted_settle _ now).trans begun
  | afterRollback => cases prepares

/-- To wait for a unit takes no longer than the rounds of its batches since they were
submitted. -/
theorem Punctual.awaited_le (permitted : 0 < environment.mapping.config.maxInFlight)
    (punctual : unit.Punctual now) (consistent : Consistent mapping unit)
    (faithful : unit.Faithful environment number now) (started : unit.flushStarted = some since) :
    (unit.awaited now).1 ≤ max now (since +
      Submission.span environment.mapping.config.maxInFlight
        environment.mapping.config.submitTimeout unit.work.batches.length) := by
  obtain ⟨waited, _⟩ | ⟨submission, flies, waited⟩ := awaited_cases now unit
  · rw [waited]
    exact Nat.le_max_left _ _
  · have kept : unit.rollback = none := by
      cases consistent with
      | executing nonempty => rfl
      | opened reached => cases flies
      | settled collected =>
        cases flies
        cases collected
      | rolledBack collected =>
        cases flies
        cases collected
    have work := faithful.work
    rw [flies] at work
    cases work with
    | inFlight agreed orderly =>
      have attended := punctual kept since started submission (flies ▸ rfl)
      have bound := attended.settlesAt_le (agreed.permits ▸ permitted)
      rw [agreed.permits, agreed.timeout] at bound
      rw [waited, flies, HandedOver.batches, List.length_map]
      exact bound

/-- A commit is over when the rounds of the batches are, and then every batch has ended. -/
theorem Punctual.commit (permitted : 0 < environment.mapping.config.maxInFlight)
    (punctual : unit.Punctual now) (consistent : Consistent environment.mapping unit)
    (faithful : unit.Faithful environment number now) (kept : unit.work.Kept) :
    let after := (unit.beforeCommit environment number now).unit.settle now
    (∀ submission, after.2.work.submission? = some submission → submission.isSettled = true) ∧
      ∀ since, after.2.flushStarted = some since → after.1 ≤ max now (since +
        Submission.span environment.mapping.config.maxInFlight
          environment.mapping.config.submitTimeout after.2.work.batches.length) := by
  intro after
  have begun := faithful.prepare consistent kept
  have shape := consistent.prepare number now
  constructor
  · intro submission holds
    have ended := (begun.faithful.settle permitted shape begun.kept).faithful.work
    refine ended.isSettled ?_ holds
    have work := (shape.awaited now).work_endCommit
      ((unit.beforeCommit environment number now).unit.awaited now).1
    rw [UnitOfWork.settle, work]
    exact inFlight?_collect _
  · intro since started
    rw [flushStarted_settle] at started
    rw [(shape.parts_settle now).1]
    exact (punctual.prepare consistent number).awaited_le permitted shape begun.faithful started

end UnitOfWork

end Reindex
