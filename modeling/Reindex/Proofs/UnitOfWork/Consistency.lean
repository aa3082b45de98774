import Reindex.Proofs.UnitOfWork.Moves

/-!
# The shapes of a unit of work

Between two calls a unit is in one of four shapes: open with a plan and nothing
else, executing with batches in flight, ended with an outcome and nothing
outstanding, or rolled back. It is never left while its plan is prepared. Every
move leads from one of these shapes to one of them.
-/

namespace Reindex.UnitOfWork

variable {environment : Environment} {mapping : Mapping} {number : Nat} {unit : UnitOfWork}

/-- The shapes of a unit between two calls. -/
inductive Consistent (mapping : Mapping) : UnitOfWork → Prop
  | opened {since : Nat} {plan : Plan} (reached : Plan.Reachable mapping plan) :
      Consistent mapping (ofPlan since plan)
  | executing {started : Nat} {submission : Submission} {failures : List Failure}
      (nonempty : 0 < submission.tasks.length) :
      Consistent mapping (submitted started submission failures)
  | settled {started now : Nat} {work : HandedOver} {failures : List Failure}
      {batches : FlushOutcome} (collected : work.inFlight? = none) :
      Consistent mapping (settled started now work failures batches)
  | rolledBack {ended unretracted : Nat} {work : HandedOver} {flushStarted : Option Nat}
      {outcome : Option FlushOutcome} {rollback : RollbackOutcome}
      (collected : work.inFlight? = none) :
      Consistent mapping
        { state := .rolledBack ended unretracted, plan := none, work, flushStarted, outcome
          rollback := some rollback }

/-- A unit with a plan is open and has done nothing yet. -/
theorem Consistent.of_plan {plan : Plan} (consistent : Consistent mapping unit)
    (planned : unit.plan = some plan) :
    ∃ since, unit = ofPlan since plan ∧ Plan.Reachable mapping plan := by
  cases consistent with
  | opened reached =>
    cases planned
    exact ⟨_, rfl, reached⟩
  | executing nonempty => cases planned
  | settled collected => cases planned
  | rolledBack collected => cases planned

/-- A unit is open with a plan, or it is not open. -/
theorem Consistent.open_or_closed (consistent : Consistent mapping unit) :
    (∃ since plan, Plan.Reachable mapping plan ∧ unit = ofPlan since plan) ∨
      unit.state.isOpen = false := by
  cases consistent with
  | opened reached => exact .inl ⟨_, _, reached, rfl⟩
  | executing nonempty => exact .inr rfl
  | settled collected => exact .inr (isOpen_settled _ _ _ _ _)
  | rolledBack collected => exact .inr rfl

/-- Time puts nothing in flight. -/
theorem inFlight?_map {work : HandedOver} (collected : work.inFlight? = none)
    (f : Submission → Submission) : (work.map f).inFlight? = none := by
  cases work with
  | inFlight submission => cases collected
  | nothing => rfl
  | collected submission => rfl

/-- Putting batches on record leaves none in flight. -/
theorem inFlight?_collect (work : HandedOver) : work.collect.inFlight? = none := by
  cases work <;> rfl

/-- Time leaves batches in flight in flight. -/
theorem runUntil_submitted (started now target : Nat) (submission : Submission)
    (failures : List Failure) :
    (submitted started submission failures).runUntil now target =
      submitted started (submission.runUntil now target) failures := by
  have same := (Submission.continues_runUntil submission now target).tasks.length_eq
  simp [submitted, runUntil, HandedOver.map, same]

/-- A registration with a unit that is not open changes nothing. -/
theorem register_of_closed (closed : unit.state.isOpen = false) (registration : Registration) :
    (unit.register registration).unit = unit := by
  simp [register, openPlan, WorkState.ensureOpen, closed, answer, bind, Except.bind]

/-- Registering keeps the shape. -/
theorem Consistent.register (consistent : Consistent mapping unit) (registration : Registration) :
    Consistent mapping (unit.register registration).unit := by
  obtain ⟨since, plan, reached, rfl⟩ | closed := consistent.open_or_closed
  · have attempt : (ofPlan since plan).openPlan = .ok plan := rfl
    rw [UnitOfWork.register, attempt, Except.bind]
    cases applied : plan.apply registration with
    | ok next => exact .opened (reached.registered applied)
    | error error => exact .opened reached
  · rwa [register_of_closed closed]

/-- What preparing an open unit leads to: it is accepted, and the unit ends at once
or has batches in flight. -/
theorem beforeCommit_ofPlan (environment : Environment) (number since now : Nat) (plan : Plan) :
    ((ofPlan since plan).beforeCommit environment number now).result = .ok () ∧
      ((∃ failures, ((ofPlan since plan).beforeCommit environment number now).unit =
          settled now now .nothing failures {}) ∨
        ∃ batches failures, batches ≠ [] ∧
          ((ofPlan since plan).beforeCommit environment number now).unit =
            submitted now (submission environment number batches) failures) := by
  cases ready : (environment.mapping.prepare (environment.services number) plan).1 with
  | error error =>
    rw [beforeCommit_of_error ready]
    exact ⟨rfl, .inl ⟨_, rfl⟩⟩
  | ok prepared =>
    by_cases nothing : prepared.batches = []
    · rw [beforeCommit_of_nothing ready nothing]
      exact ⟨rfl, .inl ⟨_, rfl⟩⟩
    · rw [beforeCommit_of_batches ready nothing]
      exact ⟨rfl, .inr ⟨_, _, nothing, rfl⟩⟩

/-- Preparing keeps the shape. -/
theorem Consistent.prepare (consistent : Consistent environment.mapping unit) (number now : Nat) :
    Consistent environment.mapping (unit.beforeCommit environment number now).unit := by
  obtain ⟨since, plan, _, rfl⟩ | closed := consistent.open_or_closed
  · obtain ⟨_, ⟨failures, ended⟩ | ⟨batches, failures, something, ended⟩⟩ :=
      beforeCommit_ofPlan environment number since now plan
    · rw [ended]
      exact .settled rfl
    · rw [ended]
      refine .executing ?_
      simpa [submission, Submission.submit] using List.length_pos_iff.2 something
  · rwa [beforeCommit_of_closed closed]

/-- Time keeps the shape. -/
theorem Consistent.runUntil (consistent : Consistent mapping unit) (now target : Nat) :
    Consistent mapping (unit.runUntil now target) := by
  cases consistent with
  | opened reached => exact .opened reached
  | @executing started submission failures nonempty =>
    rw [runUntil_submitted]
    refine .executing ?_
    rwa [← (Submission.continues_runUntil submission now target).tasks.length_eq]
  | settled collected => exact .settled (inFlight?_map collected _)
  | rolledBack collected => exact .rolledBack (inFlight?_map collected _)

/-- Waiting for a unit without batches in flight takes no time. -/
theorem awaited_of_none (collected : unit.work.inFlight? = none) (now : Nat) :
    unit.awaited now = (now, unit) := by
  simp [UnitOfWork.awaited, settlesAt?, collected]

/-- Waiting for batches in flight is waiting until they are settled. -/
theorem awaited_submitted (started now : Nat) (submission : Submission)
    (failures : List Failure) :
    (submitted started submission failures).awaited now =
      if submission.isSettled then (now, submitted started submission failures)
      else (submission.settlesAt now,
        submitted started (submission.runUntil now (submission.settlesAt now)) failures) := by
  have outstanding : (submitted started submission failures).settlesAt? now =
      if submission.isSettled then none else some (submission.settlesAt now) := rfl
  rw [UnitOfWork.awaited, outstanding]
  cases submission.isSettled with
  | true => rfl
  | false => simp [runUntil_submitted]

/-- Waiting keeps the shape. -/
theorem Consistent.awaited (consistent : Consistent mapping unit) (now : Nat) :
    Consistent mapping (unit.awaited now).2 := by
  unfold UnitOfWork.awaited
  split
  · exact consistent
  · exact consistent.runUntil _ _

/-- Without batches in flight a commit only answers, -/
theorem endCommit_of_none (collected : unit.work.inFlight? = none) (now : Nat) :
    unit.endCommit now = unit.answer unit.storedOutcome := by
  unfold endCommit
  rw [collected]
  cases unit.outcome <;> rfl

/-- and nothing is collected. -/
theorem unit_endCommit_of_none (collected : unit.work.inFlight? = none) (now : Nat) :
    (unit.endCommit now).unit = unit := by
  rw [endCommit_of_none collected]
  rfl

/-- Collecting keeps the shape. -/
theorem Consistent.endCommit (consistent : Consistent mapping unit) (now : Nat) :
    Consistent mapping (unit.endCommit now).unit := by
  cases consistent with
  | opened reached =>
    rw [unit_endCommit_of_none rfl]
    exact .opened reached
  | executing nonempty =>
    rw [unit_endCommit_submitted]
    exact .settled rfl
  | settled collected =>
    rw [unit_endCommit_of_none collected]
    exact .settled collected
  | rolledBack collected =>
    rw [unit_endCommit_of_none collected]
    exact .rolledBack collected

/-- Without batches in flight there is nothing to give up. -/
theorem beginRollback_of_none (collected : unit.work.inFlight? = none) :
    unit.beginRollback = unit := by
  unfold UnitOfWork.beginRollback
  split
  · rename_i outstanding
    simp [outstanding, HandedOver.inFlight?] at collected
  · rfl

/-- A unit without batches in flight is let go as it is. -/
theorem abandon_of_none (collected : unit.work.inFlight? = none) : unit.abandon = unit := by
  unfold UnitOfWork.abandon
  split
  · rename_i outstanding
    simp [outstanding, HandedOver.inFlight?] at collected
  · rfl

/-- Giving batches up keeps the shape. -/
theorem Consistent.beginRollback (consistent : Consistent mapping unit) :
    Consistent mapping unit.beginRollback := by
  cases consistent with
  | opened reached => exact .opened reached
  | @executing started submission failures nonempty =>
    have given : 0 < submission.cancel.tasks.length := nonempty
    exact .executing given
  | settled collected =>
    rw [beginRollback_of_none collected]
    exact .settled collected
  | rolledBack collected =>
    rw [beginRollback_of_none collected]
    exact .rolledBack collected

/-- A rollback is never refused. -/
theorem Consistent.endRollback (consistent : Consistent mapping unit) (now : Nat) :
    Consistent mapping (unit.endRollback now).unit := by
  cases consistent with
  | opened reached => exact .rolledBack rfl
  | executing nonempty => exact .rolledBack rfl
  | settled collected =>
    simp only [UnitOfWork.endRollback, UnitOfWork.settled, rollBack_settledState]
    exact .rolledBack (inFlight?_collect _)
  | rolledBack collected => exact .rolledBack collected

/-- Letting a unit go keeps the shape. -/
theorem Consistent.abandon (consistent : Consistent mapping unit) :
    Consistent mapping unit.abandon := by
  cases consistent with
  | opened reached => exact .opened reached
  | @executing started submission failures nonempty =>
    have given : 0 < submission.cancel.tasks.length := nonempty
    exact .executing given
  | settled collected =>
    rw [abandon_of_none collected]
    exact .settled collected
  | rolledBack collected =>
    rw [abandon_of_none collected]
    exact .rolledBack collected

/-- Preparing is never refused, and a prepared unit is not open. -/
theorem Consistent.beforeCommit_eq (consistent : Consistent environment.mapping unit)
    (number now : Nat) :
    (unit.beforeCommit environment number now).result = .ok () ∧
      (unit.beforeCommit environment number now).unit.state.isOpen = false := by
  obtain ⟨since, plan, _, rfl⟩ | closed := consistent.open_or_closed
  · obtain ⟨accepted, ⟨failures, ended⟩ | ⟨batches, failures, something, ended⟩⟩ :=
      beforeCommit_ofPlan environment number since now plan
    · rw [ended]
      exact ⟨accepted, isOpen_settled _ _ _ _ _⟩
    · rw [ended]
      exact ⟨accepted, rfl⟩
  · rw [beforeCommit_of_closed closed]
    exact ⟨rfl, closed⟩

/-- A commit begins by preparing the unit, if there is anything to prepare. -/
theorem Consistent.beginCommit_eq (consistent : Consistent environment.mapping unit)
    (number now : Nat) :
    (unit.beginCommit environment number now).result = .ok () ∧
      (unit.beginCommit environment number now).unit =
        (unit.beforeCommit environment number now).unit := by
  obtain ⟨since, plan, _, rfl⟩ | closed := consistent.open_or_closed
  · have attempt : (ofPlan since plan).beginCommit environment number now =
        (ofPlan since plan).beforeCommit environment number now := rfl
    rw [attempt]
    exact ⟨(consistent.beforeCommit_eq number now).1, rfl⟩
  · have attempt : unit.beginCommit environment number now = unit.answer (.ok ()) := by
      simp [beginCommit, closed]
    rw [attempt, beforeCommit_of_closed closed]
    exact ⟨rfl, rfl⟩

/-- Every move leads from one of the shapes to one of them. -/
theorem Consistent.move {before after : Nat × UnitOfWork}
    (consistent : Consistent environment.mapping before.2)
    (move : Move environment number before after) :
    Consistent environment.mapping after.2 := by
  cases move with
  | advance advances =>
    cases advances with
    | register now unit registration => exact consistent.register registration
    | prepare now unit => exact consistent.prepare number now
    | settle now unit => exact (consistent.awaited now).endCommit _
    | elapse now target unit => exact consistent.runUntil now target
  | retract now unit => exact (consistent.beginRollback.awaited now).endRollback _
  | abandon now unit => exact consistent.abandon

/-- Any number of moves keep the shape. -/
theorem Moves.consistent {before after : Nat × UnitOfWork}
    (moves : Moves environment number before after)
    (consistent : Consistent environment.mapping before.2) :
    Consistent environment.mapping after.2 := by
  induction moves with
  | refl => exact consistent
  | tail _ move inductionHypothesis => exact inductionHypothesis.move move

end Reindex.UnitOfWork
