import Reindex.Proofs.Plan.Entries
import Reindex.Proofs.Submission.Continuation
import Mathlib.Logic.Relation

/-!
# What can happen to a unit of work

A unit that nobody gives up is registered with, prepared, waited for and collected,
and time passes for it; besides, it may be rolled back or let go. Each of these is
said once, as what becomes of the unit and of the clock.

A unit that is open has a plan. Preparing the plan leaves the unit with batches in
flight, or with an outcome when there is nothing to submit; collecting what is in
flight leaves it with an outcome too. None of these steps is ever refused, and the
equations below say which unit each of them leaves.
-/

namespace Reindex.UnitOfWork

variable {environment : Environment} {mapping : Mapping} {number : Nat} {unit : UnitOfWork}

/-- The unit once nothing of it is outstanding, and the instant at which that is so. -/
def awaited (now : Nat) (unit : UnitOfWork) : Nat × UnitOfWork :=
  match unit.settlesAt? now with
  | none => (now, unit)
  | some target => (target, unit.runUntil now target)

/-- The unit once its batches have ended and were collected, and that instant. -/
def settle (now : Nat) (unit : UnitOfWork) : Nat × UnitOfWork :=
  ((unit.awaited now).1, ((unit.awaited now).2.endCommit (unit.awaited now).1).unit)

/-- The unit once it has been rolled back, and that instant. -/
def retract (now : Nat) (unit : UnitOfWork) : Nat × UnitOfWork :=
  ((unit.beginRollback.awaited now).1,
    ((unit.beginRollback.awaited now).2.endRollback (unit.beginRollback.awaited now).1).unit)

/-- What happens to a unit that is not given up. -/
inductive Advance (environment : Environment) (number : Nat) :
    Nat × UnitOfWork → Nat × UnitOfWork → Prop
  | register (now : Nat) (unit : UnitOfWork) (registration : Registration) :
      Advance environment number (now, unit) (now, (unit.register registration).unit)
  | prepare (now : Nat) (unit : UnitOfWork) :
      Advance environment number (now, unit)
        (now, (unit.beforeCommit environment number now).unit)
  | settle (now : Nat) (unit : UnitOfWork) :
      Advance environment number (now, unit) (unit.settle now)
  | elapse (now target : Nat) (unit : UnitOfWork) :
      Advance environment number (now, unit) (target, unit.runUntil now target)

/-- What happens to a unit that nobody calls: nothing, or time passes. -/
inductive Ages : Nat × UnitOfWork → Nat × UnitOfWork → Prop
  | still (now : Nat) (unit : UnitOfWork) : Ages (now, unit) (now, unit)
  | elapsed (now target : Nat) (unit : UnitOfWork) :
      Ages (now, unit) (target, unit.runUntil now target)

/-- What happens to any unit. -/
inductive Move (environment : Environment) (number : Nat) :
    Nat × UnitOfWork → Nat × UnitOfWork → Prop
  | advance {before after : Nat × UnitOfWork} (advances : Advance environment number before after) :
      Move environment number before after
  | retract (now : Nat) (unit : UnitOfWork) :
      Move environment number (now, unit) (unit.retract now)
  | abandon (now : Nat) (unit : UnitOfWork) :
      Move environment number (now, unit) (now, unit.abandon)

/-- Any number of advances. -/
abbrev Advances (environment : Environment) (number : Nat) :
    Nat × UnitOfWork → Nat × UnitOfWork → Prop :=
  Relation.ReflTransGen (Advance environment number)

/-- Any number of moves. -/
abbrev Moves (environment : Environment) (number : Nat) :
    Nat × UnitOfWork → Nat × UnitOfWork → Prop :=
  Relation.ReflTransGen (Move environment number)

/-- To age is to advance. -/
theorem Ages.advances {before after : Nat × UnitOfWork} (ages : Ages before after) :
    Advances environment number before after := by
  cases ages with
  | still => exact .refl
  | elapsed now target unit => exact .single (.elapse now target unit)

/-- Advances are moves. -/
theorem Advances.moves {before after : Nat × UnitOfWork}
    (advances : Advances environment number before after) :
    Moves environment number before after :=
  Relation.ReflTransGen.mono (fun _ _ advance => Move.advance advance) _ _ advances

/-- An open unit with a plan. -/
def ofPlan (since : Nat) (plan : Plan) : UnitOfWork := { state := .opened since, plan := some plan }

/-- A unit whose plan is being prepared, with failures to report. -/
def preparing (now : Nat) (failures : List Failure) : UnitOfWork :=
  { state := .flushing now, plan := none, pendingFailures := failures, flushStarted := some now }

/-- A unit whose batches are in flight, with failures to report. -/
def submitted (now : Nat) (submission : Submission) (failures : List Failure) : UnitOfWork :=
  { state := .executing now submission.tasks.length
    plan := none
    work := .inFlight submission
    pendingFailures := failures
    flushStarted := some now }

/-- The state that an outcome decides. -/
def settledState (started now : Nat) (outcome : FlushOutcome) : WorkState Nat :=
  if outcome.isSuccess then .committed started now outcome.duration outcome.succeeded.length
  else .failed now outcome.failedKeys (summary outcome.failures) (leadingCategory outcome.failures)

/-- The outcome of batches and of failures before submission. -/
def outcomeOf (started now : Nat) (failures : List Failure) (batches : FlushOutcome) :
    FlushOutcome :=
  { batches with failures := failures ++ batches.failures, duration := now - started }

/-- A unit whose flush has ended with that outcome. -/
def settled (started now : Nat) (work : HandedOver) (failures : List Failure)
    (batches : FlushOutcome) : UnitOfWork :=
  { state := settledState started now (outcomeOf started now failures batches)
    plan := none
    work
    flushStarted := some started
    outcome := some (outcomeOf started now failures batches) }

/-- The submission of batches under the settings. -/
def submission (environment : Environment) (number : Nat) (batches : List WorkBatch) : Submission :=
  .submit number (environment.services number) environment.mapping.config.maxInFlight
    environment.mapping.config.submitTimeout batches

/-- A settled unit takes no registrations. -/
theorem isOpen_settled (started now : Nat) (work : HandedOver) (failures : List Failure)
    (batches : FlushOutcome) :
    (settled started now work failures batches).state.isOpen = false := by
  simp only [settled, settledState]
  split <;> rfl

/-- Only a rolled back unit refuses a rollback. -/
theorem rollBack_settledState (started ended now unretracted : Nat) (outcome : FlushOutcome) :
    (settledState started ended outcome).rollBack now unretracted =
      .ok (.rolledBack now unretracted) := by
  unfold settledState
  split <;> rfl

/-- Ending a flush that has begun is never refused: the outcome decides the state
and is kept. -/
theorem finish_eq {started now : Nat} {batches : FlushOutcome}
    (begun : unit.state = .flushing started ∨ ∃ count, unit.state = .executing started count) :
    unit.finish now batches =
      { result := .ok ()
        unit := { unit with
          pendingFailures := []
          state := settledState started now (unit.fullOutcome now batches)
          outcome := some (unit.fullOutcome now batches) }
        observations := [.flushed (unit.fullOutcome now batches)] } := by
  unfold finish settledState
  by_cases success : (unit.fullOutcome now batches).isSuccess = true
  · rcases begun with state | ⟨count, state⟩ <;> simp [success, state, WorkState.commit]
  · rcases begun with state | ⟨count, state⟩ <;> simp [success, state, WorkState.fail]

/-- What a flush ends with that has nothing to submit. -/
theorem finish_preparing (now : Nat) (failures : List Failure) :
    (preparing now failures).finish now {} =
      { result := .ok ()
        unit := settled now now .nothing failures {}
        observations := [.flushed (outcomeOf now now failures {})] } :=
  finish_eq (.inl rfl)

/-- What a flush ends with whose batches are collected. -/
theorem unit_endCommit_submitted (started now : Nat) (submission : Submission)
    (failures : List Failure) :
    ((submitted started submission failures).endCommit now).unit =
      settled started now (.collected submission) failures
        (.ofBatches submission.settledBatches) := by
  unfold endCommit
  simp only [submitted, HandedOver.inFlight?, HandedOver.collect]
  rw [finish_eq (.inr ⟨_, rfl⟩)]
  rfl

/-- A unit that is no longer open has nothing to prepare. -/
theorem beforeCommit_of_closed (closed : unit.state.isOpen = false) (now : Nat) :
    unit.beforeCommit environment number now = unit.answer (.ok ()) := by
  simp [beforeCommit, closed]

/-- A plan that cannot be prepared fails as a whole. -/
theorem beforeCommit_of_error {since now : Nat} {plan : Plan} {error : IndexingError}
    (refused : (environment.mapping.prepare (environment.services number) plan).1 = .error error) :
    (ofPlan since plan).beforeCommit environment number now =
      { result := .ok ()
        unit := settled now now .nothing [error.toFailure plan.pendingKeys] {}
        requests := (environment.mapping.prepare (environment.services number) plan).2
        observations := [.flushed (outcomeOf now now [error.toFailure plan.pendingKeys] {})] } := by
  have ended := finish_preparing now [error.toFailure plan.pendingKeys]
  rw [preparing] at ended
  simp [beforeCommit, ofPlan, WorkState.isOpen, WorkState.beginFlush, refused, ended]

/-- A plan without work for the backend ends the flush at once. -/
theorem beforeCommit_of_nothing {since now : Nat} {plan : Plan} {prepared : PreparedFlush}
    (ready : (environment.mapping.prepare (environment.services number) plan).1 = .ok prepared)
    (nothing : prepared.batches = []) :
    (ofPlan since plan).beforeCommit environment number now =
      { result := .ok ()
        unit := settled now now .nothing prepared.failures {}
        requests := (environment.mapping.prepare (environment.services number) plan).2
        observations := [.flushed (outcomeOf now now prepared.failures {})] } := by
  have ended := finish_preparing now prepared.failures
  rw [preparing] at ended
  simp [beforeCommit, ofPlan, WorkState.isOpen, WorkState.beginFlush, ready, execute, nothing,
    ended]

/-- Any other plan has its batches submitted. -/
theorem beforeCommit_of_batches {since now : Nat} {plan : Plan} {prepared : PreparedFlush}
    (ready : (environment.mapping.prepare (environment.services number) plan).1 = .ok prepared)
    (something : prepared.batches ≠ []) :
    (ofPlan since plan).beforeCommit environment number now =
      { result := .ok ()
        unit := submitted now (submission environment number prepared.batches) prepared.failures
        requests := (environment.mapping.prepare (environment.services number) plan).2
        observations := [.submitted prepared.itemCount] } := by
  simp [beforeCommit, ofPlan, submitted, submission, Submission.submit, WorkState.isOpen,
    WorkState.beginFlush, WorkState.beginExecution, ready, execute, something]

end Reindex.UnitOfWork
