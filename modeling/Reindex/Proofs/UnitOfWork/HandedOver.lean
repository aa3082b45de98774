import Reindex.Proofs.Engine
import Reindex.Proofs.Submission.Course

/-!
# What a unit has handed over

From its preparation on, a unit holds the batches that it has submitted, in flight or
on record. The record of their calls is true at every instant, it was made under the
settings and with the backend of the unit, and nothing is put on record before it is
settled. Whoever ended with an outcome has waited for batches that nobody gave up, so
all of them were called.

Calls on the unit and time keep all this. They also keep the batches, except that an
open unit takes on those of its prepared plan.
-/

namespace Reindex

/-- How long the call for a batch of a unit lasts. -/
def Environment.runTime (environment : Environment) (number : Nat) (batch : WorkBatch) : Nat :=
  min ((environment.services number).backend number batch).delay
    environment.mapping.config.submitTimeout

/-- A submission of a unit under its settings. -/
structure Submission.Agreed (environment : Environment) (number : Nat)
    (submission : Submission) : Prop where
  unit : submission.unit = number
  backend : submission.backend = (environment.services number).backend
  panicText : submission.panicText = (environment.services number).panicText
  permits : submission.permits = environment.mapping.config.maxInFlight
  timeout : submission.timeout = environment.mapping.config.submitTimeout

namespace Submission

variable {environment : Environment} {number : Nat} {submission : Submission}

/-- What goes on is under the same settings. -/
theorem Agreed.continues {after : Submission} (agreed : submission.Agreed environment number)
    (continues : submission.Continues after) : after.Agreed environment number where
  unit := continues.unit.trans agreed.unit
  backend := continues.backend.trans agreed.backend
  panicText := continues.panicText.trans agreed.panicText
  permits := continues.permits.trans agreed.permits
  timeout := continues.timeout.trans agreed.timeout

/-- The calls last as long as the environment says. -/
theorem Agreed.runTime_eq (agreed : submission.Agreed environment number) :
    submission.runTime = environment.runTime number := by
  funext batch
  simp only [runTime, response, agreed.unit, agreed.backend, agreed.timeout, Environment.runTime]

end Submission

namespace HandedOver

/-- The submitted batches. -/
def batches : HandedOver → List WorkBatch
  | .nothing => []
  | .inFlight submission | .collected submission => submission.tasks.map BatchTask.batch

/-- Which calls have begun, and when. -/
def started (work : HandedOver) : List (Nat × WorkBatch) :=
  work.calls.map fun call => (call.start, call.batch)

/-- The batches that were called, in order. -/
def called (work : HandedOver) : List WorkBatch := work.calls.map BackendCall.batch

/-- Give up what is in flight. -/
def cancel : HandedOver → HandedOver
  | .inFlight submission => .inFlight submission.cancel
  | other => other

/-- What was handed over is told of truly at an instant. -/
inductive Faithful (environment : Environment) (number now : Nat) : HandedOver → Prop
  | nothing : Faithful environment number now .nothing
  | inFlight {submission : Submission} (agreed : submission.Agreed environment number)
      (orderly : submission.Orderly now) : Faithful environment number now (.inFlight submission)
  | collected {submission : Submission} (agreed : submission.Agreed environment number)
      (orderly : submission.Orderly now) (settled : submission.isSettled = true) :
      Faithful environment number now (.collected submission)

/-- Nobody has given up what is in flight. -/
def Kept (work : HandedOver) : Prop :=
  ∀ submission, work.inFlight? = some submission → submission.cancelled = false

/-- Whatever was submitted is on record, and nobody had given it up. -/
inductive Complete : HandedOver → Prop
  | nothing : Complete .nothing
  | collected {submission : Submission} (kept : submission.cancelled = false) :
      Complete (.collected submission)

/-- No call will begin any more: what is in flight was given up. -/
def Silent (work : HandedOver) : Prop :=
  ∀ submission, work.inFlight? = some submission → submission.cancelled = true

variable {environment : Environment} {number now target : Nat} {work : HandedOver}

/-- The batches that were called are the first ones, in order. -/
theorem Faithful.called_prefix (faithful : work.Faithful environment number now) :
    work.called <+: work.batches := by
  cases faithful with
  | nothing => exact List.prefix_rfl
  | inFlight agreed orderly => exact orderly.called_prefix
  | collected agreed orderly settled => exact orderly.called_prefix

/-- The calls have kept to the permits. -/
theorem Faithful.admitted (faithful : work.Faithful environment number now) :
    BackendCall.Admitted (environment.runTime number) environment.mapping.config.maxInFlight
      work.calls := by
  cases faithful with
  | nothing => exact .none
  | inFlight agreed orderly => exact agreed.runTime_eq ▸ agreed.permits ▸ orderly.admitted
  | collected agreed orderly settled =>
    exact agreed.runTime_eq ▸ agreed.permits ▸ orderly.admitted

/-- The batches in flight whose call runs are those whose call is outstanding. -/
theorem Faithful.runningCount_eq (faithful : work.Faithful environment number now)
    {submission : Submission} (outstanding : work.inFlight? = some submission) :
    submission.runningCount =
      BackendCall.outstanding (environment.runTime number) now work.calls := by
  cases faithful with
  | nothing => cases outstanding
  | inFlight agreed orderly =>
    cases outstanding
    exact agreed.runTime_eq ▸ orderly.runningCount_eq
  | collected agreed orderly settled => cases outstanding

/-- When nothing was given up, every batch was called. -/
theorem Faithful.called_eq_batches (faithful : work.Faithful environment number now)
    (complete : work.Complete) : work.called = work.batches := by
  cases complete with
  | nothing => rfl
  | collected kept =>
    cases faithful with
    | collected agreed orderly settled =>
      obtain ⟨uncalled, batches, _, none⟩ := orderly.settledBatches_eq settled
      rw [none kept, List.append_nil] at batches
      exact batches.symm

/-- Time keeps what was handed over faithful. -/
theorem Faithful.runUntil (faithful : work.Faithful environment number now)
    (passed : now ≤ target) :
    (work.map fun submission => submission.runUntil now target).Faithful environment number
      target := by
  cases faithful with
  | nothing => exact .nothing
  | inFlight agreed orderly =>
    exact .inFlight (agreed.continues (Submission.continues_runUntil _ now target))
      (orderly.runUntil passed)
  | collected agreed orderly settled =>
    have still := Submission.runUntil_of_settled settled now target
    rw [map, still]
    exact .collected agreed (still ▸ orderly.runUntil passed) settled

/-- So does giving it up, -/
theorem Faithful.cancel (faithful : work.Faithful environment number now) :
    work.cancel.Faithful environment number now := by
  cases faithful with
  | nothing => exact .nothing
  | inFlight agreed orderly =>
    exact .inFlight
      ⟨agreed.unit, agreed.backend, agreed.panicText, agreed.permits, agreed.timeout⟩ orderly.cancel
  | collected agreed orderly settled => exact .collected agreed orderly settled

/-- and putting it on record, once it is settled. -/
theorem Faithful.collect (faithful : work.Faithful environment number now)
    (ended : ∀ submission, work.inFlight? = some submission → submission.isSettled = true) :
    work.collect.Faithful environment number now := by
  cases faithful with
  | nothing => exact .nothing
  | inFlight agreed orderly => exact .collected agreed orderly (ended _ rfl)
  | collected agreed orderly settled => exact .collected agreed orderly settled

/-- Time changes nothing once there is nothing in flight. -/
theorem Faithful.map_of_none (faithful : work.Faithful environment number now)
    (collected : work.inFlight? = none) (target : Nat) :
    (work.map fun submission => submission.runUntil now target) = work := by
  cases faithful with
  | nothing => rfl
  | inFlight agreed orderly => cases collected
  | collected agreed orderly settled => rw [map, Submission.runUntil_of_settled settled]

/-- Time keeps the batches. -/
theorem batches_runUntil (work : HandedOver) (now target : Nat) :
    (work.map fun submission => submission.runUntil now target).batches = work.batches := by
  cases work with
  | nothing => rfl
  | inFlight submission => exact (Submission.continues_runUntil submission now target).batches_eq
  | collected submission => exact (Submission.continues_runUntil submission now target).batches_eq

/-- Time does not give anything up, -/
theorem Kept.runUntil (kept : work.Kept) (now target : Nat) :
    (work.map fun submission => submission.runUntil now target).Kept := by
  rintro _ outstanding
  cases work with
  | nothing => cases outstanding
  | inFlight submission =>
    cases outstanding
    exact (Submission.continues_runUntil submission now target).cancelled.trans (kept _ rfl)
  | collected submission => cases outstanding

/-- and does not revive what was given up: no call begins. -/
theorem Silent.runUntil (silent : work.Silent) (faithful : work.Faithful environment number now)
    (target : Nat) :
    (work.map fun submission => submission.runUntil now target).Silent ∧
      (work.map fun submission => submission.runUntil now target).started = work.started := by
  cases faithful with
  | nothing => exact ⟨silent, rfl⟩
  | @inFlight submission agreed orderly =>
    have given := silent submission rfl
    refine ⟨?_, Submission.started_runUntil given now target⟩
    rintro _ ⟨⟩
    exact (Submission.continues_runUntil submission now target).cancelled.trans given
  | collected agreed orderly settled =>
    rw [map, Submission.runUntil_of_settled settled]
    exact ⟨silent, rfl⟩

/-- What is complete stays so. -/
theorem Complete.runUntil (complete : work.Complete) (now target : Nat) :
    (work.map fun submission => submission.runUntil now target).Complete := by
  cases complete with
  | nothing => exact .nothing
  | @collected submission kept =>
    exact .collected ((Submission.continues_runUntil submission now target).cancelled.trans kept)

/-- There is nothing of it to give up, -/
theorem Complete.cancel (complete : work.Complete) : work.cancel.Complete := by
  cases complete with
  | nothing => exact .nothing
  | collected kept => exact .collected kept

/-- nor to put on record. -/
theorem Complete.collect (complete : work.Complete) : work.collect.Complete := by
  cases complete with
  | nothing => exact .nothing
  | collected kept => exact .collected kept

/-- To give up makes silent, -/
theorem silent_cancel (work : HandedOver) : work.cancel.Silent := by
  cases work with
  | nothing => rintro _ ⟨⟩
  | inFlight submission =>
    rintro _ ⟨⟩
    rfl
  | collected submission => rintro _ ⟨⟩

/-- and so does putting on record. -/
theorem silent_collect (work : HandedOver) : work.collect.Silent := by
  cases work <;> rintro _ ⟨⟩

/-- What was kept in flight is complete once it is put on record. -/
theorem Kept.complete_collect (kept : work.Kept) {submission : Submission}
    (outstanding : work.inFlight? = some submission) : work.collect.Complete := by
  cases work with
  | nothing => cases outstanding
  | inFlight submission => exact .collected (kept _ rfl)
  | collected submission => cases outstanding

@[simp] theorem batches_cancel (work : HandedOver) : work.cancel.batches = work.batches := by
  cases work <;> rfl

@[simp] theorem batches_collect (work : HandedOver) : work.collect.batches = work.batches := by
  cases work <;> rfl

@[simp] theorem started_cancel (work : HandedOver) : work.cancel.started = work.started := by
  cases work <;> rfl

@[simp] theorem started_collect (work : HandedOver) : work.collect.started = work.started := by
  cases work <;> rfl

/-- What is not in flight is not changed by giving it up, -/
theorem cancel_of_none (collected : work.inFlight? = none) : work.cancel = work := by
  cases work with
  | inFlight submission => cases collected
  | nothing => rfl
  | collected submission => rfl

/-- nor by putting it on record. -/
theorem collect_of_none (collected : work.inFlight? = none) : work.collect = work := by
  cases work with
  | inFlight submission => cases collected
  | nothing => rfl
  | collected submission => rfl

end HandedOver

end Reindex
