import Reindex.Proofs.Flush.Outcome
import Reindex.Proofs.UnitOfWork.Moves
import Mathlib.Data.List.Forall2

/-!
# Panics in the words of two runtimes

When the task of a batch panics, the runtime tells of it in words of its own: it names the
task by a number, and another run may give the same task another number. These words are
all that differs between two runs whose batches end alike. The same keys are indexed, the
failures are of the same keys in the same order, and each cause is the same, or it is a
panic of the same batch with the same message, which either runtime tells in its way.
-/

namespace Reindex

/-- One cause in the words of two runtimes. -/
inductive SameCause (services other : Services) : FailureCause → FailureCause → Prop
  /-- Only panics are told by the runtime. -/
  | same (cause : FailureCause) : SameCause services other cause cause
  | panicked (batch : WorkBatch) (message : Option String) :
      SameCause services other
        (.backend ("batch task panicked: " ++ services.panicText batch message))
        (.backend ("batch task panicked: " ++ other.panicText batch message))

/-- One failure in the words of two runtimes. -/
structure SameFailure (services other : Services) (failure told : Failure) : Prop where
  keys : failure.keys = told.keys
  cause : SameCause services other failure.cause told.cause

/-- One result of a batch in the words of two runtimes. -/
inductive SameResult (services other : Services) : BatchResult → BatchResult → Prop
  | same (result : BatchResult) : SameResult services other result result
  | panicked (batch : WorkBatch) (message : Option String) :
      SameResult services other (.panicked (services.panicText batch message))
        (.panicked (other.panicText batch message))

variable {services other : Services}

/-- Two results tell the same of a key: whether it is accepted, and for which of the causes
that count as the same it fails. -/
structure BatchResult.AgreeOn (same : FailureCause → FailureCause → Prop)
    (result told : BatchResult) (key : EntityKey) : Prop where
  accepts : result.accepts key = told.accepts key
  causes : ∀ cause, result.cause? key = some cause →
    ∃ other, same cause other ∧ told.cause? key = some other
  others : ∀ other, told.cause? key = some other →
    ∃ cause, same cause other ∧ result.cause? key = some cause

/-- A result agrees with itself. -/
theorem BatchResult.AgreeOn.refl {same : FailureCause → FailureCause → Prop}
    (reflexive : ∀ cause, same cause cause) (result : BatchResult) (key : EntityKey) :
    result.AgreeOn same result key :=
  ⟨rfl, fun cause fails => ⟨cause, reflexive cause, fails⟩,
    fun other fails => ⟨other, reflexive other, fails⟩⟩

namespace SameResult

variable {result told : BatchResult}

/-- The same keys are indexed, -/
theorem accepts_eq (same : SameResult services other result told) :
    result.accepts = told.accepts := by
  cases same <;> rfl

/-- by the same failures. -/
theorem failures (same : SameResult services other result told) (keys : List EntityKey) :
    List.Forall₂ (SameFailure services other) (result.failures keys) (told.failures keys) := by
  cases same with
  | same result => exact List.forall₂_same.2 fun failure _ => ⟨rfl, .same failure.cause⟩
  | panicked batch message => exact .cons ⟨rfl, .panicked batch message⟩ .nil

/-- So outcomes of batches with the same results are the same. -/
theorem ofBatches {results tolds : WorkBatch → BatchResult} {batches : List WorkBatch}
    (same : ∀ batch ∈ batches, SameResult services other (results batch) (tolds batch)) :
    let outcome := FlushOutcome.ofBatches (batches.map fun batch => (batch.keys, results batch))
    let told := FlushOutcome.ofBatches (batches.map fun batch => (batch.keys, tolds batch))
    outcome.succeeded = told.succeeded ∧
      List.Forall₂ (SameFailure services other) outcome.failures told.failures ∧
        outcome.batches = told.batches := by
  intro outcome told
  refine ⟨?_, ?_, ?_⟩
  · rw [FlushOutcome.succeeded_ofBatches, FlushOutcome.succeeded_ofBatches, List.flatMap_map,
      List.flatMap_map]
    refine List.flatMap_congr fun batch member => ?_
    rw [(same batch member).accepts_eq]
  · rw [FlushOutcome.failures_ofBatches, FlushOutcome.failures_ofBatches, List.flatMap_map,
      List.flatMap_map]
    induction batches with
    | nil => exact .nil
    | cons first rest inductionHypothesis =>
      rw [List.flatMap_cons, List.flatMap_cons]
      refine List.rel_append ((same first List.mem_cons_self).failures first.keys) ?_
      exact inductionHypothesis fun batch member => same batch (List.mem_cons_of_mem _ member)
  · rw [FlushOutcome.batches_ofBatches, FlushOutcome.batches_ofBatches, List.length_map,
      List.length_map]

end SameResult

end Reindex
