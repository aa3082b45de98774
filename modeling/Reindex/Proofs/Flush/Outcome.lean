import Reindex.Flush.Outcome
import Mathlib.Data.List.Perm.Basic

/-!
# What an outcome says of each key

An outcome is read key by key. A result accepts a key when the batch was
acknowledged and the report does not list the key; what the report says of other
keys is of no account. The keys of each batch are parted by that: the accepted
ones are indexed and the others fail, each side in the order of the batches.
-/

namespace Reindex

/-- Whether a key of a batch was indexed. -/
def BatchResult.accepts (result : BatchResult) (key : EntityKey) : Bool :=
  match result with
  | .acknowledged report => (report.rejection? key).isNone
  | _ => false

/-- A key is indexed exactly when its batch is acknowledged without listing it. -/
theorem BatchResult.accepts_iff {result : BatchResult} {key : EntityKey} :
    result.accepts key = true ↔
      ∃ report, result = .acknowledged report ∧ report.rejection? key = none := by
  cases result with
  | acknowledged report => simp [accepts]
  | _ => simp [accepts]

/-- Why a key of a batch was not indexed, if it was not. -/
def BatchResult.cause? (result : BatchResult) (key : EntityKey) : Option FailureCause :=
  match result with
  | .acknowledged report => (report.rejection? key).map .rejected
  | .failed cause => some cause
  | .panicked text => some (.backend ("batch task panicked: " ++ text))
  | .discarded => some (.backend "batch discarded before submission")

/-- Whether a batch failed as a whole when it was called. -/
def BatchResult.isFailure : BatchResult → Bool
  | .failed _ | .panicked _ => true
  | _ => false

/-- Whether a batch was given up before it was called. -/
def BatchResult.isDiscarded : BatchResult → Bool
  | .discarded => true
  | _ => false

/-- Whether a key of an acknowledged batch was refused. -/
def BatchResult.refuses (result : BatchResult) (key : EntityKey) : Bool :=
  match result with
  | .acknowledged report => (report.rejection? key).isSome
  | _ => false

/-- A result without a report accepts no key and refuses none. -/
theorem BatchResult.filter_unacknowledged {result : BatchResult}
    (unacknowledged : ∀ report, result ≠ .acknowledged report) (keys : List EntityKey) :
    keys.filter result.accepts = [] ∧ keys.filter result.refuses = [] := by
  cases result with
  | acknowledged report => exact absurd rfl (unacknowledged report)
  | _ => exact ⟨List.filter_false keys, List.filter_false keys⟩

/-- What has failed was called, and says nothing of single keys. -/
theorem BatchResult.parts_of_failure {result : BatchResult} (failed : result.isFailure = true) :
    result.isDiscarded = false ∧ (result.accepts = fun _ => false) ∧
      result.refuses = fun _ => false := by
  cases result with
  | failed cause => exact ⟨rfl, rfl, rfl⟩
  | panicked text => exact ⟨rfl, rfl, rfl⟩
  | acknowledged report => cases failed
  | discarded => cases failed

namespace FlushOutcome

/-- The keys of an acknowledged batch join the indexed ones when they are accepted. -/
theorem succeeded_addAcknowledged (report : BatchReport) (later : FlushOutcome)
    (keys : List EntityKey) :
    (addAcknowledged report later keys).succeeded =
      keys.filter (BatchResult.acknowledged report).accepts ++ later.succeeded := by
  induction keys with
  | nil => rfl
  | cons key rest inductionHypothesis =>
    rw [addAcknowledged, List.filter_cons]
    cases listed : report.rejection? key with
    | some reason => simp [BatchResult.accepts, listed, addFailure, inductionHypothesis]
    | none => simp [BatchResult.accepts, listed, addSucceeded, inductionHypothesis]

/-- The keys that are not accepted join the failed ones. -/
theorem failedKeys_addAcknowledged (report : BatchReport) (later : FlushOutcome)
    (keys : List EntityKey) :
    (addAcknowledged report later keys).failedKeys =
      (keys.filter fun key => !(BatchResult.acknowledged report).accepts key) ++
        later.failedKeys := by
  induction keys with
  | nil => rfl
  | cons key rest inductionHypothesis =>
    rw [failedKeys, Failure.allKeys] at inductionHypothesis
    rw [addAcknowledged, List.filter_cons]
    cases listed : report.rejection? key with
    | some reason =>
      simp [BatchResult.accepts, listed, addFailure, failedKeys, Failure.allKeys,
        inductionHypothesis]
    | none =>
      simp [BatchResult.accepts, listed, addSucceeded, failedKeys, Failure.allKeys,
        inductionHypothesis]

/-- The indexed keys are the accepted ones of each batch. -/
theorem succeeded_ofBatches (settled : List SettledBatch) :
    (ofBatches settled).succeeded =
      settled.flatMap fun batch => batch.1.filter batch.2.accepts := by
  induction settled with
  | nil => rfl
  | cons batch rest inductionHypothesis =>
    obtain ⟨keys, result⟩ := batch
    rw [List.flatMap_cons, ← inductionHypothesis]
    cases result with
    | acknowledged report => exact succeeded_addAcknowledged report _ keys
    | _ => simp [ofBatches, addFailure, BatchResult.accepts]

/-- A key is indexed when its batch holds it and accepts it. -/
theorem mem_succeeded_ofBatches {settled : List SettledBatch} {key : EntityKey} :
    key ∈ (ofBatches settled).succeeded ↔
      ∃ batch ∈ settled, key ∈ batch.1 ∧ batch.2.accepts key = true := by
  simp [succeeded_ofBatches]

/-- The indexed keys keep the order of the batches. -/
theorem succeeded_ofBatches_sublist (settled : List SettledBatch) :
    (ofBatches settled).succeeded.Sublist (settled.flatMap Prod.fst) := by
  rw [succeeded_ofBatches]
  induction settled with
  | nil => exact .slnil
  | cons batch rest inductionHypothesis =>
    rw [List.flatMap_cons, List.flatMap_cons]
    exact List.filter_sublist.append inductionHypothesis

/-- The failed keys are the other ones of each batch. -/
theorem failedKeys_ofBatches (settled : List SettledBatch) :
    (ofBatches settled).failedKeys =
      settled.flatMap fun batch => batch.1.filter fun key => !batch.2.accepts key := by
  induction settled with
  | nil => rfl
  | cons batch rest inductionHypothesis =>
    obtain ⟨keys, result⟩ := batch
    rw [List.flatMap_cons, ← inductionHypothesis]
    cases result with
    | acknowledged report => exact failedKeys_addAcknowledged report _ keys
    | _ => simp [ofBatches, addFailure, failedKeys, Failure.allKeys, BatchResult.accepts]

/-- Every key of a batch is on one side and no other key is on either. -/
theorem ofBatches_perm (settled : List SettledBatch) :
    ((ofBatches settled).succeeded ++ (ofBatches settled).failedKeys).Perm
      (settled.flatMap Prod.fst) := by
  rw [succeeded_ofBatches, failedKeys_ofBatches]
  induction settled with
  | nil => exact .refl _
  | cons batch rest inductionHypothesis =>
    obtain ⟨keys, result⟩ := batch
    simp only [List.flatMap_cons]
    have parted := List.filter_append_perm result.accepts keys
    have swapped := (List.perm_append_comm_assoc
      (rest.flatMap fun batch => batch.1.filter batch.2.accepts)
      (keys.filter fun key => !result.accepts key)
      (rest.flatMap fun batch => batch.1.filter fun key => !batch.2.accepts key)).append_left
        (keys.filter result.accepts)
    rw [List.append_assoc]
    refine swapped.trans ?_
    rw [← List.append_assoc]
    exact parted.append inductionHypothesis

variable {key : EntityKey} {cause : FailureCause}

/-- The failures of the keys that are refused, each on its own and for its own reason. -/
def refusals (reject : EntityKey → Option String) (keys : List EntityKey) : List Failure :=
  keys.filterMap fun key => (reject key).map fun reason => ⟨[key], .rejected reason⟩

/-- The refused keys of an acknowledged batch fail in front of the later ones. -/
theorem failures_addAcknowledged (report : BatchReport) (later : FlushOutcome)
    (keys : List EntityKey) :
    (addAcknowledged report later keys).failures =
      refusals report.rejection? keys ++ later.failures := by
  induction keys with
  | nil => rfl
  | cons key rest inductionHypothesis =>
    rw [addAcknowledged, refusals, List.filterMap_cons]
    cases listed : report.rejection? key with
    | some reason => simp [addFailure, inductionHypothesis, refusals]
    | none => simp [addSucceeded, inductionHypothesis, refusals]

end FlushOutcome

/-- The failures of a batch with some keys. -/
def BatchResult.failures (keys : List EntityKey) : BatchResult → List Failure
  | .acknowledged report => FlushOutcome.refusals report.rejection? keys
  | .failed cause => [⟨keys, cause⟩]
  | .panicked text => [⟨keys, .backend ("batch task panicked: " ++ text)⟩]
  | .discarded => [⟨keys, .backend "batch discarded before submission"⟩]

namespace FlushOutcome

/-- An outcome has the failures of all batches, in their order, -/
theorem failures_ofBatches (settled : List SettledBatch) :
    (ofBatches settled).failures = settled.flatMap fun batch => batch.2.failures batch.1 := by
  induction settled with
  | nil => rfl
  | cons batch rest inductionHypothesis =>
    obtain ⟨keys, result⟩ := batch
    rw [List.flatMap_cons, ← inductionHypothesis]
    cases result with
    | acknowledged report => exact failures_addAcknowledged report _ keys
    | _ => rfl

/-- and counts them all. -/
theorem batches_ofBatches (settled : List SettledBatch) :
    (ofBatches settled).batches = settled.length := by
  induction settled with
  | nil => rfl
  | cons batch rest inductionHypothesis =>
    rw [List.length_cons, ← inductionHypothesis]
    rfl

/-- When every batch is acknowledged and its keys are refused by a rule that is the same for
all batches, the outcome is that of all keys at once. What the reports say of keys that are
not in their batch is of no account. -/
theorem ofBatches_of_judged {settled : List SettledBatch} {reject : EntityKey → Option String}
    (judged : ∀ batch ∈ settled, ∃ report, batch.2 = .acknowledged report ∧
      ∀ key ∈ batch.1, report.rejection? key = reject key) :
    (ofBatches settled).succeeded =
        (settled.flatMap Prod.fst).filter (fun key => (reject key).isNone) ∧
      (ofBatches settled).failures = refusals reject (settled.flatMap Prod.fst) := by
  constructor
  · rw [succeeded_ofBatches, List.filter_flatMap]
    refine List.flatMap_congr fun batch member => List.filter_congr fun key listed => ?_
    obtain ⟨report, acknowledged, ruled⟩ := judged batch member
    rw [acknowledged, ← ruled key listed]
    rfl
  · rw [failures_ofBatches, refusals, List.filterMap_flatMap]
    refine List.flatMap_congr fun batch member => ?_
    obtain ⟨report, acknowledged, ruled⟩ := judged batch member
    rw [acknowledged]
    exact List.filterMap_congr fun key listed => by rw [ruled key listed]

end FlushOutcome

namespace RollbackOutcome

/-- A rollback lists the keys of the batches that were given up and the accepted ones of
the others, and counts the batches that failed and the refused keys. -/
theorem ofBatches_eq (settled : List SettledBatch) :
    ofBatches settled =
      { discarded := settled.flatMap fun batch => if batch.2.isDiscarded then batch.1 else []
        unretracted := settled.flatMap fun batch => batch.1.filter batch.2.accepts
        ignoredFailures := (settled.countP fun batch => batch.2.isFailure) +
          (settled.flatMap fun batch => batch.1.filter batch.2.refuses).length } := by
  induction settled with
  | nil => rfl
  | cons batch rest inductionHypothesis =>
    obtain ⟨keys, result⟩ := batch
    simp only [List.flatMap_cons, List.countP_cons]
    by_cases acknowledged : ∃ report, result = .acknowledged report
    · obtain ⟨report, rfl⟩ := acknowledged
      have accepts : (BatchResult.acknowledged report).accepts =
          fun key => (report.rejection? key).isNone := rfl
      have refuses : (BatchResult.acknowledged report).refuses =
          fun key => (report.rejection? key).isSome := rfl
      simp [ofBatches, inductionHypothesis, accepts, refuses, BatchResult.isDiscarded,
        BatchResult.isFailure]
      omega
    · obtain ⟨accepts, refuses⟩ := BatchResult.filter_unacknowledged
        (fun report same => acknowledged ⟨report, same⟩) keys
      rw [accepts, refuses]
      cases result with
      | acknowledged report => exact absurd ⟨report, rfl⟩ acknowledged
      | failed cause =>
        simp [ofBatches, inductionHypothesis, BatchResult.isDiscarded, BatchResult.isFailure]
        omega
      | panicked text =>
        simp [ofBatches, inductionHypothesis, BatchResult.isDiscarded, BatchResult.isFailure]
        omega
      | discarded =>
        simp [ofBatches, inductionHypothesis, BatchResult.isDiscarded, BatchResult.isFailure]

/-- What a rollback tells of batches of which the first ones were called and the others
were not. -/
theorem ofBatches_called (result : WorkBatch → BatchResult) (called uncalled : List WorkBatch)
    (answered : ∀ batch, (result batch).isDiscarded = false) :
    ofBatches ((called.map fun batch => (batch.keys, result batch)) ++
        uncalled.map fun batch => (batch.keys, .discarded)) =
      { discarded := uncalled.flatMap WorkBatch.keys
        unretracted := called.flatMap fun batch => batch.keys.filter (result batch).accepts
        ignoredFailures := (called.countP fun batch => (result batch).isFailure) +
          (called.flatMap fun batch => batch.keys.filter (result batch).refuses).length } := by
  have given : BatchResult.discarded.isDiscarded = true ∧
      BatchResult.discarded.isFailure = false := ⟨rfl, rfl⟩
  have unaccepted (keys : List EntityKey) := @BatchResult.filter_unacknowledged .discarded
    (by simp) keys
  rw [ofBatches_eq]
  simp [List.flatMap_map, List.countP_map, Function.comp_def, answered, given, unaccepted,
    -List.length_flatMap]

end RollbackOutcome

end Reindex
