import Reindex.Proofs.Flush.Outcome
import Reindex.Proofs.Library

/-!
# The two readings of the results

A commit and a rollback both go through the settled batches once, from the first to
the last, and enter what each has come to behind what was entered before. They do so
in loops of their own: a commit enters single refused keys and whole failed batches as
failures, a rollback only counts them. Run side by side over the same results the two
loops stay alike: what the one lists as indexed the other lists as unretracted, and
what the one lists as failures the other counts. A batch that was given up is the
exception. A rollback keeps its keys apart, so it reads the batches that were not
given up as if there were no others.
-/

namespace Reindex

namespace FlushOutcome

/-- Enter a key of an acknowledged batch: as failed if the report lists it, and as
indexed otherwise. -/
def enterKey (report : BatchReport) (outcome : FlushOutcome) (key : EntityKey) : FlushOutcome :=
  match report.rejection? key with
  | some reason => { outcome with failures := outcome.failures ++ [⟨[key], .rejected reason⟩] }
  | none => { outcome with succeeded := outcome.succeeded ++ [key] }

/-- Enter a batch of which no single key is reported: all keys fail for one cause. -/
def enterFailure (outcome : FlushOutcome) (keys : List EntityKey) (cause : FailureCause) :
    FlushOutcome :=
  { outcome with failures := outcome.failures ++ [⟨keys, cause⟩] }

/-- Enter a settled batch. -/
def enter (outcome : FlushOutcome) : SettledBatch → FlushOutcome
  | (keys, .acknowledged report) => keys.foldl (enterKey report) outcome
  | (keys, .failed cause) => outcome.enterFailure keys cause
  | (keys, .discarded) =>
    outcome.enterFailure keys (.backend "batch discarded before submission")
  | (keys, .panicked text) => outcome.enterFailure keys (.backend ("batch task panicked: " ++ text))

/-- What is entered behind an outcome leaves what it holds in front. -/
def followedBy (outcome later : FlushOutcome) : FlushOutcome :=
  { outcome with
    succeeded := outcome.succeeded ++ later.succeeded
    failures := outcome.failures ++ later.failures }

/-- The keys of an acknowledged batch are entered in order. -/
theorem foldl_enterKey (report : BatchReport) (outcome later : FlushOutcome)
    (keys : List EntityKey) :
    (keys.foldl (enterKey report) outcome).followedBy later =
      outcome.followedBy (addAcknowledged report later keys) := by
  induction keys generalizing outcome with
  | nil => rfl
  | cons key rest inductionHypothesis =>
    rw [List.foldl_cons, inductionHypothesis, addAcknowledged]
    cases listed : report.rejection? key with
    | some reason => simp [followedBy, enterKey, listed, addFailure]
    | none => simp [followedBy, enterKey, listed, addSucceeded]

/-- A batch is entered in front of the later ones. -/
theorem enter_followedBy (outcome : FlushOutcome) (batch : SettledBatch)
    (rest : List SettledBatch) :
    (outcome.enter batch).followedBy (ofBatches rest) =
      outcome.followedBy (ofBatches (batch :: rest)) := by
  obtain ⟨keys, result⟩ := batch
  cases result with
  | acknowledged report => exact foldl_enterKey report outcome (ofBatches rest) keys
  | failed cause => simp [followedBy, enter, enterFailure, ofBatches, addFailure]
  | panicked text => simp [followedBy, enter, enterFailure, ofBatches, addFailure]
  | discarded => simp [followedBy, enter, enterFailure, ofBatches, addFailure]

/-- The loop over settled batches enters their outcome behind what it began with. -/
theorem foldl_enter (outcome : FlushOutcome) (settled : List SettledBatch) :
    settled.foldl enter outcome = outcome.followedBy (ofBatches settled) := by
  induction settled generalizing outcome with
  | nil => simp [followedBy, ofBatches]
  | cons batch rest inductionHypothesis =>
    rw [List.foldl_cons, inductionHypothesis, enter_followedBy]

/-- Keys are entered without regard to the time. -/
theorem duration_addAcknowledged (report : BatchReport) (later : FlushOutcome)
    (keys : List EntityKey) : (addAcknowledged report later keys).duration = later.duration := by
  induction keys with
  | nil => rfl
  | cons key rest inductionHypothesis =>
    rw [addAcknowledged]
    cases report.rejection? key with
    | some reason => exact inductionHypothesis
    | none => exact inductionHypothesis

/-- No time has been taken yet. -/
theorem duration_ofBatches (settled : List SettledBatch) : (ofBatches settled).duration = 0 := by
  induction settled with
  | nil => rfl
  | cons batch rest inductionHypothesis =>
    obtain ⟨keys, result⟩ := batch
    cases result with
    | acknowledged report =>
      exact (duration_addAcknowledged report (ofBatches rest) keys).trans inductionHypothesis
    | failed cause => exact inductionHypothesis
    | panicked text => exact inductionHypothesis
    | discarded => exact inductionHypothesis

/-- The outcome of settled batches is what the loop makes of their number. -/
theorem ofBatches_eq_foldl (settled : List SettledBatch) :
    ofBatches settled = settled.foldl enter { batches := settled.length } := by
  rw [foldl_enter, followedBy, ← batches_ofBatches, ← duration_ofBatches settled]
  rfl

end FlushOutcome

namespace RollbackOutcome

/-- Enter a key of an acknowledged batch: count it if the report lists it, and list it
as unretracted otherwise. -/
def enterKey (report : BatchReport) (outcome : RollbackOutcome) (key : EntityKey) :
    RollbackOutcome :=
  if (report.rejection? key).isSome then
    { outcome with ignoredFailures := outcome.ignoredFailures + 1 }
  else { outcome with unretracted := outcome.unretracted ++ [key] }

/-- Enter a settled batch. -/
def enter (outcome : RollbackOutcome) : SettledBatch → RollbackOutcome
  | (keys, .acknowledged report) => keys.foldl (enterKey report) outcome
  | (keys, .discarded) => { outcome with discarded := outcome.discarded ++ keys }
  | (_, .failed _) | (_, .panicked _) =>
    { outcome with ignoredFailures := outcome.ignoredFailures + 1 }

/-- What is entered behind an outcome leaves what it holds in front. -/
def followedBy (outcome later : RollbackOutcome) : RollbackOutcome where
  discarded := outcome.discarded ++ later.discarded
  unretracted := outcome.unretracted ++ later.unretracted
  ignoredFailures := outcome.ignoredFailures + later.ignoredFailures

/-- The keys of an acknowledged batch are parted by the report, in order. -/
theorem foldl_enterKey (report : BatchReport) (outcome : RollbackOutcome)
    (keys : List EntityKey) :
    keys.foldl (enterKey report) outcome =
      outcome.followedBy
        { unretracted := keys.filter fun key => (report.rejection? key).isNone
          ignoredFailures := (keys.filter fun key => (report.rejection? key).isSome).length } := by
  induction keys generalizing outcome with
  | nil => simp [followedBy]
  | cons key rest inductionHypothesis =>
    rw [List.foldl_cons, inductionHypothesis]
    cases listed : report.rejection? key with
    | some reason =>
      simp [followedBy, enterKey, listed]
      omega
    | none => simp [followedBy, enterKey, listed]

/-- A batch is entered in front of the later ones. -/
theorem enter_followedBy (outcome : RollbackOutcome) (batch : SettledBatch)
    (rest : List SettledBatch) :
    (outcome.enter batch).followedBy (ofBatches rest) =
      outcome.followedBy (ofBatches (batch :: rest)) := by
  obtain ⟨keys, result⟩ := batch
  cases result with
  | acknowledged report =>
    rw [enter, foldl_enterKey]
    simp [followedBy, ofBatches, Nat.add_assoc]
  | failed cause =>
    simp [followedBy, enter, ofBatches]
    omega
  | panicked text =>
    simp [followedBy, enter, ofBatches]
    omega
  | discarded => simp [followedBy, enter, ofBatches]

/-- The loop over settled batches enters their outcome behind what it began with. -/
theorem foldl_enter (outcome : RollbackOutcome) (settled : List SettledBatch) :
    settled.foldl enter outcome = outcome.followedBy (ofBatches settled) := by
  induction settled generalizing outcome with
  | nil => simp [followedBy, ofBatches]
  | cons batch rest inductionHypothesis =>
    rw [List.foldl_cons, inductionHypothesis, enter_followedBy]

/-- The outcome of giving up is what the loop makes of nothing. -/
theorem ofBatches_eq_foldl (settled : List SettledBatch) :
    ofBatches settled = settled.foldl enter {} := by
  simp [foldl_enter, followedBy]

end RollbackOutcome

/-- A rollback has listed what a commit has listed as indexed, and has counted what
the commit has listed as failures. -/
structure Alike (told : FlushOutcome) (counted : RollbackOutcome) : Prop where
  unretracted : counted.unretracted = told.succeeded
  ignoredFailures : counted.ignoredFailures = told.failures.length

namespace Alike

variable {told : FlushOutcome} {counted : RollbackOutcome}

/-- Both loops ask the report the same question of every key. -/
theorem enterKey (alike : Alike told counted) (report : BatchReport) (key : EntityKey) :
    Alike (told.enterKey report key) (counted.enterKey report key) := by
  obtain ⟨unretracted, ignoredFailures⟩ := alike
  unfold FlushOutcome.enterKey RollbackOutcome.enterKey
  cases report.rejection? key with
  | some reason => exact ⟨unretracted, by simp [ignoredFailures]⟩
  | none => exact ⟨by simp [unretracted], ignoredFailures⟩

/-- All keys of an acknowledged batch are read alike. -/
theorem enterKeys (alike : Alike told counted) (report : BatchReport) (keys : List EntityKey) :
    Alike (keys.foldl (FlushOutcome.enterKey report) told)
      (keys.foldl (RollbackOutcome.enterKey report) counted) := by
  induction keys generalizing told counted with
  | nil => exact alike
  | cons key rest inductionHypothesis => exact inductionHypothesis (alike.enterKey report key)

/-- A batch that was not given up is read alike. -/
theorem enter (alike : Alike told counted) {batch : SettledBatch}
    (called : batch.2.isDiscarded = false) : Alike (told.enter batch) (counted.enter batch) := by
  obtain ⟨keys, result⟩ := batch
  have failed (cause : FailureCause) : Alike (told.enterFailure keys cause)
      { counted with ignoredFailures := counted.ignoredFailures + 1 } :=
    ⟨alike.unretracted, by simp [FlushOutcome.enterFailure, alike.ignoredFailures]⟩
  cases result with
  | acknowledged report => exact alike.enterKeys report keys
  | failed cause => exact failed _
  | panicked text => exact failed _
  | discarded => cases called

/-- A rollback that enters a batch that was given up is as if it had not. -/
theorem pass (alike : Alike told counted) {batch : SettledBatch}
    (discarded : batch.2.isDiscarded = true) : Alike told (counted.enter batch) := by
  obtain ⟨keys, result⟩ := batch
  cases result with
  | discarded => exact ⟨alike.unretracted, alike.ignoredFailures⟩
  | acknowledged report => cases discarded
  | failed cause => cases discarded
  | panicked text => cases discarded

/-- While a rollback goes through all batches, and a commit through those that were
not given up, the two stay alike. -/
theorem foldl (alike : Alike told counted) (settled : List SettledBatch) :
    Alike ((settled.filter fun batch => !batch.2.isDiscarded).foldl FlushOutcome.enter told)
      (settled.foldl RollbackOutcome.enter counted) := by
  induction settled generalizing told counted with
  | nil => exact alike
  | cons batch rest inductionHypothesis =>
    rw [List.filter_cons]
    cases given : batch.2.isDiscarded with
    | false => exact inductionHypothesis (alike.enter given)
    | true => exact inductionHypothesis (alike.pass given)

end Alike

/-- The batches that were not given up. -/
def reachedBatches (settled : List SettledBatch) : List SettledBatch :=
  settled.filter fun batch => !batch.2.isDiscarded

/-- A rollback of all batches is like a commit of those that were not given up. -/
theorem Alike.ofBatches (settled : List SettledBatch) :
    Alike (.ofBatches (reachedBatches settled)) (.ofBatches settled) := by
  rw [FlushOutcome.ofBatches_eq_foldl, RollbackOutcome.ofBatches_eq_foldl]
  have started : Alike { batches := (reachedBatches settled).length } {} := ⟨rfl, rfl⟩
  exact started.foldl settled

/-- Where no batch was given up, all of them were reached. -/
theorem reachedBatches_eq_self {settled : List SettledBatch}
    (reached : ∀ batch ∈ settled, batch.2 ≠ .discarded) : reachedBatches settled = settled := by
  refine List.filter_eq_self.2 fun batch member => ?_
  obtain ⟨keys, result⟩ := batch
  cases result with
  | discarded => exact absurd rfl (reached _ member)
  | _ => rfl

/-- A rollback lists the keys of the batches that were given up, in order. -/
theorem RollbackOutcome.discarded_ofBatches (settled : List SettledBatch) :
    (ofBatches settled).discarded =
      (settled.filter fun batch => batch.2.isDiscarded).flatMap Prod.fst := by
  rw [ofBatches_eq]
  induction settled with
  | nil => rfl
  | cons batch rest inductionHypothesis =>
    rw [List.filter_cons]
    cases given : batch.2.isDiscarded with
    | false => simpa [given] using inductionHypothesis
    | true => simpa [given] using inductionHypothesis

/-- A commit and a rollback read the same results alike, whatever the reports say and
of whichever keys. Where no batch was given up, the rollback lists as unretracted what
the commit lists as indexed, and counts as many failures as the commit lists. Where
some were, the rollback lists their keys, batch after batch, and the rest of what it
tells is what it tells of the other batches alone. -/
theorem results_read_alike (settled : List SettledBatch) :
    ((∀ batch ∈ settled, batch.2 ≠ .discarded) →
      (RollbackOutcome.ofBatches settled).unretracted =
          (FlushOutcome.ofBatches settled).succeeded ∧
        (RollbackOutcome.ofBatches settled).ignoredFailures =
          (FlushOutcome.ofBatches settled).failures.length) ∧
    (RollbackOutcome.ofBatches settled).discarded =
      (settled.filter fun batch => batch.2.isDiscarded).flatMap Prod.fst ∧
    (RollbackOutcome.ofBatches settled).unretracted =
      (RollbackOutcome.ofBatches (reachedBatches settled)).unretracted ∧
    (RollbackOutcome.ofBatches settled).ignoredFailures =
      (RollbackOutcome.ofBatches (reachedBatches settled)).ignoredFailures := by
  have all := Alike.ofBatches settled
  refine ⟨fun reached => ?_, RollbackOutcome.discarded_ofBatches settled, ?_⟩
  · rw [reachedBatches_eq_self reached] at all
    exact ⟨all.unretracted, all.ignoredFailures⟩
  · -- a commit of the reached batches is what both rollbacks are compared with
    have reached := Alike.ofBatches (reachedBatches settled)
    have twice : reachedBatches (reachedBatches settled) = reachedBatches settled :=
      List.filter_filter.trans (by simp [reachedBatches])
    rw [twice] at reached
    exact ⟨all.unretracted.trans reached.unretracted.symm,
      all.ignoredFailures.trans reached.ignoredFailures.symm⟩

namespace Library

/-- Three batches: of the first one book 2 is refused, and the report speaks of a book
that the batch does not hold; the second one panics, and the third one is too late. -/
def verdicts : List SettledBatch := [
  ([bookKey "1", bookKey "2"],
    .acknowledged ⟨[(bookKey "2", "too long"), (bookKey "9", "unknown")]⟩),
  ([bookKey "3", bookKey "4"], .panicked "task 7 panicked with message \"out of shelves\""),
  ([bookKey "5"], .failed (.timeout 100))]

/-- Book 1 is indexed and stays so. One refusal and two failed batches are three
failures, to whichever side they are told. -/
theorem verdicts_read_alike :
    (∀ batch ∈ verdicts, batch.2 ≠ .discarded) ∧
    (FlushOutcome.ofBatches verdicts).succeeded = [bookKey "1"] ∧
    (RollbackOutcome.ofBatches verdicts).unretracted = [bookKey "1"] ∧
    (FlushOutcome.ofBatches verdicts).failures.length = 3 ∧
    (RollbackOutcome.ofBatches verdicts).ignoredFailures = 3 := by
  have reached : ∀ batch ∈ verdicts, batch.2 ≠ .discarded := by
    simp [verdicts]
  obtain ⟨unretracted, ignoredFailures⟩ := (results_read_alike verdicts).1 reached
  have indexed : (FlushOutcome.ofBatches verdicts).succeeded = [bookKey "1"] := by decide
  have failed : (FlushOutcome.ofBatches verdicts).failures.length = 3 := by decide
  exact ⟨reached, indexed, unretracted.trans indexed, failed, ignoredFailures.trans failed⟩

end Library

end Reindex
