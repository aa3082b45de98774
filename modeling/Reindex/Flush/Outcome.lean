import Reindex.Error
import Reindex.Work

/-!
# Outcomes

What became of the submitted batches, told twice: a commit reports every key as
indexed or as failed with its cause, a rollback reports which keys never reached
the backend and which did and stay in the index. A report decides key by key; a
batch that failed as a whole fails all its keys for one cause.
-/

namespace Reindex

/-- How the task of a batch ended. -/
inductive BatchResult where
  | acknowledged (report : BatchReport)
  | failed (cause : FailureCause)
  /-- The task panicked, and the runtime says this of it. -/
  | panicked (text : String)
  /-- Given up before the backend was called. -/
  | discarded

/-- The keys of a submitted batch, and how its task ended. -/
abbrev SettledBatch := List EntityKey × BatchResult

/-- The result of a flush. -/
structure FlushOutcome where
  succeeded : List EntityKey := []
  failures : List Failure := []
  batches : Nat := 0
  /-- How long the flush took, in milliseconds. -/
  duration : Nat := 0

namespace FlushOutcome

/-- Whether every key was indexed. -/
def isSuccess (outcome : FlushOutcome) : Bool := outcome.failures.isEmpty

/-- The keys that were not indexed. -/
def failedKeys (outcome : FlushOutcome) : List EntityKey := Failure.allKeys outcome.failures

/-- The outcome of a success, and otherwise an error that lists both kinds of key. -/
def toResult (outcome : FlushOutcome) : Except IndexingError FlushOutcome :=
  if outcome.isSuccess then .ok outcome
  else .error (.flushFailed outcome.failedKeys outcome.succeeded outcome.failures)

/-- One more indexed key. -/
def addSucceeded (key : EntityKey) (outcome : FlushOutcome) : FlushOutcome :=
  { outcome with succeeded := key :: outcome.succeeded }

/-- One more failure. -/
def addFailure (keys : List EntityKey) (cause : FailureCause) (outcome : FlushOutcome) :
    FlushOutcome :=
  { outcome with failures := ⟨keys, cause⟩ :: outcome.failures }

/-- Enter the keys of an acknowledged batch in front of an outcome: each is
indexed, or fails for the reason that the report gives. -/
def addAcknowledged (report : BatchReport) (later : FlushOutcome) : List EntityKey → FlushOutcome
  | [] => later
  | key :: rest =>
    let outcome := addAcknowledged report later rest
    match report.rejection? key with
    | some reason => outcome.addFailure [key] (.rejected reason)
    | none => outcome.addSucceeded key

/-- The outcome of settled batches, in order. -/
def ofBatches : List SettledBatch → FlushOutcome
  | [] => {}
  | (keys, result) :: rest =>
    let later := ofBatches rest
    let outcome := match result with
      | .acknowledged report => addAcknowledged report later keys
      | .failed cause => later.addFailure keys cause
      | .discarded => later.addFailure keys (.backend "batch discarded before submission")
      | .panicked text => later.addFailure keys (.backend ("batch task panicked: " ++ text))
    { outcome with batches := later.batches + 1 }

end FlushOutcome

/-- The result of a rollback. -/
structure RollbackOutcome where
  /-- The keys whose work never reached the backend. -/
  discarded : List EntityKey := []
  /-- The keys that the backend acknowledged; their documents stay in the index. -/
  unretracted : List EntityKey := []
  /-- How many failures of submitted work nobody is told of. -/
  ignoredFailures : Nat := 0

namespace RollbackOutcome

/-- The outcome of giving up batches: the refused keys of a batch count as
ignored failures, and so does a batch that failed as a whole. -/
def ofBatches : List SettledBatch → RollbackOutcome
  | [] => {}
  | (keys, result) :: rest =>
    let later := ofBatches rest
    match result with
    | .acknowledged report =>
      let refused := keys.filter fun key => (report.rejection? key).isSome
      let kept := keys.filter fun key => (report.rejection? key).isNone
      { later with
        unretracted := kept ++ later.unretracted
        ignoredFailures := refused.length + later.ignoredFailures }
    | .failed _ | .panicked _ => { later with ignoredFailures := later.ignoredFailures + 1 }
    | .discarded => { later with discarded := keys ++ later.discarded }

end RollbackOutcome

end Reindex
