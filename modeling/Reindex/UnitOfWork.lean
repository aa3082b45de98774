import Reindex.Flush.Prepared
import Reindex.Lifecycle
import Reindex.Metrics
import Reindex.Submission
import Reindex.WorkState

/-!
# Units of work

One unit of work goes with one transaction. While it is open it gathers a plan.
Before the commit the plan is prepared and its batches are submitted; after the
commit their results are collected and decide between committed and failed; a
rollback gives up what has not reached the backend and reports what has.

The calls below do everything that takes no time. Where a call has to wait for
the backend it is cut in two, and the engine lets time pass in between. Each call
also says what the collaborators were asked and what is to be counted.
-/

namespace Reindex

/-- Batches that a unit has submitted. -/
inductive HandedOver where
  | nothing
  /-- Their results have not been taken. -/
  | inFlight (submission : Submission)
  /-- Their results have been taken; what was called is still on record. -/
  | collected (submission : Submission)

namespace HandedOver

/-- The batches whose results have not been taken. -/
def inFlight? : HandedOver → Option Submission
  | .inFlight submission => some submission
  | _ => none

/-- Apply a function to the batches, in flight or not. -/
def map (f : Submission → Submission) : HandedOver → HandedOver
  | .nothing => .nothing
  | .inFlight submission => .inFlight (f submission)
  | .collected submission => .collected (f submission)

/-- The batches are on record only. -/
def collect : HandedOver → HandedOver
  | .inFlight submission => .collected submission
  | other => other

/-- The calls of the backend. -/
def calls : HandedOver → List BackendCall
  | .nothing => []
  | .inFlight submission | .collected submission => submission.calls

end HandedOver

/-- A unit of work. Instants are in milliseconds. -/
structure UnitOfWork where
  state : WorkState Nat
  plan : Option Plan
  work : HandedOver := .nothing
  /-- Failures of keys that were not submitted, until the flush ends. -/
  pendingFailures : List Failure := []
  flushStarted : Option Nat := none
  outcome : Option FlushOutcome := none
  rollback : Option RollbackOutcome := none

/-- What a call on a unit gives. -/
structure Progress (Result : Type) where
  result : Except IndexingError Result
  unit : UnitOfWork
  requests : List Request := []
  observations : List Observation := []

/-- What the units work with. -/
structure Environment where
  mapping : Mapping
  /-- The collaborators, as each unit by its number meets them. -/
  services : Nat → Services

/-- A registration with a unit of work. -/
inductive Registration where
  | create (key : EntityKey) (supplied : Option Instance)
  | update (key : EntityKey) (supplied : Option Instance)
  | updatePaths (key : EntityKey) (supplied : Option Instance) (paths : PathSet)
  | addOrUpdate (key : EntityKey) (supplied : Option Instance)
  | delete (key : EntityKey)
  | event (event : LifecycleEvent)

/-- The registration with a plan. -/
def Plan.apply (plan : Plan) : Registration → Except IndexingError Plan
  | .create key supplied => plan.add key supplied
  | .update key supplied => plan.update key supplied
  | .updatePaths key supplied paths => plan.updatePaths key supplied (some paths)
  | .addOrUpdate key supplied => plan.addOrUpdate key supplied
  | .delete key => plan.delete key
  | .event event =>
    match event.kind with
    | .create => plan.add event.key event.entity
    | .update => plan.updatePaths event.key event.entity event.paths
    | .delete => plan.delete event.key

namespace UnitOfWork

/-- A new unit with an empty plan. -/
def begin (mapping : Mapping) (now : Nat) : UnitOfWork :=
  { state := .opened now, plan := some (.empty mapping) }

/-- A call that gives a result and changes nothing else. -/
def answer {Result : Type} (unit : UnitOfWork) (result : Except IndexingError Result) :
    Progress Result :=
  { result, unit }

/-- The plan of an open unit. -/
def openPlan (unit : UnitOfWork) : Except IndexingError Plan := do
  unit.state.ensureOpen
  match unit.plan with
  | some plan => pure plan
  | none => throw (.unitClosed unit.state.name)

/-- Register with the plan of an open unit; a refused registration changes
nothing. -/
def register (unit : UnitOfWork) (registration : Registration) : Progress Unit :=
  match unit.openPlan.bind (·.apply registration) with
  | .ok plan => { result := .ok (), unit := { unit with plan := some plan } }
  | .error error => unit.answer (.error error)

/-- Register a change of a live entity under the key that it is identified by. -/
def registerInstance (environment : Environment) (unit : UnitOfWork) (kind : ChangeKind)
    (entity : Instance) : Progress EntityKey :=
  match unit.state.ensureOpen.bind fun _ => (environment.mapping.resolver.identify entity).1 with
  | .error error => unit.answer (.error error)
  | .ok key =>
    let registered := unit.register (match kind with
      | .create => .create key (some entity)
      | .update => .update key (some entity)
      | .delete => .delete key)
    { result := registered.result.map fun _ => key, unit := registered.unit }

/-- The text that a failed unit keeps of its failures. -/
def summary (failures : List Failure) : String :=
  String.intercalate "; " (failures.map Failure.message)

/-- The category that a failed unit takes from its first failure. -/
def leadingCategory : List Failure → Category
  | [] => .infrastructure
  | failure :: _ => failure.category

/-- The outcome of the batches together with what failed before submission. -/
def fullOutcome (unit : UnitOfWork) (now : Nat) (batches : FlushOutcome) : FlushOutcome :=
  { batches with
    failures := unit.pendingFailures ++ batches.failures
    duration := match unit.flushStarted with
      | some started => now - started
      | none => 0 }

/-- End the flush: committed if nothing failed, else failed. The outcome is kept. -/
def finish (unit : UnitOfWork) (now : Nat) (batches : FlushOutcome) : Progress Unit :=
  let outcome := unit.fullOutcome now batches
  let unit := { unit with pendingFailures := [] }
  let moved :=
    if outcome.isSuccess then unit.state.commit now outcome.duration outcome.succeeded.length
    else unit.state.fail now outcome.failedKeys (summary outcome.failures)
      (leadingCategory outcome.failures)
  match moved with
  | .error error => unit.answer (.error error)
  | .ok state =>
    { result := .ok ()
      unit := { unit with state, outcome := some outcome }
      observations := [.flushed outcome] }

/-- Hand prepared work over: nothing to submit ends the flush, and otherwise the
batches are in flight. -/
def execute (environment : Environment) (number : Nat) (unit : UnitOfWork) (now : Nat)
    (prepared : PreparedFlush) : Progress Unit :=
  let unit := { unit with pendingFailures := unit.pendingFailures ++ prepared.failures }
  if prepared.batches.isEmpty then unit.finish now {}
  else match unit.state.beginExecution prepared.batches.length with
    | .error error => unit.answer (.error error)
    | .ok state =>
      let config := environment.mapping.config
      let submission := Submission.submit number (environment.services number) config.maxInFlight
        config.submitTimeout prepared.batches
      { result := .ok ()
        unit := { unit with state, work := .inFlight submission }
        observations := [.submitted prepared.itemCount] }

/-- Before the commit: prepare and submit the plan. Only an open unit has
anything to do. A plan that cannot be prepared fails all its keys. -/
def beforeCommit (environment : Environment) (number : Nat) (unit : UnitOfWork) (now : Nat) :
    Progress Unit :=
  if !unit.state.isOpen then unit.answer (.ok ())
  else match unit.plan with
    | none => unit.answer (.ok ())
    | some plan =>
      let unit := { unit with plan := none }
      match unit.state.beginFlush now with
      | .error error => unit.answer (.error error)
      | .ok state =>
        let unit := { unit with state, flushStarted := some now }
        let (prepared, requests) := environment.mapping.prepare (environment.services number) plan
        let progress := match prepared with
          | .ok prepared => execute environment number unit now prepared
          | .error error =>
            let failure := error.toFailure plan.pendingKeys
            finish { unit with pendingFailures := unit.pendingFailures ++ [failure] } now {}
        { progress with requests }

/-- After the commit, first part: a unit that is still open is flushed. -/
def beginCommit (environment : Environment) (number : Nat) (unit : UnitOfWork) (now : Nat) :
    Progress Unit :=
  if unit.outcome.isNone && unit.state.isOpen then beforeCommit environment number unit now
  else unit.answer (.ok ())

/-- The stored outcome, or the refusal of a commit that never happened. -/
def storedOutcome (unit : UnitOfWork) : Except IndexingError FlushOutcome :=
  match unit.outcome with
  | some outcome => outcome.toResult
  | none => .error (.invalidTransition unit.state.name "committed")

/-- After the commit, second part, when every batch has ended: take the results
of what is in flight and answer with the stored outcome. -/
def endCommit (unit : UnitOfWork) (now : Nat) : Progress FlushOutcome :=
  match unit.outcome, unit.work.inFlight? with
  | none, some submission =>
    let unit := { unit with work := unit.work.collect }
    let progress := unit.finish now (.ofBatches submission.settledBatches)
    { progress with result := progress.result.bind fun _ => progress.unit.storedOutcome }
  | _, _ => unit.answer unit.storedOutcome

/-- After a rollback, first part: give up the batches that wait, unless the unit
was rolled back before. -/
def beginRollback (unit : UnitOfWork) : UnitOfWork :=
  match unit.rollback, unit.work with
  | none, .inFlight submission => { unit with work := .inFlight submission.cancel }
  | _, _ => unit

/-- What a rollback has to report: the plan's operations and the given up batches
as discarded, and the acknowledged keys, of now or of the stored outcome. -/
def rollbackOutcome (unit : UnitOfWork) : RollbackOutcome :=
  let planned := match unit.plan with
    | some plan => plan.resolve.map PlanEntry.key
    | none => []
  let abandoned := match unit.work.inFlight? with
    | some submission => RollbackOutcome.ofBatches submission.settledBatches
    | none => {}
  let flushed := match unit.outcome with
    | some outcome => outcome.succeeded
    | none => []
  { abandoned with
    discarded := planned ++ abandoned.discarded
    unretracted := abandoned.unretracted ++ flushed }

/-- After a rollback, second part, when every batch has ended: report, and end the
unit. A second rollback repeats the first report. -/
def endRollback (unit : UnitOfWork) (now : Nat) : Progress RollbackOutcome :=
  match unit.rollback with
  | some outcome => unit.answer (.ok outcome)
  | none =>
    let outcome := unit.rollbackOutcome
    let unit := { unit with plan := none, work := unit.work.collect, pendingFailures := [] }
    match unit.state.rollBack now outcome.unretracted.length with
    | .error error => unit.answer (.error error)
    | .ok state =>
      { result := .ok outcome
        unit := { unit with state, rollback := some outcome }
        observations := [.rolledBack] }

/-- The instant at which every batch in flight has ended; none when nothing is
outstanding. -/
def settlesAt? (unit : UnitOfWork) (now : Nat) : Option Nat :=
  match unit.work.inFlight? with
  | none => none
  | some submission => if submission.isSettled then none else some (submission.settlesAt now)

/-- Let time pass for the batches of the unit. -/
def runUntil (unit : UnitOfWork) (now target : Nat) : UnitOfWork :=
  { unit with work := unit.work.map fun submission => submission.runUntil now target }

/-- The unit is let go: what waits will not be submitted. -/
def abandon (unit : UnitOfWork) : UnitOfWork :=
  match unit.work with
  | .inFlight submission => { unit with work := .inFlight submission.cancel }
  | _ => unit

end UnitOfWork

end Reindex
