import Reindex.UnitOfWork

/-!
# Several units of work on one clock

Units of work begin, are called, wait and end while one clock counts
milliseconds. Time passes only in a step that waits, and then for the batches of
every unit alike; a batch is not looked at before such a step. A commit or a
rollback waits until the last batch of its unit has ended, and not at all when
none is outstanding.

The record of what the collaborators were asked and of what was counted is kept
for all units together.
-/

namespace Reindex

/-- A unit of work, which its owner may have let go. -/
structure UnitSlot where
  unit : UnitOfWork
  dropped : Bool := false

/-- All units of work that share their collaborators. -/
structure Engine where
  environment : Environment
  now : Nat := 0
  slots : List UnitSlot := []
  requests : List Request := []
  metrics : Metrics := {}

/-- A call on a unit of work. -/
inductive UnitCall where
  | register (registration : Registration)
  | registerInstance (kind : ChangeKind) (entity : Instance)
  | beforeCommit
  | afterCommit
  | flush
  | afterRollback

/-- What happens next. -/
inductive EngineStep where
  | call (number : Nat) (call : UnitCall)
  | begin
  | drop (number : Nat)
  | wait (milliseconds : Nat)

/-- What a call that is not refused answers. -/
inductive Answer where
  | done
  | identified (key : EntityKey)
  | flushed (outcome : FlushOutcome)
  | rolledBack (outcome : RollbackOutcome)

namespace Engine

/-- Begin a unit of work. -/
def begin (engine : Engine) : Engine :=
  let unit := UnitOfWork.begin engine.environment.mapping engine.now
  { engine with slots := engine.slots ++ [{ unit }] }

/-- A unit of work that has not been let go. -/
def unit? (engine : Engine) (number : Nat) : Option UnitOfWork :=
  match engine.slots[number]? with
  | some slot => if slot.dropped then none else some slot.unit
  | none => none

/-- Put a unit in its place. -/
def setUnit (engine : Engine) (number : Nat) (unit : UnitOfWork) : Engine :=
  { engine with slots := engine.slots.set number { unit } }

/-- Take over what a call on a unit gives. -/
def absorb {Result : Type} (engine : Engine) (number : Nat) (progress : Progress Result) :
    Except IndexingError Result × Engine :=
  (progress.result,
    { engine.setUnit number progress.unit with
      requests := engine.requests ++ progress.requests
      metrics := progress.observations.foldl Metrics.observe engine.metrics })

/-- Let time pass up to an instant, for the batches of every unit. -/
def runUntil (engine : Engine) (target : Nat) : Engine :=
  let run (slot : UnitSlot) : UnitSlot :=
    { slot with unit := slot.unit.runUntil engine.now target }
  { engine with now := target, slots := engine.slots.map run }

/-- Wait until every batch of a unit has ended. -/
def await (engine : Engine) (unit : UnitOfWork) : UnitOfWork × Engine :=
  match unit.settlesAt? engine.now with
  | none => (unit, engine)
  | some target => (unit.runUntil engine.now target, engine.runUntil target)

/-- Prepare and submit the plan of a unit. -/
def beforeCommit (engine : Engine) (number : Nat) (unit : UnitOfWork) :
    Except IndexingError Unit × Engine :=
  engine.absorb number (unit.beforeCommit engine.environment number engine.now)

/-- Flush what is open, wait for the batches of a unit and collect their results. -/
def afterCommit (engine : Engine) (number : Nat) (unit : UnitOfWork) :
    Except IndexingError FlushOutcome × Engine :=
  let begun := unit.beginCommit engine.environment number engine.now
  let (result, engine) := engine.absorb number begun
  match result with
  | .error error => (.error error, engine)
  | .ok _ =>
    let (unit, engine) := engine.await begun.unit
    engine.absorb number (unit.endCommit engine.now)

/-- Submit and collect in one call. -/
def flush (engine : Engine) (number : Nat) (unit : UnitOfWork) :
    Except IndexingError FlushOutcome × Engine :=
  let begun := unit.beforeCommit engine.environment number engine.now
  let (result, engine) := engine.absorb number begun
  match result with
  | .error error => (.error error, engine)
  | .ok _ => engine.afterCommit number begun.unit

/-- Give up the batches of a unit that wait, wait for those that run, and report. -/
def afterRollback (engine : Engine) (number : Nat) (unit : UnitOfWork) :
    Except IndexingError RollbackOutcome × Engine :=
  let unit := unit.beginRollback
  let (unit, engine) := (engine.setUnit number unit).await unit
  engine.absorb number (unit.endRollback engine.now)

/-- Carry out a call on a unit. -/
def call (engine : Engine) (number : Nat) (unit : UnitOfWork) :
    UnitCall → Except IndexingError Answer × Engine
  | .register registration =>
    let (result, engine) := engine.absorb number (unit.register registration)
    (result.map fun _ => .done, engine)
  | .registerInstance kind entity =>
    let (result, engine) :=
      engine.absorb number (unit.registerInstance engine.environment kind entity)
    (result.map .identified, engine)
  | .beforeCommit =>
    let (result, engine) := engine.beforeCommit number unit
    (result.map fun _ => .done, engine)
  | .afterCommit =>
    let (result, engine) := engine.afterCommit number unit
    (result.map .flushed, engine)
  | .flush =>
    let (result, engine) := engine.flush number unit
    (result.map .flushed, engine)
  | .afterRollback =>
    let (result, engine) := engine.afterRollback number unit
    (result.map .rolledBack, engine)

/-- Let go of a unit. -/
def drop (engine : Engine) (number : Nat) : Engine :=
  match engine.unit? number with
  | none => engine
  | some unit =>
    { engine with slots := engine.slots.set number { unit := unit.abandon, dropped := true } }

/-- Carry out a step. Only a call on a unit that is at hand has an answer. -/
def step (engine : Engine) : EngineStep → Option (Except IndexingError Answer) × Engine
  | .call number call =>
    match engine.unit? number with
    | none => (none, engine)
    | some unit =>
      let (answer, engine) := engine.call number unit call
      (some answer, engine)
  | .begin => (none, engine.begin)
  | .drop number => (none, engine.drop number)
  | .wait 0 => (none, engine)
  | .wait milliseconds => (none, engine.runUntil (engine.now + milliseconds))

/-- The engine before anything has happened. -/
def start (environment : Environment) : Engine := { environment }

/-- Carry out steps one after another. -/
def run (engine : Engine) (steps : List EngineStep) : Engine :=
  steps.foldl (fun engine next => (engine.step next).2) engine

/-- The calls of the backend, unit by unit. -/
def backendCalls (engine : Engine) : List (Nat × BackendCall) :=
  (engine.slots.zipIdx.map fun (slot, number) =>
    slot.unit.work.calls.map fun call => (number, call)).flatten

end Engine

end Reindex
