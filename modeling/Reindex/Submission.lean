import Reindex.Flush.Outcome
import Reindex.Flush.Services

/-!
# Submitted batches in time

The batches of one unit of work, once they are submitted, share a number of
permits. When the runtime gets to run, it looks at the batches that wait, in
order: a cancelled one is discarded, and any other one whose permit is free
begins its call. A call ends when the backend answers or the deadline passes,
whichever is first; only then the permit is free again.

Time is counted in milliseconds and passes only where somebody waits. Nothing
else that happens bears on the batches of a unit, so each submission runs by
itself from one instant to another.
-/

namespace Reindex

/-- How far the task of a batch is. -/
inductive TaskState where
  | waiting
  /-- The backend was called; the call ends at the given instant. -/
  | running (ends : Nat)
  | finished (result : BatchResult)

/-- The task of one batch. -/
structure BatchTask where
  batch : WorkBatch
  state : TaskState := .waiting

/-- A call of the backend. -/
structure BackendCall where
  start : Nat
  batch : WorkBatch
  /-- Whether the backend has answered. -/
  replied : Bool

namespace BatchTask

/-- The instant at which the call of a batch ends, if it runs. -/
def endsAt? (task : BatchTask) : Option Nat :=
  match task.state with
  | .running ends => some ends
  | _ => none

/-- Whether the call of a batch runs. -/
def isRunning (task : BatchTask) : Bool := task.endsAt?.isSome

/-- The result of a batch, once it has one. -/
def result? (task : BatchTask) : Option BatchResult :=
  match task.state with
  | .finished result => some result
  | _ => none

/-- Whether the task of a batch has ended. -/
def isFinished (task : BatchTask) : Bool := task.result?.isSome

end BatchTask

/-- The submitted batches of one unit of work. -/
structure Submission where
  /-- The number of the unit, by which the backend knows it. -/
  unit : Nat
  backend : Backend
  panicText : PanicText
  permits : Nat
  /-- The deadline of a call, in milliseconds. -/
  timeout : Nat
  tasks : List BatchTask
  cancelled : Bool := false
  /-- The calls of the backend, in order. -/
  calls : List BackendCall := []

namespace Submission

/-- Submit batches; none is looked at yet. -/
def submit (unit : Nat) (services : Services) (permits timeout : Nat) (batches : List WorkBatch) :
    Submission :=
  { unit, permits, timeout
    backend := services.backend
    panicText := services.panicText
    tasks := batches.map fun batch => { batch } }

/-- How the backend responds to a batch. -/
def response (submission : Submission) (batch : WorkBatch) : BackendResponse :=
  submission.backend submission.unit batch

/-- Whether the backend answers a batch within the deadline. -/
def answersInTime (submission : Submission) (batch : WorkBatch) : Bool :=
  (submission.response batch).delay ≤ submission.timeout

/-- How long the call for a batch runs. -/
def runTime (submission : Submission) (batch : WorkBatch) : Nat :=
  min (submission.response batch).delay submission.timeout

/-- How the call for a batch ends. -/
def callResult (submission : Submission) (batch : WorkBatch) : BatchResult :=
  if submission.answersInTime batch then
    match (submission.response batch).reply with
    | .report report => .acknowledged report
    | .failure text => .failed (.backend text)
    | .panic message => .panicked (submission.panicText batch message)
  else .failed (.timeout submission.timeout)

/-- The number of batches whose call runs. -/
def runningCount (submission : Submission) : Nat :=
  submission.tasks.countP BatchTask.isRunning

/-- Whether every task has ended. -/
def isSettled (submission : Submission) : Bool := submission.tasks.all BatchTask.isFinished

/-- Whether a batch waits. -/
def hasWaiting (submission : Submission) : Bool :=
  submission.tasks.any fun task => !task.isRunning && !task.isFinished

/-- Look at the tasks in order, with so many permits free: discard what waits if
cancelled, and otherwise begin calls while there are permits. A call that takes
no time ends at once and gives its permit back. -/
def beginTasks (submission : Submission) (now : Nat) :
    Nat → List BatchTask → List BatchTask × List BackendCall
  | _, [] => ([], [])
  | free, task :: rest =>
    match task.state, free with
    | .waiting, free =>
      if submission.cancelled then
        let (tasks, calls) := beginTasks submission now free rest
        ({ task with state := .finished .discarded } :: tasks, calls)
      else match free with
        | 0 =>
          let (tasks, calls) := beginTasks submission now 0 rest
          (task :: tasks, calls)
        | free + 1 =>
          if submission.runTime task.batch = 0 then
            let (tasks, calls) := beginTasks submission now (free + 1) rest
            ({ task with state := .finished (submission.callResult task.batch) } :: tasks,
              ⟨now, task.batch, submission.answersInTime task.batch⟩ :: calls)
          else
            let (tasks, calls) := beginTasks submission now free rest
            ({ task with state := .running (now + submission.runTime task.batch) } :: tasks,
              ⟨now, task.batch, false⟩ :: calls)
    | _, free =>
      let (tasks, calls) := beginTasks submission now free rest
      (task :: tasks, calls)

/-- Let the runtime look at what waits. -/
def wake (submission : Submission) (now : Nat) : Submission :=
  let (tasks, calls) :=
    beginTasks submission now (submission.permits - submission.runningCount) submission.tasks
  { submission with tasks, calls := submission.calls ++ calls }

/-- End the call of a task if its time has come. -/
def endTask (submission : Submission) (now : Nat) (task : BatchTask) : BatchTask :=
  match task.state with
  | .running ends =>
    if ends ≤ now then { task with state := .finished (submission.callResult task.batch) }
    else task
  | _ => task

/-- Note that the backend has answered the batches whose call ends in time. -/
def noteReplies (submission : Submission) (now : Nat) (call : BackendCall) : BackendCall :=
  if submission.answersInTime call.batch && call.start + submission.runTime call.batch ≤ now then
    { call with replied := true }
  else call

/-- End the calls whose time has come. -/
def endCalls (submission : Submission) (now : Nat) : Submission :=
  { submission with
    tasks := submission.tasks.map (submission.endTask now)
    calls := submission.calls.map (submission.noteReplies now) }

/-- The earlier of two instants, where there are two. -/
def earlier? : Option Nat → Option Nat → Option Nat
  | some a, some b => some (min a b)
  | some a, none => some a
  | none, b => b

/-- The next instant at which a call ends. -/
def nextEnd? (submission : Submission) : Option Nat :=
  submission.tasks.foldr (fun task next => earlier? task.endsAt? next) none

/-- End the calls that end next, and let the runtime look at what waits, as long
as that instant is within reach. At each such instant a task ends, so there are
at most as many as tasks. -/
def advance (within : Nat → Bool) : Nat → Submission → Submission
  | 0, submission => submission
  | instants + 1, submission =>
    match submission.nextEnd? with
    | none => submission
    | some instant =>
      if within instant then advance within instants ((submission.endCalls instant).wake instant)
      else submission

/-- Run from one instant to another. -/
def runUntil (submission : Submission) (now target : Nat) : Submission :=
  advance (fun instant => instant ≤ target) submission.tasks.length (submission.wake now)

/-- The instant at which the last call ends, when the calls that run and those
that follow them take their course. -/
def lastEnd (now : Nat) : Nat → Submission → Nat
  | 0, _ => now
  | instants + 1, submission =>
    match submission.nextEnd? with
    | none => now
    | some instant => lastEnd instant instants ((submission.endCalls instant).wake instant)

/-- The instant at which the submission is settled when it is waited for. -/
def settlesAt (submission : Submission) (now : Nat) : Nat :=
  lastEnd now submission.tasks.length (submission.wake now)

/-- Give up the batches that wait. They are discarded when the runtime gets to
run; calls that run take their course. -/
def cancel (submission : Submission) : Submission := { submission with cancelled := true }

/-- The keys and results of the batches that have ended, in order. -/
def settledBatches (submission : Submission) : List SettledBatch :=
  submission.tasks.filterMap fun task => task.result?.map fun result => (task.batch.keys, result)

end Submission

end Reindex
