import Reindex.Proofs.Submission.Settling

/-!
# The record of calls

The runtime looks at the tasks in order and begins nothing behind a task that waits.
So the tasks whose call has begun are the first ones, and the record lists their calls
in the same order; how far such a task is can be read off its entry, for a call lasts
as long as the backend takes and no longer than the deadline. The tasks behind them
wait, or were discarded once the submission was given up.

A call begins only while a permit is free, and never before the calls in front of it.
At whatever instant one looks, there are therefore no more calls than permits.
-/

namespace Reindex

namespace BackendCall

/-- How many calls are outstanding at an instant, given how long the call for a batch
lasts. -/
def outstanding (lasts : WorkBatch → Nat) (instant : Nat) (calls : List BackendCall) : Nat :=
  calls.countP fun call => call.start ≤ instant ∧ instant < call.start + lasts call.batch

/-- How a record of calls comes about: one by one, in the course of time, and each
while a permit was free. -/
inductive Admitted (lasts : WorkBatch → Nat) (permits : Nat) : List BackendCall → Prop
  | none : Admitted lasts permits []
  | next {calls : List BackendCall} {call : BackendCall} (before : Admitted lasts permits calls)
      (last : ∀ earlier ∈ calls, earlier.start ≤ call.start)
      (free : outstanding lasts call.start calls < permits) :
      Admitted lasts permits (calls ++ [call])

variable {lasts : WorkBatch → Nat} {permits instant : Nat} {calls : List BackendCall}
  {call : BackendCall}

/-- One more call counts while it lasts. -/
theorem outstanding_append (lasts : WorkBatch → Nat) (instant : Nat) (calls : List BackendCall)
    (call : BackendCall) :
    outstanding lasts instant (calls ++ [call]) = outstanding lasts instant calls +
      if call.start ≤ instant ∧ instant < call.start + lasts call.batch then 1 else 0 := by
  simp [outstanding, List.countP_append, List.countP_singleton]

/-- A call that begins takes one of the free permits, unless it is over at once. -/
theorem room_append {free : Nat} (call : BackendCall) (starts : call.start = instant)
    (room : free + 1 = permits - outstanding lasts instant calls) :
    (if lasts call.batch = 0 then free + 1 else free) =
      permits - outstanding lasts instant (calls ++ [call]) := by
  subst starts
  rw [outstanding_append]
  split <;> split <;> omega

/-- Once all calls have begun, they only become fewer. -/
theorem outstanding_anti (lasts : WorkBatch → Nat) {earlier : Nat}
    (begun : ∀ call ∈ calls, call.start ≤ earlier) (later : earlier ≤ instant) :
    outstanding lasts instant calls ≤ outstanding lasts earlier calls := by
  refine List.countP_mono_left fun call member counted => ?_
  have start := begun call member
  simp only [decide_eq_true_eq] at counted ⊢
  omega

/-- Whether the backend has answered is of no account. -/
theorem outstanding_map {f : BackendCall → BackendCall}
    (same : ∀ call, (f call).start = call.start ∧ (f call).batch = call.batch) :
    outstanding lasts instant (calls.map f) = outstanding lasts instant calls := by
  simp only [outstanding, List.countP_map, Function.comp_def, same]

/-- At no instant are there more calls than permits: the last call of those that are
outstanding began when the others were. -/
theorem Admitted.outstanding_le (admitted : Admitted lasts permits calls) (instant : Nat) :
    outstanding lasts instant calls ≤ permits := by
  induction admitted with
  | none => exact Nat.zero_le _
  | @next calls call before last free inductionHypothesis =>
    rw [outstanding_append]
    by_cases counted : call.start ≤ instant ∧ instant < call.start + lasts call.batch
    · have fewer := outstanding_anti lasts last counted.1
      simp only [counted, and_self, ↓reduceIte]
      omega
    · simpa only [counted, ↓reduceIte, Nat.add_zero] using inductionHypothesis

/-- The calls begin in the order of the record. -/
theorem Admitted.pairwise (admitted : Admitted lasts permits calls) :
    calls.Pairwise fun earlier later => earlier.start ≤ later.start := by
  induction admitted with
  | none => exact .nil
  | @next calls call before last free inductionHypothesis =>
    rw [List.pairwise_append]
    refine ⟨inductionHypothesis, List.pairwise_singleton _ _, fun earlier member later only => ?_⟩
    rw [List.mem_singleton.1 only]
    exact last earlier member

/-- Each call began while a permit was free. -/
theorem Admitted.room (admitted : Admitted lasts permits calls)
    {earlier later : List BackendCall} (split : calls = earlier ++ call :: later) :
    outstanding lasts call.start earlier < permits := by
  induction admitted generalizing later with
  | none => simp at split
  | @next calls newest before last free inductionHypothesis =>
    rcases List.eq_nil_or_concat later with rfl | ⟨later, last, rfl⟩
    · obtain ⟨rfl, same⟩ := List.append_inj' split rfl
      cases same
      exact free
    · have shorter : calls ++ [newest] = (earlier ++ call :: later) ++ [last] := by
        simpa using split
      exact inductionHypothesis (List.append_inj' shorter rfl).1

/-- Whether the backend has answered is of no account. -/
theorem Admitted.map (admitted : Admitted lasts permits calls) {f : BackendCall → BackendCall}
    (same : ∀ call, (f call).start = call.start ∧ (f call).batch = call.batch) :
    Admitted lasts permits (calls.map f) := by
  induction admitted with
  | none => exact .none
  | @next calls call before last free inductionHypothesis =>
    rw [List.map_append, List.map_singleton]
    refine .next inductionHypothesis ?_ ?_
    · intro earlier member
      obtain ⟨kept, listed, rfl⟩ := List.mem_map.1 member
      simpa only [same] using last kept listed
    · rwa [outstanding_map same, (same call).1]

end BackendCall

namespace BatchTask

/-- How far a task is whose call is on record. -/
inductive Called (lasts : WorkBatch → Nat) (result : WorkBatch → BatchResult) (now : Nat) :
    BatchTask → BackendCall → Prop
  | running (call : BackendCall) (begun : call.start ≤ now)
      (ongoing : now < call.start + lasts call.batch) :
      Called lasts result now ⟨call.batch, .running (call.start + lasts call.batch)⟩ call
  | past (call : BackendCall) (ended : call.start + lasts call.batch ≤ now) :
      Called lasts result now ⟨call.batch, .finished (result call.batch)⟩ call

/-- A task without a call, which waits unless the submission was given up. -/
inductive Uncalled (cancelled : Bool) : BatchTask → Prop
  | waiting (batch : WorkBatch) : Uncalled cancelled ⟨batch, .waiting⟩
  | discarded (batch : WorkBatch) (given : cancelled = true) :
      Uncalled cancelled ⟨batch, .finished .discarded⟩

variable {lasts : WorkBatch → Nat} {result : WorkBatch → BatchResult} {now : Nat}
  {task : BatchTask} {call : BackendCall} {tasks : List BatchTask} {calls : List BackendCall}

/-- The call is for the batch of the task. -/
theorem Called.batch_eq (called : Called lasts result now task call) : task.batch = call.batch := by
  cases called <;> rfl

/-- The call has begun. -/
theorem Called.start_le (called : Called lasts result now task call) : call.start ≤ now := by
  cases called with
  | running _ begun ongoing => exact begun
  | past _ ended => omega

/-- The calls on record are for the batches of their tasks. -/
theorem batches_called (called : List.Forall₂ (Called lasts result now) tasks calls) :
    tasks.map BatchTask.batch = calls.map BackendCall.batch := by
  induction called with
  | nil => rfl
  | cons head _ inductionHypothesis =>
    rw [List.map_cons, List.map_cons, inductionHypothesis, head.batch_eq]

/-- The calls on record have begun. -/
theorem starts_called (called : List.Forall₂ (Called lasts result now) tasks calls) :
    ∀ call ∈ calls, call.start ≤ now := by
  induction called with
  | nil => simp
  | cons head _ inductionHypothesis =>
    exact List.forall_mem_cons.2 ⟨head.start_le, inductionHypothesis⟩

/-- The tasks that run are those whose call is outstanding. -/
theorem countP_called (called : List.Forall₂ (Called lasts result now) tasks calls) :
    tasks.countP BatchTask.isRunning = BackendCall.outstanding lasts now calls := by
  induction called with
  | nil => rfl
  | @cons task call tasks calls head _ inductionHypothesis =>
    have same : task.isRunning =
        decide (call.start ≤ now ∧ now < call.start + lasts call.batch) := by
      cases head with
      | running _ begun ongoing => simp [isRunning, endsAt?, begun, ongoing]
      | past _ ended => simp [isRunning, endsAt?, Nat.not_lt.2 ended]
    rw [BackendCall.outstanding] at inductionHypothesis ⊢
    rw [List.countP_cons, List.countP_cons, inductionHypothesis, same]

/-- A task without a call does not run. -/
theorem Uncalled.isRunning_eq {cancelled : Bool} (uncalled : Uncalled cancelled task) :
    task.isRunning = false := by
  cases uncalled <;> rfl

end BatchTask

namespace Submission

open BatchTask (Called Uncalled)

variable {submission : Submission} {now free : Nat} {begun rest tasks : List BatchTask}
  {calls : List BackendCall}

/-- A list of tasks and the record of their calls, at an instant. -/
def Records (submission : Submission) (now : Nat) (tasks : List BatchTask)
    (calls : List BackendCall) : Prop :=
  ∃ begun rest, tasks = begun ++ rest ∧
    List.Forall₂ (Called submission.runTime submission.callResult now) begun calls ∧
      ∀ task ∈ rest, task.Uncalled submission.cancelled

/-- A submission whose record tells the truth at an instant, and whose calls have kept
to the permits. -/
structure Orderly (now : Nat) (submission : Submission) : Prop where
  records : submission.Records now submission.tasks submission.calls
  admitted : BackendCall.Admitted submission.runTime submission.permits submission.calls

/-- The tasks that run are those whose call is outstanding. -/
theorem Orderly.runningCount_eq (orderly : submission.Orderly now) :
    submission.runningCount =
      BackendCall.outstanding submission.runTime now submission.calls := by
  obtain ⟨begun, rest, tasks, called, uncalled⟩ := orderly.records
  have none : rest.countP BatchTask.isRunning = 0 := by
    rw [List.countP_eq_zero]
    intro task member
    simp [(uncalled task member).isRunning_eq]
  rw [runningCount, tasks, List.countP_append, none, BatchTask.countP_called called, Nat.add_zero]

/-- The batches that were called are the first ones, in order. -/
theorem Orderly.called_prefix (orderly : submission.Orderly now) :
    submission.calls.map BackendCall.batch <+: submission.tasks.map BatchTask.batch := by
  obtain ⟨begun, rest, tasks, called, uncalled⟩ := orderly.records
  rw [tasks, List.map_append, BatchTask.batches_called called]
  exact List.prefix_append _ _

/-- What is submitted has no calls yet. -/
theorem orderly_submit (unit : Nat) (services : Services) (permits timeout : Nat)
    (batches : List WorkBatch) (now : Nat) :
    (submit unit services permits timeout batches).Orderly now where
  records := by
    refine ⟨[], _, rfl, .nil, fun task member => ?_⟩
    obtain ⟨batch, _, rfl⟩ := List.mem_map.1 member
    exact .waiting batch
  admitted := .none

/-- To give a submission up changes nothing of its record. -/
theorem Orderly.cancel (orderly : submission.Orderly now) : submission.cancel.Orderly now where
  records := by
    obtain ⟨begun, rest, tasks, called, uncalled⟩ := orderly.records
    refine ⟨begun, rest, tasks, called, fun task member => ?_⟩
    cases uncalled task member with
    | waiting batch => exact .waiting batch
    | discarded batch _ => exact .discarded batch rfl
  admitted := orderly.admitted

/-- The runtime passes by the tasks whose call has begun. -/
theorem beginTasks_called {lasts : WorkBatch → Nat} {result : WorkBatch → BatchResult}
    (called : List.Forall₂ (Called lasts result now) begun calls) :
    submission.beginTasks now free (begun ++ rest) =
      (begun ++ (submission.beginTasks now free rest).1,
        (submission.beginTasks now free rest).2) := by
  induction called with
  | nil => rfl
  | cons head _ inductionHypothesis =>
    cases head <;> simp [beginTasks, inductionHypothesis]

/-- Without a permit no call is made. -/
theorem calls_beginTasks_zero (kept : submission.cancelled = false) :
    (submission.beginTasks now 0 tasks).2 = [] := by
  induction tasks with
  | nil => rfl
  | cons task rest inductionHypothesis =>
    obtain ⟨batch, state⟩ := task
    cases state <;> simp [beginTasks, kept, inductionHypothesis]

/-- What was given up is not called any more. -/
theorem calls_beginTasks_given (given : submission.cancelled = true) :
    (submission.beginTasks now free tasks).2 = [] := by
  induction tasks with
  | nil => rfl
  | cons task rest inductionHypothesis =>
    obtain ⟨batch, state⟩ := task
    cases state <;> simp [beginTasks, given, inductionHypothesis]

/-- Its tasks that wait are discarded. -/
theorem uncalled_beginTasks (given : submission.cancelled = true)
    (uncalled : ∀ task ∈ rest, task.Uncalled true) :
    ∀ task ∈ (submission.beginTasks now free rest).1, task.Uncalled true := by
  induction rest with
  | nil => simp [beginTasks]
  | cons task rest inductionHypothesis =>
    obtain ⟨first, others⟩ := List.forall_mem_cons.1 uncalled
    have later := inductionHypothesis others
    cases first with
    | waiting batch =>
      simp only [beginTasks, given, ↓reduceIte]
      exact List.forall_mem_cons.2 ⟨.discarded batch rfl, later⟩
    | discarded batch _ => exact List.forall_mem_cons.2 ⟨.discarded batch rfl, later⟩

/-- A look of the runtime at tasks that wait carries the record on: one call after
another, as long as there are permits. The begun tasks and their calls grow in the
induction, and the free permits are always those that the outstanding calls leave. -/
theorem records_beginTasks (kept : submission.cancelled = false)
    (called : List.Forall₂ (Called submission.runTime submission.callResult now) begun calls)
    (uncalled : ∀ task ∈ rest, task.Uncalled false)
    (admitted : BackendCall.Admitted submission.runTime submission.permits calls)
    (room : free = submission.permits - BackendCall.outstanding submission.runTime now calls) :
    submission.Records now (begun ++ (submission.beginTasks now free rest).1)
        (calls ++ (submission.beginTasks now free rest).2) ∧
      BackendCall.Admitted submission.runTime submission.permits
        (calls ++ (submission.beginTasks now free rest).2) := by
  induction rest generalizing begun calls free with
  | nil =>
    simp only [beginTasks, List.append_nil]
    exact ⟨⟨begun, [], by simp, called, by simp⟩, admitted⟩
  | cons task rest inductionHypothesis =>
    obtain ⟨first, others⟩ := List.forall_mem_cons.1 uncalled
    cases first with
    | discarded batch given => cases given
    | waiting batch =>
      cases free with
      | zero =>
        rw [beginTasks_zero kept, calls_beginTasks_zero kept, List.append_nil]
        refine ⟨⟨begun, _, rfl, called, ?_⟩, admitted⟩
        rwa [kept]
      | succ free =>
        have last := BatchTask.starts_called called
        have permitted :
            BackendCall.outstanding submission.runTime now calls < submission.permits := by omega
        by_cases immediate : submission.runTime batch = 0
        · let call : BackendCall := ⟨now, batch, submission.answersInTime batch⟩
          have past : Called submission.runTime submission.callResult now
              ⟨batch, .finished (submission.callResult batch)⟩ call :=
            .past call (by simp [call, immediate])
          have same := BackendCall.room_append call rfl room
          rw [if_pos immediate] at same
          obtain ⟨records, goesOn⟩ := inductionHypothesis
            (List.rel_append called (.cons past .nil)) others (admitted.next last permitted) same
          simp only [beginTasks, kept, immediate, Bool.false_eq_true, ↓reduceIte]
          simpa [call] using And.intro records goesOn
        · let call : BackendCall := ⟨now, batch, false⟩
          have running : Called submission.runTime submission.callResult now
              ⟨batch, .running (now + submission.runTime batch)⟩ call :=
            .running call (Nat.le_refl _) (by simp only [call]; omega)
          have taken := BackendCall.room_append call rfl room
          rw [if_neg immediate] at taken
          obtain ⟨records, goesOn⟩ := inductionHypothesis
            (List.rel_append called (.cons running .nil)) others (admitted.next last permitted)
            taken
          simp only [beginTasks, kept, immediate, Bool.false_eq_true, ↓reduceIte]
          simpa [call] using And.intro records goesOn

/-- A look of the runtime carries the record on. -/
theorem Orderly.wake (orderly : submission.Orderly now) : (submission.wake now).Orderly now := by
  have running := orderly.runningCount_eq
  obtain ⟨⟨begun, rest, tasks, called, uncalled⟩, admitted⟩ := orderly
  have looked : submission.beginTasks now (submission.permits - submission.runningCount)
      submission.tasks = _ := tasks ▸ beginTasks_called called
  cases given : submission.cancelled with
  | true =>
    rw [given] at uncalled
    have silent : (submission.wake now).calls = submission.calls := by
      simp [Submission.wake, calls_beginTasks_given given]
    refine ⟨⟨begun, _, congrArg Prod.fst looked, silent ▸ called, ?_⟩, silent ▸ admitted⟩
    intro task member
    exact given ▸ uncalled_beginTasks given uncalled task member
  | false =>
    rw [given] at uncalled
    obtain ⟨records, goesOn⟩ := records_beginTasks given called uncalled admitted
      (congrArg (submission.permits - ·) running)
    have tasksAfter := congrArg Prod.fst looked
    have callsAfter := congrArg Prod.snd looked
    simp only at tasksAfter callsAfter
    rw [← tasksAfter, ← callsAfter] at records
    rw [← callsAfter] at goesOn
    exact ⟨records, goesOn⟩

end Submission

end Reindex
