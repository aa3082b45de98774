import Reindex.Proofs.Submission.Calls

/-!
# The record in the course of time

Between two instants at which calls end nothing happens to a submission, and at each of
them its record is carried on. So the record tells the truth at every instant that the
submission has run until. Once the submission is given up no call is added to it, and
once it is settled nothing changes at all: the tasks that were called hold the results
of their calls, and the others were discarded.
-/

namespace Reindex

namespace BatchTask

variable {lasts : WorkBatch → Nat} {result : WorkBatch → BatchResult} {now instant : Nat}
  {task : BatchTask} {call : BackendCall} {tasks : List BatchTask} {calls : List BackendCall}

/-- Whether the backend has answered is of no account. -/
theorem Called.congr {other : BackendCall} (called : Called lasts result now task call)
    (start : other.start = call.start) (batch : other.batch = call.batch) :
    Called lasts result now task other := by
  obtain ⟨_, _, replied⟩ := other
  subst start
  subst batch
  cases called with
  | running _ begun ongoing => exact .running ⟨call.start, call.batch, replied⟩ begun ongoing
  | past _ ended => exact .past ⟨call.start, call.batch, replied⟩ ended

/-- A task whose call lasts longer stays as it is. -/
theorem Called.later (called : Called lasts result now task call) (passed : now ≤ instant)
    (ahead : ∀ ends, task.endsAt? = some ends → instant < ends) :
    Called lasts result instant task call := by
  cases called with
  | running _ begun ongoing => exact .running _ (Nat.le_trans begun passed) (ahead _ rfl)
  | past _ ended => exact .past _ (Nat.le_trans ended passed)

/-- A call that runs ends later than now. -/
theorem Called.lt_of_endsAt? {ends : Nat} (called : Called lasts result now task call)
    (runs : task.endsAt? = some ends) : now < ends := by
  cases called with
  | running _ begun ongoing => exact Option.some.inj runs ▸ ongoing
  | past _ ended => cases runs

/-- A task that was called and has ended holds the result of its call. -/
theorem Called.result?_eq (called : Called lasts result now task call)
    (ended : task.isFinished = true) : task.result? = some (result call.batch) := by
  cases called with
  | running _ begun ongoing => cases ended
  | past _ ended => rfl

/-- A task without a call that has ended was discarded. -/
theorem Uncalled.result?_eq {cancelled : Bool} (uncalled : task.Uncalled cancelled)
    (ended : task.isFinished = true) : cancelled = true ∧ task.result? = some .discarded := by
  cases uncalled with
  | waiting batch => cases ended
  | discarded batch given => exact ⟨given, rfl⟩

end BatchTask

namespace Submission

open BatchTask (Called Uncalled)

variable {submission : Submission} {now instant target : Nat} {tasks : List BatchTask}

/-- To note an answer changes nothing else of a call. -/
theorem noteReplies_same (submission : Submission) (instant : Nat) (call : BackendCall) :
    (submission.noteReplies instant call).start = call.start ∧
      (submission.noteReplies instant call).batch = call.batch := by
  unfold noteReplies
  split <;> exact ⟨rfl, rfl⟩

/-- The end of calls brings a called task up to the instant. -/
theorem called_endTask {task : BatchTask} {call : BackendCall}
    (called : Called submission.runTime submission.callResult now task call)
    (passed : now ≤ instant) :
    Called submission.runTime submission.callResult instant (submission.endTask instant task)
      (submission.noteReplies instant call) := by
  obtain ⟨start, batch⟩ := noteReplies_same submission instant call
  refine Called.congr ?_ start batch
  cases called with
  | running _ begun ongoing =>
    unfold endTask
    by_cases due : call.start + submission.runTime call.batch ≤ instant
    · simp only [due, ↓reduceIte]
      exact .past call due
    · simp only [due, ↓reduceIte]
      exact .running call (Nat.le_trans begun passed) (Nat.lt_of_not_le due)
  | past _ ended => exact .past call (Nat.le_trans ended passed)

/-- The end of calls brings the record up to the instant. -/
theorem Orderly.endCalls (orderly : submission.Orderly now) (passed : now ≤ instant) :
    (submission.endCalls instant).Orderly instant where
  records := by
    obtain ⟨begun, rest, tasks, called, uncalled⟩ := orderly.records
    refine ⟨begun.map (submission.endTask instant), rest.map (submission.endTask instant), ?_, ?_,
      ?_⟩
    · rw [Submission.endCalls, tasks, List.map_append]
    · rw [Submission.endCalls, List.forall₂_map_left_iff, List.forall₂_map_right_iff]
      exact called.imp fun _ _ called => called_endTask called passed
    · intro task member
      obtain ⟨before, listed, rfl⟩ := List.mem_map.1 member
      cases uncalled before listed with
      | waiting batch => exact .waiting batch
      | discarded batch given => exact .discarded batch given
  admitted := orderly.admitted.map (noteReplies_same submission instant)

/-- What happens at one instant carries the record on. -/
theorem Orderly.round (orderly : submission.Orderly now) (passed : now ≤ instant) :
    (submission.round instant).Orderly instant :=
  (orderly.endCalls passed).wake

/-- Until the next call ends the record stays as it is. -/
theorem Orderly.later (orderly : submission.Orderly now) (passed : now ≤ instant)
    (ahead : Ahead instant submission) : submission.Orderly instant where
  records := by
    obtain ⟨begun, rest, tasks, called, uncalled⟩ := orderly.records
    refine ⟨begun, rest, tasks, ?_, uncalled⟩
    rw [List.forall₂_iff_get] at called ⊢
    refine ⟨called.1, fun index within withinCalls => ?_⟩
    refine (called.2 index within withinCalls).later passed (ahead _ ?_)
    exact tasks ▸ List.mem_append_left _ (List.get_mem ..)
  admitted := orderly.admitted

/-- The calls that run end later than now. -/
theorem Orderly.ahead (orderly : submission.Orderly now) : Ahead now submission := by
  obtain ⟨begun, rest, tasks, called, uncalled⟩ := orderly.records
  intro task member ends runs
  rw [tasks] at member
  rcases List.mem_append.1 member with first | behind
  · obtain ⟨index, within, rfl⟩ := List.mem_iff_getElem.1 first
    exact (called.get within (called.length_eq ▸ within)).lt_of_endsAt? runs
  · cases uncalled task behind <;> cases runs

/-- No call ends before the next end. -/
theorem earliest_le {next ends : Nat} {task : BatchTask}
    (earliest : tasks.foldr (fun task next => earlier? task.endsAt? next) none = some next)
    (member : task ∈ tasks) (runs : task.endsAt? = some ends) : next ≤ ends := by
  induction tasks generalizing next with
  | nil => cases member
  | cons first rest inductionHypothesis =>
    rw [List.foldr_cons] at earliest
    cases later : rest.foldr (fun task next => earlier? task.endsAt? next) none with
    | none =>
      rcases List.mem_cons.1 member with rfl | behind
      · rw [later, runs] at earliest
        exact Nat.le_of_eq (Option.some.inj earliest).symm
      · have still := List.countP_eq_zero.1 (earliest_eq_none later) task behind
        simp [BatchTask.isRunning, runs] at still
    | some other =>
      have bounded : next ≤ other := by
        cases own : first.endsAt? with
        | none => simp_all [earlier?]
        | some own => simp_all [earlier?]; omega
      rcases List.mem_cons.1 member with rfl | behind
      · rw [later, runs, earlier?, Option.some.injEq] at earliest
        omega
      · exact Nat.le_trans bounded (inductionHypothesis later behind)

/-- When no call ends at all, none ends too early. -/
theorem ahead_of_none (next : submission.nextEnd? = none) (instant : Nat) :
    Ahead instant submission := by
  intro task member ends runs
  have still := List.countP_eq_zero.1 (earliest_eq_none next) task member
  simp [BatchTask.isRunning, runs] at still

/-- A settled submission has no next end. -/
theorem nextEnd?_of_settled (settled : submission.isSettled = true) :
    submission.nextEnd? = none := by
  cases next : submission.nextEnd? with
  | none => rfl
  | some instant =>
    have fewer := unfinishedCount_round next
    rw [isSettled_iff.1 settled] at fewer
    exact absurd fewer (Nat.not_lt_zero _)

/-- What each round brings up to its instant, and what then lasts until the next call
ends, holds at whatever instant the submission is run up to. -/
theorem advance_keeps (Holds : Nat → Submission → Prop)
    (ahead : ∀ {now : Nat} {submission : Submission}, Holds now submission → Ahead now submission)
    (later : ∀ {now instant : Nat} {submission : Submission}, Holds now submission →
      now ≤ instant → Ahead instant submission → Holds instant submission)
    (round : ∀ {now instant : Nat} {submission : Submission}, Holds now submission →
      now ≤ instant → submission.nextEnd? = some instant → Holds instant (submission.round instant))
    (holds : Holds now submission) (passed : now ≤ target) {instants : Nat}
    (enough : submission.unfinishedCount ≤ instants) :
    Holds target (advance (fun instant => instant ≤ target) instants submission) := by
  induction instants generalizing submission now with
  | zero =>
    have settled := isSettled_iff.2 (Nat.le_zero.1 enough)
    exact later holds passed (ahead_of_none (nextEnd?_of_settled settled) target)
  | succ instants inductionHypothesis =>
    rw [Submission.advance]
    cases next : submission.nextEnd? with
    | none => exact later holds passed (ahead_of_none next target)
    | some instant =>
      by_cases reached : instant ≤ target
      · obtain ⟨task, member, runs⟩ := earliest_eq_some next
        have after := ahead holds task member instant runs
        have fewer := unfinishedCount_round next
        simp only [reached, decide_true, ↓reduceIte]
        exact inductionHypothesis (round holds (Nat.le_of_lt after) next) reached
          (Nat.le_of_lt_succ (Nat.lt_of_lt_of_le fewer enough))
      · simp only [reached, decide_false, Bool.false_eq_true, ↓reduceIte]
        refine later holds passed fun task member ends runs => ?_
        have first := earliest_le next member runs
        omega

/-- To run up to an instant brings the record up to it. -/
theorem Orderly.advance (orderly : submission.Orderly now) (passed : now ≤ target)
    {instants : Nat} (enough : submission.unfinishedCount ≤ instants) :
    (advance (fun instant => instant ≤ target) instants submission).Orderly target :=
  advance_keeps (fun now submission => submission.Orderly now) Orderly.ahead Orderly.later
    (fun orderly passed _ => orderly.round passed) orderly passed enough

/-- To run up to an instant brings the record up to it. -/
theorem Orderly.runUntil (orderly : submission.Orderly now) (passed : now ≤ target) :
    (submission.runUntil now target).Orderly target :=
  orderly.wake.advance passed (unfinishedCount_wake_le submission now)

/-- A submission is not settled before now. -/
theorem Orderly.le_settlesAt (orderly : submission.Orderly now) :
    now ≤ submission.settlesAt now :=
  le_lastEnd orderly.wake.ahead _

/-- What goes on keeps its batches. -/
theorem Continues.batches_eq {before after : Submission} (continues : Continues before after) :
    after.tasks.map BatchTask.batch = before.tasks.map BatchTask.batch := by
  have tasks := continues.tasks
  generalize before.tasks = earlier, after.tasks = later at tasks
  induction tasks with
  | nil => rfl
  | cons goes _ inductionHypothesis =>
    rw [List.map_cons, List.map_cons, inductionHypothesis, goes.batch]

/-- Which calls have begun, and when. -/
def started (submission : Submission) : List (Nat × WorkBatch) :=
  submission.calls.map fun call => (call.start, call.batch)

/-- No call begins when the runtime looks at what was given up. -/
theorem started_wake (given : submission.cancelled = true) (now : Nat) :
    (submission.wake now).started = submission.started := by
  simp [Submission.wake, started, calls_beginTasks_given given]

/-- No call begins of what was given up, however long it runs. -/
theorem started_advance (given : submission.cancelled = true) (within : Nat → Bool)
    (instants : Nat) :
    (advance within instants submission).started = submission.started := by
  induction instants generalizing submission with
  | zero => rfl
  | succ instants inductionHypothesis =>
    rw [Submission.advance]
    cases submission.nextEnd? with
    | none => rfl
    | some instant =>
      by_cases reached : within instant = true
      · have ended : (submission.endCalls instant).started = submission.started := by
          simp [started, Submission.endCalls, noteReplies_same, Function.comp_def]
        have givenAfter : (submission.endCalls instant).cancelled = true := given
        simp only [reached, ↓reduceIte]
        calc (advance within instants (submission.round instant)).started
            = (submission.round instant).started :=
              inductionHypothesis given
          _ = (submission.endCalls instant).started := started_wake givenAfter instant
          _ = submission.started := ended
      · simp only [reached, Bool.false_eq_true, ↓reduceIte]

/-- No call begins of what was given up, until whatever instant. -/
theorem started_runUntil (given : submission.cancelled = true) (now target : Nat) :
    (submission.runUntil now target).started = submission.started := by
  have givenAfter : (submission.wake now).cancelled = true := given
  exact (started_advance givenAfter _ _).trans (started_wake given now)

/-- The runtime leaves tasks of which none waits as they are. -/
theorem beginTasks_of_still {free : Nat} (still : tasks.any isWaiting = false) :
    submission.beginTasks now free tasks = (tasks, []) := by
  induction tasks with
  | nil => rfl
  | cons task rest inductionHypothesis =>
    rw [List.any_cons, Bool.or_eq_false_iff] at still
    obtain ⟨batch, state⟩ := task
    cases state with
    | waiting => cases still.1
    | running ends => simp [beginTasks, inductionHypothesis still.2]
    | finished result => simp [beginTasks, inductionHypothesis still.2]

/-- A look of the runtime changes nothing when nothing waits. -/
theorem wake_of_still (still : submission.hasWaiting = false) (now : Nat) :
    submission.wake now = submission := by
  simp [Submission.wake, beginTasks_of_still still]

/-- Nothing of what is settled waits. -/
theorem hasWaiting_of_settled (settled : submission.isSettled = true) :
    submission.hasWaiting = false := by
  rw [isSettled, List.all_eq_true] at settled
  rw [hasWaiting, List.any_eq_false]
  intro task member
  simp [settled task member]

/-- Nothing happens any more to what is settled. -/
theorem runUntil_of_settled (settled : submission.isSettled = true) (now target : Nat) :
    submission.runUntil now target = submission := by
  rw [Submission.runUntil, wake_of_still (hasWaiting_of_settled settled)]
  cases submission.tasks.length with
  | zero => rfl
  | succ instants => rw [Submission.advance, nextEnd?_of_settled settled]

/-- The called tasks of a settled list hold the results of their calls. -/
theorem results_called {begun : List BatchTask} {calls : List BackendCall}
    (called : List.Forall₂ (Called submission.runTime submission.callResult now) begun calls)
    (ended : ∀ task ∈ begun, task.isFinished = true) :
    (begun.filterMap fun task => task.result?.map fun result => (task.batch.keys, result)) =
      calls.map fun call => (call.batch.keys, submission.callResult call.batch) := by
  induction called with
  | nil => rfl
  | cons head _ inductionHypothesis =>
    obtain ⟨first, others⟩ := List.forall_mem_cons.1 ended
    simp [head.result?_eq first, head.batch_eq, inductionHypothesis others]

/-- The tasks without a call of a settled list were discarded. -/
theorem results_uncalled {cancelled : Bool} {rest : List BatchTask}
    (uncalled : ∀ task ∈ rest, task.Uncalled cancelled)
    (ended : ∀ task ∈ rest, task.isFinished = true) :
    (rest.filterMap fun task => task.result?.map fun result => (task.batch.keys, result)) =
      (rest.map BatchTask.batch).map fun batch => (batch.keys, .discarded) := by
  induction rest with
  | nil => rfl
  | cons task rest inductionHypothesis =>
    obtain ⟨first, others⟩ := List.forall_mem_cons.1 uncalled
    obtain ⟨endedFirst, endedOthers⟩ := List.forall_mem_cons.1 ended
    simp [(first.result?_eq endedFirst).2, inductionHypothesis others endedOthers]

/-- A settled submission holds the results of its calls, in order, and behind them the
batches that were never called; there are such only if it was given up. -/
theorem Orderly.settledBatches_eq (orderly : submission.Orderly now)
    (settled : submission.isSettled = true) :
    ∃ uncalled, submission.tasks.map BatchTask.batch =
        submission.calls.map BackendCall.batch ++ uncalled ∧
      submission.settledBatches =
        (submission.calls.map fun call =>
            (call.batch.keys, submission.callResult call.batch)) ++
          uncalled.map (fun batch => (batch.keys, .discarded)) ∧
      (submission.cancelled = false → uncalled = []) := by
  obtain ⟨begun, rest, tasks, called, uncalled⟩ := orderly.records
  obtain ⟨endedBegun, endedRest⟩ : (∀ task ∈ begun, task.isFinished = true) ∧
      ∀ task ∈ rest, task.isFinished = true := by
    simpa [isSettled, tasks] using settled
  refine ⟨rest.map BatchTask.batch, ?_, ?_, fun kept => ?_⟩
  · rw [tasks, List.map_append, BatchTask.batches_called called]
  · rw [settledBatches, tasks, List.filterMap_append, results_called called endedBegun,
      results_uncalled uncalled endedRest]
  · cases rest with
    | nil => rfl
    | cons task rest =>
      have first := uncalled task List.mem_cons_self
      have given := (first.result?_eq (endedRest task List.mem_cons_self)).1
      simp [kept] at given

end Submission

end Reindex
