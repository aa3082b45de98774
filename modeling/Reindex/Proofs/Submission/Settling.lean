import Reindex.Proofs.Submission.Continuation

/-!
# A submission that is waited for comes to rest

Once the runtime has looked, a batch waits only while every permit is taken, so as
long as something is left a call runs. Each instant at which a call ends leaves
fewer tasks unfinished, and as many instants as tasks are enough.

The announced instant is found by the same rounds, without a limit. The limit does
not cut them short, for each round leaves only calls that end later than it.
-/

namespace Reindex.Submission

variable {submission : Submission} {now free : Nat} {tasks : List BatchTask}

/-- Whether a task has neither begun its call nor ended. -/
def isWaiting (task : BatchTask) : Bool := !task.isRunning && !task.isFinished

/-- Without a permit no call begins. -/
theorem beginTasks_zero (admitted : submission.cancelled = false) :
    (submission.beginTasks now 0 tasks).1 = tasks := by
  induction tasks with
  | nil => rfl
  | cons task rest inductionHypothesis =>
    obtain ⟨batch, state⟩ := task
    cases state <;> simp [beginTasks, admitted, inductionHypothesis]

/-- What was given up no longer waits. -/
theorem beginTasks_given (given : submission.cancelled = true) :
    (submission.beginTasks now free tasks).1.any isWaiting = false := by
  induction tasks generalizing free with
  | nil => rfl
  | cons task rest inductionHypothesis =>
    obtain ⟨batch, state⟩ := task
    cases state with
    | waiting =>
      simp only [beginTasks, given, ↓reduceIte, List.any_cons, inductionHypothesis]
      rfl
    | running ends =>
      simp only [beginTasks, List.any_cons, inductionHypothesis]
      rfl
    | finished result =>
      simp only [beginTasks, List.any_cons, inductionHypothesis]
      rfl

/-- While a batch still waits, every free permit has begun a call. -/
theorem countP_beginTasks (admitted : submission.cancelled = false)
    (waits : (submission.beginTasks now free tasks).1.any isWaiting = true) :
    (submission.beginTasks now free tasks).1.countP BatchTask.isRunning =
      tasks.countP BatchTask.isRunning + free := by
  induction tasks generalizing free with
  | nil => simp [beginTasks] at waits
  | cons task rest inductionHypothesis =>
    obtain ⟨batch, state⟩ := task
    cases state with
    | running ends =>
      have later : (submission.beginTasks now free rest).1.any isWaiting = true := waits
      have counted := inductionHypothesis later
      simp only [beginTasks, List.countP_cons, counted]
      omega
    | finished result =>
      have later : (submission.beginTasks now free rest).1.any isWaiting = true := waits
      have counted := inductionHypothesis later
      simp only [beginTasks, List.countP_cons, counted]
      omega
    | waiting =>
      cases free with
      | zero => rw [beginTasks_zero admitted, Nat.add_zero]
      | succ free =>
        by_cases immediate : submission.runTime batch = 0
        · simp only [beginTasks, admitted, immediate, Bool.false_eq_true, ↓reduceIte] at waits ⊢
          have later : (submission.beginTasks now (free + 1) rest).1.any isWaiting = true := waits
          have counted := inductionHypothesis later
          simp only [List.countP_cons, counted]
          rfl
        · simp only [beginTasks, admitted, immediate, Bool.false_eq_true, ↓reduceIte] at waits ⊢
          have later : (submission.beginTasks now free rest).1.any isWaiting = true := waits
          have counted := inductionHypothesis later
          simp only [List.countP_cons, counted]
          simp [BatchTask.isRunning, BatchTask.endsAt?]
          omega

/-- Once the runtime has looked, a batch waits only while every permit is taken. -/
theorem runningCount_wake (admitted : submission.cancelled = false)
    (waits : (submission.wake now).hasWaiting = true) :
    (submission.wake now).runningCount = max submission.runningCount submission.permits := by
  have counted : (submission.wake now).runningCount =
      submission.runningCount + (submission.permits - submission.runningCount) :=
    countP_beginTasks admitted waits
  omega

/-- As long as something waits a call runs. -/
def Busy (submission : Submission) : Prop :=
  submission.hasWaiting = true → 0 < submission.runningCount

/-- That is so whenever the runtime has looked, if there is a permit at all. -/
theorem busy_wake (permitted : 0 < submission.permits) (now : Nat) :
    (submission.wake now).Busy := by
  intro waits
  cases given : submission.cancelled with
  | true =>
    have none : (submission.wake now).hasWaiting = false := beginTasks_given given
    simp [none] at waits
  | false =>
    rw [runningCount_wake given waits]
    omega

/-- The next end is one of those that were compared. -/
theorem earliest_eq_some {instant : Nat}
    (earliest : tasks.foldr (fun task next => earlier? task.endsAt? next) none = some instant) :
    ∃ task ∈ tasks, task.endsAt? = some instant := by
  induction tasks generalizing instant with
  | nil => cases earliest
  | cons task rest inductionHypothesis =>
    rw [List.foldr_cons] at earliest
    cases ends : task.endsAt? with
    | none =>
      rw [ends] at earliest
      obtain ⟨found, member, same⟩ := inductionHypothesis earliest
      exact ⟨found, .tail _ member, same⟩
    | some own =>
      cases later : rest.foldr (fun task next => earlier? task.endsAt? next) none with
      | none =>
        rw [ends, later] at earliest
        exact ⟨task, .head _, ends.trans earliest⟩
      | some other =>
        rw [ends, later, earlier?, Option.some.injEq] at earliest
        obtain ⟨found, member, same⟩ := inductionHypothesis later
        rcases Nat.le_total own other with first | first
        · exact ⟨task, .head _, by rw [ends, ← earliest, Nat.min_eq_left first]⟩
        · exact ⟨found, .tail _ member, by rw [same, ← earliest, Nat.min_eq_right first]⟩

/-- There is no next end exactly when no call runs. -/
theorem earliest_eq_none (earliest :
    tasks.foldr (fun task next => earlier? task.endsAt? next) none = none) :
    tasks.countP BatchTask.isRunning = 0 := by
  induction tasks with
  | nil => rfl
  | cons task rest inductionHypothesis =>
    rw [List.foldr_cons] at earliest
    cases ends : task.endsAt? with
    | none =>
      rw [ends] at earliest
      simpa [BatchTask.isRunning, ends] using inductionHypothesis earliest
    | some own =>
      cases later : rest.foldr (fun task next => earlier? task.endsAt? next) none with
      | none =>
        rw [ends, later] at earliest
        cases earliest
      | some other =>
        rw [ends, later] at earliest
        cases earliest

/-- The tasks that have not ended. -/
def unfinishedCount (submission : Submission) : Nat :=
  submission.tasks.countP fun task => !task.isFinished

/-- Nothing is settled that is unfinished. -/
theorem isSettled_iff : submission.isSettled = true ↔ submission.unfinishedCount = 0 := by
  simp [isSettled, unfinishedCount, List.countP_eq_zero]

/-- When nothing runs and nothing waits, every task has ended. -/
theorem Busy.isSettled (busy : submission.Busy) (still : submission.runningCount = 0) :
    submission.isSettled = true := by
  have quiet : submission.hasWaiting = false := by
    cases waits : submission.hasWaiting with
    | false => rfl
    | true =>
      have runs := busy waits
      omega
  rw [runningCount, List.countP_eq_zero] at still
  simp only [hasWaiting, List.any_eq_false] at quiet
  simp only [Submission.isSettled, List.all_eq_true]
  intro task member
  simpa [still task member] using quiet task member

/-- Going on leaves no more tasks unfinished. -/
theorem Continues.unfinishedCount_le {before after : Submission}
    (continues : Continues before after) :
    after.unfinishedCount ≤ before.unfinishedCount := by
  have tasks := continues.tasks
  unfold unfinishedCount
  generalize before.tasks = earlier, after.tasks = later at tasks
  induction tasks with
  | nil => exact Nat.le_refl _
  | @cons task next earlier later goes rest inductionHypothesis =>
    simp only [List.countP_cons]
    cases ended : task.isFinished with
    | false => simp; split <;> omega
    | true => simpa [goes.isFinished ended] using inductionHypothesis

/-- The instant at which a call ends leaves fewer of them. -/
theorem unfinishedCount_round {instant : Nat} (next : submission.nextEnd? = some instant) :
    (submission.round instant).unfinishedCount < submission.unfinishedCount := by
  obtain ⟨task, member, ends⟩ := earliest_eq_some next
  obtain ⟨earlier, later, split⟩ := List.append_of_mem member
  have ended : (submission.endTask instant task).isFinished = true := by
    obtain ⟨batch, state⟩ := task
    cases state with
    | running due =>
      cases ends
      simp [endTask, BatchTask.isFinished, BatchTask.result?]
    | waiting => cases ends
    | finished result => cases ends
  have unfinished : task.isFinished = false := by
    obtain ⟨batch, state⟩ := task
    cases state with
    | running due => rfl
    | waiting => cases ends
    | finished result => cases ends
  have fewer : (submission.endCalls instant).unfinishedCount < submission.unfinishedCount := by
    have mono : ∀ tasks : List BatchTask,
        (tasks.map (submission.endTask instant)).countP (fun task => !task.isFinished) ≤
          tasks.countP fun task => !task.isFinished := by
      intro tasks
      rw [List.countP_map]
      refine List.countP_mono_left fun task member unended => ?_
      by_contra already
      simp only [Bool.not_eq_true', Bool.not_eq_false] at already
      simp [(continues_endTask submission instant task).isFinished already] at unended
    have before := mono earlier
    have after := mono later
    simp only [unfinishedCount, endCalls, split, List.map_append, List.map_cons,
      List.countP_append, List.countP_cons, ended, unfinished, Bool.not_true, Bool.not_false,
      Bool.false_eq_true, ↓reduceIte]
    omega
  exact Nat.lt_of_le_of_lt (continues_wake _ instant).unfinishedCount_le fewer

/-- As many rounds as there are unfinished tasks settle a busy submission. -/
theorem isSettled_advance (permitted : 0 < submission.permits) (busy : submission.Busy)
    {instants : Nat} (enough : submission.unfinishedCount ≤ instants) :
    (advance (fun _ => true) instants submission).isSettled = true := by
  induction instants generalizing submission with
  | zero =>
    rw [advance, isSettled_iff]
    omega
  | succ instants inductionHypothesis =>
    rw [advance]
    cases next : submission.nextEnd? with
    | none => exact busy.isSettled (earliest_eq_none next)
    | some instant =>
      have fewer := unfinishedCount_round next
      have permittedAfter : 0 < (submission.endCalls instant).permits := permitted
      exact inductionHypothesis permitted (busy_wake permittedAfter instant)
        (Nat.le_of_lt_succ (Nat.lt_of_lt_of_le fewer enough))

/-- Every call that runs ends later than an instant. -/
def Ahead (instant : Nat) (submission : Submission) : Prop :=
  ∀ task ∈ submission.tasks, ∀ ends, task.endsAt? = some ends → instant < ends

/-- A round leaves only calls that end later than it. -/
theorem ahead_round (submission : Submission) (instant : Nat) :
    Ahead instant (submission.round instant) := by
  intro task member ends runs
  obtain ⟨before, earlier, begun⟩ := begun_of_mem member
  cases begun with
  | kept =>
    obtain ⟨⟨batch, state⟩, _, rfl⟩ := List.mem_map.1 earlier
    cases state with
    | waiting => cases runs
    | finished result => cases runs
    | running due =>
      unfold endTask at runs
      by_cases reached : due ≤ instant
      · simp [reached, BatchTask.endsAt?] at runs
      · simp only [reached, ↓reduceIte, BatchTask.endsAt?, Option.some.injEq] at runs
        omega
  | discarded batch given => cases runs
  | ended batch immediate => cases runs
  | started batch lasting =>
    simp only [BatchTask.endsAt?, Option.some.injEq] at runs
    omega

/-- The announced instant is not before the present one. -/
theorem le_lastEnd (ahead : Ahead now submission) (instants : Nat) :
    now ≤ lastEnd now instants submission := by
  induction instants generalizing submission now with
  | zero => exact Nat.le_refl _
  | succ instants inductionHypothesis =>
    rw [lastEnd]
    cases next : submission.nextEnd? with
    | none => exact Nat.le_refl _
    | some instant =>
      obtain ⟨task, member, ends⟩ := earliest_eq_some next
      have later := ahead task member instant ends
      have rest := inductionHypothesis (ahead_round submission instant)
      exact Nat.le_trans (Nat.le_of_lt later) rest

/-- The announced instant does not cut the rounds short. -/
theorem advance_lastEnd (now instants : Nat) (submission : Submission) :
    advance (fun instant => instant ≤ lastEnd now instants submission) instants submission =
      advance (fun _ => true) instants submission := by
  induction instants generalizing submission now with
  | zero => rfl
  | succ instants inductionHypothesis =>
    rw [advance, advance, lastEnd]
    cases next : submission.nextEnd? with
    | none => rfl
    | some instant =>
      have reached := le_lastEnd (ahead_round submission instant) instants
      have rest := inductionHypothesis instant (submission.round instant)
      rw [round] at reached rest
      simp only [reached, decide_true, ↓reduceIte, rest]

/-- Of the tasks that the runtime has looked at no more are unfinished than there are. -/
theorem unfinishedCount_wake_le (submission : Submission) (now : Nat) :
    (submission.wake now).unfinishedCount ≤ submission.tasks.length := by
  rw [(continues_wake submission now).tasks.length_eq]
  exact List.countP_le_length

/-- A submission that is waited for is settled at the announced instant. -/
theorem isSettled_runUntil (permitted : 0 < submission.permits) (now : Nat) :
    (submission.runUntil now (submission.settlesAt now)).isSettled = true := by
  have permittedAfter : 0 < (submission.wake now).permits := permitted
  rw [runUntil, settlesAt, advance_lastEnd]
  exact isSettled_advance permittedAfter (busy_wake permitted now)
    (unfinishedCount_wake_le submission now)

end Reindex.Submission
