import Reindex.Submission
import Mathlib.Data.List.Forall2

/-!
# How submitted batches proceed

One look of the runtime does one of four things to a task, and the end of a call
does one more. In each of them a task keeps its batch and keeps the result that it
has, and a result that it gains is what the backend answers to its batch, or the
discarding of a batch that was given up. Whatever time does to a submission is made
of these moves, so the results that a submission ends with are those of its batches,
whatever the order in which they came in.
-/

namespace Reindex

namespace BatchTask

/-- How a task may go on: its batch stays, a result stays, and a new result is how
the call of its batch ends, unless the batch was given up. -/
structure Continues (submission : Submission) (before after : BatchTask) : Prop where
  batch : after.batch = before.batch
  keeps : ∀ result, before.result? = some result → after.result? = some result
  gains : ∀ result, after.result? = some result → before.result? = some result ∨
    result = submission.callResult after.batch ∨
      (submission.cancelled = true ∧ result = .discarded)

/-- A task may stay as it is. -/
theorem Continues.refl (submission : Submission) (task : BatchTask) :
    Continues submission task task :=
  ⟨rfl, fun _ has => has, fun _ has => .inl has⟩

/-- A task without a result may gain one. -/
theorem Continues.of_unfinished {submission : Submission} {before after : BatchTask}
    (batch : after.batch = before.batch) (unfinished : before.result? = none)
    (gains : ∀ result, after.result? = some result →
      result = submission.callResult after.batch ∨
        (submission.cancelled = true ∧ result = .discarded)) :
    Continues submission before after where
  batch := batch
  keeps result has := by simp [unfinished] at has
  gains result has := .inr (gains result has)

/-- What goes on and on goes on. -/
theorem Continues.trans {submission : Submission} {before middle after : BatchTask}
    (first : Continues submission before middle) (second : Continues submission middle after) :
    Continues submission before after where
  batch := second.batch.trans first.batch
  keeps result has := second.keeps result (first.keeps result has)
  gains result has := by
    rcases second.gains result has with earlier | new
    · rcases first.gains result earlier with before | called | given
      · exact .inl before
      · exact .inr (.inl (second.batch ▸ called))
      · exact .inr (.inr given)
    · exact .inr new

/-- A task that has ended stays ended. -/
theorem Continues.isFinished {submission : Submission} {before after : BatchTask}
    (continues : Continues submission before after) (ended : before.isFinished = true) :
    after.isFinished = true := by
  obtain ⟨result, has⟩ := Option.isSome_iff_exists.1 ended
  exact Option.isSome_iff_exists.2 ⟨result, continues.keeps result has⟩

end BatchTask

namespace Submission

variable {submission : Submission} {now free : Nat} {tasks : List BatchTask}

/-- What one look of the runtime does to a task. -/
inductive Begun (submission : Submission) (now : Nat) : BatchTask → BatchTask → Prop
  | kept (task : BatchTask) : Begun submission now task task
  | discarded (batch : WorkBatch) (given : submission.cancelled = true) :
      Begun submission now ⟨batch, .waiting⟩ ⟨batch, .finished .discarded⟩
  | ended (batch : WorkBatch) (immediate : submission.runTime batch = 0) :
      Begun submission now ⟨batch, .waiting⟩ ⟨batch, .finished (submission.callResult batch)⟩
  | started (batch : WorkBatch) (lasting : submission.runTime batch ≠ 0) :
      Begun submission now ⟨batch, .waiting⟩ ⟨batch, .running (now + submission.runTime batch)⟩

/-- A look of the runtime does one of these things to each task. -/
theorem beginTasks_begun (submission : Submission) (now free : Nat) (tasks : List BatchTask) :
    List.Forall₂ (Begun submission now) tasks (submission.beginTasks now free tasks).1 := by
  induction tasks generalizing free with
  | nil => exact .nil
  | cons task rest inductionHypothesis =>
    obtain ⟨batch, state⟩ := task
    cases state with
    | running ends => exact .cons (.kept _) (inductionHypothesis free)
    | finished result => exact .cons (.kept _) (inductionHypothesis free)
    | waiting =>
      unfold beginTasks
      by_cases given : submission.cancelled = true
      · simp only [given, ↓reduceIte]
        exact .cons (.discarded batch given) (inductionHypothesis free)
      · simp only [given, Bool.false_eq_true, ↓reduceIte]
        cases free with
        | zero => exact .cons (.kept _) (inductionHypothesis 0)
        | succ free =>
          by_cases immediate : submission.runTime batch = 0
          · simp only [immediate, ↓reduceIte]
            exact .cons (.ended batch immediate) (inductionHypothesis (free + 1))
          · simp only [immediate, ↓reduceIte]
            exact .cons (.started batch immediate) (inductionHypothesis free)

/-- A task that the runtime has looked at was one before. -/
theorem begun_of_mem {task : BatchTask} (member : task ∈ (submission.wake now).tasks) :
    ∃ before ∈ submission.tasks, Begun submission now before task := by
  have begun := beginTasks_begun submission now
    (submission.permits - submission.runningCount) submission.tasks
  obtain ⟨index, within, rfl⟩ := List.mem_iff_getElem.1 member
  have withinBefore : index < submission.tasks.length := begun.length_eq ▸ within
  exact ⟨_, List.getElem_mem withinBefore, begun.get withinBefore within⟩

/-- Each of these things lets the task go on. -/
theorem Begun.continues {before after : BatchTask} (begun : Begun submission now before after) :
    BatchTask.Continues submission before after := by
  cases begun with
  | kept => exact .refl submission _
  | discarded batch given =>
    refine .of_unfinished rfl rfl fun result has => .inr ⟨given, ?_⟩
    exact (Option.some.inj has).symm
  | ended batch immediate =>
    refine .of_unfinished rfl rfl fun result has => .inl ?_
    exact (Option.some.inj has).symm
  | started batch lasting =>
    exact .of_unfinished rfl rfl fun result has => nomatch has

/-- The end of a call lets its task go on. -/
theorem continues_endTask (submission : Submission) (now : Nat) (task : BatchTask) :
    BatchTask.Continues submission task (submission.endTask now task) := by
  obtain ⟨batch, state⟩ := task
  cases state with
  | waiting => exact .refl submission _
  | finished result => exact .refl submission _
  | running ends =>
    unfold endTask
    by_cases due : ends ≤ now
    · simp only [due, ↓reduceIte]
      refine .of_unfinished rfl rfl fun result has => .inl ?_
      exact (Option.some.inj has).symm
    · simp only [due, ↓reduceIte]
      exact .refl submission _

/-- How a submission may go on: what was agreed stays, and every task goes on. -/
structure Continues (before after : Submission) : Prop where
  unit : after.unit = before.unit
  backend : after.backend = before.backend
  panicText : after.panicText = before.panicText
  permits : after.permits = before.permits
  timeout : after.timeout = before.timeout
  cancelled : after.cancelled = before.cancelled
  tasks : List.Forall₂ (BatchTask.Continues before) before.tasks after.tasks

/-- How a call ends depends on what was agreed alone. -/
theorem callResult_congr {before after : Submission} (unit : after.unit = before.unit)
    (backend : after.backend = before.backend) (panicText : after.panicText = before.panicText)
    (timeout : after.timeout = before.timeout) : after.callResult = before.callResult := by
  funext batch
  simp only [callResult, answersInTime, response, unit, backend, panicText, timeout]
  rfl

/-- Tasks go on alike under submissions with the same agreements. -/
theorem Continues.task_congr {before after : Submission} (continues : Continues before after)
    {task next : BatchTask} (goes : BatchTask.Continues after task next) :
    BatchTask.Continues before task next where
  batch := goes.batch
  keeps := goes.keeps
  gains result has := by
    rw [← callResult_congr continues.unit continues.backend continues.panicText continues.timeout,
      ← continues.cancelled]
    exact goes.gains result has

/-- A submission may stay as it is. -/
theorem Continues.refl (submission : Submission) : Continues submission submission :=
  ⟨rfl, rfl, rfl, rfl, rfl, rfl, List.forall₂_same.2 fun task _ => .refl submission task⟩

/-- Lists of tasks go on as their tasks do. -/
theorem forall₂_trans {before middle after : List BatchTask}
    (first : List.Forall₂ (BatchTask.Continues submission) before middle)
    (second : List.Forall₂ (BatchTask.Continues submission) middle after) :
    List.Forall₂ (BatchTask.Continues submission) before after := by
  induction first generalizing after with
  | nil =>
    cases second
    exact .nil
  | cons head tail inductionHypothesis =>
    cases second with
    | cons head' tail' => exact .cons (head.trans head') (inductionHypothesis tail')

/-- What goes on and on goes on. -/
theorem Continues.trans {before middle after : Submission} (first : Continues before middle)
    (second : Continues middle after) : Continues before after where
  unit := second.unit.trans first.unit
  backend := second.backend.trans first.backend
  panicText := second.panicText.trans first.panicText
  permits := second.permits.trans first.permits
  timeout := second.timeout.trans first.timeout
  cancelled := second.cancelled.trans first.cancelled
  tasks := forall₂_trans first.tasks (second.tasks.imp fun _ _ goes => first.task_congr goes)

/-- A look of the runtime lets a submission go on. -/
theorem continues_wake (submission : Submission) (now : Nat) :
    Continues submission (submission.wake now) where
  unit := rfl
  backend := rfl
  panicText := rfl
  permits := rfl
  timeout := rfl
  cancelled := rfl
  tasks := (beginTasks_begun submission now _ _).imp fun _ _ begun => begun.continues

/-- The end of calls lets a submission go on. -/
theorem continues_endCalls (submission : Submission) (now : Nat) :
    Continues submission (submission.endCalls now) where
  unit := rfl
  backend := rfl
  panicText := rfl
  permits := rfl
  timeout := rfl
  cancelled := rfl
  tasks := by
    rw [endCalls, List.forall₂_map_right_iff]
    exact List.forall₂_same.2 fun task _ => continues_endTask submission now task

/-- What happens at an instant at which a call ends. -/
def round (submission : Submission) (instant : Nat) : Submission :=
  (submission.endCalls instant).wake instant

/-- What happens at one instant lets a submission go on. -/
theorem continues_round (submission : Submission) (instant : Nat) :
    Continues submission (submission.round instant) :=
  (continues_endCalls submission instant).trans (continues_wake _ instant)

/-- Any number of instants let a submission go on. -/
theorem continues_advance (within : Nat → Bool) (instants : Nat) (submission : Submission) :
    Continues submission (advance within instants submission) := by
  induction instants generalizing submission with
  | zero => exact .refl submission
  | succ instants inductionHypothesis =>
    rw [advance]
    cases submission.nextEnd? with
    | none => exact .refl submission
    | some instant =>
      by_cases reached : within instant = true
      · simp only [reached, ↓reduceIte]
        exact (continues_round submission instant).trans (inductionHypothesis _)
      · simp only [reached]
        exact .refl submission

/-- Time lets a submission go on. -/
theorem continues_runUntil (submission : Submission) (now target : Nat) :
    Continues submission (submission.runUntil now target) :=
  (continues_wake submission now).trans (continues_advance _ _ _)

/-- Tasks that waited and have ended hold the results of their batches. -/
theorem results_of_finished (admitted : submission.cancelled = false) {batches : List WorkBatch}
    (continues : List.Forall₂ (BatchTask.Continues submission)
      (batches.map fun batch => { batch }) tasks)
    (ended : ∀ task ∈ tasks, task.isFinished = true) :
    (tasks.filterMap fun task => task.result?.map fun result => (task.batch.keys, result)) =
      batches.map fun batch => (batch.keys, submission.callResult batch) := by
  induction batches generalizing tasks with
  | nil =>
    cases continues
    rfl
  | cons batch rest inductionHypothesis =>
    cases continues with
    | @cons _ task _ later goes continues =>
      obtain ⟨result, has⟩ := Option.isSome_iff_exists.1 (ended task List.mem_cons_self)
      have called : result = submission.callResult task.batch := by
        rcases goes.gains result has with before | called | ⟨given, _⟩
        · cases before
        · exact called
        · simp [admitted] at given
      have same : task.batch = batch := goes.batch
      have rest := inductionHypothesis continues fun task member =>
        ended task (List.mem_cons_of_mem _ member)
      simp [has, called, same, rest]

/-- A submission that has come to rest holds the results of its batches, in order. -/
theorem Continues.settledBatches {unit : Nat} {services : Services} {permits timeout : Nat}
    {batches : List WorkBatch}
    (continues : Continues (submit unit services permits timeout batches) submission)
    (settled : submission.isSettled = true) :
    submission.settledBatches = batches.map fun batch =>
      (batch.keys, (submit unit services permits timeout batches).callResult batch) := by
  have ended : ∀ task ∈ submission.tasks, task.isFinished = true := by
    simpa [isSettled] using settled
  exact results_of_finished rfl continues.tasks ended

end Submission

end Reindex
