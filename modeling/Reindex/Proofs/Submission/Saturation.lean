import Mathlib.Algebra.Order.Floor.Div
import Reindex.Proofs.Submission.Course

/-!
# Permits in use

A look of the runtime leaves a batch waiting only when every permit is taken, and until the
next call ends neither changes. So from the submission on, at every instant, either all
batches have begun or as many calls are outstanding as there are permits. An answer, an
error, a panic and a passed deadline are alike in this: the call is over, and its permit is
taken again at that very instant.

No call lasts longer than the deadline. Whatever is outstanding a deadline later has begun
in between, so with each deadline that passes another round of batches begins, as many as
there are permits. This bounds the start of every batch and the end of the last call.
-/

namespace Reindex

namespace BackendCall

variable {lasts : WorkBatch → Nat} {instant limit : Nat} {calls : List BackendCall}

/-- How many calls have begun by an instant. -/
def begunBy (instant : Nat) (calls : List BackendCall) : Nat :=
  calls.countP fun call => call.start ≤ instant

/-- What is outstanding has begun. -/
theorem outstanding_le_begunBy (lasts : WorkBatch → Nat) (instant : Nat)
    (calls : List BackendCall) : outstanding lasts instant calls ≤ begunBy instant calls := by
  refine List.countP_mono_left fun call member counted => ?_
  simp only [decide_eq_true_eq] at counted ⊢
  exact counted.1

/-- What has begun has begun later on. -/
theorem begunBy_mono {earlier : Nat} (later : earlier ≤ instant) (calls : List BackendCall) :
    begunBy earlier calls ≤ begunBy instant calls := by
  refine List.countP_mono_left fun call member counted => ?_
  simp only [decide_eq_true_eq] at counted ⊢
  exact Nat.le_trans counted later

/-- In the end all calls have begun. -/
theorem begunBy_eq_length (begun : ∀ call ∈ calls, call.start ≤ instant) :
    begunBy instant calls = calls.length := by
  rw [begunBy, List.countP_eq_length]
  intro call member
  exact decide_eq_true (begun call member)

/-- Whether the backend has answered is of no account. -/
theorem begunBy_map {f : BackendCall → BackendCall}
    (same : ∀ call, (f call).start = call.start ∧ (f call).batch = call.batch) :
    begunBy instant (calls.map f) = begunBy instant calls := by
  simp only [begunBy, List.countP_map, Function.comp_def, same]

/-- Calls that begin later count neither as begun nor as outstanding. -/
theorem counts_append (lasts : WorkBatch → Nat) (calls : List BackendCall)
    {new : List BackendCall} (later : ∀ call ∈ new, instant < call.start) :
    begunBy instant (calls ++ new) = begunBy instant calls ∧
      outstanding lasts instant (calls ++ new) = outstanding lasts instant calls := by
  have none : begunBy instant new = 0 := by
    rw [begunBy, List.countP_eq_zero]
    intro call member
    simpa using later call member
  have silent : outstanding lasts instant new = 0 :=
    Nat.le_zero.1 (none ▸ outstanding_le_begunBy lasts instant new)
  constructor
  · rw [begunBy, List.countP_append]
    exact congrArg (begunBy instant calls + ·) none
  · rw [outstanding, List.countP_append]
    exact congrArg (outstanding lasts instant calls + ·) silent

/-- What is outstanding after the time that a call lasts at most has begun in between. -/
theorem outstanding_add_begunBy_le (limited : ∀ batch, lasts batch ≤ limit) (instant : Nat)
    (calls : List BackendCall) :
    outstanding lasts (instant + limit) calls + begunBy instant calls ≤
      begunBy (instant + limit) calls := by
  induction calls with
  | nil => exact Nat.le_refl _
  | cons call rest inductionHypothesis =>
    have short := limited call.batch
    simp only [outstanding, begunBy, List.countP_cons, decide_eq_true_eq] at inductionHypothesis ⊢
    split <;> split <;> split <;> omega

/-- When calls are recorded in the order in which they begin, those that have begun are the
first ones. -/
theorem start_le_of_lt_begunBy
    (sorted : calls.Pairwise fun earlier later => earlier.start ≤ later.start) {index : Nat}
    (counted : index < begunBy instant calls) :
    ∃ call, calls[index]? = some call ∧ call.start ≤ instant := by
  induction calls generalizing index with
  | nil => cases counted
  | cons call rest inductionHypothesis =>
    obtain ⟨first, others⟩ := List.pairwise_cons.1 sorted
    by_cases begun : call.start ≤ instant
    · cases index with
      | zero => exact ⟨call, rfl, begun⟩
      | succ index =>
        have shorter : begunBy instant (call :: rest) = begunBy instant rest + 1 :=
          List.countP_cons_of_pos (decide_eq_true begun)
        rw [shorter] at counted
        exact inductionHypothesis others (Nat.lt_of_succ_lt_succ counted)
    · -- the first call has not begun, so no other one has
      have none : begunBy instant (call :: rest) = 0 := by
        rw [begunBy, List.countP_eq_zero]
        intro later member
        rcases List.mem_cons.1 member with rfl | behind
        · simpa using begun
        · have order := first later behind
          simp only [decide_eq_true_eq]
          omega
      rw [none] at counted
      cases counted

end BackendCall

/-- A task that runs ends when the time of its call is over. -/
theorem BatchTask.Called.ends_eq {lasts : WorkBatch → Nat} {result : WorkBatch → BatchResult}
    {now ends : Nat} {task : BatchTask} {call : BackendCall}
    (called : Called lasts result now task call) (runs : task.endsAt? = some ends) :
    ends = call.start + lasts call.batch := by
  cases called with
  | running _ begun ongoing => exact (Option.some.inj runs).symm
  | past _ ended => cases runs

namespace Submission

open BatchTask (Called)
open BackendCall (begunBy outstanding)

variable {submission : Submission} {since now instant target : Nat} {tasks : List BatchTask}

/-- No call lasts longer than the deadline. -/
theorem runTime_le (submission : Submission) (batch : WorkBatch) :
    submission.runTime batch ≤ submission.timeout := Nat.min_le_right _ _

/-- The calls that a look of the runtime begins begin at its instant. -/
theorem start_beginTasks {free : Nat} :
    ∀ call ∈ (submission.beginTasks now free tasks).2, call.start = now := by
  induction tasks generalizing free with
  | nil => simp [beginTasks]
  | cons task rest inductionHypothesis =>
    obtain ⟨batch, state⟩ := task
    cases state with
    | running ends => exact inductionHypothesis
    | finished result => exact inductionHypothesis
    | waiting =>
      unfold beginTasks
      by_cases given : submission.cancelled = true
      · simp only [given, ↓reduceIte]
        exact inductionHypothesis
      · simp only [given, Bool.false_eq_true, ↓reduceIte]
        cases free with
        | zero => exact inductionHypothesis
        | succ free =>
          by_cases immediate : submission.runTime batch = 0
          · simp only [immediate, ↓reduceIte]
            exact List.forall_mem_cons.2 ⟨rfl, inductionHypothesis⟩
          · simp only [immediate, ↓reduceIte]
            exact List.forall_mem_cons.2 ⟨rfl, inductionHypothesis⟩

/-- What a look of the runtime adds to the record. -/
theorem calls_wake (submission : Submission) (now : Nat) :
    ∃ new, (submission.wake now).calls = submission.calls ++ new ∧
      ∀ call ∈ new, call.start = now :=
  ⟨_, rfl, start_beginTasks⟩

/-- A task that was called does not wait. -/
theorem any_isWaiting_called {lasts : WorkBatch → Nat} {result : WorkBatch → BatchResult}
    {calls : List BackendCall} (called : List.Forall₂ (Called lasts result now) tasks calls) :
    tasks.any isWaiting = false := by
  induction called with
  | nil => rfl
  | cons head _ inductionHypothesis =>
    rw [List.any_cons, inductionHypothesis, Bool.or_false]
    cases head <;> rfl

/-- The calls on record have begun. -/
theorem Orderly.start_le (orderly : submission.Orderly now) :
    ∀ call ∈ submission.calls, call.start ≤ now := by
  obtain ⟨begun, rest, _, called, _⟩ := orderly.records
  exact BatchTask.starts_called called

/-- As long as nobody gives it up, a batch without a call waits. -/
theorem Orderly.hasWaiting_iff (orderly : submission.Orderly now)
    (kept : submission.cancelled = false) :
    submission.hasWaiting = true ↔ submission.calls.length < submission.tasks.length := by
  obtain ⟨begun, rest, tasks, called, uncalled⟩ := orderly.records
  have split : submission.hasWaiting = (begun.any isWaiting || rest.any isWaiting) := by
    rw [← List.any_append, ← tasks]
    rfl
  rw [split, any_isWaiting_called called, Bool.false_or, tasks, List.length_append,
    called.length_eq]
  cases rest with
  | nil => simp
  | cons task rest =>
    have waits : isWaiting task = true := by
      cases uncalled task List.mem_cons_self with
      | waiting batch => rfl
      | discarded batch given => simp [kept] at given
    simp [waits]

/-- A call that runs is on record, and ends when its time is over. -/
theorem Orderly.call_of_endsAt? (orderly : submission.Orderly now) {task : BatchTask} {ends : Nat}
    (member : task ∈ submission.tasks) (runs : task.endsAt? = some ends) :
    ∃ (index : Nat) (call : BackendCall), submission.calls[index]? = some call ∧
      ends = call.start + submission.runTime call.batch := by
  obtain ⟨begun, rest, tasks, called, uncalled⟩ := orderly.records
  rw [tasks] at member
  rcases List.mem_append.1 member with first | behind
  · obtain ⟨index, within, rfl⟩ := List.mem_iff_getElem.1 first
    have withinCalls : index < submission.calls.length := called.length_eq ▸ within
    have head : Called submission.runTime submission.callResult now begun[index]
        submission.calls[index] := called.get within withinCalls
    exact ⟨index, _, List.getElem?_eq_getElem withinCalls, head.ends_eq runs⟩
  · cases uncalled task behind <;> cases runs

/-- From one instant until before another, either all batches have begun or every permit is
taken. -/
def Saturated (since limit : Nat) (submission : Submission) : Prop :=
  ∀ instant, since ≤ instant → instant < limit →
    begunBy instant submission.calls < submission.tasks.length →
      outstanding submission.runTime instant submission.calls = submission.permits

/-- A look of the runtime takes the permits that are free at its instant. -/
theorem Saturated.wake (saturated : submission.Saturated since now)
    (orderly : submission.Orderly now) (kept : submission.cancelled = false) :
    (submission.wake now).Saturated since (now + 1) := by
  intro instant begun passed fewer
  rcases Nat.lt_or_eq_of_le (Nat.le_of_lt_succ passed) with before | rfl
  · -- the new calls begin later, so what counts is what counted before
    obtain ⟨new, calls, starts⟩ := calls_wake submission now
    have later : ∀ call ∈ new, instant < call.start := by
      intro call member
      rw [starts call member]
      exact before
    obtain ⟨sameBegun, sameOutstanding⟩ := BackendCall.counts_append submission.runTime
      submission.calls later
    have same := (continues_wake submission now).tasks.length_eq
    rw [calls, sameBegun, ← same] at fewer
    rw [calls]
    exact sameOutstanding.trans (saturated instant begun before fewer)
  · have looked := orderly.wake
    rw [BackendCall.begunBy_eq_length looked.start_le] at fewer
    have waits := (looked.hasWaiting_iff kept).2 fewer
    have running := runningCount_wake kept waits
    have within := looked.admitted.outstanding_le instant
    have permits : (submission.wake instant).permits = submission.permits := rfl
    rw [looked.runningCount_eq] at running
    omega

/-- Until the next call ends nothing changes. -/
theorem Saturated.later (saturated : submission.Saturated since (now + 1))
    (orderly : submission.Orderly now) (begun : since ≤ now)
    (ahead : ∀ task ∈ submission.tasks, ∀ ends, task.endsAt? = some ends → instant ≤ ends) :
    submission.Saturated since instant := by
  intro moment onward before fewer
  rcases Nat.lt_or_ge now moment with after | earlier
  · have still := orderly.later (Nat.le_of_lt after) fun task member ends runs =>
      Nat.lt_of_lt_of_le before (ahead task member ends runs)
    have same : outstanding submission.runTime moment submission.calls =
        outstanding submission.runTime now submission.calls :=
      still.runningCount_eq.symm.trans orderly.runningCount_eq
    rw [BackendCall.begunBy_eq_length still.start_le,
      ← BackendCall.begunBy_eq_length orderly.start_le] at fewer
    rw [same]
    exact saturated now begun (Nat.lt_succ_self now) fewer
  · exact saturated moment onward (Nat.lt_succ_of_le earlier) fewer

/-- The end of calls takes nothing back. -/
theorem Saturated.endCalls (saturated : submission.Saturated since instant) :
    (submission.endCalls instant).Saturated since instant := by
  intro moment begun before fewer
  have same := noteReplies_same submission instant
  rw [Submission.endCalls, List.length_map, BackendCall.begunBy_map same] at fewer
  exact (BackendCall.outstanding_map same).trans (saturated moment begun before fewer)

/-- A submission that nobody has given up, after the runtime has looked: its record is true,
and since the submission no permit was free while a batch waited. -/
structure Steady (since now : Nat) (submission : Submission) : Prop where
  orderly : submission.Orderly now
  kept : submission.cancelled = false
  since_le : since ≤ now
  begun : ∀ call ∈ submission.calls, since ≤ call.start
  saturated : submission.Saturated since (now + 1)

/-- A submission that the runtime has looked at, unless it was only just made. -/
structure Attended (since now : Nat) (submission : Submission) : Prop where
  looked : (submission.wake now).Steady since now
  still : since < now → submission.wake now = submission

/-- What is submitted is looked at before any time has passed. -/
theorem attended_submit (unit : Nat) (services : Services) (permits timeout : Nat)
    (batches : List WorkBatch) (now : Nat) :
    (submit unit services permits timeout batches).Attended now now where
  looked := by
    have fresh := orderly_submit unit services permits timeout batches now
    refine ⟨fresh.wake, rfl, Nat.le_refl now, ?_, Saturated.wake ?_ fresh rfl⟩
    · intro call member
      exact Nat.le_of_eq (start_beginTasks call member).symm
    · intro instant begun before
      omega
  still := fun later => absurd later (Nat.lt_irrefl now)

/-- At each instant at which calls end the permits are taken again. -/
theorem Steady.round (steady : submission.Steady since now) (passed : now ≤ instant)
    (next : submission.nextEnd? = some instant) :
    (submission.round instant).Steady since instant := by
  have orderly := steady.orderly.endCalls passed
  have saturated : submission.Saturated since instant :=
    steady.saturated.later steady.orderly steady.since_le fun task member ends runs =>
      earliest_le next member runs
  constructor
  · exact orderly.wake
  · exact steady.kept
  · exact Nat.le_trans steady.since_le passed
  · intro call member
    obtain ⟨new, calls, starts⟩ := calls_wake (submission.endCalls instant) instant
    rw [Submission.round, calls] at member
    rcases List.mem_append.1 member with earlier | added
    · obtain ⟨before, listed, rfl⟩ := List.mem_map.1 earlier
      rw [(noteReplies_same submission instant before).1]
      exact steady.begun before listed
    · rw [starts call added]
      exact Nat.le_trans steady.since_le passed
  · exact saturated.endCalls.wake orderly steady.kept

/-- Until the next call ends everything stays as it is. -/
theorem Steady.later (steady : submission.Steady since now) (passed : now ≤ instant)
    (ahead : Ahead instant submission) : submission.Steady since instant where
  orderly := steady.orderly.later passed ahead
  kept := steady.kept
  since_le := Nat.le_trans steady.since_le passed
  begun := steady.begun
  saturated := steady.saturated.later steady.orderly steady.since_le ahead

/-- While a batch waits every permit is taken. -/
theorem Steady.runningCount_eq (steady : submission.Steady since now)
    (waits : submission.hasWaiting = true) : submission.runningCount = submission.permits := by
  have fewer := (steady.orderly.hasWaiting_iff steady.kept).1 waits
  rw [← BackendCall.begunBy_eq_length steady.orderly.start_le] at fewer
  rw [steady.orderly.runningCount_eq]
  exact steady.saturated now steady.since_le (Nat.lt_succ_self now) fewer

/-- Nothing is left to a second look of the runtime. -/
theorem Steady.wake_eq (steady : submission.Steady since now) :
    submission.wake now = submission := by
  cases waits : submission.hasWaiting with
  | false => exact wake_of_still waits now
  | true =>
    simp [Submission.wake, steady.runningCount_eq waits, beginTasks_zero steady.kept,
      calls_beginTasks_zero steady.kept]

/-- What the runtime has looked at is attended to. -/
theorem Steady.attended (steady : submission.Steady since now) :
    submission.Attended since now where
  looked := steady.wake_eq.symm ▸ steady
  still := fun _ => steady.wake_eq

/-- To run from one instant to another lets no permit lie idle. -/
theorem Attended.runUntil (attended : submission.Attended since now) (passed : now ≤ target) :
    (submission.runUntil now target).Attended since target :=
  Steady.attended <| advance_keeps (fun now submission => submission.Steady since now)
    (fun steady => steady.orderly.ahead) Steady.later Steady.round attended.looked passed
    (unfinishedCount_wake_le submission now)

/-- With each deadline that passes as many batches have begun as there are permits. The
induction is on the deadlines: what is outstanding when one has passed has begun since the
one before. -/
theorem Steady.le_begunBy (steady : submission.Steady since now) (turn : Nat)
    (passed : since + turn * submission.timeout ≤ now) :
    min submission.tasks.length ((turn + 1) * submission.permits) ≤
      begunBy (since + turn * submission.timeout) submission.calls := by
  have taken := steady.saturated (since + turn * submission.timeout) (Nat.le_add_right ..)
    (Nat.lt_succ_of_le passed)
  induction turn with
  | zero =>
    have counted := BackendCall.outstanding_le_begunBy submission.runTime
      (since + 0 * submission.timeout) submission.calls
    omega
  | succ turn inductionHypothesis =>
    have next : since + (turn + 1) * submission.timeout =
        since + turn * submission.timeout + submission.timeout := by
      rw [Nat.succ_mul, Nat.add_assoc]
    have before : since + turn * submission.timeout ≤ now := by omega
    have earlier := inductionHypothesis before
      (steady.saturated _ (Nat.le_add_right ..) (Nat.lt_succ_of_le before))
    have between := BackendCall.outstanding_add_begunBy_le submission.runTime_le
      (since + turn * submission.timeout) submission.calls
    have only := BackendCall.begunBy_mono
      (Nat.le_add_right (since + turn * submission.timeout) submission.timeout) submission.calls
    rw [next] at taken ⊢
    have more : (turn + 1 + 1) * submission.permits =
        (turn + 1) * submission.permits + submission.permits := Nat.succ_mul ..
    omega

/-- Each batch has begun once as many deadlines have passed as rounds of batches are in front
of its own. -/
theorem Steady.start_le (steady : submission.Steady since now) (permitted : 0 < submission.permits)
    {index : Nat} (within : index < submission.tasks.length)
    (passed : since + index / submission.permits * submission.timeout ≤ now) :
    ∃ call, submission.calls[index]? = some call ∧
      call.start ≤ since + index / submission.permits * submission.timeout := by
  have counted := steady.le_begunBy (index / submission.permits) passed
  have inRound : index < (index / submission.permits + 1) * submission.permits := by
    rw [Nat.mul_comm]
    exact Nat.lt_mul_div_succ index permitted
  refine BackendCall.start_le_of_lt_begunBy steady.orderly.admitted.pairwise ?_
  omega

/-- No call on record has begun later than that. -/
theorem Steady.start_le_of_called (steady : submission.Steady since now)
    (permitted : 0 < submission.permits) {index : Nat} {call : BackendCall}
    (called : submission.calls[index]? = some call) :
    index < submission.tasks.length ∧
      call.start ≤ since + index / submission.permits * submission.timeout := by
  have within : index < submission.tasks.length := by
    have shorter := steady.orderly.called_prefix.length_le
    rw [List.length_map, List.length_map] at shorter
    exact Nat.lt_of_lt_of_le (List.getElem?_eq_some_iff.1 called).1 shorter
  refine ⟨within, ?_⟩
  rcases Nat.lt_or_ge now (since + index / submission.permits * submission.timeout) with
    ahead | passed
  · have begun := steady.orderly.start_le call (List.mem_of_getElem? called)
    exact Nat.le_trans begun (Nat.le_of_lt ahead)
  · obtain ⟨found, same, bound⟩ := steady.start_le permitted within passed
    rw [called, Option.some.injEq] at same
    exact same ▸ bound

/-- The time in which a number of batches have ended, when each takes as long as the deadline
and as many run as are permitted. -/
def span (permits timeout batches : Nat) : Nat := batches ⌈/⌉ permits * timeout

/-- A batch has ended when its own round is over, and the rounds are over with the last one. -/
theorem le_span {permits batches index : Nat} (timeout : Nat) (permitted : 0 < permits)
    (within : index < batches) :
    index / permits * timeout + timeout ≤ span permits timeout batches := by
  have enough : batches ≤ permits * (batches ⌈/⌉ permits) :=
    (ceilDiv_le_iff_le_mul permitted).1 (Nat.le_refl _)
  have inFront : index / permits < batches ⌈/⌉ permits :=
    Nat.div_lt_of_lt_mul (Nat.lt_of_lt_of_le within enough)
  calc index / permits * timeout + timeout
      = (index / permits + 1) * timeout := (Nat.succ_mul _ _).symm
    _ ≤ batches ⌈/⌉ permits * timeout := Nat.mul_le_mul_right timeout inFront

/-- Every call that runs ends within that time. -/
theorem Steady.ends_le (steady : submission.Steady since now) (permitted : 0 < submission.permits)
    {task : BatchTask} {ends : Nat} (member : task ∈ submission.tasks)
    (runs : task.endsAt? = some ends) :
    ends ≤ since + span submission.permits submission.timeout submission.tasks.length := by
  obtain ⟨index, call, called, rfl⟩ := steady.orderly.call_of_endsAt? member runs
  obtain ⟨within, start⟩ := steady.start_le_of_called permitted called
  have short := submission.runTime_le call.batch
  have soon := le_span submission.timeout permitted within
  omega

/-- So the last call ends within that time, or nothing runs any more. -/
theorem Steady.lastEnd_le (steady : submission.Steady since now)
    (permitted : 0 < submission.permits) (instants : Nat) :
    lastEnd now instants submission ≤
      max now (since + span submission.permits submission.timeout submission.tasks.length) := by
  induction instants generalizing submission now with
  | zero => exact Nat.le_max_left _ _
  | succ instants inductionHypothesis =>
    rw [lastEnd]
    cases next : submission.nextEnd? with
    | none => exact Nat.le_max_left _ _
    | some instant =>
      obtain ⟨task, member, runs⟩ := earliest_eq_some next
      have after := steady.orderly.ahead task member instant runs
      have soon := steady.ends_le permitted member runs
      have last := inductionHypothesis (steady.round (Nat.le_of_lt after) next) permitted
      have continues := continues_round submission instant
      rw [continues.permits, continues.timeout, ← continues.tasks.length_eq] at last
      exact Nat.le_trans last (by omega)

/-- A submission that is waited for is settled within that time, or at once. -/
theorem Attended.settlesAt_le (attended : submission.Attended since now)
    (permitted : 0 < submission.permits) :
    submission.settlesAt now ≤
      max now (since + span submission.permits submission.timeout submission.tasks.length) := by
  have last := attended.looked.lastEnd_le permitted submission.tasks.length
  have continues := continues_wake submission now
  rwa [continues.permits, continues.timeout, ← continues.tasks.length_eq] at last

end Submission

end Reindex
