import Reindex.Proofs.Flush.Calls
import Mathlib.Data.List.Induction

/-!
# What the backend is called with

The calls of a unit are looked at over a whole run, with any units, any behaviour of the
backend and any order of waiting, rolling back and letting go. They are for batches that
a call has prepared for the unit, each at most once, in the order of their numbers and
from the first one on; never are more of them outstanding than there are permits. A unit
that ended with an outcome has had all its batches called, and one that was given up has
no call begin afterwards.
-/

namespace Reindex

/-- In the course of a run a call prepares a unit, which has a plan, and this is what
becomes of the plan. -/
def PreparedIn (environment : Environment) (number : Nat) (steps : List EngineStep)
    (prepared : PreparedFlush) : Prop :=
  ∃ earlier call later unit plan, steps = earlier ++ .call number call :: later ∧
    call.prepares = true ∧
      ((Engine.start environment).run earlier).unit? number = some unit ∧ unit.plan = some plan ∧
        (environment.mapping.prepare (environment.services number) plan).1 = .ok prepared

/-- In the course of a run a call prepares a unit, which has this plan. -/
def FlushedIn (environment : Environment) (number : Nat) (steps : List EngineStep)
    (plan : Plan) : Prop :=
  ∃ earlier call later unit, steps = earlier ++ .call number call :: later ∧
    call.prepares = true ∧
      ((Engine.start environment).run earlier).unit? number = some unit ∧ unit.plan = some plan

/-- What can be said of the calls of a unit after a run. -/
structure SafelyCalled (environment : Environment) (number : Nat) (steps : List EngineStep)
    (now : Nat) (slot : UnitSlot) : Prop where
  /-- Every call is for a batch that was prepared for the unit in the run. -/
  prepared : ∀ call ∈ slot.unit.work.calls, ∃ prepared,
    PreparedIn environment number steps prepared ∧ call.batch ∈ prepared.batches
  /-- Of the batches that were prepared, which are numbered from zero on, the first ones
  were called, in order, -/
  inOrder : ∀ prepared, PreparedIn environment number steps prepared →
    prepared.batches.map WorkBatch.sequence = List.range prepared.batches.length ∧
      slot.unit.work.called <+: prepared.batches
  /-- none of them twice, -/
  once : (slot.unit.work.called.map WorkBatch.sequence).Nodup
  /-- and all of them if the unit ended with an outcome. -/
  settled : slot.unit.outcome.isSome = true →
    ∀ prepared, PreparedIn environment number steps prepared →
      slot.unit.work.called = prepared.batches
  /-- The calls began one after another, -/
  chronological : slot.unit.work.calls.Pairwise fun earlier later => earlier.start ≤ later.start
  /-- each while fewer of them were outstanding than are permitted, -/
  admitted : ∀ earlier call later, slot.unit.work.calls = earlier ++ call :: later →
    BackendCall.outstanding (environment.runTime number) call.start earlier <
      environment.mapping.config.maxInFlight
  /-- so that at no instant more of them are outstanding. -/
  bounded : ∀ instant,
    BackendCall.outstanding (environment.runTime number) instant slot.unit.work.calls ≤
      environment.mapping.config.maxInFlight
  /-- Those that are outstanding now are the tasks that run. -/
  running : ∀ submission, slot.unit.work.inFlight? = some submission →
    submission.runningCount =
      BackendCall.outstanding (environment.runTime number) now slot.unit.work.calls
  /-- From the step on that gave the unit up no call began. -/
  silenced : ∀ earlier step later before, steps = earlier ++ step :: later → step.GivesUp number →
    ((Engine.start environment).run earlier).unit? number = some before →
      slot.unit.work.started = before.work.started

/-- What was prepared in a run was prepared in a longer one. -/
theorem PreparedIn.append {environment : Environment} {number : Nat} {steps : List EngineStep}
    {prepared : PreparedFlush} (ready : PreparedIn environment number steps prepared)
    (more : List EngineStep) : PreparedIn environment number (steps ++ more) prepared := by
  obtain ⟨earlier, call, later, unit, plan, rfl, prepares, atHand, planned, ready⟩ := ready
  exact ⟨earlier, call, later ++ more, unit, plan, by simp, prepares, atHand, planned, ready⟩

/-- What was prepared in a run comes from a plan that was flushed in it. -/
theorem PreparedIn.flushed {environment : Environment} {number : Nat} {steps : List EngineStep}
    {prepared : PreparedFlush} (ready : PreparedIn environment number steps prepared) :
    ∃ plan, FlushedIn environment number steps plan ∧
      (environment.mapping.prepare (environment.services number) plan).1 = .ok prepared := by
  obtain ⟨earlier, call, later, unit, plan, split, prepares, atHand, planned, ready⟩ := ready
  exact ⟨plan, ⟨earlier, call, later, unit, split, prepares, atHand, planned⟩, ready⟩

/-- What was prepared is numbered from zero on. -/
theorem PreparedIn.sequences {environment : Environment} {number : Nat} {steps : List EngineStep}
    {prepared : PreparedFlush} (ready : PreparedIn environment number steps prepared) :
    prepared.batches.map WorkBatch.sequence = List.range prepared.batches.length := by
  obtain ⟨plan, _, ready⟩ := ready.flushed
  exact PreparedFlush.sequences_of_prepare ready

/-- A plan that was flushed in a run was made by registrations. -/
theorem FlushedIn.reachable {environment : Environment} {number : Nat} {steps : List EngineStep}
    {plan : Plan} (flushed : FlushedIn environment number steps plan) :
    Plan.Reachable environment.mapping plan := by
  obtain ⟨earlier, _, _, unit, _, _, atHand, planned⟩ := flushed
  obtain ⟨consistent, agreed⟩ := Engine.run_consistent environment earlier
  have shape := consistent.shape atHand
  rw [agreed] at shape
  obtain ⟨_, _, reached⟩ := shape.of_plan planned
  exact reached

namespace Engine

variable {environment : Environment} {number : Nat} {slot : UnitSlot} {prepared : PreparedFlush}
  {steps : List EngineStep}

/-- A unit that was flushed in a run is not open, and holds the batches of its plan. -/
theorem batches_of_flushedIn (permitted : 0 < environment.mapping.config.maxInFlight)
    {plan : Plan} (flushed : FlushedIn environment number steps plan)
    (held : ((start environment).run steps).slots[number]? = some slot) :
    slot.unit.state.isOpen = false ∧
      slot.unit.work.batches = UnitOfWork.batchesOf environment number plan := by
  obtain ⟨earlier, call, later, unit, rfl, prepares, atHand, planned⟩ := flushed
  have sound := run_sound permitted earlier
  have shape := sound.shape (unit?_eq_some_iff.1 atHand)
  obtain ⟨since, rfl, _⟩ := shape.of_plan planned
  have leaves := leaves_step sound.consistent atHand call
  rw [sound.agreed] at leaves
  -- the call leaves the unit closed, with these batches, and nothing opens it again
  obtain ⟨batches, closed⟩ :=
    shape.parts_called_of_plan number ((start environment).run earlier).now prepares
  obtain ⟨final, found, closedThen, kept⟩ :=
    (sound.step permitted (.call number call)).run_of_closed permitted leaves.held closed later
  rw [run_append] at held
  obtain rfl : final = slot := Option.some.inj (found.symm.trans held)
  exact ⟨closedThen, kept.trans batches⟩

/-- Whatever was prepared for a unit in a run, the unit holds its batches. -/
theorem batches_of_preparedIn (permitted : 0 < environment.mapping.config.maxInFlight)
    (ready : PreparedIn environment number steps prepared)
    (held : ((start environment).run steps).slots[number]? = some slot) :
    slot.unit.work.batches = prepared.batches := by
  obtain ⟨plan, flushed, ready⟩ := ready.flushed
  rw [(batches_of_flushedIn permitted flushed held).2, UnitOfWork.batchesOf, ready]

/-- Whatever batches a unit holds after a run, they were prepared for it in the run. -/
theorem preparedIn_of_batches (permitted : 0 < environment.mapping.config.maxInFlight)
    (held : ((start environment).run steps).slots[number]? = some slot)
    (something : slot.unit.work.batches ≠ []) :
    ∃ prepared, PreparedIn environment number steps prepared ∧
      slot.unit.work.batches = prepared.batches := by
  induction steps using List.reverseRecOn generalizing slot with
  | nil => cases held
  | append_singleton earlier step inductionHypothesis =>
    have sound := run_sound permitted earlier
    rw [run_append] at held
    obtain ⟨_, _, rfl⟩ | ⟨before, heldBefore, fate⟩ := step_stems sound.consistent held
    · exact absurd rfl something
    · rcases sound.batches_of_fate heldBefore fate with
        same | ⟨call, plan, rfl, prepares, atHand, planned, same⟩
      · rw [same] at something ⊢
        obtain ⟨prepared, ready, batches⟩ := inductionHypothesis heldBefore something
        exact ⟨prepared, ready.append _, batches⟩
      · rw [same] at something ⊢
        obtain ⟨prepared, ready, batches⟩ := UnitOfWork.prepare_of_batchesOf something
        obtain ⟨unit, dropped⟩ := before
        cases atHand
        exact ⟨prepared, ⟨earlier, call, [], unit, plan, rfl, prepares,
          unit?_eq_some_iff.2 heldBefore, planned, ready⟩, batches⟩

/-- Once a unit was given up in a run no call of it has begun. -/
theorem started_of_givesUp (permitted : 0 < environment.mapping.config.maxInFlight)
    {earlier later : List EngineStep} {step : EngineStep} {unit : UnitOfWork}
    (atHand : ((start environment).run earlier).unit? number = some unit)
    (gives : step.GivesUp number)
    (held : ((start environment).run (earlier ++ step :: later)).slots[number]? = some slot) :
    slot.unit.work.started = unit.work.started := by
  have sound := run_sound permitted earlier
  obtain ⟨next, found, spent, started⟩ := sound.step_gives_up permitted atHand gives
  obtain ⟨final, last, _, silent⟩ := (sound.step permitted step).run_of_spent permitted found spent
    later
  rw [run_append] at held
  obtain rfl : final = slot := Option.some.inj (last.symm.trans held)
  exact silent.trans started

end Engine

/-- Submission is safe, whatever happens. Take any run of any units, in which they are
called, waited for, rolled back and let go in any order, with a backend that takes any
time to answer, to fail or to panic, and look at any of the units afterwards: its calls
are for batches that were prepared for it, in their order and none twice, never more of
them than permitted are outstanding, all were made if the unit ended with an outcome, and
none began once it was given up. -/
theorem submission_safe {config : Config} {hierarchy : Hierarchy} {types : List MappedType}
    {environment : Environment} {steps : List EngineStep} {number : Nat} {slot : UnitSlot}
    (built : Mapping.build config hierarchy types = .ok environment.mapping)
    (held : ((Engine.start environment).run steps).slots[number]? = some slot) :
    SafelyCalled environment number steps ((Engine.start environment).run steps).now slot := by
  have permitted := Mapping.permitted_of_build built
  have sound := Engine.run_sound permitted steps
  have faithful := sound.agreed ▸ (sound.faithful number slot held).1
  have admitted := faithful.work.admitted
  have first := faithful.work.called_prefix
  have batches {prepared : PreparedFlush} (ready : PreparedIn environment number steps prepared) :
      slot.unit.work.batches = prepared.batches := Engine.batches_of_preparedIn permitted ready held
  have calledOf (call : BackendCall) (member : call ∈ slot.unit.work.calls) :
      call.batch ∈ slot.unit.work.batches := first.subset (List.mem_map_of_mem member)
  refine ⟨?_, ?_, ?_, ?_, admitted.pairwise, ?_, admitted.outstanding_le, ?_, ?_⟩
  · intro call member
    have holds := calledOf call member
    obtain ⟨prepared, ready, same⟩ :=
      Engine.preparedIn_of_batches permitted held (List.ne_nil_of_mem holds)
    exact ⟨prepared, ready, same ▸ holds⟩
  · intro prepared ready
    exact ⟨ready.sequences, batches ready ▸ first⟩
  · by_cases nothing : slot.unit.work.batches = []
    · rw [nothing, List.prefix_nil] at first
      rw [first]
      exact .nil
    · obtain ⟨prepared, ready, same⟩ := Engine.preparedIn_of_batches permitted held nothing
      have distinct : (slot.unit.work.batches.map WorkBatch.sequence).Nodup := by
        rw [same, ready.sequences]
        exact List.nodup_range
      exact distinct.sublist (first.sublist.map _)
  · intro ended prepared ready
    rw [← batches ready]
    exact faithful.work.called_eq_batches (faithful.complete ended)
  · intro earlier call later split
    exact admitted.room split
  · intro submission outstanding
    exact faithful.work.runningCount_eq outstanding
  · rintro earlier step later before rfl gives atHand
    exact Engine.started_of_givesUp permitted atHand gives held

namespace Library

/-- The deliveries are given up while the first of their two batches is on its way. -/
def withdrawal : List EngineStep :=
  deliveries ++ [.call 0 .beforeCommit, .begin, .wait 5, .call 0 .afterRollback, .wait 2000]

/-- The first batch was called and the second one never is, long as one waits. -/
theorem withdrawal_safe :
    ∃ slot, ((Engine.start stockroom).run withdrawal).slots[0]? = some slot ∧
      slot.unit.work.batches.length = 2 ∧ slot.unit.work.calls.length = 1 ∧
        SafelyCalled stockroom 0 withdrawal ((Engine.start stockroom).run withdrawal).now slot := by
  have built : Mapping.build stockroom.mapping.config [] [shelf, book, author] =
      .ok stockroom.mapping := rfl
  exact ⟨_, rfl, rfl, rfl, submission_safe built rfl⟩

end Library

end Reindex
