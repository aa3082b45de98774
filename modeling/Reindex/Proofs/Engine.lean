import Reindex.Engine
import Reindex.Proofs.UnitOfWork.Consistency

/-!
# Steps of the engine, unit by unit

A call acts on one unit, as if that unit were alone with the clock; for any other
unit it lets at most time pass. A unit that is waited for is therefore found where
its own moves leave it, whatever happens to the others. Every unit of a run began
empty and has since been moved, so it has one of the shapes of a unit.
-/

namespace Reindex

namespace UnitOfWork

variable {environment : Environment} {number : Nat} {unit : UnitOfWork}

/-- The unit after a call on it, and the instant at which the call is over. -/
def called (environment : Environment) (number now : Nat) (unit : UnitOfWork) :
    UnitCall → Nat × UnitOfWork
  | .register registration => (now, (unit.register registration).unit)
  | .registerInstance kind entity => (now, (unit.registerInstance environment kind entity).unit)
  | .beforeCommit => (now, (unit.beforeCommit environment number now).unit)
  | .afterCommit | .flush => (unit.beforeCommit environment number now).unit.settle now
  | .afterRollback => unit.retract now

/-- Registering a live entity is registering it under its key, if it has one. -/
theorem registerInstance_unit (environment : Environment) (unit : UnitOfWork) (kind : ChangeKind)
    (entity : Instance) :
    (unit.registerInstance environment kind entity).unit = unit ∨
      ∃ registration, (unit.registerInstance environment kind entity).unit =
        (unit.register registration).unit := by
  unfold registerInstance
  split
  · exact .inl rfl
  · exact .inr ⟨_, rfl⟩

/-- A unit that is not open is left as it is by every call but a commit or a rollback. -/
theorem called_of_closed (closed : unit.state.isOpen = false) (environment : Environment)
    (number now : Nat) (call : UnitCall) :
    unit.called environment number now call = (now, unit) ∨
      unit.called environment number now call = unit.settle now ∨
        call = .afterRollback ∧ unit.called environment number now call = unit.retract now := by
  cases call with
  | register registration => exact .inl (by rw [called, register_of_closed closed])
  | registerInstance kind entity =>
    refine .inl ?_
    rw [called]
    rcases registerInstance_unit environment unit kind entity with same | ⟨registration, same⟩
    · rw [same]
    · rw [same, register_of_closed closed]
  | beforeCommit => exact .inl (by rw [called, beforeCommit_of_closed closed, answer])
  | afterCommit => exact .inr (.inl (by rw [called, beforeCommit_of_closed closed, answer]))
  | flush => exact .inr (.inl (by rw [called, beforeCommit_of_closed closed, answer]))
  | afterRollback => exact .inr (.inr ⟨rfl, rfl⟩)

/-- A call that gives nothing up lets the unit advance. -/
theorem called_advances (environment : Environment) (number now : Nat) (unit : UnitOfWork)
    {call : UnitCall} (keeps : call ≠ .afterRollback) :
    Advances environment number (now, unit) (unit.called environment number now call) := by
  cases call with
  | register registration => exact .single (.register now unit registration)
  | registerInstance kind entity =>
    rcases registerInstance_unit environment unit kind entity with same | ⟨registration, same⟩
    · rw [called, same]
    · rw [called, same]
      exact .single (.register now unit registration)
  | beforeCommit => exact .single (.prepare now unit)
  | afterCommit => exact .tail (.single (.prepare now unit)) (.settle now _)
  | flush => exact .tail (.single (.prepare now unit)) (.settle now _)
  | afterRollback => exact absurd rfl keeps

/-- Every call moves the unit. -/
theorem called_moves (environment : Environment) (number now : Nat) (unit : UnitOfWork)
    (call : UnitCall) :
    Moves environment number (now, unit) (unit.called environment number now call) := by
  by_cases rollback : call = .afterRollback
  · subst rollback
    exact .single (.retract now unit)
  · exact (called_advances environment number now unit rollback).moves

end UnitOfWork

/-- A unit is given up when it is rolled back or let go. -/
def EngineStep.GivesUp (number : Nat) (step : EngineStep) : Prop :=
  step = .call number .afterRollback ∨ step = .drop number

namespace Engine

open UnitOfWork (Ages Advances Moves)

/-- Every unit has one of the shapes. -/
def Consistent (engine : Engine) : Prop :=
  ∀ slot ∈ engine.slots, slot.unit.Consistent engine.environment.mapping

/-- For every unit but one, at most time passes. -/
structure Passes (number : Nat) (engine after : Engine) : Prop where
  environment : after.environment = engine.environment
  length : after.slots.length = engine.slots.length
  others : ∀ other slot, other ≠ number → engine.slots[other]? = some slot →
    ∃ next, after.slots[other]? = some next ∧ next.dropped = slot.dropped ∧
      Ages (engine.now, slot.unit) (after.now, next.unit)

/-- For every unit but one, nothing happens. -/
structure Stays (number : Nat) (engine after : Engine) : Prop where
  environment : after.environment = engine.environment
  now : after.now = engine.now
  length : after.slots.length = engine.slots.length
  others : ∀ other, other ≠ number → after.slots[other]? = engine.slots[other]?

variable {engine : Engine} {number : Nat} {unit : UnitOfWork}

/-- A unit at hand is held and was not let go. -/
theorem unit?_eq_some_iff :
    engine.unit? number = some unit ↔ engine.slots[number]? = some { unit } := by
  unfold unit?
  cases held : engine.slots[number]? with
  | none => simp
  | some slot =>
    obtain ⟨kept, dropped⟩ := slot
    cases dropped <;> simp

/-- A unit at hand has one of the shapes. -/
theorem Consistent.shape (consistent : engine.Consistent)
    (atHand : engine.unit? number = some unit) :
    unit.Consistent engine.environment.mapping :=
  consistent _ (List.mem_of_getElem? (unit?_eq_some_iff.1 atHand))

/-- Before time passes nothing may happen. -/
theorem Stays.passes {first second third : Engine} (earlier : Stays number first second)
    (later : Passes number second third) : Passes number first third where
  environment := later.environment.trans earlier.environment
  length := later.length.trans earlier.length
  others other slot apart held := by
    rw [← earlier.others other apart] at held
    obtain ⟨next, found, same, ages⟩ := later.others other slot apart held
    exact ⟨next, found, same, earlier.now ▸ ages⟩

/-- After time has passed nothing may happen. -/
theorem Passes.stays {first second third : Engine} (earlier : Passes number first second)
    (later : Stays number second third) : Passes number first third where
  environment := later.environment.trans earlier.environment
  length := later.length.trans earlier.length
  others other slot apart held := by
    obtain ⟨next, found, same, ages⟩ := earlier.others other slot apart held
    exact ⟨next, (later.others other apart).trans found, same, later.now ▸ ages⟩

/-- Nothing may happen at all. -/
theorem Stays.all_pass {after : Engine} (stays : Stays number engine after) :
    Passes number engine after where
  environment := stays.environment
  length := stays.length
  others other slot apart held :=
    ⟨slot, (stays.others other apart).trans held, rfl, stays.now ▸ .still _ _⟩

/-- Putting a unit in its place leaves the others alone. -/
theorem stays_setUnit (engine : Engine) (number : Nat) (unit : UnitOfWork) :
    Stays number engine (engine.setUnit number unit) where
  environment := rfl
  now := rfl
  length := List.length_set
  others _ apart := List.getElem?_set_ne (Ne.symm apart)

/-- Taking over the result of a call leaves the others alone. -/
theorem stays_absorb {Result : Type} (engine : Engine) (number : Nat)
    (progress : Progress Result) : Stays number engine (engine.absorb number progress).2 where
  environment := rfl
  now := rfl
  length := List.length_set
  others := (stays_setUnit engine number progress.unit).others

/-- Waiting for a unit lets at most time pass for the others. -/
theorem passes_await (engine : Engine) (number : Nat) (unit : UnitOfWork) :
    Passes number engine (engine.await unit).2 := by
  unfold await
  cases outstanding : unit.settlesAt? engine.now with
  | none => exact ⟨rfl, rfl, fun _ slot _ held => ⟨slot, held, rfl, .still _ _⟩⟩
  | some target =>
    refine ⟨rfl, List.length_map _, fun other slot _ held => ?_⟩
    refine ⟨{ slot with unit := slot.unit.runUntil engine.now target }, ?_, rfl,
      .elapsed engine.now target slot.unit⟩
    simp [runUntil, held]

/-- The unit is waited for as if it were alone. -/
theorem await_eq (engine : Engine) (unit : UnitOfWork) :
    (engine.await unit).1 = (unit.awaited engine.now).2 ∧
      (engine.await unit).2.now = (unit.awaited engine.now).1 := by
  unfold await UnitOfWork.awaited
  cases unit.settlesAt? engine.now <;> exact ⟨rfl, rfl⟩

/-- A unit is found where the result of a call on it was put. -/
theorem held_absorb {Result : Type} (progress : Progress Result)
    (within : number < engine.slots.length) :
    (engine.absorb number progress).2.slots[number]? = some { unit := progress.unit } := by
  simp [absorb, setUnit, within]

/-- What a call leaves: the unit where its own moves lead, and the others apart. -/
structure Leaves (engine : Engine) (number : Nat) (moved : Nat × UnitOfWork) (after : Engine) :
    Prop where
  held : after.slots[number]? = some { unit := moved.2 }
  now : after.now = moved.1
  passes : Passes number engine after

/-- What a call leaves that takes no time. -/
theorem leaves_absorb {Result : Type} (progress : Progress Result)
    (within : number < engine.slots.length) :
    Leaves engine number (engine.now, progress.unit) (engine.absorb number progress).2 :=
  ⟨held_absorb progress within, rfl, (stays_absorb engine number progress).all_pass⟩

/-- What waiting for a unit leaves, once something that takes no time was done to it. -/
theorem leaves_await {Result : Type} (unit : UnitOfWork)
    (act : UnitOfWork → Nat → Progress Result) (within : number < engine.slots.length) :
    Leaves engine number
      ((unit.awaited engine.now).1,
        (act (unit.awaited engine.now).2 (unit.awaited engine.now).1).unit)
      ((engine.await unit).2.absorb number
        (act (engine.await unit).1 (engine.await unit).2.now)).2 := by
  obtain ⟨same, now⟩ := await_eq engine unit
  have passes := passes_await engine number unit
  have still : number < (engine.await unit).2.slots.length := passes.length ▸ within
  rw [← same, ← now]
  exact ⟨held_absorb _ still, rfl, passes.stays (stays_absorb _ number _)⟩

/-- What is left after something else was done to the unit before. -/
theorem Leaves.after {middle after : Engine} {moved : Nat × UnitOfWork}
    (leaves : Leaves middle number moved after) (stays : Stays number engine middle) :
    Leaves engine number moved after :=
  ⟨leaves.held, leaves.now, stays.passes leaves.passes⟩

/-- A commit begins, waits for the unit and collects. -/
theorem afterCommit_eq (engine : Engine) (consistent : unit.Consistent engine.environment.mapping) :
    engine.afterCommit number unit =
      let begun := unit.beginCommit engine.environment number engine.now
      let middle := (engine.absorb number begun).2
      (middle.await begun.unit).2.absorb number
        ((middle.await begun.unit).1.endCommit (middle.await begun.unit).2.now) := by
  obtain ⟨accepted, _⟩ := consistent.beginCommit_eq number engine.now
  unfold afterCommit
  simp only [absorb, accepted]

/-- What a commit leaves: the unit is prepared if it was open, and then settled. -/
theorem leaves_afterCommit (engine : Engine)
    (consistent : unit.Consistent engine.environment.mapping)
    (within : number < engine.slots.length) :
    Leaves engine number
      ((unit.beforeCommit engine.environment number engine.now).unit.settle engine.now)
      (engine.afterCommit number unit).2 := by
  obtain ⟨_, prepared⟩ := consistent.beginCommit_eq number engine.now
  have stays := stays_absorb engine number (unit.beginCommit engine.environment number engine.now)
  have still := within
  rw [← stays.length] at still
  rw [afterCommit_eq engine consistent, ← prepared]
  exact (leaves_await _ UnitOfWork.endCommit still).after stays

/-- What a rollback leaves. -/
theorem leaves_afterRollback (engine : Engine) (unit : UnitOfWork)
    (within : number < engine.slots.length) :
    Leaves engine number (unit.retract engine.now) (engine.afterRollback number unit).2 := by
  have stays := stays_setUnit engine number unit.beginRollback
  have still : number < (engine.setUnit number unit.beginRollback).slots.length :=
    stays.length ▸ within
  exact (leaves_await unit.beginRollback UnitOfWork.endRollback still).after stays

/-- A flush prepares the unit and commits it. -/
theorem flush_eq (engine : Engine) (consistent : unit.Consistent engine.environment.mapping) :
    engine.flush number unit =
      let begun := unit.beforeCommit engine.environment number engine.now
      (engine.absorb number begun).2.afterCommit number begun.unit := by
  obtain ⟨accepted, _⟩ := consistent.beforeCommit_eq number engine.now
  unfold flush
  simp only [absorb, accepted]

/-- What a flush leaves: the same, for a prepared unit is not prepared again. -/
theorem leaves_flush (consistent : unit.Consistent engine.environment.mapping)
    (within : number < engine.slots.length) :
    Leaves engine number
      ((unit.beforeCommit engine.environment number engine.now).unit.settle engine.now)
      (engine.flush number unit).2 := by
  obtain ⟨_, closed⟩ := consistent.beforeCommit_eq number engine.now
  have stays := stays_absorb engine number
    (unit.beforeCommit engine.environment number engine.now)
  have still := within
  rw [← stays.length] at still
  have leaves := leaves_afterCommit
    (engine.absorb number (unit.beforeCommit engine.environment number engine.now)).2
    (consistent.prepare number engine.now) still
  rw [UnitOfWork.beforeCommit_of_closed closed] at leaves
  rw [flush_eq engine consistent]
  exact leaves.after stays

/-- What any call leaves. -/
theorem leaves_call (consistent : unit.Consistent engine.environment.mapping)
    (within : number < engine.slots.length) (call : UnitCall) :
    Leaves engine number (unit.called engine.environment number engine.now call)
      (engine.call number unit call).2 := by
  cases call with
  | register registration => exact leaves_absorb _ within
  | registerInstance kind entity => exact leaves_absorb _ within
  | beforeCommit => exact leaves_absorb _ within
  | afterCommit => exact leaves_afterCommit engine consistent within
  | flush => exact leaves_flush consistent within
  | afterRollback => exact leaves_afterRollback engine unit within

/-- What a call on a unit at hand leaves. -/
theorem leaves_step (consistent : engine.Consistent) (atHand : engine.unit? number = some unit)
    (call : UnitCall) :
    Leaves engine number (unit.called engine.environment number engine.now call)
      (engine.step (.call number call)).2 := by
  have held := unit?_eq_some_iff.1 atHand
  obtain ⟨within, _⟩ := List.getElem?_eq_some_iff.1 held
  have carriedOut : (engine.step (.call number call)).2 = (engine.call number unit call).2 := by
    simp only [step, atHand]
  rw [carriedOut]
  exact leaves_call (consistent _ (List.mem_of_getElem? held)) within call

/-- What the end of a unit leaves of it. -/
theorem step_drop (atHand : engine.unit? number = some unit) :
    (engine.step (.drop number)).2.slots[number]? =
      some { unit := unit.abandon, dropped := true } ∧
        Stays number engine (engine.step (.drop number)).2 := by
  obtain ⟨within, _⟩ := List.getElem?_eq_some_iff.1 (unit?_eq_some_iff.1 atHand)
  have carriedOut : (engine.step (.drop number)).2 = { engine with
      slots := engine.slots.set number { unit := unit.abandon, dropped := true } } := by
    simp only [step, drop, atHand]
  rw [carriedOut]
  refine ⟨by simp [within], rfl, rfl, List.length_set, fun _ apart => ?_⟩
  exact List.getElem?_set_ne (Ne.symm apart)

/-- What a step does to a unit of an engine: it is called or let go, if it was not
let go before, and otherwise it ages. -/
inductive Fate (engine : Engine) (number : Nat) (slot : UnitSlot) :
    EngineStep → Nat × UnitSlot → Prop
  | called (call : UnitCall) (atHand : slot.dropped = false) :
      Fate engine number slot (.call number call)
        ((slot.unit.called engine.environment number engine.now call).1,
          { unit := (slot.unit.called engine.environment number engine.now call).2 })
  | dropped (atHand : slot.dropped = false) :
      Fate engine number slot (.drop number)
        (engine.now, { unit := slot.unit.abandon, dropped := true })
  | aged {step : EngineStep} {now : Nat} {next : UnitSlot} (same : next.dropped = slot.dropped)
      (ages : Ages (engine.now, slot.unit) (now, next.unit))
      (spared : slot.dropped = false → ¬ step.GivesUp number ∧ ∀ call, step ≠ .call number call) :
      Fate engine number slot step (now, next)

/-- A step that is not about a unit lets it age. -/
theorem fate_of_ages {slot next : UnitSlot} {step : EngineStep} {after : Engine}
    (carriedOut : (engine.step step).2 = after) (found : after.slots[number]? = some next)
    (same : next.dropped = slot.dropped)
    (ages : Ages (engine.now, slot.unit) (after.now, next.unit))
    (spared : slot.dropped = false → ¬ step.GivesUp number ∧ ∀ call, step ≠ .call number call) :
    ∃ next, (engine.step step).2.slots[number]? = some next ∧
      Fate engine number slot step ((engine.step step).2.now, next) := by
  subst carriedOut
  exact ⟨next, found, .aged same ages spared⟩

/-- A unit that is not at hand is another than one that was not let go. -/
theorem ne_of_unavailable {slot : UnitSlot} {acting : Nat}
    (held : engine.slots[number]? = some slot) (unavailable : engine.unit? acting = none)
    (undropped : slot.dropped = false) : acting ≠ number := by
  rintro rfl
  obtain ⟨unit, dropped⟩ := slot
  cases undropped
  simp [unit?_eq_some_iff.2 held] at unavailable

/-- A unit at hand is what its slot holds. -/
theorem slot_of_atHand {slot : UnitSlot} (held : engine.slots[number]? = some slot)
    (atHand : engine.unit? number = some unit) : slot = { unit } :=
  Option.some.inj (held.symm.trans (unit?_eq_some_iff.1 atHand))

/-- To let a unit go lets the others age. -/
theorem fate_drop {slot : UnitSlot} (held : engine.slots[number]? = some slot) (acting : Nat) :
    ∃ next, (engine.step (.drop acting)).2.slots[number]? = some next ∧
      Fate engine number slot (.drop acting) ((engine.step (.drop acting)).2.now, next) := by
  cases atHand : engine.unit? acting with
  | none =>
    have nothing : (engine.step (.drop acting)).2 = engine := by
      simp only [Engine.step, drop, atHand]
    refine fate_of_ages nothing held rfl (.still _ _) fun undropped => ?_
    simpa [EngineStep.GivesUp] using ne_of_unavailable held atHand undropped
  | some unit =>
    obtain ⟨left, stays⟩ := step_drop atHand
    by_cases own : number = acting
    · subst own
      obtain rfl := slot_of_atHand held atHand
      exact ⟨_, left, stays.now ▸ .dropped rfl⟩
    · refine fate_of_ages rfl ((stays.others number own).trans held) rfl
        (stays.now ▸ .still _ _) fun _ => ?_
      simp [EngineStep.GivesUp, Ne.symm own]

/-- To call a unit lets the others age. -/
theorem fate_call (consistent : engine.Consistent) {slot : UnitSlot}
    (held : engine.slots[number]? = some slot) (acting : Nat) (call : UnitCall) :
    ∃ next, (engine.step (.call acting call)).2.slots[number]? = some next ∧
      Fate engine number slot (.call acting call)
        ((engine.step (.call acting call)).2.now, next) := by
  cases atHand : engine.unit? acting with
  | none =>
    have nothing : (engine.step (.call acting call)).2 = engine := by
      simp only [Engine.step, atHand]
    refine fate_of_ages nothing held rfl (.still _ _) fun undropped => ?_
    simp [EngineStep.GivesUp, ne_of_unavailable held atHand undropped]
  | some unit =>
    have leaves := leaves_step consistent atHand call
    by_cases own : number = acting
    · subst own
      obtain rfl := slot_of_atHand held atHand
      exact ⟨_, leaves.held, leaves.now ▸ .called call rfl⟩
    · obtain ⟨next, found, same, ages⟩ := leaves.passes.others number slot own held
      refine fate_of_ages rfl found same ages fun _ => ?_
      simp [EngineStep.GivesUp, Ne.symm own]

/-- Every step does one of these things to every unit. -/
theorem step_fate (consistent : engine.Consistent) {slot : UnitSlot}
    (held : engine.slots[number]? = some slot) (step : EngineStep) :
    ∃ next, (engine.step step).2.slots[number]? = some next ∧
      Fate engine number slot step ((engine.step step).2.now, next) := by
  cases step with
  | begin =>
    obtain ⟨within, _⟩ := List.getElem?_eq_some_iff.1 held
    have found : engine.begin.slots[number]? = some slot :=
      (List.getElem?_append_left within).trans held
    exact fate_of_ages rfl found rfl (.still _ _) (by simp [EngineStep.GivesUp])
  | wait milliseconds =>
    cases milliseconds with
    | zero => exact fate_of_ages rfl held rfl (.still _ _) (by simp [EngineStep.GivesUp])
    | succ less =>
      have found : (engine.runUntil (engine.now + (less + 1))).slots[number]? =
          some { slot with
            unit := slot.unit.runUntil engine.now (engine.now + (less + 1)) } := by
        simp [runUntil, held]
      exact fate_of_ages rfl found rfl (.elapsed _ _ _) (by simp [EngineStep.GivesUp])
  | drop acting => exact fate_drop held acting
  | call acting call => exact fate_call consistent held acting call

/-- A unit that a step does not give up advances. -/
theorem step_advances (consistent : engine.Consistent) {slot : UnitSlot}
    (held : engine.slots[number]? = some slot) {step : EngineStep}
    (kept : ¬ step.GivesUp number) :
    ∃ next, (engine.step step).2.slots[number]? = some next ∧ next.dropped = slot.dropped ∧
      Advances engine.environment number (engine.now, slot.unit)
        ((engine.step step).2.now, next.unit) := by
  obtain ⟨next, found, fate⟩ := step_fate consistent held step
  refine ⟨next, found, ?_⟩
  generalize (engine.step step).2.now = now at fate
  cases fate with
  | called call atHand =>
    have keeps : call ≠ .afterRollback := fun rollback => kept (.inl (rollback ▸ rfl))
    exact ⟨atHand.symm, UnitOfWork.called_advances _ _ _ _ keeps⟩
  | dropped atHand => exact absurd (.inr rfl) kept
  | aged same ages spared => exact ⟨same, ages.advances⟩

/-- A step leaves what was agreed, and only beginning a unit makes one. -/
theorem step_environment (consistent : engine.Consistent) (step : EngineStep) :
    (engine.step step).2.environment = engine.environment ∧
      (step ≠ .begin → (engine.step step).2.slots.length = engine.slots.length) := by
  cases step with
  | begin => exact ⟨rfl, fun other => absurd rfl other⟩
  | wait milliseconds =>
    cases milliseconds with
    | zero => exact ⟨rfl, fun _ => rfl⟩
    | succ less => exact ⟨rfl, fun _ => List.length_map _⟩
  | drop acting =>
    cases atHand : engine.unit? acting with
    | none => simp [Engine.step, drop, atHand]
    | some unit =>
      have stays := (step_drop atHand).2
      exact ⟨stays.environment, fun _ => stays.length⟩
  | call acting call =>
    cases atHand : engine.unit? acting with
    | none => simp [Engine.step, atHand]
    | some unit =>
      have passes := (leaves_step consistent atHand call).passes
      exact ⟨passes.environment, fun _ => passes.length⟩

/-- A unit that is there after a step has gone through it, or the step has begun it. -/
theorem step_stems (consistent : engine.Consistent) {step : EngineStep} {slot : UnitSlot}
    (held : (engine.step step).2.slots[number]? = some slot) :
    (step = .begin ∧ number = engine.slots.length ∧
        slot = { unit := .begin engine.environment.mapping engine.now }) ∨
      ∃ before, engine.slots[number]? = some before ∧
        Fate engine number before step ((engine.step step).2.now, slot) := by
  by_cases within : number < engine.slots.length
  · have before := List.getElem?_eq_getElem within
    obtain ⟨next, found, fate⟩ := step_fate consistent before step
    obtain rfl : next = slot := Option.some.inj (found.symm.trans held)
    exact .inr ⟨_, before, fate⟩
  · obtain ⟨withinAfter, _⟩ := List.getElem?_eq_some_iff.1 held
    by_cases begins : step = .begin
    · subst begins
      have length : (engine.step .begin).2.slots.length = engine.slots.length + 1 :=
        List.length_append
      obtain rfl : number = engine.slots.length := by omega
      have new : (engine.step .begin).2.slots[engine.slots.length]? =
          some { unit := .begin engine.environment.mapping engine.now } :=
        List.getElem?_concat_length
      exact .inl ⟨rfl, rfl, Option.some.inj (held.symm.trans new)⟩
    · rw [(step_environment consistent step).2 begins] at withinAfter
      exact absurd withinAfter within

/-- What a step does to a unit keeps its shape. -/
theorem Fate.consistent {slot next : UnitSlot} {step : EngineStep} {now : Nat}
    (fate : Fate engine number slot step (now, next))
    (shape : slot.unit.Consistent engine.environment.mapping) :
    next.unit.Consistent engine.environment.mapping := by
  cases fate with
  | called call atHand => exact (UnitOfWork.called_moves _ _ _ _ call).consistent shape
  | dropped atHand => exact shape.abandon
  | aged same ages spared =>
    have moves : Moves engine.environment number _ _ := ages.advances.moves
    exact moves.consistent shape

/-- A step keeps the shapes. -/
theorem Consistent.step (consistent : engine.Consistent) (step : EngineStep) :
    (engine.step step).2.Consistent := by
  intro slot member
  obtain ⟨number, held⟩ := List.mem_iff_getElem?.1 member
  rw [(step_environment consistent step).1]
  obtain ⟨_, _, rfl⟩ | ⟨before, heldBefore, fate⟩ := step_stems consistent held
  · exact .opened .empty
  · exact fate.consistent (consistent _ (List.mem_of_getElem? heldBefore))

/-- A run can be cut in two. -/
theorem run_append (engine : Engine) (earlier later : List EngineStep) :
    engine.run (earlier ++ later) = (engine.run earlier).run later :=
  List.foldl_append

/-- A run keeps the shapes and leaves what was agreed. -/
theorem Consistent.run (consistent : engine.Consistent) (steps : List EngineStep) :
    (engine.run steps).Consistent ∧ (engine.run steps).environment = engine.environment := by
  induction steps generalizing engine with
  | nil => exact ⟨consistent, rfl⟩
  | cons step rest inductionHypothesis =>
    have environment := (step_environment consistent step).1
    obtain ⟨shapes, agreed⟩ := inductionHypothesis (consistent.step step)
    exact ⟨shapes, agreed.trans environment⟩

/-- Where no unit has begun all of them do. -/
theorem start_consistent (environment : Environment) : (start environment).Consistent :=
  fun _ member => absurd member List.not_mem_nil

/-- Every unit of a run has one of the shapes. -/
theorem run_consistent (environment : Environment) (steps : List EngineStep) :
    ((start environment).run steps).Consistent ∧
      ((start environment).run steps).environment = environment :=
  (start_consistent environment).run steps

end Engine

end Reindex
