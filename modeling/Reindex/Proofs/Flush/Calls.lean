import Reindex.Proofs.UnitOfWork.Faithful

/-!
# Calls of the backend in a run

Several units share one clock, and each step of a run calls one of them, lets one go, or
lets time pass for all. Through all of it every unit tells the truth about its calls. So
what holds of the calls of a unit holds in every run: they are for the batches that were
prepared for it, in their order and within its permits, all of them when the unit ended
with an outcome, and none begins once it was given up.
-/

namespace Reindex

namespace Engine

open UnitOfWork (Ages)

/-- Every unit tells the truth about its calls, and nobody has given up what is in
flight of a unit that is at hand. -/
def Faithful (engine : Engine) : Prop :=
  ∀ (number : Nat) (slot : UnitSlot), engine.slots[number]? = some slot →
    slot.unit.Faithful engine.environment number engine.now ∧
      (slot.dropped = false → slot.unit.work.Kept)

/-- An engine with the given agreements, of whose units all this is known. -/
structure Sound (environment : Environment) (engine : Engine) : Prop where
  agreed : engine.environment = environment
  consistent : engine.Consistent
  faithful : engine.Faithful

variable {environment : Environment} {engine : Engine} {number now : Nat} {unit : UnitOfWork}
  {slot next : UnitSlot} {doing : EngineStep}

/-- The unit in a slot has one of the shapes. -/
theorem Sound.shape (sound : engine.Sound environment) (held : engine.slots[number]? = some slot) :
    slot.unit.Consistent environment.mapping :=
  sound.agreed ▸ sound.consistent slot (List.mem_of_getElem? held)

/-- What a step does to a unit leaves it faithful, if it does not take it back in time. -/
theorem Sound.fate (permitted : 0 < environment.mapping.config.maxInFlight)
    (sound : engine.Sound environment) (held : engine.slots[number]? = some slot)
    (fate : Fate engine number slot doing (now, next)) (later : engine.now ≤ now) :
    next.unit.Faithful environment number now ∧ (next.dropped = false → next.unit.work.Kept) := by
  have shape := sound.shape held
  obtain ⟨faithful, kept⟩ := sound.faithful number slot held
  rw [sound.agreed] at faithful
  cases fate with
  | called call atHand =>
    rw [sound.agreed]
    have goesOn := faithful.called permitted shape (kept atHand) call
    exact ⟨goesOn.faithful, fun _ => goesOn.kept⟩
  | dropped atHand =>
    rw [UnitOfWork.abandon_eq]
    exact ⟨⟨faithful.work.cancel, fun ended => (faithful.complete ended).cancel⟩, by rintro ⟨⟩⟩
  | aged same ages spared =>
    exact ⟨faithful.ages ages later,
      fun undropped => UnitOfWork.kept_of_ages (kept (same ▸ undropped)) ages⟩

/-- No step takes the clock back. -/
theorem Sound.le_step (permitted : 0 < environment.mapping.config.maxInFlight)
    (sound : engine.Sound environment) (step : EngineStep) :
    engine.now ≤ (engine.step step).2.now := by
  cases step with
  | begin => exact Nat.le_refl _
  | wait milliseconds =>
    cases milliseconds with
    | zero => exact Nat.le_refl _
    | succ less => exact Nat.le_add_right _ _
  | drop acting =>
    cases atHand : engine.unit? acting with
    | none => simp [Engine.step, drop, atHand]
    | some unit => exact Nat.le_of_eq (step_drop atHand).2.now.symm
  | call acting call =>
    cases atHand : engine.unit? acting with
    | none => simp [Engine.step, atHand]
    | some unit =>
      have held := unit?_eq_some_iff.1 atHand
      obtain ⟨faithful, kept⟩ := sound.faithful acting _ held
      have goesOn := faithful.called (sound.agreed ▸ permitted)
        (sound.consistent _ (List.mem_of_getElem? held)) (kept rfl) call
      rw [(leaves_step sound.consistent atHand call).now]
      exact goesOn.later

/-- A step keeps an engine sound. -/
theorem Sound.step (permitted : 0 < environment.mapping.config.maxInFlight)
    (sound : engine.Sound environment) (step : EngineStep) :
    (engine.step step).2.Sound environment where
  agreed := (step_environment sound.consistent step).1.trans sound.agreed
  consistent := sound.consistent.step step
  faithful := by
    intro number slot held
    rw [(step_environment sound.consistent step).1, sound.agreed]
    have later := sound.le_step permitted step
    obtain ⟨_, _, rfl⟩ | ⟨before, heldBefore, fate⟩ := step_stems sound.consistent held
    · exact ⟨⟨.nothing, fun _ => .nothing⟩, fun _ => by rintro _ ⟨⟩⟩
    · exact sound.fate permitted heldBefore fate later

/-- A run keeps an engine sound. -/
theorem Sound.run (permitted : 0 < environment.mapping.config.maxInFlight)
    (sound : engine.Sound environment) (steps : List EngineStep) :
    (engine.run steps).Sound environment := by
  induction steps generalizing engine with
  | nil => exact sound
  | cons step rest inductionHypothesis => exact inductionHypothesis (sound.step permitted step)

/-- Every run is sound. -/
theorem run_sound (permitted : 0 < environment.mapping.config.maxInFlight)
    (steps : List EngineStep) : ((start environment).run steps).Sound environment := by
  refine Sound.run permitted ⟨rfl, start_consistent environment, ?_⟩ steps
  intro number slot held
  cases held

/-- What a step keeps, whatever it does to a unit, a run keeps. -/
theorem Sound.run_keeps (permitted : 0 < environment.mapping.config.maxInFlight)
    (Holds : UnitSlot → Prop)
    (keeps : ∀ {engine : Engine} {step : EngineStep} {now : Nat} {slot next : UnitSlot},
      engine.Sound environment → engine.slots[number]? = some slot → Holds slot →
        Fate engine number slot step (now, next) → Holds next)
    (sound : engine.Sound environment) (held : engine.slots[number]? = some slot)
    (holds : Holds slot) (steps : List EngineStep) :
    ∃ final, (engine.run steps).slots[number]? = some final ∧ Holds final := by
  induction steps generalizing engine slot with
  | nil => exact ⟨slot, held, holds⟩
  | cons step rest inductionHypothesis =>
    obtain ⟨next, found, fate⟩ := step_fate sound.consistent held step
    exact inductionHypothesis (sound.step permitted step) found (keeps sound held holds fate)

/-- A unit that is not open keeps its batches, whatever a step does to it. -/
theorem Sound.fate_of_closed (sound : engine.Sound environment)
    (held : engine.slots[number]? = some slot) (closed : slot.unit.state.isOpen = false)
    (fate : Fate engine number slot doing (now, next)) :
    next.unit.state.isOpen = false ∧ next.unit.work.batches = slot.unit.work.batches := by
  cases fate with
  | called call atHand =>
    exact ((sound.shape held).parts_called_of_closed closed engine.environment number engine.now
      call).symm
  | dropped atHand =>
    rw [UnitOfWork.abandon_eq]
    exact ⟨closed, HandedOver.batches_cancel _⟩
  | aged same ages spared =>
    obtain ⟨batches, _, state⟩ := UnitOfWork.parts_of_ages ages
    exact ⟨state ▸ closed, batches⟩

/-- A step leaves a unit its batches, or prepares it and hands over those of its plan. -/
theorem Sound.batches_of_fate (sound : engine.Sound environment)
    (held : engine.slots[number]? = some slot)
    (fate : Fate engine number slot doing (now, next)) :
    next.unit.work.batches = slot.unit.work.batches ∨
      ∃ call plan, doing = .call number call ∧ call.prepares = true ∧ slot.dropped = false ∧
        slot.unit.plan = some plan ∧
          next.unit.work.batches = UnitOfWork.batchesOf environment number plan := by
  have shape := sound.shape held
  obtain ⟨since, plan, _, opened⟩ | closed := shape.open_or_closed
  · obtain ⟨unit, dropped⟩ := slot
    obtain rfl : unit = .ofPlan since plan := opened
    cases fate with
    | called call atHand =>
      rw [sound.agreed]
      cases prepares : call.prepares with
      | true =>
        have batches := (shape.parts_called_of_plan number engine.now prepares).1
        exact .inr ⟨call, plan, rfl, prepares, atHand, rfl, batches⟩
      | false => exact .inl (shape.batches_called_of_plan number engine.now prepares)
    | dropped atHand => exact .inl rfl
    | aged same ages spared => exact .inl (UnitOfWork.parts_of_ages ages).1
  · exact .inl (sound.fate_of_closed held closed fate).2

/-- A unit whose calls are over: it cannot be prepared any more, and what is in flight
was given up. -/
structure Spent (slot : UnitSlot) : Prop where
  unprepared : slot.dropped = false → slot.unit.state.isOpen = false
  silent : slot.unit.work.Silent

/-- Its calls stay over, and no call begins, whatever a step does to it. -/
theorem Sound.fate_of_spent (permitted : 0 < environment.mapping.config.maxInFlight)
    (sound : engine.Sound environment) (held : engine.slots[number]? = some slot)
    (spent : Spent slot) (fate : Fate engine number slot doing (now, next)) :
    Spent next ∧ next.unit.work.started = slot.unit.work.started := by
  have shape := sound.shape held
  have faithful := sound.agreed ▸ (sound.faithful number slot held).1
  cases fate with
  | called call atHand =>
    have closed := spent.unprepared atHand
    have parts := shape.parts_called_of_closed closed engine.environment number engine.now call
    rcases UnitOfWork.called_of_closed closed engine.environment number engine.now call with
      same | same | ⟨_, same⟩
    · rw [same]
      exact ⟨⟨fun _ => closed, spent.silent⟩, rfl⟩
    · rw [same] at parts ⊢
      obtain ⟨silent, started⟩ := UnitOfWork.silent_of_ages faithful spent.silent
        (UnitOfWork.ages_awaited engine.now slot.unit)
      have work := (shape.awaited engine.now).work_endCommit
        (slot.unit.awaited engine.now).1
      rw [UnitOfWork.settle] at parts ⊢
      refine ⟨⟨fun _ => parts.2, ?_⟩, ?_⟩
      · rw [work]
        exact HandedOver.silent_collect _
      · rw [work, HandedOver.started_collect, started]
    · rw [same] at parts ⊢
      obtain ⟨_, silent, started⟩ := faithful.retract permitted shape
      exact ⟨⟨fun _ => parts.2, silent⟩, started⟩
  | dropped atHand =>
    rw [UnitOfWork.abandon_eq]
    exact ⟨⟨by rintro ⟨⟩, HandedOver.silent_cancel _⟩, HandedOver.started_cancel _⟩
  | aged same ages spared =>
    obtain ⟨_, _, state⟩ := UnitOfWork.parts_of_ages ages
    obtain ⟨silent, started⟩ := UnitOfWork.silent_of_ages faithful spent.silent ages
    exact ⟨⟨fun undropped => state ▸ spent.unprepared (same ▸ undropped), silent⟩, started⟩

/-- A unit that is not open keeps its batches for good. -/
theorem Sound.run_of_closed (permitted : 0 < environment.mapping.config.maxInFlight)
    (sound : engine.Sound environment) (held : engine.slots[number]? = some slot)
    (closed : slot.unit.state.isOpen = false) (steps : List EngineStep) :
    ∃ final, (engine.run steps).slots[number]? = some final ∧
      final.unit.state.isOpen = false ∧ final.unit.work.batches = slot.unit.work.batches := by
  refine Sound.run_keeps permitted
    (fun other => other.unit.state.isOpen = false ∧
      other.unit.work.batches = slot.unit.work.batches)
    (fun sound held holds fate => ?_) sound held ⟨closed, rfl⟩ steps
  obtain ⟨closedThen, batches⟩ := sound.fate_of_closed held holds.1 fate
  exact ⟨closedThen, batches.trans holds.2⟩

/-- A unit whose calls are over makes no call any more. -/
theorem Sound.run_of_spent (permitted : 0 < environment.mapping.config.maxInFlight)
    (sound : engine.Sound environment) (held : engine.slots[number]? = some slot)
    (spent : Spent slot) (steps : List EngineStep) :
    ∃ final, (engine.run steps).slots[number]? = some final ∧
      Spent final ∧ final.unit.work.started = slot.unit.work.started := by
  refine Sound.run_keeps permitted
    (fun other => Spent other ∧ other.unit.work.started = slot.unit.work.started)
    (fun sound held holds fate => ?_) sound held ⟨spent, rfl⟩ steps
  obtain ⟨spentThen, started⟩ := sound.fate_of_spent permitted held holds.1 fate
  exact ⟨spentThen, started.trans holds.2⟩

/-- A step that gives a unit up ends its calls, and begins none. -/
theorem Sound.step_gives_up (permitted : 0 < environment.mapping.config.maxInFlight)
    (sound : engine.Sound environment) (atHand : engine.unit? number = some unit)
    (gives : doing.GivesUp number) :
    ∃ next, (engine.step doing).2.slots[number]? = some next ∧
      Spent next ∧ next.unit.work.started = unit.work.started := by
  have held := unit?_eq_some_iff.1 atHand
  have shape := sound.shape held
  have faithful := sound.agreed ▸ (sound.faithful number _ held).1
  rcases gives with rfl | rfl
  · refine ⟨_, (leaves_step sound.consistent atHand .afterRollback).held, ?_⟩
    obtain ⟨_, silent, started⟩ := faithful.retract permitted shape
    exact ⟨⟨fun _ => (shape.parts_retract engine.now).2, silent⟩, started⟩
  · refine ⟨_, (step_drop atHand).1, ?_⟩
    rw [UnitOfWork.abandon_eq]
    exact ⟨⟨by rintro ⟨⟩, HandedOver.silent_cancel _⟩, HandedOver.started_cancel _⟩

end Engine

end Reindex
