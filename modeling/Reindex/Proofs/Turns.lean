import Reindex.Proofs.UnitOfWork.Told

/-!
# Turns

A call that waits for a unit lets time pass, and whoever shares the collaborators may use
that time. So a call falls into turns: parts in which nobody is waited for. Between
two turns of one unit any number of turns of other units may come, which is more than
the steps of an engine show, where a call is over before the next one begins.

What holds before every turn and after it therefore holds at every moment, however the calls on
several units are interleaved.
-/

namespace Reindex.Engine

variable {engine after : Engine} {number : Nat} {unit : UnitOfWork}

/-- What happens without waiting. -/
inductive Turn : Engine → Engine → Prop
  | begin (engine : Engine) : Turn engine engine.begin
  | register {engine : Engine} {number : Nat} {unit : UnitOfWork}
      (atHand : engine.unit? number = some unit) (registration : Registration) :
      Turn engine (engine.absorb number (unit.register registration)).2
  | prepare {engine : Engine} {number : Nat} {unit : UnitOfWork}
      (atHand : engine.unit? number = some unit) :
      Turn engine
        (engine.absorb number (unit.beforeCommit engine.environment number engine.now)).2
  | collect {engine : Engine} {number : Nat} {unit : UnitOfWork}
      (atHand : engine.unit? number = some unit) :
      Turn engine (engine.absorb number (unit.endCommit engine.now)).2
  | giveUp {engine : Engine} {number : Nat} {unit : UnitOfWork}
      (atHand : engine.unit? number = some unit) :
      Turn engine (engine.setUnit number unit.beginRollback)
  | report {engine : Engine} {number : Nat} {unit : UnitOfWork}
      (atHand : engine.unit? number = some unit) :
      Turn engine (engine.absorb number (unit.endRollback engine.now)).2
  | drop {engine : Engine} {number : Nat} {unit : UnitOfWork}
      (atHand : engine.unit? number = some unit) : Turn engine (engine.drop number)
  | elapse (engine : Engine) (target : Nat) : Turn engine (engine.runUntil target)

/-- Any number of turns. -/
abbrev Turns : Engine → Engine → Prop := Relation.ReflTransGen Turn

/-- A unit whose slot was filled is at hand. -/
theorem unit?_absorb {Result : Type} (atHand : engine.unit? number = some unit)
    (progress : Progress Result) :
    (engine.absorb number progress).2.unit? number = some progress.unit :=
  unit?_eq_some_iff.2 (held_absorb progress
    (List.getElem?_eq_some_iff.1 (unit?_eq_some_iff.1 atHand)).1)

/-- A unit that is put in its place is at hand. -/
theorem unit?_setUnit (atHand : engine.unit? number = some unit) (next : UnitOfWork) :
    (engine.setUnit number next).unit? number = some next := by
  have within := (List.getElem?_eq_some_iff.1 (unit?_eq_some_iff.1 atHand)).1
  exact unit?_eq_some_iff.2 (List.getElem?_set_self within)

/-- A unit that was waited for is at hand. -/
theorem unit?_await (atHand : engine.unit? number = some unit) :
    (engine.await unit).2.unit? number = some (engine.await unit).1 := by
  unfold await
  cases unit.settlesAt? engine.now with
  | none => exact atHand
  | some target =>
    have held := unit?_eq_some_iff.1 atHand
    exact unit?_eq_some_iff.2 (by simp [runUntil, held])

/-- To wait is to let time pass, if anything. -/
theorem turns_await (engine : Engine) (unit : UnitOfWork) :
    Turns engine (engine.await unit).2 := by
  unfold await
  cases unit.settlesAt? engine.now with
  | none => exact .refl
  | some target => exact .single (.elapse engine target)

/-- To register a live entity is to register it under its key, if it has one. -/
theorem turns_registerInstance (atHand : engine.unit? number = some unit) (kind : ChangeKind)
    (entity : Instance) :
    Turns engine
      (engine.absorb number (unit.registerInstance engine.environment kind entity)).2 := by
  unfold UnitOfWork.registerInstance
  split
  · rw [absorb_answer atHand]
  · rename_i key _
    -- only the answer differs
    have registered (registration : Registration) :
        Turns engine (engine.absorb number
          { result := (unit.register registration).result.map fun _ => key
            unit := (unit.register registration).unit : Progress EntityKey }).2 := by
      have silent : (unit.register registration).requests = [] ∧
          (unit.register registration).observations = [] := by
        unfold UnitOfWork.register
        split <;> exact ⟨rfl, rfl⟩
      have turn := Turn.register atHand registration
      rw [absorb, silent.1, silent.2] at turn
      exact .single turn
    cases kind with
    | create => exact registered _
    | update => exact registered _
    | delete => exact registered _

/-- A commit prepares, waits and collects. -/
theorem turns_afterCommit (consistent : unit.Consistent engine.environment.mapping)
    (atHand : engine.unit? number = some unit) :
    Turns engine (engine.afterCommit number unit).2 := by
  rw [afterCommit_eq engine consistent, consistent.beginCommit_eq_beforeCommit]
  have prepared := unit?_absorb atHand (unit.beforeCommit engine.environment number engine.now)
  exact ((Relation.ReflTransGen.single (.prepare atHand)).trans (turns_await _ _)).tail
    (.collect (unit?_await prepared))

/-- So does a flush. -/
theorem turns_flush (consistent : unit.Consistent engine.environment.mapping)
    (atHand : engine.unit? number = some unit) :
    Turns engine (engine.flush number unit).2 := by
  rw [flush_eq engine consistent]
  have prepared := unit?_absorb atHand (unit.beforeCommit engine.environment number engine.now)
  have shape := consistent.prepare number engine.now
  exact .head (.prepare atHand) (turns_afterCommit shape prepared)

/-- A rollback gives up, waits and reports. -/
theorem turns_afterRollback (atHand : engine.unit? number = some unit) :
    Turns engine (engine.afterRollback number unit).2 := by
  have given := unit?_setUnit atHand unit.beginRollback
  exact ((Relation.ReflTransGen.single (.giveUp atHand)).trans (turns_await _ _)).tail
    (.report (unit?_await given))

/-- Every step is made of turns. -/
theorem step_turns (consistent : engine.Consistent) (step : EngineStep) :
    Turns engine (engine.step step).2 := by
  cases step with
  | begin => exact .single (.begin engine)
  | wait milliseconds =>
    cases milliseconds with
    | zero => exact .refl
    | succ less => exact .single (.elapse engine _)
  | drop number =>
    cases atHand : engine.unit? number with
    | none =>
      have nothing : engine.drop number = engine := by simp only [Engine.drop, atHand]
      rw [Engine.step, nothing]
    | some unit => exact .single (.drop atHand)
  | call number call =>
    cases atHand : engine.unit? number with
    | none =>
      simp only [Engine.step, atHand]
      exact .refl
    | some unit =>
      rw [step_call atHand]
      cases call with
      | register registration => exact .single (.register atHand registration)
      | registerInstance kind entity => exact turns_registerInstance atHand kind entity
      | beforeCommit => exact .single (.prepare atHand)
      | afterCommit => exact turns_afterCommit (consistent.shape atHand) atHand
      | flush => exact turns_flush (consistent.shape atHand) atHand
      | afterRollback => exact turns_afterRollback atHand

/-- So are several, one after another. -/
theorem run_turns (consistent : engine.Consistent) (steps : List EngineStep) :
    Turns engine (engine.run steps) := by
  induction steps generalizing engine with
  | nil => exact .refl
  | cons step rest inductionHypothesis =>
    exact (step_turns consistent step).trans (inductionHypothesis (consistent.step step))

/-- So is every run. -/
theorem turns_of_run (environment : Environment) (steps : List EngineStep) :
    Turns (start environment) ((start environment).run steps) :=
  run_turns (start_consistent environment) steps

/-- A unit that is put in place of one at hand keeps the shapes, if it has one of them. -/
theorem Consistent.put (consistent : engine.Consistent) {next : UnitSlot}
    (shape : next.unit.Consistent engine.environment.mapping)
    (environment : after.environment = engine.environment)
    (slots : after.slots = engine.slots.set number next) : after.Consistent := by
  intro slot member
  rw [slots] at member
  rw [environment]
  rcases List.mem_or_eq_of_mem_set member with old | new
  · exact consistent slot old
  · exact new ▸ shape

/-- A turn keeps the shapes and leaves what was agreed. -/
theorem Consistent.turn (consistent : engine.Consistent) (turn : Turn engine after) :
    after.Consistent ∧ after.environment = engine.environment := by
  cases turn with
  | begin =>
    refine ⟨fun slot member => ?_, rfl⟩
    rcases List.mem_append.1 member with old | new
    · exact consistent slot old
    · rw [List.mem_singleton.1 new]
      exact .opened .empty
  | register atHand registration =>
    exact ⟨consistent.put ((consistent.shape atHand).register registration) rfl rfl, rfl⟩
  | prepare atHand =>
    exact ⟨consistent.put ((consistent.shape atHand).prepare _ _) rfl rfl, rfl⟩
  | collect atHand =>
    exact ⟨consistent.put ((consistent.shape atHand).endCommit _) rfl rfl, rfl⟩
  | giveUp atHand =>
    exact ⟨consistent.put (consistent.shape atHand).beginRollback rfl rfl, rfl⟩
  | report atHand =>
    exact ⟨consistent.put ((consistent.shape atHand).endRollback _) rfl rfl, rfl⟩
  | drop atHand =>
    rw [Engine.drop, atHand]
    exact ⟨consistent.put (consistent.shape atHand).abandon rfl rfl, rfl⟩
  | elapse target =>
    refine ⟨fun slot member => ?_, rfl⟩
    obtain ⟨before, listed, rfl⟩ := List.mem_map.1 member
    exact (consistent before listed).runUntil _ _

end Reindex.Engine
