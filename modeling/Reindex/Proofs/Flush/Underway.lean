import Reindex.Flush.Prepared
import Reindex.Proofs.Engine
import Reindex.Proofs.Submission.Settling

/-!
# Flushes that are underway

From the call that prepares it, a unit that is not given up is underway: its
batches are in flight, as they were submitted and as far as time has brought them,
or they were collected, each with the result that the backend gave it. A commit
waits until all of them have ended, so it always collects, and what is collected
stays. Whatever else a run does, to this unit or to others, changes nothing of it.
-/

namespace Reindex

/-- How the call for a batch of a unit ends. -/
def Environment.resultOf (environment : Environment) (number : Nat) (batch : WorkBatch) :
    BatchResult :=
  (UnitOfWork.submission environment number []).callResult batch

/-- What the flush of a plan holds: what was prepared, or no batch and the failure of every
key when the plan cannot be prepared. -/
def Mapping.flushed (mapping : Mapping) (services : Services) (plan : Plan) : PreparedFlush :=
  match (mapping.prepare services plan).1 with
  | .ok prepared => prepared
  | .error error => ⟨[], [error.toFailure plan.pendingKeys]⟩

/-- A plan that can be prepared is flushed as it was prepared. -/
theorem Mapping.flushed_of_prepare {mapping : Mapping} {services : Services} {plan : Plan}
    {prepared : PreparedFlush} (ready : (mapping.prepare services plan).1 = .ok prepared) :
    mapping.flushed services plan = prepared := by
  rw [flushed, ready]

namespace UnitOfWork

variable {environment : Environment} {number : Nat} {prepared : PreparedFlush} {unit : UnitOfWork}

/-- The outcome of the batches of a flush. -/
def collectedOutcome (environment : Environment) (number : Nat) (prepared : PreparedFlush) :
    FlushOutcome :=
  .ofBatches (prepared.batches.map fun batch => (batch.keys, environment.resultOf number batch))

/-- The flush has ended with the results of all its batches. -/
def Collected (environment : Environment) (number : Nat) (prepared : PreparedFlush)
    (unit : UnitOfWork) : Prop :=
  ∃ started now work, work.inFlight? = none ∧
    unit = settled started now work prepared.failures (collectedOutcome environment number prepared)

/-- The flush has begun: what was submitted goes on, or was collected. -/
inductive Underway (environment : Environment) (number : Nat) (prepared : PreparedFlush) :
    UnitOfWork → Prop
  | inFlight {started : Nat} {current : Submission}
      (continues : (submission environment number prepared.batches).Continues current) :
      Underway environment number prepared (submitted started current prepared.failures)
  | collected {unit : UnitOfWork} (ended : Collected environment number prepared unit) :
      Underway environment number prepared unit

/-- A unit that is underway takes no registrations. -/
theorem Underway.isOpen (underway : Underway environment number prepared unit) :
    unit.state.isOpen = false := by
  cases underway with
  | inFlight continues => rfl
  | collected ended =>
    obtain ⟨started, now, work, _, rfl⟩ := ended
    exact isOpen_settled _ _ _ _ _

/-- A flush without batches has ended when it begins. -/
theorem Collected.of_nothing (environment : Environment) (number now : Nat)
    (nothing : prepared.batches = []) :
    Collected environment number prepared (settled now now .nothing prepared.failures {}) := by
  refine ⟨now, now, .nothing, rfl, ?_⟩
  rw [collectedOutcome, nothing]
  rfl

/-- Preparing an open unit sets its flush underway. -/
theorem underway_beforeCommit (environment : Environment) (number since now : Nat) (plan : Plan) :
    Underway environment number (environment.mapping.flushed (environment.services number) plan)
      ((ofPlan since plan).beforeCommit environment number now).unit := by
  cases ready : (environment.mapping.prepare (environment.services number) plan).1 with
  | error error =>
    rw [beforeCommit_of_error ready, Mapping.flushed, ready]
    exact .collected (.of_nothing environment number now rfl)
  | ok prepared =>
    rw [Mapping.flushed_of_prepare ready]
    by_cases nothing : prepared.batches = []
    · rw [beforeCommit_of_nothing ready nothing]
      exact .collected (.of_nothing environment number now nothing)
    · rw [beforeCommit_of_batches ready nothing]
      exact .inFlight (.refl _)

/-- A commit of what was collected collects nothing more. -/
theorem Collected.settle (ended : Collected environment number prepared unit) (now : Nat) :
    Collected environment number prepared (unit.settle now).2 := by
  obtain ⟨started, ended, work, collected, rfl⟩ := ended
  refine ⟨started, ended, work, collected, ?_⟩
  rw [UnitOfWork.settle, awaited_of_none collected, unit_endCommit_of_none collected]

/-- A commit of what is underway waits for every batch and collects the results. -/
theorem Underway.settle (permitted : 0 < environment.mapping.config.maxInFlight)
    (underway : Underway environment number prepared unit) (now : Nat) :
    Collected environment number prepared (unit.settle now).2 := by
  cases underway with
  | @inFlight started current continues =>
    have permits : 0 < current.permits := by
      rw [continues.permits]
      exact permitted
    have atRest : ∃ instant final, final.isSettled = true ∧
        (submission environment number prepared.batches).Continues final ∧
        (submitted started current prepared.failures).awaited now =
          (instant, submitted started final prepared.failures) := by
      rw [awaited_submitted]
      by_cases already : current.isSettled = true
      · exact ⟨now, current, already, continues, if_pos already⟩
      · exact ⟨_, _, Submission.isSettled_runUntil permits now,
          continues.trans (Submission.continues_runUntil _ _ _), if_neg already⟩
    obtain ⟨instant, final, still, reached, waited⟩ := atRest
    refine ⟨started, instant, .collected final, rfl, ?_⟩
    rw [UnitOfWork.settle, waited, unit_endCommit_submitted, reached.settledBatches still]
    rfl
  | collected ended => exact ended.settle now

/-- What was collected stays, whatever is not a rollback. -/
theorem Collected.advance {before after : Nat × UnitOfWork}
    (ended : Collected environment number prepared before.2)
    (advance : Advance environment number before after) :
    Collected environment number prepared after.2 := by
  cases advance with
  | register now unit registration =>
    rwa [register_of_closed (Underway.collected ended).isOpen]
  | prepare now unit =>
    rwa [beforeCommit_of_closed (Underway.collected ended).isOpen]
  | settle now unit => exact ended.settle now
  | elapse now target unit =>
    obtain ⟨started, ended, work, collected, rfl⟩ := ended
    exact ⟨started, ended, _, inFlight?_map collected _, rfl⟩

/-- What is underway stays underway. -/
theorem Underway.advance (permitted : 0 < environment.mapping.config.maxInFlight)
    {before after : Nat × UnitOfWork} (underway : Underway environment number prepared before.2)
    (advance : Advance environment number before after) :
    Underway environment number prepared after.2 := by
  cases advance with
  | register now unit registration => rwa [register_of_closed underway.isOpen]
  | prepare now unit => rwa [beforeCommit_of_closed underway.isOpen]
  | settle now unit => exact .collected (underway.settle permitted now)
  | elapse now target unit =>
    cases underway with
    | @inFlight started current continues =>
      change Underway environment number prepared
        ((submitted started current prepared.failures).runUntil now target)
      rw [runUntil_submitted]
      exact .inFlight (continues.trans (Submission.continues_runUntil _ now target))
    | collected ended => exact .collected (ended.advance (.elapse now target unit))

/-- Any number of advances leave collected what was collected. -/
theorem Collected.advances {before after : Nat × UnitOfWork}
    (ended : Collected environment number prepared before.2)
    (advances : Advances environment number before after) :
    Collected environment number prepared after.2 := by
  induction advances with
  | refl => exact ended
  | tail _ advance inductionHypothesis => exact inductionHypothesis.advance advance

/-- Any number of advances leave underway what was underway. -/
theorem Underway.advances (permitted : 0 < environment.mapping.config.maxInFlight)
    {before after : Nat × UnitOfWork} (underway : Underway environment number prepared before.2)
    (advances : Advances environment number before after) :
    Underway environment number prepared after.2 := by
  induction advances with
  | refl => exact underway
  | tail _ advance inductionHypothesis => exact inductionHypothesis.advance permitted advance

end UnitOfWork

/-- A step commits a unit when it waits for its batches. -/
def EngineStep.Commits (number : Nat) (step : EngineStep) : Prop :=
  step = .call number .afterCommit ∨ step = .call number .flush

namespace Engine

open UnitOfWork (Collected Underway)

variable {environment : Environment} {engine : Engine} {number : Nat} {prepared : PreparedFlush}
  {unit : UnitOfWork}

/-- What a commit leaves of a unit that is underway was collected. -/
theorem step_collects (permitted : 0 < environment.mapping.config.maxInFlight)
    (consistent : engine.Consistent) (agreed : engine.environment = environment)
    (atHand : engine.unit? number = some unit)
    (underway : Underway environment number prepared unit) {step : EngineStep}
    (commits : step.Commits number) :
    ∃ next, (engine.step step).2.slots[number]? = some { unit := next } ∧
      Collected environment number prepared next := by
  subst agreed
  have ended := underway.settle permitted engine.now
  have closed : unit.beforeCommit engine.environment number engine.now = unit.answer (.ok ()) :=
    UnitOfWork.beforeCommit_of_closed underway.isOpen engine.now
  rcases commits with rfl | rfl
  · refine ⟨_, (leaves_step consistent atHand .afterCommit).held, ?_⟩
    rwa [UnitOfWork.called, closed]
  · refine ⟨_, (leaves_step consistent atHand .flush).held, ?_⟩
    rwa [UnitOfWork.called, closed]

/-- A unit that is underway and not given up stays underway, and from the first
commit on its results are collected. -/
theorem run_collects (permitted : 0 < environment.mapping.config.maxInFlight)
    (consistent : engine.Consistent) (agreed : engine.environment = environment)
    (atHand : engine.unit? number = some unit)
    (underway : Underway environment number prepared unit) {steps : List EngineStep}
    (kept : ∀ step ∈ steps, ¬ step.GivesUp number) :
    ∃ final, (engine.run steps).unit? number = some final ∧
      ((Collected environment number prepared unit ∨ ∃ step ∈ steps, step.Commits number) →
        Collected environment number prepared final) := by
  induction steps generalizing engine unit with
  | nil =>
    refine ⟨unit, atHand, ?_⟩
    rintro (ended | ⟨step, member, _⟩)
    · exact ended
    · cases member
  | cons step rest inductionHypothesis =>
    obtain ⟨slot, found, undropped, advances⟩ :=
      step_advances consistent (unit?_eq_some_iff.1 atHand) (kept step List.mem_cons_self)
    obtain ⟨next, dropped⟩ := slot
    cases undropped
    rw [agreed] at advances
    obtain ⟨final, last, collects⟩ := inductionHypothesis (consistent.step step)
      ((step_environment consistent step).1.trans agreed) (unit?_eq_some_iff.2 found)
      (underway.advances permitted advances)
      fun step member => kept step (List.mem_cons_of_mem _ member)
    refine ⟨final, last, ?_⟩
    rintro (ended | ⟨commit, member, commits⟩)
    · exact collects (.inl (ended.advances advances))
    · rcases List.mem_cons.1 member with rfl | later
      · obtain ⟨same, sameFound, ended⟩ :=
          step_collects permitted consistent agreed atHand underway commits
        cases Option.some.inj (sameFound.symm.trans found)
        exact collects (.inl ended)
      · exact collects (.inr ⟨commit, later, commits⟩)

/-- A call that prepares a unit with a plan sets its flush underway, and a commit
collects its results at once. -/
theorem step_flushes (permitted : 0 < environment.mapping.config.maxInFlight)
    (consistent : engine.Consistent) (agreed : engine.environment = environment)
    (atHand : engine.unit? number = some unit) {plan : Plan} (planned : unit.plan = some plan)
    {call : UnitCall}
    (begins : call = .beforeCommit ∨ (EngineStep.call number call).Commits number) :
    ∃ next, (engine.step (.call number call)).2.unit? number = some next ∧
      Underway environment number
        (environment.mapping.flushed (environment.services number) plan) next ∧
      ((EngineStep.call number call).Commits number →
        Collected environment number
          (environment.mapping.flushed (environment.services number) plan) next) := by
  subst agreed
  have shape := consistent.shape atHand
  obtain ⟨since, rfl, _⟩ := shape.of_plan planned
  have underway := UnitOfWork.underway_beforeCommit engine.environment number since engine.now plan
  have ended := underway.settle permitted engine.now
  have leaves := leaves_step consistent atHand call
  refine ⟨_, unit?_eq_some_iff.2 leaves.held, ?_⟩
  rcases begins with rfl | ⟨⟨⟩⟩ | ⟨⟨⟩⟩
  · exact ⟨underway, fun commits => by rcases commits with ⟨⟨⟩⟩ | ⟨⟨⟩⟩⟩
  · exact ⟨.collected ended, fun _ => ended⟩
  · exact ⟨.collected ended, fun _ => ended⟩

/-- When the plan can be prepared, what is underway is what was prepared. -/
theorem step_begins (permitted : 0 < environment.mapping.config.maxInFlight)
    (consistent : engine.Consistent) (agreed : engine.environment = environment)
    (atHand : engine.unit? number = some unit) {plan : Plan} (planned : unit.plan = some plan)
    (ready : (environment.mapping.prepare (environment.services number) plan).1 = .ok prepared)
    {call : UnitCall}
    (begins : call = .beforeCommit ∨ (EngineStep.call number call).Commits number) :
    ∃ next, (engine.step (.call number call)).2.unit? number = some next ∧
      Underway environment number prepared next ∧
      ((EngineStep.call number call).Commits number →
        Collected environment number prepared next) := by
  rw [← Mapping.flushed_of_prepare ready]
  exact step_flushes permitted consistent agreed atHand planned begins

end Engine

end Reindex
