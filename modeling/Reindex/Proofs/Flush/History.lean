import Reindex.Proofs.Plan.Order
import Reindex.Proofs.UnitOfWork.Faithful

/-!
# The registrations of an open unit

As long as a unit is open, its plan is what the registrations made with it have led to,
from the step that began it on. Nothing else that happens in a run bears on the plan,
and a unit that is no longer open has none.
-/

namespace Reindex

/-- The registration of a change of a live entity under its key. -/
def Registration.ofInstance (kind : ChangeKind) (key : EntityKey) (entity : Instance) :
    Registration :=
  match kind with
  | .create => .create key (some entity)
  | .update => .update key (some entity)
  | .delete => .delete key

/-- The registration that a call makes, if the entity is given or can be identified. -/
def UnitCall.registration? (environment : Environment) : UnitCall → Option Registration
  | .register registration => some registration
  | .registerInstance kind entity =>
    match (environment.mapping.resolver.identify entity).1 with
    | .ok key => some (.ofInstance kind key entity)
    | .error _ => none
  | _ => none

/-- The registration that a step makes with a unit. -/
def EngineStep.registration? (environment : Environment) (number : Nat) :
    EngineStep → Option Registration
  | .call acting made => if acting = number then made.registration? environment else none
  | _ => none

namespace UnitOfWork

variable {environment : Environment} {mapping : Mapping} {number now : Nat}

/-- A registration with an open unit is one with its plan. -/
theorem plan_register (since : Nat) (plan : Plan) (registration : Registration) :
    ((ofPlan since plan).register registration).unit.plan =
      some (plan.call (.register registration)) := by
  have attempt : (ofPlan since plan).openPlan = .ok plan := rfl
  rw [register, attempt, Except.bind, Plan.call]
  cases plan.apply registration <;> rfl

/-- A unit without a plan is not open. -/
theorem Consistent.plan_eq_none {unit : UnitOfWork} (consistent : Consistent mapping unit)
    (closed : unit.state.isOpen = false) : unit.plan = none := by
  have opened := consistent.coherent.opened
  rw [closed] at opened
  simpa using opened.symm

/-- If a call leaves an open unit its plan, it is the plan after the registration that
the call has made. -/
theorem Consistent.plan_called {since : Nat} {plan next : Plan}
    (consistent : Consistent environment.mapping (ofPlan since plan)) {call : UnitCall}
    (planned : ((ofPlan since plan).called environment number now call).2.plan = some next) :
    next = (call.registration? environment).elim plan fun registration =>
      plan.call (.register registration) := by
  have closes (prepares : call.prepares = true) : False := by
    have closed := (consistent.parts_called_of_plan number now prepares).2
    have shape := (called_moves environment number now (ofPlan since plan) call).consistent
      consistent
    rw [shape.plan_eq_none closed] at planned
    cases planned
  cases call with
  | register registration =>
    rw [called, plan_register] at planned
    exact (Option.some.inj planned).symm
  | registerInstance kind entity =>
    have opened : (ofPlan since plan).state.ensureOpen = .ok () := rfl
    rw [called, registerInstance, opened, Except.bind] at planned
    rw [UnitCall.registration?]
    cases identified : (environment.mapping.resolver.identify entity).1 with
    | error error =>
      rw [identified] at planned
      exact (Option.some.inj planned).symm
    | ok key =>
      rw [identified] at planned
      exact (Option.some.inj ((plan_register since plan _).symm.trans planned)).symm
  | beforeCommit => exact (closes rfl).elim
  | afterCommit => exact (closes rfl).elim
  | flush => exact (closes rfl).elim
  | afterRollback =>
    have closed := (consistent.parts_retract now).2
    rw [called, (consistent.retract now).plan_eq_none closed] at planned
    cases planned

end UnitOfWork

namespace Engine

variable {environment : Environment} {number : Nat} {steps : List EngineStep} {slot : UnitSlot}

/-- A step that does not call a unit registers nothing with it. -/
theorem registration?_of_spared {step : EngineStep}
    (spared : ∀ call, step ≠ .call number call) : step.registration? environment number = none := by
  cases step with
  | call acting call =>
    refine if_neg ?_
    rintro rfl
    exact spared call rfl
  | begin => rfl
  | drop acting => rfl
  | wait milliseconds => rfl

/-- A unit that has a plan after a step had one before, and the plan is followed by what
the step registers. -/
theorem plan_of_fate {engine : Engine} {before : UnitSlot} {step : EngineStep} {now : Nat}
    {plan : Plan} (agreed : engine.environment = environment)
    (shape : before.unit.Consistent environment.mapping)
    (fate : Fate engine number before step (now, slot))
    (kept : slot.dropped = false) (planned : slot.unit.plan = some plan) :
    before.dropped = false ∧ ∃ planBefore, before.unit.plan = some planBefore ∧
      plan = (step.registration? environment number).elim planBefore
        fun registration => planBefore.call (.register registration) := by
  cases fate with
  | called call atHand =>
    refine ⟨atHand, ?_⟩
    rw [EngineStep.registration?, if_pos rfl]
    rw [agreed] at planned
    obtain ⟨since, planBefore, _, opened⟩ | closed := shape.open_or_closed
    · obtain ⟨unit, dropped⟩ := before
      obtain rfl : unit = .ofPlan since planBefore := opened
      exact ⟨planBefore, rfl, shape.plan_called planned⟩
    · have closedThen :=
        (shape.parts_called_of_closed closed environment number engine.now call).2
      have moved := (UnitOfWork.called_moves environment number engine.now before.unit
        call).consistent shape
      rw [moved.plan_eq_none closedThen] at planned
      cases planned
  | dropped atHand => cases kept
  | aged same ages spared =>
    obtain ⟨_, samePlan, _⟩ := UnitOfWork.parts_of_ages ages
    have undropped := same ▸ kept
    rw [registration?_of_spared (spared undropped).2]
    exact ⟨undropped, plan, samePlan.symm.trans planned, rfl⟩

/-- The plan of a unit at hand is made of the registrations with it since it began. -/
theorem plan_of_run {plan : Plan}
    (held : ((start environment).run steps).slots[number]? = some slot)
    (kept : slot.dropped = false) (planned : slot.unit.plan = some plan) :
    ∃ earlier since, steps = earlier ++ .begin :: since ∧
      ((start environment).run earlier).slots.length = number ∧
        plan = Plan.ofRegistrations environment.mapping
          (since.filterMap (EngineStep.registration? environment number)) := by
  induction steps using List.reverseRecOn generalizing slot plan with
  | nil => cases held
  | append_singleton earlier step inductionHypothesis =>
    obtain ⟨consistent, agreed⟩ := run_consistent environment earlier
    rw [run_append] at held
    obtain ⟨rfl, rfl, rfl⟩ | ⟨before, heldBefore, fate⟩ := step_stems consistent held
    · rw [agreed] at planned
      exact ⟨earlier, [], rfl, rfl, (Option.some.inj planned).symm⟩
    · have shape := consistent _ (List.mem_of_getElem? heldBefore)
      rw [agreed] at shape
      obtain ⟨undropped, planBefore, plannedBefore, follows⟩ :=
        plan_of_fate agreed shape fate kept planned
      obtain ⟨before, since, rfl, length, made⟩ :=
        inductionHypothesis heldBefore undropped plannedBefore
      refine ⟨before, since ++ [step], by simp, length, ?_⟩
      rw [follows, made, List.filterMap_append]
      cases registered : step.registration? environment number with
      | none => simp [registered]
      | some registration => simp [registered, Plan.ofRegistrations_append]

end Engine

end Reindex
