import Reindex.Proofs.Flush.History
import Reindex.Proofs.Flush.Underway
import Reindex.Proofs.Mapping

/-!
# What a unit's own calls decide

A run is made of the calls on one unit and of everything else: calls on other units, their
beginnings and ends, and the time that passes. What a unit flushes is decided by its own
calls alone. The registrations that come first make the plan, the first other call prepares
it, and the next commit collects what was prepared, whatever happens in between.
-/

namespace Reindex

/-- The call that a step makes on a unit. -/
def EngineStep.callOn? (number : Nat) : EngineStep → Option UnitCall
  | .call acting made => if acting = number then some made else none
  | _ => none

/-- In the course of a run the unit of that number begins and is called so, in this order,
and it is not let go. What is done to others, and when time passes, is left open. -/
def CalledWith (environment : Environment) (number : Nat) (steps : List EngineStep)
    (calls : List UnitCall) : Prop :=
  ∃ before since, steps = before ++ .begin :: since ∧
    ((Engine.start environment).run before).slots.length = number ∧
      EngineStep.drop number ∉ since ∧ since.filterMap (EngineStep.callOn? number) = calls

namespace Environment

/-- The plan of a unit that is called so: what is registered before any other call. -/
def planOf (environment : Environment) (calls : List UnitCall) : Plan :=
  .ofRegistrations environment.mapping
    ((calls.takeWhile UnitCall.registers).filterMap (UnitCall.registration? environment))

/-- What a unit that is called so flushes. -/
def flushOf (environment : Environment) (number : Nat) (calls : List UnitCall) : PreparedFlush :=
  environment.mapping.flushed (environment.services number) (environment.planOf calls)

end Environment

namespace EngineStep

variable {number : Nat} {step : EngineStep} {call : UnitCall}

/-- A step makes a call on a unit when it is that call. -/
theorem callOn?_eq_some_iff : step.callOn? number = some call ↔ step = .call number call := by
  cases step with
  | call acting made =>
    by_cases own : acting = number
    · subst own
      simp [callOn?]
    · simp [callOn?, own]
  | begin => simp [callOn?]
  | drop acting => simp [callOn?]
  | wait milliseconds => simp [callOn?]

/-- Any other step makes none. -/
theorem callOn?_of_spared (spared : ∀ call, step ≠ .call number call) :
    step.callOn? number = none := by
  cases made : step.callOn? number with
  | none => rfl
  | some call => exact absurd (callOn?_eq_some_iff.1 made) (spared call)

/-- Where the calls on a unit are cut, the steps can be cut. -/
theorem exists_of_calls {steps : List EngineStep} {first rest : List UnitCall}
    (made : steps.filterMap (callOn? number) = first ++ call :: rest) :
    ∃ earlier later, steps = earlier ++ .call number call :: later ∧
      earlier.filterMap (callOn? number) = first ∧ later.filterMap (callOn? number) = rest := by
  obtain ⟨earlier, others, rfl, firstMade, restMade⟩ := List.filterMap_eq_append_iff.1 made
  obtain ⟨silent, step, later, rfl, none, own, laterMade⟩ := List.filterMap_eq_cons_iff.1 restMade
  obtain rfl := callOn?_eq_some_iff.1 own
  have nothing : silent.filterMap (callOn? number) = [] := List.filterMap_eq_nil_iff.2 none
  refine ⟨earlier ++ silent, later, by rw [List.append_assoc], ?_, laterMade⟩
  rw [List.filterMap_append, firstMade, nothing, List.append_nil]

end EngineStep

/-- A call that registers leaves an open unit the plan after its registration. -/
theorem UnitOfWork.plan_called_of_registers {environment : Environment} {number since now : Nat}
    {plan : Plan} (consistent : Consistent environment.mapping (ofPlan since plan))
    {call : UnitCall} (registers : call.registers = true) :
    ((ofPlan since plan).called environment number now call).2.plan =
      some ((call.registration? environment).elim plan
        fun registration => plan.call (.register registration)) := by
  have planned : ∃ next,
      ((ofPlan since plan).called environment number now call).2.plan = some next := by
    cases call with
    | register registration => exact ⟨_, plan_register since plan registration⟩
    | registerInstance kind entity =>
      rw [called]
      rcases registerInstance_unit environment (ofPlan since plan) kind entity with
        same | ⟨registration, same⟩
      · exact ⟨plan, by rw [same]; rfl⟩
      · exact ⟨_, by rw [same]; exact plan_register since plan registration⟩
    | beforeCommit => cases registers
    | afterCommit => cases registers
    | flush => cases registers
    | afterRollback => cases registers
  obtain ⟨next, planned⟩ := planned
  rw [planned, consistent.plan_called planned]

namespace Engine

open UnitOfWork (Collected)

variable {environment : Environment} {number : Nat} {before since steps : List EngineStep}
  {calls : List UnitCall}

/-- As long as a unit is only registered with, it has the plan that the registrations lead
to. The induction is on the steps since it began, the last one first. -/
theorem run_registers (length : ((start environment).run before).slots.length = number)
    (kept : EngineStep.drop number ∉ since)
    (registers : ∀ call ∈ since.filterMap (EngineStep.callOn? number), call.registers = true) :
    ∃ unit, ((start environment).run (before ++ .begin :: since)).unit? number = some unit ∧
      unit.plan = some (Plan.ofRegistrations environment.mapping
        ((since.filterMap (EngineStep.callOn? number)).filterMap
          (UnitCall.registration? environment))) := by
  induction since using List.reverseRecOn with
  | nil =>
    have begun : ((start environment).run before).begin.slots[number]? = some
        { unit := .begin ((start environment).run before).environment.mapping
            ((start environment).run before).now } := by
      rw [← length]
      exact List.getElem?_concat_length
    rw [(run_consistent environment before).2] at begun
    refine ⟨.begin environment.mapping ((start environment).run before).now,
      unit?_eq_some_iff.2 ?_, rfl⟩
    rw [run_append]
    exact begun
  | append_singleton since step inductionHypothesis =>
    rw [List.filterMap_append] at registers
    obtain ⟨unit, atHand, planned⟩ := inductionHypothesis
      (fun dropped => kept (List.mem_append_left _ dropped))
      fun call made => registers call (List.mem_append_left _ made)
    obtain ⟨consistent, agreed⟩ := run_consistent environment (before ++ .begin :: since)
    have held := unit?_eq_some_iff.1 atHand
    obtain ⟨next, found, fate⟩ := step_fate consistent held step
    have shape := consistent _ (List.mem_of_getElem? held)
    rw [agreed] at shape
    rw [← List.cons_append, ← List.append_assoc, run_append, List.filterMap_append,
      List.filterMap_append]
    change ∃ unit, (((start environment).run (before ++ .begin :: since)).step step).2.unit?
      number = some unit ∧ _
    generalize (((start environment).run (before ++ .begin :: since)).step step).2 = after
      at found fate ⊢
    generalize after.now = now at fate
    cases fate with
    | called call undropped =>
      have own : [EngineStep.call number call].filterMap (EngineStep.callOn? number) = [call] := by
        simp [EngineStep.callOn?]
      have registersNow := registers call (List.mem_append_right _ (own ▸ List.mem_cons_self))
      obtain ⟨opened, rfl, -⟩ := shape.of_plan planned
      refine ⟨_, unit?_eq_some_iff.2 found, ?_⟩
      rw [agreed, UnitOfWork.plan_called_of_registers shape registersNow, own]
      cases registered : call.registration? environment with
      | none => simp [registered]
      | some registration => simp [registered, Plan.ofRegistrations_append]
    | dropped undropped => exact absurd (List.mem_append_right _ List.mem_cons_self) kept
    | aged same ages spared =>
      obtain ⟨aged, dropped⟩ := next
      cases same
      obtain ⟨-, samePlan, -⟩ := UnitOfWork.parts_of_ages ages
      refine ⟨aged, unit?_eq_some_iff.2 found, ?_⟩
      have silent : [step].filterMap (EngineStep.callOn? number) = [] := by
        simp [EngineStep.callOn?_of_spared (spared rfl).2]
      rw [silent, List.filterMap_nil, List.append_nil]
      exact samePlan.trans planned

/-- Of calls with a commit among them and no rollback, the first one that is no
registration prepares the unit, and it is a commit or one follows. -/
theorem exists_preparing (number : Nat) (kept : .afterRollback ∉ calls)
    (commits : .afterCommit ∈ calls ∨ .flush ∈ calls) :
    ∃ call rest, calls = calls.takeWhile UnitCall.registers ++ call :: rest ∧
      (call = .beforeCommit ∨ (EngineStep.call number call).Commits number) ∧
        ((EngineStep.call number call).Commits number ∨
          ∃ later ∈ rest, (EngineStep.call number later).Commits number) := by
  obtain ⟨commit, member, isCommit⟩ :
      ∃ commit ∈ calls, commit = .afterCommit ∨ commit = .flush := by
    rcases commits with member | member
    · exact ⟨_, member, .inl rfl⟩
    · exact ⟨_, member, .inr rfl⟩
  have isStep : (EngineStep.call number commit).Commits number := by
    rcases isCommit with rfl | rfl
    · exact .inl rfl
    · exact .inr rfl
  have silent : commit.registers = false := by
    rcases isCommit with rfl | rfl <;> rfl
  have split : calls.takeWhile UnitCall.registers ++ calls.dropWhile UnitCall.registers = calls :=
    List.takeWhile_append_dropWhile
  have first := calls.head?_dropWhile_not UnitCall.registers
  cases others : calls.dropWhile UnitCall.registers with
  | nil =>
    have registers := List.dropWhile_eq_nil_iff.1 others commit member
    simp [silent] at registers
  | cons call rest =>
    rw [others] at split first
    have inCalls : call ∈ calls := split ▸ List.mem_append_right _ List.mem_cons_self
    refine ⟨call, rest, split.symm, ?_, ?_⟩
    · cases call with
      | register registration => cases first
      | registerInstance kind entity => cases first
      | beforeCommit => exact .inl rfl
      | afterCommit => exact .inr (.inl rfl)
      | flush => exact .inr (.inr rfl)
      | afterRollback => exact absurd inCalls kept
    · rw [← split] at member
      rcases List.mem_append.1 member with registering | later
      · have registers := List.mem_takeWhile_imp registering
        simp [silent] at registers
      · rcases List.mem_cons.1 later with rfl | later
        · exact .inl isStep
        · exact .inr ⟨commit, later, isStep⟩

/-- A unit that is called so, with a commit among the calls and no rollback, ends with the
results of what its calls flush. -/
theorem run_settles (permitted : 0 < environment.mapping.config.maxInFlight)
    (course : CalledWith environment number steps calls) (kept : .afterRollback ∉ calls)
    (commits : .afterCommit ∈ calls ∨ .flush ∈ calls) :
    ∃ settled, ((start environment).run steps).unit? number = some settled ∧
      Collected environment number (environment.flushOf number calls) settled := by
  obtain ⟨before, since, rfl, length, undropped, made⟩ := course
  obtain ⟨call, rest, split, begins, ends⟩ := exists_preparing number kept commits
  obtain ⟨earlier, later, rfl, earlierMade, laterMade⟩ :=
    EngineStep.exists_of_calls (made.trans split)
  -- until that call the unit is registered with, and so it has the plan of its calls
  obtain ⟨unit, atHand, planned⟩ := run_registers length
    (fun dropped => undropped (List.mem_append_left _ dropped))
    (fun registering member => List.mem_takeWhile_imp (earlierMade ▸ member))
  rw [earlierMade] at planned
  obtain ⟨consistent, agreed⟩ := run_consistent environment (before ++ .begin :: earlier)
  obtain ⟨next, found, underway, collects⟩ :=
    step_flushes permitted consistent agreed atHand planned begins
  have spared : ∀ step ∈ later, ¬ step.GivesUp number := by
    rintro step member (rfl | rfl)
    · refine kept (split ▸ List.mem_append_right _ (List.mem_cons_of_mem _ ?_))
      rw [← laterMade]
      exact List.mem_filterMap.2 ⟨_, member, EngineStep.callOn?_eq_some_iff.2 rfl⟩
    · exact undropped (List.mem_append_right _ (List.mem_cons_of_mem _ member))
  obtain ⟨settled, last, collectsLater⟩ := run_collects permitted (consistent.step _)
    ((step_environment consistent _).1.trans agreed) found underway spared
  have same : before ++ .begin :: (earlier ++ .call number call :: later) =
      (before ++ .begin :: earlier) ++ .call number call :: later := by simp
  rw [same, run_append]
  refine ⟨settled, last, collectsLater ?_⟩
  rcases ends with now | ⟨commit, member, isCommit⟩
  · exact .inl (collects now)
  · rw [← laterMade] at member
    obtain ⟨step, inLater, own⟩ := List.mem_filterMap.1 member
    exact .inr ⟨step, inLater, EngineStep.callOn?_eq_some_iff.1 own ▸ isCommit⟩

end Engine

end Reindex
