import Reindex.Proofs.Flush.History
import Reindex.Proofs.Flush.Safety
import Reindex.Proofs.UnitOfWork.Report

/-!
# Rollbacks tell what the backend saw

At whatever moment of a run a unit is first rolled back, it reports where its keys have
got to. Those that never reached the backend are discarded: of an open unit the live
ones in the order of registration, of a unit with batches in flight those of the batches
that were not called. Those that the backend has accepted are not retracted, and what
failed of the rest is only counted. The report is final: the unit stays as the rollback
leaves it, no call follows, and whoever asks again gets the same report.
-/

namespace Reindex

/-- A unit is what its rollback left, and while it is at hand a further rollback repeats
the report and changes nothing. -/
def Engine.KeepsReport (engine : Engine) (number : Nat) (final : UnitOfWork)
    (outcome : RollbackOutcome) : Prop :=
  ∃ slot, engine.slots[number]? = some slot ∧ slot.unit = final ∧
    (slot.dropped = false →
      engine.step (.call number .afterRollback) = (some (.ok (.rolledBack outcome)), engine))

/-- What the first rollback of a unit after a run reports, with the unit before and
after it. -/
structure RollbackReport (environment : Environment) (number : Nat) (steps : List EngineStep)
    (unit final : UnitOfWork) (outcome : RollbackOutcome) : Prop where
  /-- The unit is rolled back, and its state has the number of the keys that stay. -/
  state : ∃ ended, final.state = .rolledBack ended outcome.unretracted.length
  /-- No key is told of on both sides. -/
  apart : ∀ key ∈ outcome.discarded, key ∉ outcome.unretracted
  /-- The rollback begins no call of the backend. -/
  silent : final.work.started = unit.work.started
  /-- An open unit discards the keys for which the registrations with it, since it began,
  have left something to do, in the order of registration. The backend is never called. -/
  opened : unit.state.isOpen = true → ∃ earlier since, steps = earlier ++ .begin :: since ∧
    ((Engine.start environment).run earlier).slots.length = number ∧
      outcome = ⟨Plan.liveKeys environment.mapping
        (since.filterMap (EngineStep.registration? environment number)), [], 0⟩ ∧
        final.work.calls = []
  /-- An executing unit reports on the batches that were prepared for it, by number: those
  that were not called are discarded, and those that were are reported as the backend has
  answered. -/
  executing : unit.state.batches?.isSome = true → ∃ prepared called uncalled,
    PreparedIn environment number steps prepared ∧
      prepared.batches.map WorkBatch.sequence = List.range prepared.batches.length ∧
        prepared.batches = called ++ uncalled ∧ final.work.called = called ∧
          outcome = .ofCalled environment number called uncalled
  /-- A unit that was committed or has failed does not retract what it has indexed. -/
  ended : unit.state.isSettled = true → ∃ stored, unit.outcome = some stored ∧
    outcome = ⟨[], stored.succeeded, 0⟩
  /-- Whatever happens later, the unit stays as it is, and a further rollback repeats the
  report and changes nothing. -/
  lasting : ∀ later,
    ((Engine.start environment).run (steps ++ .call number .afterRollback :: later)).KeepsReport
      number final outcome

/-- What was prepared in a run holds no key twice. -/
theorem PreparedIn.nodup {environment : Environment} {number : Nat} {steps : List EngineStep}
    {prepared : PreparedFlush} (ready : PreparedIn environment number steps prepared) :
    prepared.keys.Nodup := by
  obtain ⟨plan, flushed, ready⟩ := ready.flushed
  exact PreparedFlush.nodup_of_prepare flushed.reachable ready

/-- Of batches that hold no key twice no key is reported on both sides. -/
theorem RollbackOutcome.apart_ofCalled {environment : Environment} {number : Nat}
    {called uncalled : List WorkBatch}
    (distinct : ((called ++ uncalled).flatMap WorkBatch.keys).Nodup) :
    ∀ key ∈ (ofCalled environment number called uncalled).discarded,
      key ∉ (ofCalled environment number called uncalled).unretracted := by
  intro key given kept
  rw [List.flatMap_append] at distinct
  obtain ⟨batch, member, accepted⟩ := List.mem_flatMap.1 kept
  have holds : key ∈ called.flatMap WorkBatch.keys :=
    List.mem_flatMap.2 ⟨batch, member, List.mem_of_mem_filter accepted⟩
  exact (List.nodup_append.1 distinct).2.2 key holds key given rfl

namespace Engine

variable {environment : Environment} {engine : Engine} {number now : Nat} {unit : UnitOfWork}
  {slot next : UnitSlot} {doing : EngineStep} {outcome : RollbackOutcome}

/-- A further rollback repeats the report and changes nothing. -/
theorem step_afterRollback_again (atHand : engine.unit? number = some unit)
    (reported : unit.rollback = some outcome) (collected : unit.work.inFlight? = none) :
    engine.step (.call number .afterRollback) = (some (.ok (.rolledBack outcome)), engine) := by
  have still : engine.await unit = (unit, engine) := by
    simp [await, UnitOfWork.settlesAt?, collected]
  have repeats : unit.endRollback engine.now = unit.answer (.ok outcome) := by
    simp [UnitOfWork.endRollback, reported]
  have answered : engine.afterRollback number unit = (.ok outcome, engine) := by
    rw [afterRollback, UnitOfWork.beginRollback_of_none collected, setUnit_same atHand, still]
    simp only [repeats, absorb_answer atHand]
  rw [step_call atHand, call, answered]
  rfl

/-- Whatever a step does to a rolled back unit, it leaves it as it is. -/
theorem Sound.fate_of_rolledBack (sound : engine.Sound environment)
    (held : engine.slots[number]? = some slot) (reported : slot.unit.rollback = some outcome)
    (fate : Fate engine number slot doing (now, next)) : next.unit = slot.unit := by
  have coherent := (sound.shape held).coherent
  have rolledBack : slot.unit.state.isRolledBack = true := by
    rw [coherent.rolledBack, reported]
    rfl
  obtain ⟨closed, collected⟩ := coherent.ended (.inr rolledBack)
  cases fate with
  | called call atHand =>
    by_cases again : call = .afterRollback
    · subst again
      rw [UnitOfWork.called, UnitOfWork.retract_of_rolledBack reported collected]
    · rw [UnitOfWork.called_of_ended closed collected again]
  | dropped atHand => exact UnitOfWork.abandon_of_none collected
  | aged same ages spared =>
    have faithful := (sound.faithful number slot held).1
    obtain ⟨unit, dropped⟩ := next
    cases ages with
    | still => rfl
    | elapsed =>
      have unchanged := faithful.work.map_of_none collected now
      exact congrArg (fun work => { slot.unit with work }) unchanged

/-- A rolled back unit stays as it is for good. -/
theorem Sound.run_of_rolledBack (permitted : 0 < environment.mapping.config.maxInFlight)
    (sound : engine.Sound environment) (held : engine.slots[number]? = some slot)
    (reported : slot.unit.rollback = some outcome) (steps : List EngineStep) :
    ∃ final, (engine.run steps).slots[number]? = some final ∧ final.unit = slot.unit := by
  refine Sound.run_keeps permitted (fun other => other.unit = slot.unit)
    (fun sound held holds fate => ?_) sound held rfl steps
  exact (sound.fate_of_rolledBack held (holds ▸ reported) fate).trans holds

/-- A unit with batches in flight reports on those that were prepared for it in the
run. -/
theorem report_of_executing (permitted : 0 < environment.mapping.config.maxInFlight)
    {steps : List EngineStep}
    (held : ((start environment).run steps).slots[number]? = some { unit })
    (faithful : unit.Faithful environment number now)
    (consistent : unit.Consistent environment.mapping)
    (executing : unit.state.batches?.isSome = true) :
    ∃ prepared called uncalled, PreparedIn environment number steps prepared ∧
      prepared.batches.map WorkBatch.sequence = List.range prepared.batches.length ∧
        prepared.batches = called ++ uncalled ∧ (unit.retract now).2.work.called = called ∧
          unit.report now = .ofCalled environment number called uncalled := by
  cases consistent with
  | opened reached => cases executing
  | rolledBack collected => cases executing
  | settled collected =>
    simp only [UnitOfWork.settled, UnitOfWork.settledState] at executing
    split at executing <;> cases executing
  | @executing started submission failures nonempty =>
    obtain ⟨uncalled, parted, told⟩ := faithful.report_submitted permitted
    have something : submission.tasks.map BatchTask.batch ≠ [] := by
      simpa [List.ne_nil_iff_length_pos] using nonempty
    obtain ⟨prepared, ready, same⟩ := preparedIn_of_batches permitted held something
    exact ⟨prepared, _, uncalled, ready, ready.sequences, same.symm.trans parted, rfl, told⟩

/-- An open unit reports what the registrations with it have left to do, and calls
nothing. -/
theorem report_of_open {steps : List EngineStep}
    (held : ((start environment).run steps).slots[number]? = some { unit })
    (consistent : unit.Consistent environment.mapping) (isOpen : unit.state.isOpen = true)
    (now : Nat) :
    ∃ earlier since, steps = earlier ++ .begin :: since ∧
      ((start environment).run earlier).slots.length = number ∧
        unit.report now = ⟨Plan.liveKeys environment.mapping
          (since.filterMap (EngineStep.registration? environment number)), [], 0⟩ ∧
          (unit.retract now).2.work.calls = [] := by
  obtain ⟨since, plan, _, rfl⟩ | closed := consistent.open_or_closed
  · obtain ⟨earlier, later, split, length, made⟩ := plan_of_run held rfl rfl
    refine ⟨earlier, later, split, length, ?_, rfl⟩
    rw [UnitOfWork.report_ofPlan, made, Plan.keys_resolve_ofRegistrations]
  · rw [closed] at isOpen
    cases isOpen

/-- No key is reported on both sides: only batches in flight have keys on either, and of
those no key is in two. -/
theorem report_apart (permitted : 0 < environment.mapping.config.maxInFlight)
    {steps : List EngineStep}
    (held : ((start environment).run steps).slots[number]? = some { unit })
    (faithful : unit.Faithful environment number now)
    (consistent : unit.Consistent environment.mapping) (first : unit.rollback = none) :
    ∀ key ∈ (unit.report now).discarded, key ∉ (unit.report now).unretracted := by
  have coherent := consistent.coherent
  have kept : unit.state.isRolledBack = false := by
    rw [coherent.rolledBack, first]
    rfl
  rcases WorkState.open_or_executing_or_settled coherent.prepared kept with
    isOpen | executing | settled
  · obtain ⟨_, _, _, _, told, _⟩ := report_of_open held consistent isOpen now
    simp [told]
  · obtain ⟨prepared, called, uncalled, ready, _, parted, _, told⟩ :=
      report_of_executing permitted held faithful consistent executing
    have distinct := ready.nodup
    rw [PreparedFlush.keys, parted] at distinct
    rw [told]
    exact RollbackOutcome.apart_ofCalled distinct
  · obtain ⟨stored, _, told⟩ := consistent.report_of_settled settled now
    simp [told]

/-- A rollback answers with the report, and leaves the unit with it. -/
theorem step_afterRollback (sound : engine.Sound environment)
    (atHand : engine.unit? number = some unit) (first : unit.rollback = none) :
    (engine.step (.call number .afterRollback)).2.unit? number =
        some (unit.retract engine.now).2 ∧
      (engine.step (.call number .afterRollback)).1 =
        some (.ok (.rolledBack (unit.report engine.now))) := by
  have shape : unit.Consistent environment.mapping := sound.shape (unit?_eq_some_iff.1 atHand)
  have left := (leaves_step sound.consistent atHand .afterRollback).held
  obtain ⟨_, _, reported⟩ := shape.retract_first first engine.now
  obtain ⟨after, outcome, found, _, kept, answered⟩ := (sound.consistent.upholds atHand).retracts
  cases Option.some.inj ((unit?_eq_some_iff.1 found).symm.trans left)
  rw [answered, Option.some.inj (kept.symm.trans reported)]
  exact ⟨unit?_eq_some_iff.2 left, rfl⟩

/-- From then on the unit stays as it is, and a further rollback repeats the report. -/
theorem Sound.run_repeats (permitted : 0 < environment.mapping.config.maxInFlight)
    (sound : engine.Sound environment) (atHand : engine.unit? number = some unit)
    (reported : unit.rollback = some outcome) (steps : List EngineStep) :
    (engine.run steps).KeepsReport number unit outcome := by
  have held := unit?_eq_some_iff.1 atHand
  have coherent := (sound.shape held).coherent
  have rolledBack : unit.state.isRolledBack = true := by
    rw [coherent.rolledBack, reported]
    rfl
  obtain ⟨⟨kept, dropped⟩, found, same⟩ := sound.run_of_rolledBack permitted held reported steps
  refine ⟨_, found, same, fun undropped => ?_⟩
  cases undropped
  cases same
  exact step_afterRollback_again (unit?_eq_some_iff.2 found) reported
    (coherent.ended (.inr rolledBack)).2

end Engine

/-- A rollback reports exactly what the backend saw. Take any run, of any units with any
collaborators and any backend, and a unit at hand after it that was not rolled back yet,
at whatever moment. To roll it back is not refused, and what it answers is the report on
the unit as it was: its plan, its batches or its outcome. It is the last word on the
unit, whatever happens afterwards. -/
theorem rollback_reports {config : Config} {hierarchy : Hierarchy} {types : List MappedType}
    {environment : Environment} {steps : List EngineStep} {number : Nat} {unit : UnitOfWork}
    (built : Mapping.build config hierarchy types = .ok environment.mapping)
    (atHand : ((Engine.start environment).run steps).unit? number = some unit)
    (first : unit.rollback = none) :
    ∃ final outcome,
      (((Engine.start environment).run steps).step (.call number .afterRollback)).2.unit? number =
          some final ∧
        (((Engine.start environment).run steps).step (.call number .afterRollback)).1 =
            some (.ok (.rolledBack outcome)) ∧
          RollbackReport environment number steps unit final outcome := by
  have permitted := Mapping.permitted_of_build built
  have sound := Engine.run_sound permitted steps
  have held := Engine.unit?_eq_some_iff.1 atHand
  have shape : unit.Consistent environment.mapping := sound.shape held
  have faithful := sound.agreed ▸ (sound.faithful number _ held).1
  obtain ⟨left, answered⟩ := Engine.step_afterRollback sound atHand first
  have soundThen := sound.step permitted (.call number .afterRollback)
  generalize ((Engine.start environment).run steps).now = now at faithful left answered
  obtain ⟨ended, state, reported⟩ := shape.retract_first first now
  refine ⟨_, _, left, answered, ⟨⟨ended, state⟩, ?_, ?_, ?_, ?_, ?_, fun later => ?_⟩⟩
  · exact Engine.report_apart permitted held faithful shape first
  · exact (faithful.retract permitted shape).2.2
  · exact fun isOpen => Engine.report_of_open held shape isOpen now
  · exact Engine.report_of_executing permitted held faithful shape
  · exact fun settled => shape.report_of_settled settled now
  · have cut : (Engine.start environment).run (steps ++ .call number .afterRollback :: later) =
        (((Engine.start environment).run steps).step (.call number .afterRollback)).2.run later :=
      Engine.run_append _ _ _
    rw [cut]
    exact soundThen.run_repeats permitted left reported later

namespace Library

/-- The deliveries are on their way, and the first of their two batches was called. -/
def underway : List EngineStep := deliveries ++ [.call 0 .beforeCommit, .begin, .wait 5]

/-- They are rolled back: book 4 is discarded with the second batch, book 1 stays, and the
refusal of book 2 is ignored. -/
theorem underway_reported :
    ∃ unit final, ((Engine.start stockroom).run underway).unit? 0 = some unit ∧
      unit.rollback = none ∧ unit.state.batches? = some 2 ∧
        RollbackReport stockroom 0 underway unit final ⟨[bookKey "4"], [bookKey "1"], 1⟩ := by
  have built : Mapping.build stockroom.mapping.config [] [shelf, book, author] =
      .ok stockroom.mapping := rfl
  obtain ⟨unit, atHand, first, executing⟩ : ∃ unit,
      ((Engine.start stockroom).run underway).unit? 0 = some unit ∧ unit.rollback = none ∧
        unit.state.batches? = some 2 := ⟨_, rfl, rfl, rfl⟩
  obtain ⟨final, outcome, _, answered, report⟩ := rollback_reports built atHand first
  have told : (((Engine.start stockroom).run underway).step (.call 0 .afterRollback)).1 =
      some (.ok (.rolledBack ⟨[bookKey "4"], [bookKey "1"], 1⟩)) := rfl
  rw [told] at answered
  cases answered
  exact ⟨unit, final, atHand, first, executing, report⟩

end Library

end Reindex
