import Reindex.Proofs.Flush.Rollback
import Reindex.Proofs.Flush.Scheduled

/-!
# What a rollback leaves out

A rollback calls discarded what a plan still holds and what its batches hold that were not
called. An operation that is not in any batch, because its item could not be made, is neither,
and nor is any operation of a plan that could not be prepared. Their failures are kept
for the outcome of the flush, and a rollback drops them: no report tells of these keys.
-/

namespace Reindex

/-- What the first rollback of a unit after a run says of the keys that never reached the
backend. -/
structure DiscardReport (environment : Environment) (number : Nat) (steps : List EngineStep)
    (unit final : UnitOfWork) (outcome : RollbackOutcome) : Prop where
  /-- Of an open unit these are all the keys for which something is to be done. -/
  opened : unit.state.isOpen = true → ∃ plan, unit.plan = some plan ∧
    outcome.discarded = plan.resolve.map PlanEntry.key
  /-- Of a unit whose plan could be expanded, which adds to the operations and takes none
  away, the keys are listed whose operation has an item that is in no batch that was called:
  those whose operation has no item are missing. -/
  flushed : ∀ plan expanded, FlushedIn environment number steps plan →
    (Expansion.expand environment.mapping.containment (environment.services number).rootLoader
        plan).1 = .ok expanded →
      (∀ entry ∈ plan.resolve, entry ∈ expanded.resolve) ∧
      ∀ key, key ∈ outcome.discarded ↔ key ∉ final.work.called.flatMap WorkBatch.keys ∧
        ∃ entry ∈ expanded.resolve, entry.key = key ∧
          Items.translates (environment.services number) environment.mapping.registry entry = true
  /-- Of a unit whose plan could not be expanded all keys are missing. -/
  aborted : ∀ plan error, FlushedIn environment number steps plan →
    (Expansion.expand environment.mapping.containment (environment.services number).rootLoader
        plan).1 = .error error →
      outcome.discarded = []

namespace UnitOfWork

variable {environment : Environment} {number now : Nat} {unit : UnitOfWork}

/-- A rollback begins no call, so it changes nothing about which batches were called. -/
theorem Faithful.called_retract (permitted : 0 < environment.mapping.config.maxInFlight)
    (faithful : unit.Faithful environment number now)
    (consistent : Consistent environment.mapping unit) :
    (unit.retract now).2.work.called = unit.work.called := by
  have batches (work : HandedOver) : work.called = work.started.map Prod.snd := by
    simp [HandedOver.called, HandedOver.started]
  rw [batches, batches, (faithful.retract permitted consistent).2.2]

/-- A unit that is not open discards, on its first rollback, the keys of the batches that
were not called. -/
theorem Faithful.discarded_eq (permitted : 0 < environment.mapping.config.maxInFlight)
    (faithful : unit.Faithful environment number now)
    (consistent : Consistent environment.mapping unit) (first : unit.rollback = none)
    (closed : unit.state.isOpen = false) :
    ∃ uncalled, unit.work.batches = (unit.retract now).2.work.called ++ uncalled ∧
      (unit.report now).discarded = uncalled.flatMap WorkBatch.keys := by
  have coherent := consistent.coherent
  have kept : unit.state.isRolledBack = false := by
    rw [coherent.rolledBack, first]
    rfl
  rcases WorkState.open_or_executing_or_settled coherent.prepared kept with
    isOpen | executing | settled
  · rw [closed] at isOpen
    cases isOpen
  · cases consistent with
    | opened reached => cases closed
    | executing nonempty =>
      obtain ⟨uncalled, parted, told⟩ := faithful.report_submitted permitted
      exact ⟨uncalled, parted, congrArg RollbackOutcome.discarded told⟩
    | rolledBack collected => cases kept
    | settled collected =>
      simp only [UnitOfWork.settled, settledState] at executing
      split at executing <;> cases executing
  · -- an outcome is only there once every batch was called
    obtain ⟨stored, outcome, told⟩ := consistent.report_of_settled settled now
    have complete := faithful.complete (by rw [outcome]; rfl)
    refine ⟨[], ?_, by rw [told]; rfl⟩
    rw [faithful.called_retract permitted consistent, List.append_nil,
      faithful.work.called_eq_batches complete]

end UnitOfWork

/-- Of the keys of operations, those of the batches that were not called are those whose
operation has an item and that are in no batch that was called. -/
theorem PreparedFlush.mem_uncalled {mapping : Mapping} {services : Services}
    {operations : List PlanEntry} {called uncalled : List WorkBatch}
    (distinct : (operations.map PlanEntry.key).Nodup)
    (parted : (ofOperations mapping services operations).batches = called ++ uncalled)
    (key : EntityKey) :
    key ∈ uncalled.flatMap WorkBatch.keys ↔ key ∉ called.flatMap WorkBatch.keys ∧
      ∃ entry ∈ operations, entry.key = key ∧
        Items.translates services mapping.registry entry = true := by
  have keys : called.flatMap WorkBatch.keys ++ uncalled.flatMap WorkBatch.keys =
      (operations.filter (Items.translates services mapping.registry)).map PlanEntry.key := by
    rw [← List.flatMap_append, ← parted, ← keys_ofOperations, PreparedFlush.keys]
  have once : (called.flatMap WorkBatch.keys ++ uncalled.flatMap WorkBatch.keys).Nodup := by
    rw [keys]
    exact distinct.sublist (List.filter_sublist.map PlanEntry.key)
  have member : key ∈ called.flatMap WorkBatch.keys ++ uncalled.flatMap WorkBatch.keys ↔
      ∃ entry ∈ operations, entry.key = key ∧
        Items.translates services mapping.registry entry = true := by
    rw [keys, List.mem_map]
    constructor
    · rintro ⟨entry, listed, same⟩
      obtain ⟨within, translated⟩ := List.mem_filter.1 listed
      exact ⟨entry, within, same, translated⟩
    · rintro ⟨entry, within, same, translated⟩
      exact ⟨entry, List.mem_filter.2 ⟨within, translated⟩, same⟩
  rw [← member, List.mem_append]
  constructor
  · intro waiting
    exact ⟨fun reached => (List.nodup_append.1 once).2.2 key reached key waiting rfl, .inr waiting⟩
  · rintro ⟨missed, reached | waiting⟩
    · exact absurd reached missed
    · exact waiting

/-- A rollback lists as discarded exactly what was translated and not handed on. Take any
run, of any units with any collaborators and any backend, and a unit at hand after it that
was not rolled back yet. Its rollback is answered; of an open unit all live keys are
discarded, of a flushed one those whose operation, registered or added by expansion, has an
item that never reached the backend, and no others: neither the keys that no item could be
made for nor, if the preparation was aborted, any key at all. -/
theorem rollback_discards {config : Config} {hierarchy : Hierarchy} {types : List MappedType}
    {environment : Environment} {steps : List EngineStep} {number : Nat} {unit : UnitOfWork}
    (built : Mapping.build config hierarchy types = .ok environment.mapping)
    (atHand : ((Engine.start environment).run steps).unit? number = some unit)
    (first : unit.rollback = none) :
    ∃ final outcome,
      (((Engine.start environment).run steps).step (.call number .afterRollback)).2.unit? number =
          some final ∧
        (((Engine.start environment).run steps).step (.call number .afterRollback)).1 =
            some (.ok (.rolledBack outcome)) ∧
          DiscardReport environment number steps unit final outcome := by
  have permitted := Mapping.permitted_of_build built
  have sound := Engine.run_sound permitted steps
  have held := Engine.unit?_eq_some_iff.1 atHand
  have shape : unit.Consistent environment.mapping := sound.shape held
  have faithful := sound.agreed ▸ (sound.faithful number _ held).1
  obtain ⟨left, answered⟩ := Engine.step_afterRollback sound atHand first
  generalize ((Engine.start environment).run steps).now = now at faithful left answered
  refine ⟨_, _, left, answered, ?_, ?_, ?_⟩
  · intro isOpen
    obtain ⟨since, plan, _, rfl⟩ | closed := shape.open_or_closed
    · exact ⟨plan, rfl, by rw [UnitOfWork.report_ofPlan]⟩
    · rw [closed] at isOpen
      cases isOpen
  · intro plan expanded flushed made
    obtain ⟨closed, batches⟩ := Engine.batches_of_flushedIn permitted flushed held
    obtain ⟨uncalled, parted, discarded⟩ :=
      faithful.discarded_eq permitted shape first closed
    constructor
    · intro entry live
      obtain ⟨roots, rfl⟩ := Expansion.schedule_of_expandChanges made
      rw [Plan.resolve_eq, Plan.liveEntries_schedule, ← Plan.resolve_eq]
      exact List.mem_append_left _ live
    · intro key
      have prepared := PreparedFlush.prepare_of_expand made
      rw [← Plan.resolve_eq] at prepared
      have given : (PreparedFlush.ofOperations environment.mapping (environment.services number)
          expanded.resolve).batches = (unit.retract now).2.work.called ++ uncalled := by
        rw [← parted, batches, UnitOfWork.batchesOf, prepared]
      have distinct := (Expansion.expand_reachable flushed.reachable made).distinct.resolve
      rw [discarded]
      exact PreparedFlush.mem_uncalled distinct given key
  · intro plan error flushed refused
    obtain ⟨closed, batches⟩ := Engine.batches_of_flushedIn permitted flushed held
    obtain ⟨uncalled, parted, discarded⟩ :=
      faithful.discarded_eq permitted shape first closed
    have nothing : UnitOfWork.batchesOf environment number plan = [] := by
      simp [UnitOfWork.batchesOf, Mapping.prepare, refused]
    rw [batches, nothing] at parted
    rw [discarded, (List.append_eq_nil_iff.1 parted.symm).2]
    rfl

namespace Library

/-- The deliveries are handed over, and called off before the first batch leaves. -/
def calledOff : List EngineStep := deliveries ++ [.call 0 .beforeCommit]

/-- Book 4, which expansion has added, is discarded along with books 1 and 2. -/
theorem calledOff_discarded :
    ∃ unit final outcome, ((Engine.start stockroom).run calledOff).unit? 0 = some unit ∧
      FlushedIn stockroom 0 calledOff delivered ∧
        DiscardReport stockroom 0 calledOff unit final outcome ∧
          outcome.discarded = [bookKey "1", bookKey "2", bookKey "4"] := by
  have built : Mapping.build stockroom.mapping.config [] [shelf, book, author] =
      .ok stockroom.mapping := rfl
  have atHand : ((Engine.start stockroom).run calledOff).unit? 0 = some _ := rfl
  obtain ⟨final, outcome, _, answered, report⟩ := rollback_discards built atHand rfl
  have told : (((Engine.start stockroom).run calledOff).step (.call 0 .afterRollback)).1 =
      some (.ok (.rolledBack ⟨[bookKey "1", bookKey "2", bookKey "4"], [], 0⟩)) := rfl
  rw [told] at answered
  cases answered
  exact ⟨_, final, _, atHand, ⟨deliveries, .beforeCommit, [], _, rfl, rfl, rfl, rfl⟩, report, rfl⟩

/-- Book 3, of which nothing can be read, was to be indexed and never reached the backend,
which is not called at all; the rollback does not list it. -/
theorem unreadable_missing :
    ∃ unit final outcome, ((Engine.start stockroom).run calledOff).unit? 0 = some unit ∧
      unit.rollback = none ∧ FlushedIn stockroom 0 calledOff delivered ∧
      (((Engine.start stockroom).run calledOff).step (.call 0 .afterRollback)).2.unit? 0 =
        some final ∧
      (((Engine.start stockroom).run calledOff).step (.call 0 .afterRollback)).1 =
        some (.ok (.rolledBack outcome)) ∧
      bookKey "3" ∈ delivered.resolve.map PlanEntry.key ∧ final.work.calls = [] ∧
      bookKey "3" ∉ outcome.discarded :=
  ⟨_, _, _, rfl, rfl, ⟨deliveries, .beforeCommit, [], _, rfl, rfl, rfl, rfl⟩, rfl, rfl,
    .tail _ (.tail _ (.head _)), rfl, by decide⟩

end Library

end Reindex
