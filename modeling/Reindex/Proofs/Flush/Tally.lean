import Reindex.Proofs.Flush.Accounting
import Reindex.Proofs.Turns

/-!
# Counters and the units they count

The counters are shared by all units, and no unit is known to them. Still they can be read
off the units at any moment: what was counted is what the units have told, in the order in
which their calls came. A turn adds what it tells to both sides, so no interleaving of calls
and no repetition of one counts a unit twice or leaves one out.
-/

namespace Reindex

/-- An element that takes the place of another and tells more adds what it tells. -/
theorem flatMap_set_perm {Item Note : Type} {told : Item → List Note} {items : List Item}
    {place : Nat} {before after : Item} {news : List Note}
    (held : items[place]? = some before) (tells : told after = told before ++ news) :
    ((items.set place after).flatMap told).Perm (items.flatMap told ++ news) := by
  induction items generalizing place with
  | nil => cases held
  | cons first rest inductionHypothesis =>
    cases place with
    | zero =>
      cases held
      rw [List.set_cons_zero, List.flatMap_cons, List.flatMap_cons, tells, List.append_assoc,
        List.append_assoc]
      exact List.perm_append_comm.append_left _
    | succ less =>
      rw [List.set_cons_succ, List.flatMap_cons, List.flatMap_cons, List.append_assoc]
      exact (inductionHypothesis held).append_left _

namespace Engine

variable {engine after : Engine} {number : Nat} {unit : UnitOfWork}

/-- What the units have told, unit by unit. -/
def told (engine : Engine) : List Observation := engine.slots.flatMap fun slot => slot.unit.told

/-- What was counted is what the units have told, in some order. -/
def Counts (engine : Engine) : Prop :=
  ∃ observed : List Observation, engine.metrics = .tally observed ∧ observed.Perm engine.told

/-- Where no more is told nothing more is counted. -/
theorem Counts.of_same (counts : engine.Counts) (metrics : after.metrics = engine.metrics)
    (told : after.told = engine.told) : after.Counts := by
  obtain ⟨observed, counted, same⟩ := counts
  exact ⟨observed, metrics.trans counted, told ▸ same⟩

/-- A unit that tells more than the one whose place it takes is counted for what it tells. -/
theorem Counts.put (counts : engine.Counts) {slot : UnitSlot} (next : UnitSlot)
    (news : List Observation) (held : engine.slots[number]? = some slot)
    (tells : next.unit.told = slot.unit.told ++ news)
    (slots : after.slots = engine.slots.set number next)
    (metrics : after.metrics = news.foldl Metrics.observe engine.metrics) : after.Counts := by
  obtain ⟨observed, counted, same⟩ := counts
  refine ⟨observed ++ news, ?_, ?_⟩
  · rw [metrics, counted, Metrics.foldl_observe_tally]
  · have added : ((engine.slots.set number next).flatMap fun slot => slot.unit.told).Perm
        (engine.told ++ news) := flatMap_set_perm held tells
    rw [told, slots]
    exact (same.append_right news).trans added.symm

/-- What a call tells is counted when its result is taken over. -/
theorem Counts.absorb {Result : Type} (counts : engine.Counts)
    (atHand : engine.unit? number = some unit) {progress : Progress Result}
    (tells : unit.Tells progress) : (engine.absorb number progress).2.Counts :=
  counts.put { unit := progress.unit } progress.observations (unit?_eq_some_iff.1 atHand) tells
    rfl rfl

/-- Every turn counts what its unit tells. -/
theorem Counts.turn (counts : engine.Counts) (consistent : engine.Consistent)
    (turn : Turn engine after) : after.Counts := by
  cases turn with
  | begin =>
    have new : engine.begin.told = engine.told := by
      simp [told, Engine.begin, UnitOfWork.begin, UnitOfWork.told, HandedOver.told]
    exact counts.of_same rfl new
  | register atHand registration => exact counts.absorb atHand (UnitOfWork.tells_register _ _)
  | prepare atHand => exact counts.absorb atHand ((consistent.shape atHand).tells_beforeCommit _ _)
  | collect atHand => exact counts.absorb atHand ((consistent.shape atHand).tells_endCommit _)
  | @giveUp _ unit atHand =>
    refine counts.put { unit := unit.beginRollback } [] (unit?_eq_some_iff.1 atHand) ?_ rfl rfl
    rw [(consistent.shape atHand).told_beginRollback, List.append_nil]
  | report atHand => exact counts.absorb atHand ((consistent.shape atHand).tells_endRollback _)
  | @drop _ unit atHand =>
    rw [Engine.drop, atHand]
    refine counts.put { unit := unit.abandon, dropped := true } []
      (unit?_eq_some_iff.1 atHand) ?_ rfl rfl
    rw [UnitOfWork.told_abandon, List.append_nil]
  | elapse target =>
    have passed : (engine.runUntil target).told = engine.told := by
      simp [told, runUntil, List.flatMap_map, UnitOfWork.told_runUntil]
    exact counts.of_same rfl passed

/-- Whatever turns the calls of several units take, they are counted for what they tell. -/
theorem Turns.counts {environment : Environment} (turns : Turns (start environment) engine) :
    engine.Consistent ∧ engine.Counts := by
  induction turns with
  | refl => exact ⟨start_consistent environment, [], rfl, .refl _⟩
  | tail _ turn inductionHypothesis =>
    obtain ⟨consistent, counts⟩ := inductionHypothesis
    exact ⟨(consistent.turn turn).1, counts.turn consistent turn⟩

/-- The outcomes that the units keep, unit by unit. -/
def outcomes (engine : Engine) : List FlushOutcome :=
  engine.slots.filterMap fun slot => slot.unit.outcome

/-- The flushes that units have told of are those whose outcomes they keep. -/
theorem outcomes_told (engine : Engine) :
    engine.told.filterMap Observation.outcome? = engine.outcomes := by
  rw [told, outcomes, List.filterMap_flatMap, List.filterMap_eq_flatMap_toList]
  congr 1
  funext slot
  exact slot.unit.outcome_told

/-- The rollbacks that units have told of are those that they keep a report of. -/
theorem rollbacks_told (engine : Engine) :
    engine.told.countP Observation.isRollback =
      engine.slots.countP fun slot => slot.unit.rollback.isSome := by
  rw [told]
  induction engine.slots with
  | nil => rfl
  | cons slot rest inductionHypothesis =>
    rw [List.flatMap_cons, List.countP_append, inductionHypothesis, slot.unit.rollback_told,
      List.countP_cons, Nat.add_comm]

/-- The counters tell what the units keep. Units that were let go are units still. -/
structure Tallied (engine : Engine) : Prop where
  /-- Every flush that was recorded has ended with a commit or with a failure, -/
  recorded : engine.metrics.unitsCommitted + engine.metrics.unitsFailed = engine.metrics.flushes
  /-- and the units that have an outcome are as many. -/
  stored : engine.metrics.flushes = engine.slots.countP fun slot => slot.unit.outcome.isSome
  /-- A unit counts as committed if nothing has failed in its outcome, -/
  committed : engine.metrics.unitsCommitted =
    engine.slots.countP fun slot => slot.unit.outcome.any fun outcome => outcome.failures.isEmpty
  /-- and as failed if something has. -/
  failed : engine.metrics.unitsFailed =
    engine.slots.countP fun slot => slot.unit.outcome.any fun outcome => !outcome.failures.isEmpty
  /-- The recorded durations are those of the outcomes, in the order in which they came. -/
  durations : engine.metrics.durations.Perm (engine.outcomes.map FlushOutcome.duration)
  /-- The failed items are the failed keys of all outcomes. -/
  itemsFailed : engine.metrics.itemsFailed =
    (engine.outcomes.map fun outcome => outcome.failedKeys.length).sum
  /-- The rolled back units are those in the state of that name. -/
  rolledBack : engine.metrics.unitsRolledBack =
    engine.slots.countP fun slot => slot.unit.state.isRolledBack

/-- Outcomes of a kind belong to as many units. -/
theorem countP_outcomes (engine : Engine) (kind : FlushOutcome → Bool) :
    engine.outcomes.countP kind = engine.slots.countP fun slot => slot.unit.outcome.any kind := by
  rw [outcomes, List.countP_filterMap]
  congr 1
  funext slot
  cases slot.unit.outcome <;> rfl

/-- What was counted of the units tallies with them. -/
theorem Counts.tallied (counts : engine.Counts) (consistent : engine.Consistent) :
    engine.Tallied := by
  obtain ⟨observed, counted, same⟩ := counts
  have outcomes : (observed.filterMap Observation.outcome?).Perm engine.outcomes :=
    engine.outcomes_told ▸ same.filterMap _
  constructor
  · have parted := List.length_eq_countP_add_countP (fun outcome : FlushOutcome =>
      outcome.isSuccess) (l := observed.filterMap Observation.outcome?)
    simpa [counted, Metrics.flushes, Metrics.tally] using parted.symm
  · rw [counted, Metrics.flushes, Metrics.tally, List.length_map, outcomes.length_eq,
      Engine.outcomes, List.length_filterMap_eq_countP]
  · rw [counted, Metrics.tally, ← countP_outcomes]
    exact outcomes.countP_eq _
  · rw [counted, Metrics.tally, ← countP_outcomes]
    exact outcomes.countP_eq _
  · rw [counted]
    exact outcomes.map _
  · rw [counted]
    exact (outcomes.map _).sum_nat
  · rw [counted, Metrics.tally, same.countP_eq, rollbacks_told]
    refine List.countP_congr fun slot listed => ?_
    rw [(consistent slot listed).coherent.rolledBack]

end Engine

/-- The counters of units are consistent with what became of them. Take any run, of any units
with any collaborators and any backend: the counters tell what the units keep. They do so
at every other moment as well, when calls on several units are interleaved in whatever
way and repeated at will. -/
theorem units_tallied (environment : Environment) :
    (∀ steps, ((Engine.start environment).run steps).Tallied) ∧
      ∀ engine, Engine.Turns (Engine.start environment) engine → engine.Tallied := by
  have everywhere (engine : Engine) (turns : Engine.Turns (Engine.start environment) engine) :
      engine.Tallied := turns.counts.2.tallied turns.counts.1
  exact ⟨fun steps => everywhere _ (Engine.turns_of_run environment steps), everywhere⟩

namespace Library

/-- While the deliveries are under way a second unit is committed, twice over, and a third is
called off. Then the deliveries are flushed, flushed again and called off, too late. -/
def busyHour : List EngineStep := deliveries ++ [
  .call 0 .beforeCommit,
  .begin,
  .call 1 (.register (.delete (bookKey "5"))),
  .call 1 .flush,
  .call 1 .afterCommit,
  .begin,
  .call 2 .afterRollback,
  .call 0 .flush,
  .call 0 .flush,
  .call 0 .afterRollback]

/-- While the deliveries wait for the backend, a second unit is begun, filled and called off, and
only then are they collected. -/
theorem meanwhile_turns :
    ∃ engine, Engine.Turns (Engine.start stockroom) engine ∧ engine.metrics.unitsFailed = 1 ∧
      engine.metrics.unitsRolledBack = 1 := by
  have prepared := (Engine.turns_of_run stockroom deliveries).tail (@Engine.Turn.prepare _ 0 _ rfl)
  have begun := prepared.tail (.begin _)
  have filled := begun.tail (@Engine.Turn.register _ 1 _ rfl (.delete (bookKey "5")))
  have given := filled.tail (@Engine.Turn.giveUp _ 1 _ rfl)
  have reported := given.tail (@Engine.Turn.report _ 1 _ rfl)
  have waited := reported.tail (.elapse _ 1000)
  have collected := waited.tail (@Engine.Turn.collect _ 0 _ rfl)
  exact ⟨_, collected, rfl, rfl⟩

/-- In the busy hour one unit was committed and one has failed, with three books; two were rolled
back, of which one is the failed one. What happens meanwhile is counted as well. -/
theorem busyHour_tallied :
    (∃ engine, (Engine.start stockroom).run busyHour = engine ∧ engine.Tallied ∧
      engine.metrics.unitsCommitted = 1 ∧ engine.metrics.unitsFailed = 1 ∧
        engine.metrics.itemsFailed = 3 ∧ engine.metrics.unitsRolledBack = 2 ∧
          engine.metrics.flushes = 2) ∧
      ∃ engine, Engine.Turns (Engine.start stockroom) engine ∧ engine.Tallied ∧
        engine.metrics.unitsFailed = 1 ∧ engine.metrics.unitsRolledBack = 1 := by
  obtain ⟨runs, interleaves⟩ := units_tallied stockroom
  obtain ⟨engine, turns, failed, rolledBack⟩ := meanwhile_turns
  exact ⟨⟨_, rfl, runs busyHour, rfl, rfl, rfl, rfl, rfl⟩,
    engine, turns, interleaves engine turns, failed, rolledBack⟩

end Library

end Reindex
