import Reindex.Proofs.Flush.Safety
import Reindex.Proofs.Flush.Tally
import Reindex.Proofs.UnitOfWork.Answers

/-!
# What is counted as submitted

Items are counted as submitted when their batches are handed over, before the runtime
has looked at any of them. Whether the backend is ever called with a batch is decided
afterwards: a batch that still waits when its unit is given up is discarded. So the counter
tells of the items of all batches, and once nothing is outstanding these are the items that
the backend was called with and those that it was not.
-/

namespace Reindex

/-- The items of two lists of batches are counted one after the other. -/
theorem WorkBatch.itemCount_append (batches others : List WorkBatch) :
    itemCount (batches ++ others) = itemCount batches + itemCount others := by
  rw [itemCount, List.flatMap_append, List.length_append]
  rfl

/-- Batches that are not empty have no items only if there are none of them. -/
theorem WorkBatch.itemCount_eq_zero_iff {batches : List WorkBatch}
    (filled : ∀ batch ∈ batches, batch.items ≠ []) : itemCount batches = 0 ↔ batches = [] := by
  rw [itemCount, List.length_eq_zero_iff, List.flatMap_eq_nil_iff, List.eq_nil_iff_forall_not_mem]
  exact forall_congr' fun batch =>
    ⟨fun empty member => filled batch member (empty member), fun none member => absurd member none⟩

/-- Cutting makes no empty pieces. -/
theorem Batching.ne_nil_of_mem_cut {α : Type} {size room : Nat} {items : List α} :
    ∀ piece ∈ (cut size room items).2, piece ≠ [] := by
  induction items generalizing room with
  | nil => simp [cut]
  | cons item rest inductionHypothesis =>
    cases room with
    | zero =>
      simp only [cut]
      exact List.forall_mem_cons.2 ⟨List.cons_ne_nil _ _, inductionHypothesis⟩
    | succ room => exact inductionHypothesis

/-- No prepared batch is empty. -/
theorem PreparedFlush.filled_of_prepare {mapping : Mapping} {services : Services} {plan : Plan}
    {prepared : PreparedFlush} (ready : (mapping.prepare services plan).1 = .ok prepared) :
    ∀ batch ∈ prepared.batches, batch.items ≠ [] := by
  obtain ⟨final, _, rfl⟩ := expand_of_prepare ready
  intro batch member
  have piece : batch.items ∈ Batching.pieces mapping.config.batchSize _ :=
    Batching.items_number 0 _ ▸ List.mem_map_of_mem member
  exact Batching.ne_nil_of_mem_cut _ piece

/-- Whether a task was discarded. -/
def BatchTask.isDiscarded (task : BatchTask) : Bool :=
  match task.state with
  | .finished .discarded => true
  | _ => false

namespace Submission

variable {submission : Submission} {now : Nat}

/-- The batches that were discarded. -/
def discarded (submission : Submission) : List WorkBatch :=
  (submission.tasks.filter BatchTask.isDiscarded).map BatchTask.batch

/-- A batch whose call is on record is not discarded. -/
theorem isDiscarded_of_called {task : BatchTask} {call : BackendCall}
    (called : BatchTask.Called submission.runTime submission.callResult now task call) :
    task.isDiscarded = false := by
  cases called with
  | running _ begun ongoing => rfl
  | past _ ended =>
    simp only [BatchTask.isDiscarded, callResult]
    cases submission.answersInTime call.batch with
    | false => rfl
    | true => cases (submission.response call.batch).reply <;> rfl

/-- No batch is discarded of which a call is on record. -/
theorem filter_called {begun : List BatchTask} {calls : List BackendCall}
    (called : List.Forall₂ (BatchTask.Called submission.runTime submission.callResult now)
      begun calls) :
    begun.filter BatchTask.isDiscarded = [] := by
  induction called with
  | nil => rfl
  | cons head _ inductionHypothesis =>
    rw [List.filter_cons, isDiscarded_of_called head, inductionHypothesis]
    rfl

/-- Nothing is discarded of what nobody gave up. -/
theorem Orderly.discarded_of_kept (orderly : submission.Orderly now)
    (kept : submission.cancelled = false) : submission.discarded = [] := by
  obtain ⟨begun, rest, tasks, called, uncalled⟩ := orderly.records
  have waiting : rest.filter BatchTask.isDiscarded = [] := by
    refine List.filter_eq_nil_iff.2 fun task member => ?_
    cases uncalled task member with
    | waiting batch => exact Bool.false_ne_true
    | discarded batch given => simp [kept] at given
  rw [discarded, tasks, List.filter_append, filter_called called, waiting]
  rfl

/-- Once every task has ended, each batch was called or discarded. -/
theorem Orderly.batches_eq (orderly : submission.Orderly now)
    (settled : submission.isSettled = true) :
    submission.tasks.map BatchTask.batch =
      submission.calls.map BackendCall.batch ++ submission.discarded := by
  obtain ⟨begun, rest, tasks, called, uncalled⟩ := orderly.records
  have ended : ∀ task ∈ rest, task.isDiscarded = true := by
    intro task member
    have finished : task.isFinished = true :=
      List.all_eq_true.1 settled task (tasks ▸ List.mem_append_right _ member)
    cases uncalled task member with
    | waiting batch => cases finished
    | discarded batch given => rfl
  rw [discarded, tasks, List.filter_append, filter_called called, List.filter_eq_self.2 ended,
    List.map_append, BatchTask.batches_called called]
  rfl

end Submission

namespace HandedOver

variable {environment : Environment} {number now : Nat} {work : HandedOver}

/-- The batches that were discarded. -/
def discarded : HandedOver → List WorkBatch
  | .nothing => []
  | .inFlight submission | .collected submission => submission.discarded

/-- No batch waits and no call runs. -/
def AtRest : HandedOver → Prop
  | .nothing => True
  | .inFlight submission | .collected submission => submission.isSettled = true

/-- At rest each batch was called or discarded. -/
theorem Faithful.batches_eq (faithful : work.Faithful environment number now)
    (atRest : work.AtRest) : work.batches = work.called ++ work.discarded := by
  cases faithful with
  | nothing => rfl
  | inFlight agreed orderly => exact orderly.batches_eq atRest
  | collected agreed orderly settled => exact orderly.batches_eq atRest

/-- Nothing is discarded of batches in flight that nobody gave up, -/
theorem Faithful.discarded_of_kept (faithful : work.Faithful environment number now)
    (kept : work.Kept) (submission : Submission) (flies : work = .inFlight submission) :
    work.discarded = [] := by
  subst flies
  cases faithful with
  | inFlight agreed orderly => exact orderly.discarded_of_kept (kept _ rfl)

/-- nor of those that were complete when they were put on record. -/
theorem Faithful.discarded_of_complete (faithful : work.Faithful environment number now)
    (complete : work.Complete) : work.discarded = [] := by
  cases complete with
  | nothing => rfl
  | collected kept =>
    cases faithful with
    | collected agreed orderly settled => exact orderly.discarded_of_kept kept

end HandedOver

/-- A unit of which something was discarded was let go, or rolled back, before it had an
outcome. -/
theorem UnitOfWork.Faithful.givenUp {environment : Environment} {mapping : Mapping}
    {number now : Nat} {unit : UnitOfWork} (faithful : unit.Faithful environment number now)
    (consistent : Consistent mapping unit) (something : unit.work.discarded ≠ []) :
    unit.outcome = none ∧ (unit.work.Kept → unit.state.isRolledBack = true) := by
  have unended : unit.outcome = none := by
    by_contra stored
    have ended := Option.isSome_iff_ne_none.2 stored
    exact something (faithful.work.discarded_of_complete (faithful.complete ended))
  refine ⟨unended, fun kept => ?_⟩
  cases consistent with
  | opened reached => exact absurd rfl something
  | executing nonempty => exact absurd (faithful.work.discarded_of_kept kept _ rfl) something
  | settled collected => cases unended
  | rolledBack collected => rfl

namespace Engine

variable {environment : Environment} {engine : Engine} {steps : List EngineStep}

/-- The batches that the backend was called with. -/
def handed (engine : Engine) : List WorkBatch := engine.backendCalls.map fun entry => entry.2.batch

/-- The batches that were discarded. -/
def discarded (engine : Engine) : List WorkBatch :=
  engine.slots.flatMap fun slot => slot.unit.work.discarded

/-- No batch of any unit waits and no call runs. -/
def AtRest (engine : Engine) : Prop := ∀ slot ∈ engine.slots, slot.unit.work.AtRest

/-- The backend was called with what the units have called. -/
theorem handed_eq (engine : Engine) :
    engine.handed = engine.slots.flatMap fun slot => slot.unit.work.called := by
  rw [handed, backendCalls, List.map_flatten, List.map_map, ← List.flatMap_def,
    ← List.zipIdx_map_fst 0 engine.slots, List.flatMap_map, List.zipIdx_map_fst]
  congr 1
  funext entry
  simp [HandedOver.called]

/-- The submitted items that units have told of are those of the batches that they have handed
over. -/
theorem items_told (engine : Engine) :
    (engine.told.map Observation.items).sum =
      WorkBatch.itemCount (engine.slots.flatMap fun slot => slot.unit.work.batches) := by
  rw [told]
  induction engine.slots with
  | nil => rfl
  | cons slot rest inductionHypothesis =>
    rw [List.flatMap_cons, List.flatMap_cons, List.map_append, List.sum_append_nat,
      WorkBatch.itemCount_append, slot.unit.items_told, inductionHypothesis]

/-- They are what the counter of submitted items tells. -/
theorem Counts.itemsSubmitted_eq (counts : engine.Counts) :
    engine.metrics.itemsSubmitted =
      WorkBatch.itemCount (engine.slots.flatMap fun slot => slot.unit.work.batches) := by
  obtain ⟨observed, counted, same⟩ := counts
  rw [counted, ← items_told]
  exact (same.map Observation.items).sum_nat

/-- At rest the batches that units have handed over are those that the backend was called with
and those that were discarded. -/
theorem Sound.batches_perm (sound : engine.Sound environment) (atRest : engine.AtRest) :
    (engine.slots.flatMap fun slot => slot.unit.work.batches).Perm
      (engine.handed ++ engine.discarded) := by
  have parted : engine.slots.flatMap (fun slot => slot.unit.work.batches) =
      engine.slots.flatMap fun slot => slot.unit.work.called ++ slot.unit.work.discarded := by
    refine List.flatMap_congr fun slot listed => ?_
    obtain ⟨number, held⟩ := List.mem_iff_getElem?.1 listed
    exact (sound.faithful number slot held).1.work.batches_eq (atRest slot listed)
  rw [parted, handed_eq]
  exact (List.flatMap_append_perm _ _ _).symm

/-- No batch that a run has discarded is empty. -/
theorem filled_of_discarded (permitted : 0 < environment.mapping.config.maxInFlight)
    (atRest : ((start environment).run steps).AtRest) :
    ∀ batch ∈ ((start environment).run steps).discarded, batch.items ≠ [] := by
  intro batch member
  obtain ⟨slot, listed, given⟩ := List.mem_flatMap.1 member
  obtain ⟨number, held⟩ := List.mem_iff_getElem?.1 listed
  have faithful := ((run_sound permitted steps).faithful number slot held).1
  have submitted : batch ∈ slot.unit.work.batches :=
    faithful.work.batches_eq (atRest slot listed) ▸ List.mem_append_right _ given
  obtain ⟨prepared, ready, same⟩ :=
    preparedIn_of_batches permitted held (List.ne_nil_of_mem submitted)
  obtain ⟨plan, _, ready⟩ := ready.flushed
  exact PreparedFlush.filled_of_prepare ready batch (same ▸ submitted)

/-- What the counter of submitted items tells once nothing is outstanding. -/
structure SubmittedTallied (engine : Engine) : Prop where
  /-- It counts the items of the calls of the backend, and the items that were discarded. -/
  parted : engine.metrics.itemsSubmitted =
    WorkBatch.itemCount engine.handed + WorkBatch.itemCount engine.discarded
  /-- So it tells what the backend was called with only if nothing was discarded. -/
  exact_iff : engine.metrics.itemsSubmitted = WorkBatch.itemCount engine.handed ↔
    engine.discarded = []
  /-- Whoever has discarded anything was let go or rolled back before there was an outcome. -/
  givenUp : ∀ slot ∈ engine.slots, slot.unit.work.discarded ≠ [] →
    slot.unit.outcome = none ∧ (slot.dropped = true ∨ slot.unit.state.isRolledBack = true)

end Engine

/-- The counter of submitted items counts what was handed over to be submitted, and not what the
backend was called with. Take any run, of any units with any collaborators and any backend,
after which no batch waits and no call runs: the counter exceeds the items of all calls by the
items of the batches that were discarded, which units have left that were let go or rolled
back. -/
theorem submitted_tallied {config : Config} {hierarchy : Hierarchy} {types : List MappedType}
    {environment : Environment} {steps : List EngineStep}
    (built : Mapping.build config hierarchy types = .ok environment.mapping)
    (atRest : ((Engine.start environment).run steps).AtRest) :
    ((Engine.start environment).run steps).SubmittedTallied := by
  have permitted := Mapping.permitted_of_build built
  have sound := Engine.run_sound permitted steps
  have filled := Engine.filled_of_discarded permitted atRest
  have counts := (Engine.turns_of_run environment steps).counts.2
  have parted : ((Engine.start environment).run steps).metrics.itemsSubmitted =
      WorkBatch.itemCount ((Engine.start environment).run steps).handed +
        WorkBatch.itemCount ((Engine.start environment).run steps).discarded := by
    have items := ((sound.batches_perm atRest).flatMap_right WorkBatch.items).length_eq
    rw [counts.itemsSubmitted_eq, ← WorkBatch.itemCount_append]
    exact items
  refine ⟨parted, ?_, ?_⟩
  · rw [parted, ← WorkBatch.itemCount_eq_zero_iff filled]
    omega
  · intro slot listed something
    obtain ⟨number, held⟩ := List.mem_iff_getElem?.1 listed
    obtain ⟨faithful, kept⟩ := sound.faithful number slot held
    obtain ⟨unended, rolledBack⟩ := faithful.givenUp (sound.shape held) something
    refine ⟨unended, ?_⟩
    cases dropped : slot.dropped with
    | true => exact .inl rfl
    | false => exact .inr (rolledBack (kept dropped))

namespace Library

/-- The deliveries are called off while the first of their two batches is on its way: of three
submitted items two have reached the backend. -/
theorem underway_submitted :
    ∃ engine, (Engine.start stockroom).run (deliveries ++ [.call 0 .beforeCommit, .wait 5,
        .call 0 .afterRollback]) = engine ∧ engine.AtRest ∧ engine.SubmittedTallied ∧
      engine.metrics.itemsSubmitted = 3 ∧ WorkBatch.itemCount engine.handed = 2 ∧
        WorkBatch.itemCount engine.discarded = 1 := by
  have built : Mapping.build stockroom.mapping.config [] [shelf, book, author] =
      .ok stockroom.mapping := rfl
  have atRest : ((Engine.start stockroom).run (deliveries ++ [.call 0 .beforeCommit, .wait 5,
      .call 0 .afterRollback])).AtRest := by
    intro slot listed
    obtain rfl := List.mem_singleton.1 listed
    rfl
  exact ⟨_, rfl, atRest, submitted_tallied built atRest, rfl, rfl, rfl⟩

/-- Book 1 is to go, and book 4 is to be looked at again. Both are called off before the backend
was called at all, and they still count as submitted. -/
theorem disposal_counted :
    ∃ engine, (Engine.start stockroom).run (disposal ++ [.call 0 .beforeCommit,
        .call 0 .afterRollback]) = engine ∧ engine.AtRest ∧ engine.backendCalls = [] ∧
      engine.metrics.itemsSubmitted = 2 ∧
        engine.metrics.itemsSubmitted ≠ WorkBatch.itemCount engine.handed := by
  refine ⟨_, rfl, ?_, rfl, rfl, by decide⟩
  intro slot listed
  obtain rfl := List.mem_singleton.1 listed
  rfl

end Library

end Reindex
