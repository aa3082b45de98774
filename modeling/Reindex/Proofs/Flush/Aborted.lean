import Reindex.Proofs.Flush.Calls
import Reindex.Proofs.Flush.Complaints
import Reindex.Proofs.Turns
import Reindex.Proofs.UnitOfWork.Answers

/-!
# Flushes that are aborted

A flush whose plan cannot be prepared is over at once. The unit has failed, with a single
failure for all that was pending: the change that is to blame comes first, and no key is
listed twice. Nothing was handed over, so there is nothing to wait for, and the unit never
calls the backend.
-/

namespace Reindex

namespace Plan

variable {mapping : Mapping} {plan : Plan}

/-- No entity is logged twice. -/
theorem Reachable.nodup_changes (reached : Reachable mapping plan) :
    (plan.changes.map Change.key).Nodup := by
  induction reached with
  | empty => exact List.nodup_nil
  | registered _ applied inductionHypothesis =>
    obtain ⟨_, _, rfl⟩ := apply_eq_ok applied
    rw [keys_logChange]
    exact nodup_listed inductionHypothesis _
  | reindexed _ reindexed inductionHypothesis =>
    obtain ⟨_, ⟨_, rfl⟩ | ⟨_, rfl⟩⟩ := reindex_eq_ok reindexed
    · exact inductionHypothesis
    · exact inductionHypothesis

/-- The keys of a failure that all pending keys share. One of them is to blame and stands in
front. Of the others, those with a live entry follow in the order of registration, and behind
them those that were changed without an entry, in the order of the log. -/
def failedKeys (plan : Plan) (blamed : EntityKey) : List EntityKey :=
  blamed :: (plan.liveEntries.map PlanEntry.key ++ (plan.changes.map Change.key).filter
    fun key => key ∉ plan.entries.map PlanEntry.key).filter fun key => key ≠ blamed

/-- They are the pending keys with that one in front. -/
theorem failedKeys_eq (plan : Plan) (blamed : EntityKey) :
    plan.failedKeys blamed = blamed :: plan.pendingKeys.filter fun key => key ≠ blamed := by
  have unentered : (fun key => !plan.hasEntry key) =
      fun key => decide (key ∉ plan.entries.map PlanEntry.key) := by
    funext key
    rw [hasEntry_eq, decide_not]
  rw [failedKeys, pendingKeys, resolve_eq, unentered]

/-- No key is pending twice: a changed key is listed only if it has no entry. -/
theorem Reachable.nodup_pendingKeys (reached : Reachable mapping plan) :
    plan.pendingKeys.Nodup := by
  refine List.nodup_append.2 ⟨reached.distinct.resolve, reached.nodup_changes.filter _, ?_⟩
  rintro key live _ changed rfl
  obtain ⟨entry, listed, rfl⟩ := List.mem_map.1 live
  have entered : entry.key ∈ plan.entries.map PlanEntry.key :=
    List.mem_map_of_mem (List.mem_of_mem_filter listed)
  have unentered := (List.mem_filter.1 changed).2
  simp [hasEntry_eq, entered] at unentered

/-- None is listed twice. -/
theorem Reachable.nodup_failedKeys (reached : Reachable mapping plan) (blamed : EntityKey) :
    (plan.failedKeys blamed).Nodup := by
  rw [failedKeys_eq]
  refine List.nodup_cons.2 ⟨fun listed => ?_, reached.nodup_pendingKeys.filter _⟩
  simpa using (List.mem_filter.1 listed).2

end Plan

namespace IndexingError

/-- Keys that are distinct are appended as far as they are missing, in order. -/
theorem appendMissing_eq {listed pending : List EntityKey} (distinct : pending.Nodup) :
    appendMissing listed pending = listed ++ pending.filter fun key => key ∉ listed := by
  induction pending generalizing listed with
  | nil => rw [List.filter_nil, List.append_nil]; rfl
  | cons key rest inductionHypothesis =>
    obtain ⟨absent, distinctRest⟩ := List.nodup_cons.1 distinct
    rw [appendMissing, inductionHypothesis distinctRest]
    by_cases present : key ∈ listed
    · simp [present]
    · have same : (rest.filter fun other => other ∉ listed ++ [key]) =
          rest.filter fun other => other ∉ listed := by
        refine List.filter_congr fun other member => ?_
        have apart : other ≠ key := fun same => absent (same ▸ member)
        simp [apart]
      rw [if_neg present, same, List.filter_cons_of_pos (by simpa using present),
        List.append_assoc]
      rfl

/-- A failure of the persistence layer is one of all pending keys. -/
theorem toFailure_loaderFailure {mapping : Mapping} {plan : Plan}
    (reached : Plan.Reachable mapping plan) (blamed : EntityKey) (detail : String) :
    (loaderFailure blamed detail).toFailure plan.pendingKeys =
      ⟨plan.failedKeys blamed, .loader detail⟩ := by
  simp [toFailure, ownFailure, appendMissing_eq reached.nodup_pendingKeys, Plan.failedKeys_eq]

end IndexingError

namespace UnitOfWork

variable {environment : Environment} {number now : Nat}

/-- A unit whose flush was aborted. -/
def aborted (now : Nat) (failure : Failure) : UnitOfWork where
  state := .failed now failure.keys failure.message failure.category
  plan := none
  work := .nothing
  flushStarted := some now
  outcome := some { succeeded := [], failures := [failure], batches := 0, duration := 0 }

/-- That is what a flush ends with that fails at once. -/
theorem settled_eq_aborted (now : Nat) (failure : Failure) :
    settled now now .nothing [failure] {} = aborted now failure := by
  simp [settled, settledState, outcomeOf, aborted, FlushOutcome.isSuccess, FlushOutcome.failedKeys,
    Failure.allKeys, summary, leadingCategory]

/-- A plan that cannot be prepared leaves such a unit. -/
theorem beforeCommit_of_loaderFailure {since : Nat} {plan : Plan} {blamed : EntityKey}
    {detail : String} {asked : List Request} (reached : Plan.Reachable environment.mapping plan)
    (ended : environment.mapping.prepare (environment.services number) plan =
      (.error (.loaderFailure blamed detail), asked)) :
    ((ofPlan since plan).beforeCommit environment number now).unit =
        aborted now ⟨plan.failedKeys blamed, .loader detail⟩ ∧
      ((ofPlan since plan).beforeCommit environment number now).requests = asked := by
  rw [beforeCommit_of_error (congrArg Prod.fst ended),
    IndexingError.toFailure_loaderFailure reached, settled_eq_aborted, ended]
  exact ⟨rfl, rfl⟩

end UnitOfWork

namespace Engine

variable {engine : Engine} {number : Nat} {unit : UnitOfWork} {call : UnitCall}

/-- A commit does what a flush does. -/
theorem afterCommit_eq_flush (atHand : engine.unit? number = some unit)
    (consistent : unit.Consistent engine.environment.mapping) :
    engine.afterCommit number unit = engine.flush number unit := by
  obtain ⟨_, closed⟩ := consistent.beforeCommit_eq number engine.now
  have left := unit?_absorb atHand (unit.beforeCommit engine.environment number engine.now)
  have shape : (unit.beforeCommit engine.environment number engine.now).unit.Consistent
      (engine.absorb number
        (unit.beforeCommit engine.environment number engine.now)).2.environment.mapping :=
    consistent.prepare number engine.now
  rw [flush_eq engine consistent, afterCommit_eq engine consistent,
    consistent.beginCommit_eq_beforeCommit]
  dsimp only
  -- a prepared unit is not prepared again
  rw [afterCommit_eq _ shape, shape.beginCommit_eq_beforeCommit,
    UnitOfWork.beforeCommit_of_closed closed]
  dsimp only
  rw [absorb_answer left]
  rfl

/-- A unit whose preparation leaves nothing in flight is flushed at once: whichever call
prepares it, nothing else happens, and a commit is answered with the outcome. -/
theorem step_prepares_of_collected (atHand : engine.unit? number = some unit)
    (consistent : unit.Consistent engine.environment.mapping) (prepares : call.prepares = true)
    (collected : (unit.beforeCommit engine.environment number engine.now).unit.work.inFlight? =
      none) :
    (engine.step (.call number call)).2 =
        (engine.absorb number (unit.beforeCommit engine.environment number engine.now)).2 ∧
      (call = .beforeCommit → (engine.step (.call number call)).1 = some (.ok .done)) ∧
      (call ≠ .beforeCommit → (engine.step (.call number call)).1 = some
        ((unit.beforeCommit engine.environment number engine.now).unit.storedOutcome.map
          .flushed)) := by
  obtain ⟨accepted, closed⟩ := consistent.beforeCommit_eq number engine.now
  have left := unit?_absorb atHand (unit.beforeCommit engine.environment number engine.now)
  have flushed : engine.flush number unit =
      ((unit.beforeCommit engine.environment number engine.now).unit.storedOutcome,
        (engine.absorb number (unit.beforeCommit engine.environment number engine.now)).2) := by
    rw [flush_eq engine consistent]
    exact afterCommit_of_ended left closed collected
  rw [step_call atHand]
  cases call with
  | register registration => cases prepares
  | registerInstance kind entity => cases prepares
  | beforeCommit =>
    refine ⟨rfl, fun _ => ?_, fun other => absurd rfl other⟩
    rw [call, beforeCommit, absorb, accepted]
    rfl
  | afterCommit =>
    rw [call, afterCommit_eq_flush atHand consistent, flushed]
    exact ⟨rfl, by rintro ⟨⟩, fun _ => rfl⟩
  | flush =>
    rw [call, flushed]
    exact ⟨rfl, by rintro ⟨⟩, fun _ => rfl⟩
  | afterRollback => cases prepares

/-- A call that prepares a plan with a change to blame leaves the unit aborted. -/
theorem Sound.step_of_loaderFailure {environment : Environment} (sound : engine.Sound environment)
    {since : Nat} {plan : Plan} (atHand : engine.unit? number = some (.ofPlan since plan))
    {blamed : EntityKey} {detail : String} {asked : List Request}
    (ended : environment.mapping.prepare (environment.services number) plan =
      (.error (.loaderFailure blamed detail), asked)) (prepares : call.prepares = true) :
    (engine.step (.call number call)).2.unit? number =
        some (.aborted engine.now ⟨plan.failedKeys blamed, .loader detail⟩) ∧
      (call = .beforeCommit → (engine.step (.call number call)).1 = some (.ok .done)) ∧
      (call ≠ .beforeCommit → (engine.step (.call number call)).1 =
        some (.error (.flushFailed (plan.failedKeys blamed) []
          [⟨plan.failedKeys blamed, .loader detail⟩]))) ∧
      (engine.step (.call number call)).2.requests = engine.requests ++ asked := by
  obtain rfl := sound.agreed
  have consistent := sound.shape (unit?_eq_some_iff.1 atHand)
  obtain ⟨_, opened, reached⟩ := consistent.of_plan rfl
  obtain ⟨left, requests⟩ : ((UnitOfWork.ofPlan since plan).beforeCommit engine.environment number
      engine.now).unit = .aborted engine.now ⟨plan.failedKeys blamed, .loader detail⟩ ∧
        ((UnitOfWork.ofPlan since plan).beforeCommit engine.environment number
          engine.now).requests = asked := UnitOfWork.beforeCommit_of_loaderFailure reached ended
  obtain ⟨after, prepared, committed⟩ := step_prepares_of_collected atHand consistent prepares
    (congrArg (fun unit => unit.work.inFlight?) left)
  refine ⟨?_, prepared, fun commits => ?_, ?_⟩
  · rw [after, unit?_absorb atHand, left]
  · rw [committed commits, left]
    simp [UnitOfWork.aborted, UnitOfWork.storedOutcome, FlushOutcome.toResult,
      FlushOutcome.isSuccess, FlushOutcome.failedKeys, Failure.allKeys, Except.map]
  · rw [after]
    exact congrArg (engine.requests ++ ·) requests

/-- A unit that is aborted holds no batches, now or ever after, so it makes no call. -/
theorem Sound.calls_of_aborted {environment : Environment}
    (permitted : 0 < environment.mapping.config.maxInFlight) (sound : engine.Sound environment)
    {now : Nat} {failure : Failure} (atHand : engine.unit? number = some (.aborted now failure))
    (later : List EngineStep) :
    ∃ slot, (engine.run later).slots[number]? = some slot ∧ slot.unit.work.calls = [] := by
  obtain ⟨slot, held, _, batches⟩ :=
    sound.run_of_closed permitted (unit?_eq_some_iff.1 atHand) rfl later
  have faithful := ((sound.run permitted later).faithful number slot held).1
  have called := faithful.work.called_prefix
  rw [batches] at called
  exact ⟨slot, held, List.map_eq_nil_iff.1 (List.prefix_nil.1 called)⟩

end Engine

/-- Nothing but roots is asked for of a change. -/
theorem Mapping.Complaint.rootsOnly {mapping : Mapping} {loader : RootLoader} {change : Change}
    {detail : String} {asked : List Request}
    (complaint : mapping.Complaint loader change detail asked) :
    ∀ request ∈ asked, ∃ leaf path, request = .roots leaf path := by
  intro request member
  cases complaint with
  | broken =>
    obtain ⟨path, _, rfl⟩ := List.mem_map.1 member
    exact ⟨_, path, rfl⟩
  | misplaced =>
    obtain ⟨path, _, rfl⟩ := List.mem_map.1 member
    exact ⟨_, path, rfl⟩

/-- Nor is anything else asked for of several. -/
theorem Expansion.questions_rootsOnly {graph : ContainmentGraph} {changes : List Change} :
    ∀ request ∈ questions graph changes, ∃ leaf path, request = .roots leaf path := by
  intro request member
  obtain ⟨change, _, listed⟩ := List.mem_flatMap.1 member
  obtain ⟨path, _, rfl⟩ := List.mem_map.1 listed
  exact ⟨_, path, rfl⟩

/-- What becomes of a unit after a run when a call prepares it and its flush is aborted, with a
change to blame. -/
structure FlushAborted (environment : Environment) (steps : List EngineStep) (number : Nat)
    (plan : Plan) (blamed : EntityKey) (detail : String) (asked : List Request)
    (call : UnitCall) : Prop where
  /-- The unit has failed, with one failure for all pending keys. -/
  left : (((Engine.start environment).run steps).step (.call number call)).2.unit? number =
    some (.aborted ((Engine.start environment).run steps).now
      ⟨plan.failedKeys blamed, .loader detail⟩)
  /-- Who only prepares the unit is not told, -/
  prepared : call = .beforeCommit →
    (((Engine.start environment).run steps).step (.call number call)).1 = some (.ok .done)
  /-- and who commits it is told the failure. -/
  committed : call ≠ .beforeCommit →
    (((Engine.start environment).run steps).step (.call number call)).1 =
      some (.error (.flushFailed (plan.failedKeys blamed) []
        [⟨plan.failedKeys blamed, .loader detail⟩]))
  /-- The collaborators were asked this, -/
  requests : (((Engine.start environment).run steps).step (.call number call)).2.requests =
    ((Engine.start environment).run steps).requests ++ asked
  /-- which is for roots alone: no entity was loaded and no document extracted. -/
  rootsOnly : ∀ request ∈ asked, ∃ leaf path, request = .roots leaf path
  /-- The backend is not called for the unit, whatever happens later. -/
  silent : ∀ later, ∃ slot,
    ((Engine.start environment).run (steps ++ .call number call :: later)).slots[number]? =
      some slot ∧ slot.unit.work.calls = []

/-- An aborted flush names every pending key and touches nothing. Take any run, of any units
with any collaborators and any backend, and an open unit at hand after it. Its plan cannot be
prepared exactly if some logged change stumbles. Whichever call then prepares the unit, the
first change that stumbles is to blame, and the flush is aborted with what is said of it. -/
theorem flush_aborts {config : Config} {hierarchy : Hierarchy} {types : List MappedType}
    {environment : Environment} {steps : List EngineStep} {number : Nat} {unit : UnitOfWork}
    (built : Mapping.build config hierarchy types = .ok environment.mapping)
    (atHand : ((Engine.start environment).run steps).unit? number = some unit)
    (isOpen : unit.state.isOpen = true) :
    ∃ plan, unit.plan = some plan ∧
      ((∃ error,
          (environment.mapping.prepare (environment.services number) plan).1 = .error error) ↔
        ∃ change ∈ plan.changes,
          environment.mapping.Stumbles (environment.services number).rootLoader change) ∧
      (∀ blamed, (plan.failedKeys blamed).Nodup) ∧
      ∀ earlier change later, plan.changes = earlier ++ change :: later →
        (∀ other ∈ earlier,
          ¬ environment.mapping.Stumbles (environment.services number).rootLoader other) →
        environment.mapping.Stumbles (environment.services number).rootLoader change →
          ∃ detail asked,
            environment.mapping.Complaint (environment.services number).rootLoader change detail
              asked ∧
            ∀ call : UnitCall, call.prepares = true →
              FlushAborted environment steps number plan change.key detail
                (Expansion.questions environment.mapping.containment earlier ++ asked) call := by
  have permitted := Mapping.permitted_of_build built
  have sound := Engine.run_sound permitted steps
  have consistent : unit.Consistent environment.mapping :=
    sound.shape (Engine.unit?_eq_some_iff.1 atHand)
  obtain ⟨since, plan, reached, rfl⟩ | closed := consistent.open_or_closed
  · have agreed := reached.mapping_eq
    refine ⟨plan, rfl, Mapping.prepare_error_iff agreed, reached.nodup_failedKeys, ?_⟩
    intro earlier change later logged passed stumbles
    obtain ⟨detail, asked, complaint, ended⟩ :=
      Mapping.prepare_of_first agreed logged passed stumbles
    refine ⟨detail, asked, complaint, fun call prepares => ?_⟩
    obtain ⟨left, prepared, committed, requests⟩ :=
      sound.step_of_loaderFailure atHand ended prepares
    refine ⟨left, prepared, committed, requests, ?_, fun later => ?_⟩
    · intro request member
      rcases List.mem_append.1 member with before | here
      · exact Expansion.questions_rootsOnly request before
      · exact complaint.rootsOnly request here
    · rw [Engine.run_append]
      exact (sound.step permitted (.call number call)).calls_of_aborted permitted left later
  · rw [closed] at isOpen
    cases isOpen

namespace Library

/-- Every author is said to be embedded in book 4 and in a pamphlet, of which nobody has
heard. -/
def pamphletLoader : RootLoader := fun changed _ =>
  if changed.type = "Author" then [.ok ⟨"Pamphlet", .text "1"⟩, .ok (bookKey "4")] else []

/-- The stockroom with a loader that says so. -/
def pamphleteer : Environment where
  mapping := stockroom.mapping
  services _ := { clerks with rootLoader := pamphletLoader }

/-- The deliveries are aborted for their author, who is named first. The books follow as they
came, and book 4, which was scheduled before the pamphlet was come to, is not among them. -/
theorem deliveries_aborted :
    ∃ unit detail asked, ((Engine.start pamphleteer).run deliveries).unit? 0 = some unit ∧
      unit.state.isOpen = true ∧
        FlushAborted pamphleteer deliveries 0 delivered ⟨"Author", .text "Austen"⟩ detail asked
          .flush ∧
          delivered.failedKeys ⟨"Author", .text "Austen"⟩ =
            [⟨"Author", .text "Austen"⟩, bookKey "1", bookKey "2", bookKey "3"] := by
  have built : Mapping.build pamphleteer.mapping.config [] [shelf, book, author] =
      .ok pamphleteer.mapping := rfl
  obtain ⟨plan, planned, _, _, aborts⟩ := flush_aborts built
    (rfl : ((Engine.start pamphleteer).run deliveries).unit? 0 = some (.ofPlan 0 delivered)) rfl
  cases planned
  have passed : ∀ other ∈ [(⟨bookKey "1", none⟩ : Change), ⟨bookKey "2", none⟩,
      ⟨bookKey "3", none⟩],
      ¬ pamphleteer.mapping.Stumbles pamphletLoader other := by
    rintro other member ⟨path, _, answer, listed, _⟩
    have isBook : other.key.type = "Book" := by
      simp only [List.mem_cons, List.not_mem_nil, or_false] at member
      rcases member with rfl | rfl | rfl <;> rfl
    simp [pamphletLoader, isBook] at listed
  have stumbles : pamphleteer.mapping.Stumbles pamphletLoader
      ⟨⟨"Author", .text "Austen"⟩, none⟩ := by
    refine ⟨_, .head _, .ok ⟨"Pamphlet", .text "1"⟩, .head _, .misplaced ?_⟩
    rintro ⟨declaration, found, _⟩
    cases found
  obtain ⟨detail, asked, _, aborted⟩ := aborts _ _ [] rfl passed stumbles
  exact ⟨_, detail, _, rfl, rfl, aborted .flush rfl, rfl⟩

end Library

end Reindex
