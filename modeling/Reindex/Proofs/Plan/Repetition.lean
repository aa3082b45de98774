import Reindex.Proofs.Plan.Standing

/-!
# Registrations that repeat or divide

A plan may be told the same thing twice, and a change may be told of in parts, for whoever
reports changes need not know what was reported before. Both come to the same. A call that
is repeated at once finds its operation merged and its change logged, and neither gains by
being merged again, whatever stood there before. A change of some paths and then of others
leaves what one change of all of them leaves, although each part is judged by itself: one
part may concern the document, so that its operation is merged, and the other not, so that
it only refreshes the instance.
-/

namespace Reindex

namespace Operation

/-- A carried instance is not supplied twice. -/
theorem or_or_self (supplied carried : Option Instance) :
    supplied.or (supplied.or carried) = supplied.or carried := by
  cases supplied <;> rfl

/-- Merging an operation that was just merged changes nothing. -/
theorem merge_after (pending : Option Operation) (incoming : Operation) :
    (after pending incoming).merge incoming = after pending incoming := by
  cases pending with
  | none => cases incoming <;> simp [after, merge]
  | some pending => cases pending <;> cases incoming <;> simp [after, merge, or_or_self]

/-- Refreshing with the instance of an update that was just merged changes nothing. -/
theorem refresh_after_update (pending : Option Operation) (supplied : Option Instance) :
    (after pending (.update supplied)).refresh supplied = after pending (.update supplied) := by
  cases pending with
  | none => simp [after, refresh]
  | some pending => cases pending <;> simp [after, merge, refresh, or_or_self]

/-- An update brings the instance by which the operation was refreshed. -/
theorem merge_update_refresh (pending : Operation) (supplied : Option Instance) :
    (pending.refresh supplied).merge (.update supplied) = pending.merge (.update supplied) := by
  cases pending <;> simp [merge, refresh, or_or_self]

/-- Refreshing twice with one instance is refreshing once. -/
theorem refresh_refresh (pending : Operation) (supplied : Option Instance) :
    (pending.refresh supplied).refresh supplied = pending.refresh supplied := by
  cases pending <;> simp [refresh, or_or_self]

end Operation

/-- Whether a change of either set of paths concerns what is read. -/
theorem ReadSet.isTriggeredBy_union (reads : ReadSet) (first second : PathSet) :
    reads.isTriggeredBy (some (first.union second)) =
      (reads.isTriggeredBy (some first) || reads.isTriggeredBy (some second)) := by
  have either (path : Path) : (∃ listed ∈ (first.union second).paths, path.Within listed) ↔
      (∃ listed ∈ first.paths, path.Within listed) ∨
        ∃ listed ∈ second.paths, path.Within listed := by
    rw [← exists_or]
    refine exists_congr fun listed => ?_
    rw [← or_and_right]
    exact and_congr_left fun _ => PathSet.mem_union
  rw [Bool.eq_iff_iff, Bool.or_eq_true]
  simp only [isTriggeredBy_some_iff, either, or_and_right, exists_or]

namespace Plan

/-- Paths are joined in any order. -/
theorem mergePaths_assoc (a b c : Option PathSet) :
    mergePaths (mergePaths a b) c = mergePaths a (mergePaths b c) := by
  cases a <;> cases b <;> cases c <;> simp [mergePaths, PathSet.union_assoc]

/-- Paths that are known add nothing. -/
theorem mergePaths_self (paths : Option PathSet) : mergePaths paths paths = paths := by
  cases paths <;> simp [mergePaths, PathSet.union_self]

/-- Two changes of an entity are logged as one of the merged paths. -/
theorem logChange_logChange (key : EntityKey) (first second : Option PathSet)
    (changes : List Change) :
    logChange key second (logChange key first changes) =
      logChange key (mergePaths first second) changes := by
  simp only [logChange_eq_alter]
  rw [alter_alter (by simp)]
  simp [alter, Function.comp_def, mergePaths_assoc]

/-- An operation that is merged twice is merged once. -/
theorem mergeEntry_mergeEntry (key : EntityKey) (operation : Operation)
    (entries : List PlanEntry) :
    mergeEntry key operation (mergeEntry key operation entries) =
      mergeEntry key operation entries := by
  have again (pending : Operation) :
      (pending.merge operation).merge operation = pending.merge operation :=
    Operation.merge_after (some pending) operation
  have itself : operation.merge operation = operation := Operation.merge_after none operation
  simp only [mergeEntry_eq_alter]
  rw [alter_alter (by simp)]
  simp [alter, Function.comp_def, again, itself]

/-- What a function does not change of any merged operation it leaves when it is mapped. -/
theorem mapEntry_mergeEntry {f : Operation → Operation} {operation : Operation}
    (kept : ∀ pending, f (Operation.after pending operation) = Operation.after pending operation)
    (key : EntityKey) (entries : List PlanEntry) :
    mapEntry key f (mergeEntry key operation entries) = mergeEntry key operation entries := by
  have merged (pending : Operation) : f (pending.merge operation) = pending.merge operation :=
    kept (some pending)
  have itself : f operation = operation := kept none
  simp only [mergeEntry_eq_alter, mapEntry_eq_alter]
  rw [alter_alter (by simp)]
  simp [alter, Function.comp_def, merged, itself]

/-- What a function changes is lost if merging is indifferent to it. -/
theorem mergeEntry_mapEntry {f : Operation → Operation} {operation : Operation}
    (lost : ∀ pending, (f pending).merge operation = pending.merge operation)
    (key : EntityKey) (entries : List PlanEntry) :
    mergeEntry key operation (mapEntry key f entries) = mergeEntry key operation entries := by
  simp only [mergeEntry_eq_alter, mapEntry_eq_alter]
  rw [alter_alter (by simp)]
  simp [alter, Function.comp_def, lost]

/-- A function that is mapped twice is mapped once if it changes nothing the second time. -/
theorem mapEntry_mapEntry {f : Operation → Operation}
    (steady : ∀ pending, f (f pending) = f pending) (key : EntityKey) (entries : List PlanEntry) :
    mapEntry key f (mapEntry key f entries) = mapEntry key f entries := by
  simp only [mapEntry_eq_alter]
  rw [alter_alter (by simp)]
  simp [alter, Function.comp_def, steady]

/-- Where a key has no entry nothing is mapped. -/
theorem mapEntry_of_notMem {key : EntityKey} {entries : List PlanEntry}
    (absent : key ∉ entries.map PlanEntry.key) (f : Operation → Operation) :
    mapEntry key f entries = entries := by
  rw [mapEntry_eq_alter, alter_of_notMem absent, List.append_nil]

variable {mapping : Mapping} {plan : Plan} {standing : Standing} {registration : Registration}
  {error : IndexingError}

/-- Whether a change of either set of paths concerns the own document. -/
theorem isDirty_union (plan : Plan) (key : EntityKey) (first second : PathSet) :
    plan.isDirty key (some (first.union second)) =
      (plan.isDirty key (some first) || plan.isDirty key (some second)) := by
  unfold isDirty
  split
  · exact ReadSet.isTriggeredBy_union _ _ _
  · rfl

/-- It depends on the mapping alone. -/
theorem isDirty_with (plan : Plan) (entries : List PlanEntry) (changes : List Change)
    (key : EntityKey) (paths : Option PathSet) :
    { plan with entries, changes }.isDirty key paths = plan.isDirty key paths := rfl

/-- A registration that is repeated finds the entries as it would leave them. -/
theorem entriesAfter_entriesAfter (plan : Plan) (changes : List Change) (standing : Standing)
    (registration : Registration) :
    { plan with changes, entries := plan.entriesAfter standing registration }.entriesAfter
        standing registration = plan.entriesAfter standing registration := by
  simp only [entriesAfter, isDirty_with]
  by_cases dirty : plan.isDirty registration.key registration.changed = true
  · cases standing with
    | indexed => simp [dirty, mergeEntry_mergeEntry]
    | contained => simp [dirty]
  · simp [dirty, mapEntry_mapEntry fun pending =>
      Operation.refresh_refresh pending registration.operation.carried?]

/-- A change in parts leaves the entries that the whole change leaves. What is refreshed
before it is merged, or merged before it is refreshed, is merged alone. An entity that is
only contained has no entry, so there is nothing to refresh. -/
theorem entriesAfter_updatePaths (plan : Plan) (changes : List Change) {standing : Standing}
    {key : EntityKey} (unlisted : standing = .contained → key ∉ plan.entries.map PlanEntry.key)
    (supplied : Option Instance) (first second : PathSet) :
    { plan with
      changes
      entries := plan.entriesAfter standing (.updatePaths key supplied first) }.entriesAfter
        standing (.updatePaths key supplied second) =
      plan.entriesAfter standing (.updatePaths key supplied (first.union second)) := by
  simp only [entriesAfter, isDirty_with, Registration.key, Registration.changed,
    Registration.operation, Operation.carried?, isDirty_union]
  cases standing with
  | contained =>
    have same := mapEntry_of_notMem (unlisted rfl) (Operation.refresh supplied)
    by_cases ofFirst : plan.isDirty key (some first) = true <;>
      by_cases ofSecond : plan.isDirty key (some second) = true <;>
        simp [ofFirst, ofSecond, same]
  | indexed =>
    by_cases ofFirst : plan.isDirty key (some first) = true
    · by_cases ofSecond : plan.isDirty key (some second) = true
      · simp [ofFirst, ofSecond, mergeEntry_mergeEntry]
      · simp [ofFirst, ofSecond,
          mapEntry_mergeEntry fun pending => Operation.refresh_after_update pending supplied]
    · by_cases ofSecond : plan.isDirty key (some second) = true
      · simp [ofFirst, ofSecond,
          mergeEntry_mapEntry fun pending => Operation.merge_update_refresh pending supplied]
      · simp [ofFirst, ofSecond,
          mapEntry_mapEntry fun pending => Operation.refresh_refresh pending supplied]

/-- Every call is refused or taken as the calls before it were, for the mapping decides. -/
theorem answer_eq_error_iff_of_mapping {other : Plan} (same : other.mapping = plan.mapping)
    (call : PlanCall) : other.answer call = .error error ↔ plan.answer call = .error error := by
  cases call with
  | register registration => simp only [answer_register_eq_error_iff, same]
  | reindex key => simp only [answer_reindex_eq_error_iff, same]

/-- An entity that was scheduled has an entry, so it is not scheduled again. -/
theorem call_reindex_twice {key : EntityKey} (indexes : plan.mapping.Indexes key.type) :
    (plan.call (.reindex key)).call (.reindex key) = plan.call (.reindex key) := by
  have kept {listing : Plan} (indexes : listing.mapping.Indexes key.type)
      (listed : listing.hasEntry key = true) : listing.call (.reindex key) = listing := by
    rw [call, reindex_of_hasEntry indexes listed]
  cases listed : plan.hasEntry key with
  | true => rw [kept indexes listed, kept indexes listed]
  | false =>
    have scheduled : plan.call (.reindex key) =
        { plan with entries := plan.entries ++ [⟨key, .addOrUpdate none⟩] } := by
      rw [call, reindex_of_not_hasEntry indexes listed]
    rw [scheduled]
    refine kept indexes ?_
    simp [hasEntry, get?]

/-- To be told the same thing twice is to be told it once. Whatever a plan holds, and
whatever is registered or scheduled, the plan that is left by a call is left as it is when
the call is made again: its entries, their operations and instances, their order and the
log. The second call is refused if the first one was, and for the same reason. -/
theorem call_call (plan : Plan) (call : PlanCall) :
    (plan.call call).call call = plan.call call ∧
      ∀ error, (plan.call call).answer call = .error error ↔ plan.answer call = .error error := by
  refine ⟨?_, fun error => answer_eq_error_iff_of_mapping (call_mapping plan call) call⟩
  cases refused : plan.answer call with
  | error error => rw [call_of_answer_error refused, call_of_answer_error refused]
  | ok answered =>
    cases call with
    | register registration =>
      rw [answer_register] at refused
      cases classified : plan.classify registration.key.type with
      | error error => rw [classified] at refused; cases refused
      | ok standing =>
        have again := (classify_call plan (.register registration) _).trans classified
        rw [call_register again, call_register classified]
        simp only [logChange_logChange, mergePaths_self, entriesAfter_entriesAfter]
    | reindex key =>
      have indexes : plan.mapping.Indexes key.type := by
        by_contra unindexed
        rw [answer_reindex_eq_error_iff.2 ⟨unindexed, rfl⟩] at refused
        cases refused
      exact call_reindex_twice indexes

/-- A change in parts leaves the plan that the whole change leaves, unless it is refused. -/
theorem call_updatePaths {key : EntityKey} (classified : plan.classify key.type = .ok standing)
    (unlisted : standing = .contained → key ∉ plan.entries.map PlanEntry.key)
    (supplied : Option Instance) (first second : PathSet) :
    (plan.call (.register (.updatePaths key supplied first))).call
        (.register (.updatePaths key supplied second)) =
      plan.call (.register (.updatePaths key supplied (first.union second))) := by
  have once : plan.call (.register (.updatePaths key supplied first)) = _ :=
    call_register classified
  have again : (plan.call (.register (.updatePaths key supplied first))).call
      (.register (.updatePaths key supplied second)) = _ :=
    call_register ((classify_call plan _ key.type).trans classified)
  have whole : plan.call (.register (.updatePaths key supplied (first.union second))) = _ :=
    call_register classified
  rw [again, once, whole]
  simp only [entriesAfter_updatePaths plan _ unlisted, logChange_logChange, Registration.key,
    Registration.changed, mergePaths]

/-- A change that is told of in parts is told of. In any plan that registrations and the
expansion lead to, a change of some paths of an entity and then of others leaves the entries
and the log that one change of all these paths leaves, whether or not each part concerns
the document, and whatever is pending for the entity. Both changes are refused if the one
is, for the same reason, and otherwise taken. -/
theorem updatePaths_in_parts (reached : Reachable mapping plan) (key : EntityKey)
    (supplied : Option Instance) (first second : PathSet) :
    let change (paths : PathSet) := PlanCall.register (.updatePaths key supplied paths)
    (plan.call (change first)).call (change second) = plan.call (change (first.union second)) ∧
      plan.answer (change first) = plan.answer (change (first.union second)) ∧
      (plan.call (change first)).answer (change second) =
        plan.answer (change (first.union second)) := by
  intro change
  have answered (listing : Plan) (paths : PathSet) :
      listing.answer (change paths) = (listing.classify key.type).map fun _ => true :=
    answer_register listing _
  have answeredLater : (plan.call (change first)).answer (change second) =
      plan.answer (change (first.union second)) := by
    rw [answered, answered, classify_call]
  refine ⟨?_, by rw [answered, answered], answeredLater⟩
  cases classified : plan.classify key.type with
  | error error =>
    have refused (paths : PathSet) : plan.answer (change paths) = .error error := by
      rw [answered, classified]
      rfl
    simp only [call_of_answer_error (refused _)]
  | ok standing =>
    refine call_updatePaths classified ?_ supplied first second
    -- a type that is only contained has no documents, so no entry is of it
    rintro rfl listed
    have indexes := reached.mapping_eq.symm ▸ reached.indexes key listed
    exact (classify_eq_contained_iff.1 classified).1 indexes

end Plan

namespace Library

/-- A book is retired. -/
def retirement : Plan := (Plan.empty (mapping {})).call (.register (.delete (bookKey "1")))

/-- It comes back with another title, at another place. The place does not concern its
document and the title does. Reported one after the other or together, the two leave one
update of the book, with the instance that was supplied. -/
theorem retirement_in_parts :
    let moved : PathSet := .ofList ["place"]
    let retitled : PathSet := .ofList ["title"]
    let change (paths : PathSet) : PlanCall :=
      .register (.updatePaths (bookKey "1") (some (titled "Emma")) paths)
    (retirement.call (change moved)).call (change retitled) =
        retirement.call (change (moved.union retitled)) ∧
      (retirement.call (change (moved.union retitled))).entries =
        [⟨bookKey "1", .update (some (titled "Emma"))⟩] ∧
      retirement.answer (change moved) = .ok true := by
  have reached : Plan.Reachable (mapping {}) retirement := Plan.Reachable.empty.call _
  obtain ⟨same, taken, _⟩ := Plan.updatePaths_in_parts reached (bookKey "1")
    (some (titled "Emma")) (.ofList ["place"]) (.ofList ["title"])
  exact ⟨same, rfl, taken.trans rfl⟩

end Library

end Reindex
