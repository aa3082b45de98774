import Reindex.Proofs.Flush.Becoming
import Reindex.Proofs.Flush.Complaints

/-!
# Operation by operation

A flush whose expansion succeeds is prepared. Its items and its failures part the operations
that the expanded plan has left to do, in their order, for no entity has two, and each is what
becomes of one operation. The expansion asks for roots and loads nothing, so the entities
that are loaded are those of the operations that need one. Entities only appear in plans if
their type has an index, so no operation fails for want of one.
-/

namespace Reindex

/-- The expansion loads no entity. -/
theorem Expansion.loaded_expandChanges (graph : ContainmentGraph) (loader : RootLoader)
    (plan : Plan) (changes : List Change) :
    (expandChanges graph loader plan changes).2.filterMap Request.loaded? = [] := by
  have unloaded (change : Change) :
      (graph.requiredRoots loader change.key change.paths).2.filterMap Request.loaded? = [] := by
    rw [List.filterMap_eq_nil_iff]
    intro request asked
    obtain ⟨path, _, rfl⟩ := ContainmentGraph.mem_gather asked
    rfl
  induction changes generalizing plan with
  | nil => rfl
  | cons change rest inductionHypothesis =>
    have first := unloaded change
    rcases required : graph.requiredRoots loader change.key change.paths with ⟨roots, asked⟩
    rw [required] at first
    simp only [expandChanges, required]
    cases roots.bind (scheduleRoots change.key plan) with
    | error error => exact first
    | ok next => rw [List.filterMap_append, first, inductionHypothesis next, List.append_nil]

namespace PreparedFlush

/-- The work items, in order. -/
def items (prepared : PreparedFlush) : List WorkItem := prepared.batches.flatMap WorkBatch.items

/-- What is prepared of operations, and what was asked to do it. -/
structure Translates (mapping : Mapping) (services : Services) (operations : List PlanEntry)
    (prepared : PreparedFlush) (asked : List Request) : Prop where
  /-- The operations, of which no entity has two, are parted into items and failures, -/
  distinct : (operations.map PlanEntry.key).Nodup
  parted : (prepared.items.map WorkItem.key ++ Failure.allKeys prepared.failures).Perm
    (operations.map PlanEntry.key)
  /-- and both are in their order. -/
  items : (prepared.items.map WorkItem.key).Sublist (operations.map PlanEntry.key)
  failures : (Failure.allKeys prepared.failures).Sublist (operations.map PlanEntry.key)
  /-- The entities are loaded of which an instance is needed and none was supplied, each once
  and in this order, and no others. -/
  loaded : asked.filterMap Request.loaded? =
    (operations.filter PlanEntry.isLoaded).map PlanEntry.key
  /-- Each operation becomes what its entity and the collaborators say, in the index of its
  type. -/
  becomes : ∀ entry ∈ operations, ∃ type index,
    mapping.registry.get? entry.key.type = some type ∧ type.index = some index ∧
      Items.Becomes services type index entry prepared.items prepared.failures

variable {mapping : Mapping} {services : Services} {plan final : Plan}

/-- The keys of a prepared flush are those of its items. -/
theorem keys_items (prepared : PreparedFlush) :
    prepared.items.map WorkItem.key = prepared.keys := List.map_flatMap

/-- The items and failures of a prepared flush are those of its operations. -/
theorem items_ofOperations (operations : List PlanEntry) :
    (ofOperations mapping services operations).items =
      (Items.itemsOf services mapping.registry operations).1.1 :=
  Batching.items_batches _ _

/-- What is asked to prepare a flush: what the expansion asks, and then what the operations
ask. -/
theorem asked_of_expand
    (expanded : (Expansion.expand mapping.containment services.rootLoader plan).1 = .ok final) :
    (mapping.prepare services plan).2 =
      (Expansion.expand mapping.containment services.rootLoader plan).2 ++
        (Items.itemsOf services mapping.registry final.liveEntries).2 := by
  simp [Mapping.prepare, expanded, Plan.resolve_eq]

/-- Operations of distinct entities of indexed types are translated. -/
theorem translates_of_expand (reached : Plan.Reachable mapping plan)
    (expanded : (Expansion.expand mapping.containment services.rootLoader plan).1 = .ok final) :
    Translates mapping services final.liveEntries
      (ofOperations mapping services final.liveEntries) (mapping.prepare services plan).2 := by
  have settled := Expansion.expand_reachable reached expanded
  have distinct := settled.distinct.liveEntries
  have live : ∀ entry ∈ final.liveEntries, entry.operation.kind ≠ .noop :=
    Plan.kind_ne_noop_of_mem
  have indexed : ∀ entry ∈ final.liveEntries, ∃ type index,
      mapping.registry.get? entry.key.type = some type ∧ type.index = some index := by
    intro entry member
    obtain ⟨type, declared, indexed⟩ := settled.indexes_liveEntries entry member
    obtain ⟨index, located⟩ := Option.isSome_iff_exists.1 indexed
    exact ⟨type, index, declared, located⟩
  have keys := keys_items (ofOperations mapping services final.liveEntries)
  refine ⟨distinct, ?_, ?_, ?_, ?_, ?_⟩
  · rw [keys]
    exact keys_perm
  · rw [keys, keys_ofOperations]
    exact List.filter_sublist.map PlanEntry.key
  · rw [ofOperations, (Items.keys_itemsOf final.liveEntries).2]
    exact List.filter_sublist.map PlanEntry.key
  · rw [asked_of_expand expanded, List.filterMap_append, Expansion.expand,
      Expansion.loaded_expandChanges, Items.loaded_itemsOf live indexed]
    rfl
  · intro entry member
    obtain ⟨type, index, declared, located⟩ := indexed entry member
    refine ⟨type, index, declared, located, ?_⟩
    rw [items_ofOperations]
    exact Items.becomes distinct member (live entry member) declared located

/-- What is prepared of other operations does not depend on what one entity meets. -/
theorem apart_of_alike {other : Services} {operations : List PlanEntry} (key : EntityKey)
    (alike : ∀ entry ∈ operations, entry.key ≠ key → Items.Alike services other entry) :
    (ofOperations mapping other operations).items.filter (·.key != key) =
        (ofOperations mapping services operations).items.filter (·.key != key) ∧
      (ofOperations mapping other operations).failures.filter (·.keys != [key]) =
        (ofOperations mapping services operations).failures.filter (·.keys != [key]) := by
  have others : ∀ entry ∈ operations.filter (·.key != key), Items.Alike services other entry := by
    intro entry listed
    obtain ⟨member, apart⟩ := List.mem_filter.1 listed
    exact alike entry member (by simpa using apart)
  constructor
  · simp only [items_ofOperations, Items.itemsOf_apart, Items.itemsOf_congr others]
  · simp only [ofOperations, Items.itemsOf_apart, Items.itemsOf_congr others]

end PreparedFlush

/-- Operations become items one by one. When the expansion of a plan succeeds, the flush is
prepared: the entries of the plan that have something left to do, and the scheduled roots
behind them, are parted into items and failures, both in their order, and the entities that
are to be written and that nobody has supplied are loaded, each once. A document is deleted by
a deletion or where the entity is gone, it is written by the operation that is pending from the
supplied or the loaded instance, and otherwise the loading or the extraction has failed, which
the failure tells for this entity alone. Whatever else the persistence layer and the extractor
answer for one entity, the items and the failures of all others stay the same. -/
theorem prepare_translates {mapping : Mapping} {services : Services} {plan final : Plan}
    (reached : Plan.Reachable mapping plan)
    (expanded : (Expansion.expand mapping.containment services.rootLoader plan).1 = .ok final) :
    ∃ scheduled prepared,
      Expansion.Schedules mapping.containment services.rootLoader plan plan.changes scheduled ∧
      final = plan.schedule scheduled ∧
      let operations := plan.liveEntries ++ scheduled.map Plan.scheduledEntry
      (mapping.prepare services plan).1 = .ok prepared ∧
      PreparedFlush.Translates mapping services operations prepared
        (mapping.prepare services plan).2 ∧
      ∀ (key : EntityKey) (other : Services), other.rootLoader = services.rootLoader →
        (∀ entry ∈ operations, entry.key ≠ key → Items.Alike services other entry) →
        ∃ changed, (mapping.prepare other plan).1 = .ok changed ∧
          changed.items.filter (·.key != key) = prepared.items.filter (·.key != key) ∧
          changed.failures.filter (·.keys != [key]) =
            prepared.failures.filter (·.keys != [key]) := by
  obtain ⟨scheduled, rfl, schedules⟩ :=
    Expansion.schedules_of_expand reached.mapping_eq expanded
  refine ⟨scheduled, _, schedules, rfl, PreparedFlush.prepare_of_expand expanded, ?_, ?_⟩
  · rw [← Plan.liveEntries_schedule]
    exact PreparedFlush.translates_of_expand reached expanded
  · rw [← Plan.liveEntries_schedule]
    intro key other same alike
    rw [← same] at expanded
    exact ⟨_, PreparedFlush.prepare_of_expand expanded, PreparedFlush.apart_of_alike key alike⟩

namespace Library

/-- The stockroom on a day when the persistence layer does not answer. -/
def cutOff : Services := { clerks with entityLoader := fun _ => .error "no answer" }

/-- Book 4 is loaded and is gone, so its document is deleted, and book 3 has no document. When
book 4 cannot be loaded it fails instead, and books 1 and 2 are added as before. -/
theorem delivered_translated :
    ∃ prepared, (stockroom.mapping.prepare clerks delivered).1 = .ok prepared ∧
      ⟨bookKey "4", "books", "4", .delete, none⟩ ∈ prepared.items ∧
      ⟨bookKey "1", "books", "1", .add, some [("title", .text "Emma")]⟩ ∈ prepared.items ∧
      (⟨[bookKey "3"], .extraction "nothing to read"⟩ : Failure) ∈ prepared.failures ∧
      ∃ changed, (stockroom.mapping.prepare cutOff delivered).1 = .ok changed ∧
        changed.items.filter (·.key != bookKey "4") =
          prepared.items.filter (·.key != bookKey "4") := by
  have reached : Plan.Reachable stockroom.mapping delivered :=
    Plan.Reachable.empty.calls [.register (.create (bookKey "1") (some (titled "Emma"))),
      .register (.create (bookKey "2") (some (titled "Persuasion"))),
      .register (.create (bookKey "3") (some ⟨"Book", []⟩)),
      .register (.update ⟨"Author", .text "Austen"⟩ none)]
  have expanded : (Expansion.expand stockroom.mapping.containment clerks.rootLoader
      delivered).1 = .ok restocked := rfl
  obtain ⟨scheduled, prepared, -, grown, ready, translates, apart⟩ :=
    prepare_translates reached expanded
  obtain rfl : scheduled = [bookKey "4"] := Plan.schedule_injective grown.symm
  obtain ⟨_, _, declared, located, first⟩ :=
    translates.becomes ⟨bookKey "1", .add (some (titled "Emma"))⟩ (.head _)
  cases declared
  cases located
  obtain ⟨_, _, declared, _, third⟩ :=
    translates.becomes ⟨bookKey "3", .add (some ⟨"Book", []⟩)⟩ (.tail _ (.tail _ (.head _)))
  cases declared
  obtain ⟨_, _, declared, located, fourth⟩ :=
    translates.becomes ⟨bookKey "4", .addOrUpdate none⟩ (.tail _ (.tail _ (.tail _ (.head _))))
  cases declared
  cases located
  refine ⟨prepared, ready, fourth.deleted.2 (.inr ⟨rfl, rfl⟩),
    (first.written _ _).2 ⟨rfl, _, .inl rfl, rfl⟩, (third.unread _).2 ⟨_, .inl rfl, rfl⟩, ?_⟩
  have alike : ∀ entry ∈ delivered.liveEntries ++ [bookKey "4"].map Plan.scheduledEntry,
      entry.key ≠ bookKey "4" → Items.Alike clerks cutOff entry := by
    intro entry member other
    refine ⟨fun loads => ?_, fun _ _ _ => rfl⟩
    -- the other books were supplied, so they are not loaded
    rcases List.mem_append.1 member with listed | scheduled
    · have listed := (List.mem_filter.1 listed).1
      simp only [delivered, List.mem_cons, List.not_mem_nil, or_false] at listed
      rcases listed with rfl | rfl | rfl <;> cases loads
    · rw [List.mem_singleton.1 scheduled] at other
      exact absurd rfl other
  obtain ⟨changed, readyToo, same, _⟩ := apart (bookKey "4") cutOff rfl alike
  exact ⟨changed, readyToo, same⟩

end Library

end Reindex
