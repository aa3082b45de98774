import Reindex.Flush.Prepared
import Reindex.Proofs.Flush.Batching
import Reindex.Proofs.Flush.Expansion
import Reindex.Proofs.Flush.Items
import Mathlib.Data.List.Nodup

/-!
# What a prepared flush holds

A flush that is prepared has expanded its plan, and holds the work items and the
failures of the operations that the expanded plan has left to do. Its keys are theirs,
each once: those of the items in the batches, the others among the failures.
-/

namespace Reindex.PreparedFlush

variable {mapping : Mapping} {services : Services} {plan final : Plan} {prepared : PreparedFlush}

/-- The batches and failures of operations. -/
def ofOperations (mapping : Mapping) (services : Services) (operations : List PlanEntry) :
    PreparedFlush :=
  ⟨Batching.batches mapping.config.batchSize
      (Items.itemsOf services mapping.registry operations).1.1,
    (Items.itemsOf services mapping.registry operations).1.2⟩

/-- What is prepared is what the expanded plan has left to do. -/
theorem prepare_of_expand
    (expanded : (Expansion.expand mapping.containment services.rootLoader plan).1 = .ok final) :
    (mapping.prepare services plan).1 = .ok (ofOperations mapping services final.liveEntries) := by
  simp [Mapping.prepare, expanded, ofOperations, Plan.resolve_eq]

variable {operations : List PlanEntry}

/-- The items of the batches are those of the operations that have one. -/
theorem mem_items {item : WorkItem} :
    (∃ batch ∈ (ofOperations mapping services operations).batches, item ∈ batch.items) ↔
      ∃ entry ∈ operations, (Items.itemOf services mapping.registry entry).1 = .ok item := by
  rw [← List.mem_flatMap, ofOperations, Batching.items_batches, Items.mem_itemsOf]

/-- Where no key comes twice, a batch holds the key of an operation exactly if this has an
item. -/
theorem exists_batch_iff {entry : PlanEntry} (unique : (operations.map PlanEntry.key).Nodup)
    (member : entry ∈ operations) :
    (∃ batch ∈ (ofOperations mapping services operations).batches, entry.key ∈ batch.keys) ↔
      ∃ item, (Items.itemOf services mapping.registry entry).1 = .ok item := by
  constructor
  · rintro ⟨batch, listed, held⟩
    obtain ⟨item, inBatch, same⟩ := List.mem_map.1 held
    obtain ⟨other, memberToo, made⟩ := mem_items.1 ⟨batch, listed, inBatch⟩
    have shared : other.key = entry.key := (Items.key_itemOf made).symm.trans same
    exact ⟨item, List.inj_on_of_nodup_map unique memberToo member shared ▸ made⟩
  · rintro ⟨item, made⟩
    obtain ⟨batch, listed, inBatch⟩ := mem_items.2 ⟨entry, member, made⟩
    exact ⟨batch, listed, List.mem_map.2 ⟨item, inBatch, Items.key_itemOf made⟩⟩

/-- The keys of the batches are those of the operations that have an item, in order. -/
theorem keys_ofOperations :
    (ofOperations mapping services operations).keys =
      (operations.filter (Items.translates services mapping.registry)).map PlanEntry.key := by
  have items := Batching.items_batches mapping.config.batchSize
    (Items.itemsOf services mapping.registry operations).1.1
  rw [← (Items.keys_itemsOf operations).1, ← items, List.map_flatMap]
  rfl

/-- Every operation has its key in a batch or among the failures, once. -/
theorem keys_perm :
    ((ofOperations mapping services operations).keys ++
      Failure.allKeys (ofOperations mapping services operations).failures).Perm
        (operations.map PlanEntry.key) := by
  have failed : Failure.allKeys (ofOperations mapping services operations).failures =
      (operations.filter fun entry => !Items.translates services mapping.registry entry).map
        PlanEntry.key := (Items.keys_itemsOf operations).2
  rw [keys_ofOperations, failed, ← List.map_append]
  exact (List.filter_append_perm _ operations).map PlanEntry.key

/-- What could be prepared comes from a plan that could be expanded. -/
theorem expand_of_prepare (ready : (mapping.prepare services plan).1 = .ok prepared) :
    ∃ final, (Expansion.expand mapping.containment services.rootLoader plan).1 = .ok final ∧
      prepared = ofOperations mapping services final.liveEntries := by
  cases expanded : (Expansion.expand mapping.containment services.rootLoader plan).1 with
  | error error => simp [Mapping.prepare, expanded] at ready
  | ok final =>
    exact ⟨final, rfl, Except.ok.inj (ready.symm.trans (prepare_of_expand expanded))⟩

/-- Prepared batches are numbered from zero on. -/
theorem sequences_of_prepare (ready : (mapping.prepare services plan).1 = .ok prepared) :
    prepared.batches.map WorkBatch.sequence = List.range prepared.batches.length := by
  obtain ⟨final, _, rfl⟩ := expand_of_prepare ready
  exact Batching.sequences_batches _ _

/-- The batches of a reachable plan hold no key twice. -/
theorem nodup_of_prepare (reached : Plan.Reachable mapping plan)
    (ready : (mapping.prepare services plan).1 = .ok prepared) : prepared.keys.Nodup := by
  obtain ⟨final, expanded, rfl⟩ := expand_of_prepare ready
  rw [keys_ofOperations]
  exact (Expansion.expand_reachable reached expanded).distinct.liveEntries.sublist
    (List.filter_sublist.map PlanEntry.key)

end Reindex.PreparedFlush
