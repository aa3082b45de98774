import Reindex.Proofs.EntityId.Documents
import Reindex.Proofs.Flush.Accounting
import Reindex.Proofs.Plan.Order

/-!
# The documents that a flush writes

A work item names its document by an index and a document id. No two types share an index,
so items for entities of different types are for different documents. Within a type it is
the document ids that count, and these are texts in which the parts of a composite are
joined by colons and nothing is escaped: entities are told apart as far as the segments
between the colons tell their identifiers apart, and no further.
-/

namespace Reindex

/-- An item that was prepared is for a document in the index of its entity's type. -/
theorem PreparedFlush.addressed {mapping : Mapping} {services : Services} {plan : Plan}
    {prepared : PreparedFlush} {item : WorkItem}
    (ready : (mapping.prepare services plan).1 = .ok prepared)
    (listed : ∃ batch ∈ prepared.batches, item ∈ batch.items) :
    item.documentId = item.key.id.documentId ∧
      ∃ type ∈ mapping.registry.types, type.name = item.key.type ∧
        type.index = some item.index := by
  obtain ⟨final, _, rfl⟩ := expand_of_prepare ready
  obtain ⟨entry, _, made⟩ := mem_items.1 listed
  obtain ⟨type, index, declared, indexed, addressed⟩ := Items.addresses_itemOf made
  rw [addressed.key, addressed.index, addressed.documentId]
  obtain ⟨member, named⟩ := Registry.of_get? declared
  exact ⟨rfl, type, member, named, indexed⟩

/-- Two items of a flush are for one document exactly if their entities are of one type and
their identifiers have the same segments. In particular no document is shared by entities
whose identifiers have the same kind at every place, as long as no text inside a composite
has a colon. -/
theorem documents_apart {config : Config} {hierarchy : Hierarchy} {types : List MappedType}
    {mapping : Mapping} {services : Services} {plan : Plan} {prepared : PreparedFlush}
    {first second : WorkItem} (built : Mapping.build config hierarchy types = .ok mapping)
    (ready : (mapping.prepare services plan).1 = .ok prepared)
    (listed : ∃ batch ∈ prepared.batches, first ∈ batch.items)
    (listed' : ∃ batch ∈ prepared.batches, second ∈ batch.items) :
    ((first.index, first.documentId) = (second.index, second.documentId) ↔
      first.key.type = second.key.type ∧ first.key.id.segments = second.key.id.segments) ∧
    (first.key ≠ second.key → first.key.id.sameShape second.key.id = true →
      first.key.id.separable = true → second.key.id.separable = true →
        (first.index, first.documentId) ≠ (second.index, second.documentId)) := by
  have accepted := (Mapping.built_of_build built).accepted
  obtain ⟨rendered, type, declared, named, indexed⟩ := PreparedFlush.addressed ready listed
  obtain ⟨rendered', type', declared', named', indexed'⟩ := PreparedFlush.addressed ready listed'
  have names : first.index = second.index ↔ first.key.type = second.key.type := by
    constructor
    · intro same
      have shared : type = type' :=
        Registry.eq_of_index accepted declared declared' indexed (same ▸ indexed')
      rw [← named, ← named', shared]
    · intro same
      have distinct := (Registry.of_accepted accepted).2.1
      have shared : type = type' :=
        List.inj_on_of_nodup_map distinct declared declared' (by rw [named, named', same])
      exact Option.some_inj.1 (by rw [← indexed, ← indexed', shared])
  constructor
  · rw [Prod.mk.injEq, names, rendered, rendered', EntityId.documentId_eq_iff]
  · intro apart shape separable separable' same
    obtain ⟨place, text⟩ := Prod.mk.inj same
    rw [rendered, rendered'] at text
    have ids : first.key.id = second.key.id :=
      EntityId.documentId_inj _ _ shape separable separable' text
    have sorts : first.key.type = second.key.type := names.1 place
    apply apart
    calc first.key = ⟨first.key.type, first.key.id⟩ := rfl
      _ = ⟨second.key.type, second.key.id⟩ := by rw [sorts, ids]
      _ = second.key := rfl

namespace Library

/-- A book by its shelf mark, a letter and a number. -/
def marked (letter number : String) : EntityKey := ⟨"Book", .composite [.text letter, .text number]⟩

/-- Two books are taken off the shelves. -/
def withdrawn (first second : EntityKey) : Plan :=
  .ofRegistrations stockroom.mapping [.delete first, .delete second]

/-- The items that take two books out of the index. -/
def withdrawals (first second : EntityKey) : List WorkItem :=
  [Items.deleteItem first "books", Items.deleteItem second "books"]

/-- Books that stand side by side have documents of their own. -/
theorem neighbours_apart :
    ∃ prepared,
      (stockroom.mapping.prepare clerks
        (withdrawn (marked "a" "1") (marked "a" "2"))).1 = .ok prepared ∧
      (∃ batch ∈ prepared.batches,
        batch.items = withdrawals (marked "a" "1") (marked "a" "2")) ∧
      (withdrawals (marked "a" "1") (marked "a" "2")).Pairwise fun first second =>
        (first.index, first.documentId) ≠ (second.index, second.documentId) := by
  have built : Mapping.build stockroom.mapping.config [] [shelf, book, author] =
      .ok stockroom.mapping := rfl
  have ready : (stockroom.mapping.prepare clerks
      (withdrawn (marked "a" "1") (marked "a" "2"))).1 = .ok _ := rfl
  refine ⟨_, ready, ⟨_, .head _, rfl⟩, ?_⟩
  rw [withdrawals, List.pairwise_pair]
  exact (documents_apart built ready ⟨_, .head _, .head _⟩ ⟨_, .head _, .tail _ (.head _)⟩).2
    (by decide) rfl rfl rfl

/-- A book with the mark a, b and the book that is called a:b are two entities with one
document, and taking either off the shelves takes both out of the index. -/
theorem marks_collide :
    ∃ prepared,
      Mapping.build stockroom.mapping.config [] [shelf, book, author] = .ok stockroom.mapping ∧
      (stockroom.mapping.prepare clerks
        (withdrawn (marked "a" "b") (bookKey "a:b"))).1 = .ok prepared ∧
      ∃ batch ∈ prepared.batches, ∃ first ∈ batch.items, ∃ second ∈ batch.items,
        first.key ≠ second.key ∧
          (first.index, first.documentId) = (second.index, second.documentId) := by
  refine ⟨_, rfl, rfl, _, .head _, ?_⟩
  exact ⟨_, .head _, _, .tail _ (.head _), by decide, rfl⟩

end Library

end Reindex
