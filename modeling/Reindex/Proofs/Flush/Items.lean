import Reindex.Flush.Items
import Mathlib.Data.List.Basic

/-!
# Every operation is translated or fails

The operations of a flush are parted by whether a work item could be made of them.
Both sides keep the order of the operations, an item keeps the key of its operation
and a failure lists that key alone. So the keys of the items and the keys of the
failures are the keys of the operations, each on one side. An item is for the document
of its key in the index of the key's type, and nobody is asked for roots to make it.
-/

namespace Reindex.Items

variable {services : Services} {registry : Registry}

/-- Whether an operation has a work item. -/
def translates (services : Services) (registry : Registry) (entry : PlanEntry) : Bool :=
  (itemOf services registry entry).1.isOk

/-- An item is for the document of an entity in an index. -/
structure Addresses (item : WorkItem) (entity : EntityKey) (place : String) : Prop where
  key : item.key = entity
  index : item.index = place
  documentId : item.documentId = entity.id.documentId

/-- A deletion is for the document of its key. -/
theorem addresses_deleteItem (key : EntityKey) (index : String) :
    Addresses (deleteItem key index) key index := ⟨rfl, rfl, rfl⟩

/-- A written document is that of the key. -/
theorem addresses_writeItem {type : MappedType} {key : EntityKey} {index : String}
    {operation : WorkOperation} {entity : Instance} {item : WorkItem}
    (made : writeItem services type key index operation entity = .ok item) :
    Addresses item key index := by
  rw [writeItem] at made
  split at made
  · cases made
    exact ⟨rfl, rfl, rfl⟩
  · cases made

/-- So is the document of the carried or of the loaded instance. -/
theorem addresses_writeCarried {type : MappedType} {key : EntityKey} {index : String}
    {operation : WorkOperation} {carried : Option Instance} {item : WorkItem}
    (made : (writeCarried services type key index operation carried).1 = .ok item) :
    Addresses item key index := by
  unfold writeCarried at made
  split at made
  · exact addresses_writeItem made
  · split at made
    · exact addresses_writeItem made
    · cases made
      exact addresses_deleteItem key index
    · cases made

/-- The item of an operation is for the document of its key in the index of its type. -/
theorem addresses_itemOf {entry : PlanEntry} {item : WorkItem}
    (made : (itemOf services registry entry).1 = .ok item) :
    ∃ type index, registry.get? entry.key.type = some type ∧ type.index = some index ∧
      Addresses item entry.key index := by
  rw [itemOf] at made
  split at made
  · cases made
  · rename_i type declared
    split at made
    · cases made
    · rename_i index indexed
      refine ⟨type, index, declared, indexed, ?_⟩
      split at made
      · exact addresses_writeCarried made
      · exact addresses_writeCarried made
      · exact addresses_writeCarried made
      · cases made
        exact addresses_deleteItem entry.key index
      · cases made
        exact addresses_deleteItem entry.key index

/-- The item of an operation has its key. -/
theorem key_itemOf {entry : PlanEntry} {item : WorkItem}
    (made : (itemOf services registry entry).1 = .ok item) : item.key = entry.key := by
  obtain ⟨_, _, _, _, addressed⟩ := addresses_itemOf made
  exact addressed.key

/-- To find the item of an operation nobody is asked for roots. -/
theorem roots_notMem_itemOf {entry : PlanEntry} {leaf : EntityKey} {path : ContainmentPath} :
    .roots leaf path ∉ (itemOf services registry entry).2 := by
  have carried (type : MappedType) (index : String) (operation : WorkOperation)
      (carried : Option Instance) :
      .roots leaf path ∉ (writeCarried services type entry.key index operation carried).2 := by
    unfold writeCarried
    split
    · simp
    · split <;> simp
  rw [itemOf]
  split
  · simp
  · split
    · simp
    · split
      · exact carried _ _ _ _
      · exact carried _ _ _ _
      · exact carried _ _ _ _
      · simp
      · simp

/-- For several operations is asked what is asked for one after the other. -/
theorem asked_itemsOf_cons (entry : PlanEntry) (rest : List PlanEntry) :
    (itemsOf services registry (entry :: rest)).2 =
      (itemOf services registry entry).2 ++ (itemsOf services registry rest).2 := by
  cases made : (itemOf services registry entry).1 <;> simp only [itemsOf, made]

/-- So nobody is asked for roots to find their items. -/
theorem roots_notMem_itemsOf {entries : List PlanEntry} {leaf : EntityKey}
    {path : ContainmentPath} : .roots leaf path ∉ (itemsOf services registry entries).2 := by
  induction entries with
  | nil => simp [itemsOf]
  | cons entry rest inductionHypothesis =>
    rw [asked_itemsOf_cons, List.mem_append]
    exact not_or.2 ⟨roots_notMem_itemOf, inductionHypothesis⟩

/-- An operation with an item puts it in front of the items of the others. -/
theorem itemsOf_cons_ok {entry : PlanEntry} {rest : List PlanEntry} {item : WorkItem}
    (made : (itemOf services registry entry).1 = .ok item) :
    (itemsOf services registry (entry :: rest)).1 =
      (item :: (itemsOf services registry rest).1.1, (itemsOf services registry rest).1.2) := by
  simp only [itemsOf, made]

/-- An operation without one puts its failure in front of theirs. -/
theorem itemsOf_cons_error {entry : PlanEntry} {rest : List PlanEntry} {cause : FailureCause}
    (failed : (itemOf services registry entry).1 = .error cause) :
    (itemsOf services registry (entry :: rest)).1 =
      ((itemsOf services registry rest).1.1,
        ⟨[entry.key], cause⟩ :: (itemsOf services registry rest).1.2) := by
  simp only [itemsOf, failed]

/-- The items are those of the operations that have one. -/
theorem mem_itemsOf {entries : List PlanEntry} {item : WorkItem} :
    item ∈ (itemsOf services registry entries).1.1 ↔
      ∃ entry ∈ entries, (itemOf services registry entry).1 = .ok item := by
  induction entries with
  | nil => simp [itemsOf]
  | cons entry rest inductionHypothesis =>
    cases made : (itemOf services registry entry).1 with
    | ok found => simp [itemsOf_cons_ok made, made, inductionHypothesis, eq_comm]
    | error cause => simp [itemsOf_cons_error made, made, inductionHypothesis]

/-- The failures are those of the others, each with its own key alone. -/
theorem mem_failuresOf {entries : List PlanEntry} {failure : Failure} :
    failure ∈ (itemsOf services registry entries).1.2 ↔
      ∃ entry ∈ entries, ∃ cause, (itemOf services registry entry).1 = .error cause ∧
        failure = ⟨[entry.key], cause⟩ := by
  induction entries with
  | nil => simp [itemsOf]
  | cons entry rest inductionHypothesis =>
    cases made : (itemOf services registry entry).1 with
    | ok found => simp [itemsOf_cons_ok made, made, inductionHypothesis]
    | error cause => simp [itemsOf_cons_error made, made, inductionHypothesis]

/-- The keys of the items are those of the operations that have one, and the keys
that fail are those of the others, both in the order of the operations. -/
theorem keys_itemsOf (entries : List PlanEntry) :
    (itemsOf services registry entries).1.1.map WorkItem.key =
        (entries.filter (translates services registry)).map PlanEntry.key ∧
      Failure.allKeys (itemsOf services registry entries).1.2 =
        (entries.filter fun entry => !translates services registry entry).map PlanEntry.key := by
  induction entries with
  | nil => exact ⟨rfl, rfl⟩
  | cons entry rest inductionHypothesis =>
    obtain ⟨translatedRest, failedRest⟩ := inductionHypothesis
    rw [Failure.allKeys] at failedRest
    cases made : (itemOf services registry entry).1 with
    | ok item =>
      have translated : translates services registry entry = true := by
        rw [translates, made]
        rfl
      rw [itemsOf_cons_ok made, Failure.allKeys]
      simp [translated, translatedRest, failedRest, key_itemOf made]
    | error cause =>
      have failed : translates services registry entry = false := by
        rw [translates, made]
        rfl
      rw [itemsOf_cons_error made, Failure.allKeys]
      simp [failed, translatedRest, failedRest]

end Reindex.Items
