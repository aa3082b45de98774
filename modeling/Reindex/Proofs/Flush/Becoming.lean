import Reindex.Proofs.Flush.Items
import Mathlib.Data.List.Nodup

/-!
# What becomes of an operation

Every operation that is carried out becomes a work item or a failure, and which one is said
by the operation, the persistence layer and the extractor together. An operation that is no
deletion needs the entity: the instance that was supplied, or else the entity as it is
loaded now. If it is gone its document is deleted, and otherwise the document is written, by
the operation that is pending. What fails, fails for one entity: the loading or the
extraction, and the items of the other entities are made as if it were not there.
-/

namespace Reindex

/-- The operation by which a document is written, if it is to be written. -/
def OperationKind.write? : OperationKind → Option WorkOperation
  | .add => some .add
  | .update | .addOrUpdate => some .update
  | .delete | .noop => none

/-- The entity that a request loads, if it loads one. -/
def Request.loaded? : Request → Option EntityKey
  | .load key => some key
  | .roots _ _ | .extract _ => none

namespace PlanEntry

/-- Whether the entity is to be loaded: it is not deleted and no instance was supplied. -/
def isLoaded (entry : PlanEntry) : Bool :=
  entry.operation.kind != .delete && entry.operation.carried?.isNone

/-- An entity is there to be written: the instance that was supplied, or else the one that is
loaded. -/
def Provides (services : Services) (entry : PlanEntry) (entity : Instance) : Prop :=
  entry.operation.carried? = some entity ∨
    (entry.isLoaded = true ∧ services.entityLoader entry.key = .ok (some entity))

/-- What is to be done to the document can be said. -/
inductive Translatable (services : Services) (type : MappedType) (entry : PlanEntry) : Prop
  /-- It is to be deleted. -/
  | deleted (deletes : entry.operation.kind = .delete)
  /-- The entity had to be loaded and is gone. -/
  | gone (loads : entry.isLoaded = true) (missing : services.entityLoader entry.key = .ok none)
  /-- Of an entity that is there the document is extracted. -/
  | read {entity : Instance} {document : Fields} (provides : entry.Provides services entity)
      (extracted : services.extractor entity type = .ok document)

end PlanEntry

namespace Items

/-- The item that deletes a document: of the entity with this key, in this index, and with no
document of its own. -/
def deletedItem (key : EntityKey) (index : String) : WorkItem :=
  { key, index, documentId := key.id.documentId, operation := .delete, document := none }

/-- No other item is made to delete. -/
theorem deleteItem_eq (key : EntityKey) (index : String) :
    deleteItem key index = deletedItem key index := rfl

/-- The item that writes a given document. -/
def writtenItem (key : EntityKey) (index : String) (operation : WorkOperation)
    (document : Fields) : WorkItem :=
  { key, index, documentId := key.id.documentId, operation, document := some document }

/-- What is found of an entity: the instance that was supplied, or what the persistence layer
answers. -/
def provision (services : Services) (entry : PlanEntry) : Except String (Option Instance) :=
  match entry.operation.carried? with
  | some entity => .ok (some entity)
  | none => services.entityLoader entry.key

/-- What becomes of an operation that writes, by what is found of the entity. -/
def outcome (services : Services) (type : MappedType) (key : EntityKey) (index : String)
    (operation : WorkOperation) : Except String (Option Instance) → Except FailureCause WorkItem
  | .error text => .error (.loader text)
  | .ok none => .ok (deletedItem key index)
  | .ok (some entity) =>
    match services.extractor entity type with
    | .ok document => .ok (writtenItem key index operation document)
    | .error text => .error (.extraction text)

section Outcome

variable {services : Services} {type : MappedType} {key : EntityKey} {index text : String}
  {operation : WorkOperation} {document : Fields} {found : Except String (Option Instance)}

/-- It deletes the document exactly if the entity is gone, -/
theorem outcome_eq_delete_iff :
    outcome services type key index operation found = .ok (deletedItem key index) ↔
      found = .ok none := by
  rcases found with text | ⟨_ | entity⟩
  · simp [outcome]
  · simp [outcome]
  · cases extracted : services.extractor entity type <;>
      simp [outcome, extracted, writtenItem, deletedItem]

/-- it writes a document exactly if that was extracted, -/
theorem outcome_eq_written_iff {expected : WorkOperation} :
    outcome services type key index operation found =
        .ok (writtenItem key index expected document) ↔
      operation = expected ∧
        ∃ entity, found = .ok (some entity) ∧ services.extractor entity type = .ok document := by
  rcases found with text | ⟨_ | entity⟩
  · simp [outcome]
  · simp [outcome, writtenItem, deletedItem]
  · cases extracted : services.extractor entity type <;> simp [outcome, extracted, writtenItem]

/-- it fails by the persistence layer exactly if that fails, -/
theorem outcome_eq_loader_iff :
    outcome services type key index operation found = .error (.loader text) ↔
      found = .error text := by
  rcases found with text | ⟨_ | entity⟩
  · simp [outcome]
  · simp [outcome]
  · cases extracted : services.extractor entity type <;> simp [outcome, extracted]

/-- and by the extractor exactly if that fails. -/
theorem outcome_eq_extraction_iff :
    outcome services type key index operation found = .error (.extraction text) ↔
      ∃ entity, found = .ok (some entity) ∧ services.extractor entity type = .error text := by
  rcases found with text | ⟨_ | entity⟩
  · simp [outcome]
  · simp [outcome]
  · cases extracted : services.extractor entity type <;> simp [outcome, extracted]

/-- Nothing else becomes of it. -/
theorem outcome_cases (services : Services) (type : MappedType) (key : EntityKey) (index : String)
    (operation : WorkOperation) (found : Except String (Option Instance)) :
    (outcome services type key index operation found = .ok (deletedItem key index) ∨
        ∃ document, outcome services type key index operation found =
          .ok (writtenItem key index operation document)) ∨
      ∃ text, outcome services type key index operation found = .error (.loader text) ∨
        outcome services type key index operation found = .error (.extraction text) := by
  rcases found with text | ⟨_ | entity⟩
  · exact .inr ⟨text, .inl rfl⟩
  · exact .inl (.inl rfl)
  · cases extracted : services.extractor entity type with
    | ok document => exact .inl (.inr ⟨document, by rw [outcome, extracted]⟩)
    | error text => exact .inr ⟨text, .inr (by rw [outcome, extracted])⟩

end Outcome

variable {services : Services} {registry : Registry} {entry : PlanEntry} {type : MappedType}
  {index text : String} {entity : Instance} {operation : WorkOperation} {document : Fields}

/-- What is carried out deletes a document or writes one. -/
theorem deletes_or_writes (live : entry.operation.kind ≠ .noop) :
    entry.operation.kind = .delete ∨
      (entry.operation.kind ≠ .delete ∧
        ∃ operation, entry.operation.kind.write? = some operation) := by
  cases pending : entry.operation with
  | delete => exact .inl rfl
  | noop => exact absurd (by rw [pending]; rfl) live
  | add | update | addOrUpdate => exact .inr ⟨by simp [Operation.kind], _, rfl⟩

/-- There is one operation of the kind of a deletion. -/
theorem operation_eq_delete (deletes : entry.operation.kind = .delete) :
    entry.operation = .delete := by
  cases pending : entry.operation with
  | delete => rfl
  | add | update | addOrUpdate | noop => rw [pending] at deletes; cases deletes

/-- A deletion becomes an item without a document. -/
theorem itemOf_of_delete (declared : registry.get? entry.key.type = some type)
    (indexed : type.index = some index) (deletes : entry.operation.kind = .delete) :
    itemOf services registry entry = (.ok (deletedItem entry.key index), []) := by
  rw [itemOf, declared]
  simp only [indexed, operation_eq_delete deletes, deleteItem_eq]

/-- Any other operation becomes what is found of its entity. -/
theorem itemOf_of_write (declared : registry.get? entry.key.type = some type)
    (indexed : type.index = some index) (writes : entry.operation.kind.write? = some operation) :
    (itemOf services registry entry).1 =
      outcome services type entry.key index operation (provision services entry) := by
  have carried (operation : WorkOperation) (supplied : Option Instance) :
      (writeCarried services type entry.key index operation supplied).1 =
        outcome services type entry.key index operation
          (match supplied with
          | some entity => .ok (some entity)
          | none => services.entityLoader entry.key) := by
    cases supplied with
    | some entity => rfl
    | none =>
      rw [writeCarried]
      rcases services.entityLoader entry.key with text | ⟨_ | entity⟩ <;> rfl
  rw [itemOf, declared]
  simp only [indexed, provision]
  cases pending : entry.operation with
  | add supplied | update supplied | addOrUpdate supplied =>
    rw [pending] at writes
    cases writes
    exact carried _ supplied
  | delete | noop => rw [pending] at writes; cases writes

/-- A deletion carries nothing and loads nothing, so it provides no entity. -/
theorem not_provides_of_delete (deletes : entry.operation.kind = .delete) :
    entry.isLoaded = false ∧ ¬ entry.Provides services entity := by
  have unloaded : entry.isLoaded = false := by simp [PlanEntry.isLoaded, deletes]
  have nothing : entry.operation.carried? = none := by rw [operation_eq_delete deletes]; rfl
  exact ⟨unloaded, by simp [PlanEntry.Provides, unloaded, nothing]⟩

/-- Any other operation carries an instance, or loads the entity. -/
theorem provision_cases (services : Services) (undeleted : entry.operation.kind ≠ .delete) :
    (∃ entity, entry.operation.carried? = some entity ∧ entry.isLoaded = false ∧
        provision services entry = .ok (some entity)) ∨
      (entry.operation.carried? = none ∧ entry.isLoaded = true ∧
        provision services entry = services.entityLoader entry.key) := by
  cases carried : entry.operation.carried? with
  | some entity =>
    exact .inl ⟨entity, rfl, by simp [PlanEntry.isLoaded, carried], by simp [provision, carried]⟩
  | none =>
    exact .inr ⟨rfl, by simp [PlanEntry.isLoaded, carried, undeleted],
      by simp [provision, carried]⟩

/-- So it finds what is provided, -/
theorem provision_eq_some_iff (undeleted : entry.operation.kind ≠ .delete) :
    provision services entry = .ok (some entity) ↔ entry.Provides services entity := by
  rcases provision_cases services undeleted with
    ⟨_, carried, loaded, found⟩ | ⟨carried, loaded, found⟩
  · simp [PlanEntry.Provides, carried, loaded, found]
  · simp [PlanEntry.Provides, carried, loaded, found]

/-- and any other answer exactly if the entity is loaded and the persistence layer gives it:
that the entity is gone, or an error. -/
theorem provision_eq_iff {answer : Except String (Option Instance)}
    (undeleted : entry.operation.kind ≠ .delete) (missing : ∀ entity, answer ≠ .ok (some entity)) :
    provision services entry = answer ↔
      entry.isLoaded = true ∧ services.entityLoader entry.key = answer := by
  rcases provision_cases services undeleted with ⟨entity, _, loaded, found⟩ | ⟨_, loaded, found⟩
  · simp [loaded, found, Ne.symm (missing entity)]
  · simp [loaded, found]

section Becoming

variable (declared : registry.get? entry.key.type = some type) (indexed : type.index = some index)
  (live : entry.operation.kind ≠ .noop)

include declared indexed live

/-- A document is deleted exactly if that is the operation, or the entity is gone. -/
theorem itemOf_eq_delete_iff :
    (itemOf services registry entry).1 = .ok (deletedItem entry.key index) ↔
      entry.operation.kind = .delete ∨
        (entry.isLoaded = true ∧ services.entityLoader entry.key = .ok none) := by
  rcases deletes_or_writes live with deletes | ⟨undeleted, operation, writes⟩
  · simp [itemOf_of_delete declared indexed deletes, deletes]
  · rw [itemOf_of_write declared indexed writes, outcome_eq_delete_iff,
      provision_eq_iff undeleted (by simp), or_iff_right undeleted]

/-- A document is written exactly if the operation writes and the document of an entity that
is there could be extracted. -/
theorem itemOf_eq_written_iff :
    (itemOf services registry entry).1 = .ok (writtenItem entry.key index operation document) ↔
      entry.operation.kind.write? = some operation ∧
        ∃ entity, entry.Provides services entity ∧
          services.extractor entity type = .ok document := by
  rcases deletes_or_writes live with deletes | ⟨undeleted, other, writes⟩
  · simp [itemOf_of_delete declared indexed deletes, not_provides_of_delete deletes, writtenItem,
      deletedItem]
  · simp only [itemOf_of_write declared indexed writes, outcome_eq_written_iff,
      provision_eq_some_iff undeleted, writes, Option.some.injEq]

/-- The persistence layer fails an operation exactly if the entity is loaded and that fails. -/
theorem itemOf_eq_loader_iff :
    (itemOf services registry entry).1 = .error (.loader text) ↔
      entry.isLoaded = true ∧ services.entityLoader entry.key = .error text := by
  rcases deletes_or_writes live with deletes | ⟨undeleted, operation, writes⟩
  · have unloaded : entry.isLoaded = false := by simp [PlanEntry.isLoaded, deletes]
    simp [itemOf_of_delete declared indexed deletes, unloaded]
  · rw [itemOf_of_write declared indexed writes, outcome_eq_loader_iff,
      provision_eq_iff undeleted (by simp)]

/-- The extractor fails an operation exactly if it fails for an entity that is there. -/
theorem itemOf_eq_extraction_iff :
    (itemOf services registry entry).1 = .error (.extraction text) ↔
      ∃ entity, entry.Provides services entity ∧
        services.extractor entity type = .error text := by
  rcases deletes_or_writes live with deletes | ⟨undeleted, operation, writes⟩
  · simp [itemOf_of_delete declared indexed deletes, not_provides_of_delete deletes]
  · simp only [itemOf_of_write declared indexed writes, outcome_eq_extraction_iff,
      provision_eq_some_iff undeleted]

/-- An operation becomes an item that deletes or writes, or fails in one of these ways. -/
theorem itemOf_cases (services : Services) :
    ((itemOf services registry entry).1 = .ok (deletedItem entry.key index) ∨
        ∃ operation document, (itemOf services registry entry).1 =
          .ok (writtenItem entry.key index operation document)) ∨
      ∃ text, (itemOf services registry entry).1 = .error (.loader text) ∨
        (itemOf services registry entry).1 = .error (.extraction text) := by
  rcases deletes_or_writes live with deletes | ⟨_, operation, writes⟩
  · exact .inl (.inl (by rw [itemOf_of_delete declared indexed deletes]))
  · rw [itemOf_of_write declared indexed writes]
    rcases outcome_cases services type entry.key index operation (provision services entry) with
      (deleted | ⟨document, written⟩) | failed
    · exact .inl (.inl deleted)
    · exact .inl (.inr ⟨operation, document, written⟩)
    · exact .inr failed

/-- There is an item exactly if something can be said of the document. -/
theorem exists_itemOf_iff :
    (∃ item, (itemOf services registry entry).1 = .ok item) ↔ entry.Translatable services type := by
  constructor
  · rintro ⟨item, made⟩
    rcases itemOf_cases declared indexed live services with
      (deleted | ⟨operation, document, written⟩) | ⟨text, failed | failed⟩
    · rcases (itemOf_eq_delete_iff declared indexed live).1 deleted with deletes | gone
      · exact .deleted deletes
      · exact .gone gone.1 gone.2
    · obtain ⟨-, entity, provides, extracted⟩ :=
        (itemOf_eq_written_iff declared indexed live).1 written
      exact .read provides extracted
    · cases made.symm.trans failed
    · cases made.symm.trans failed
  · intro translatable
    cases translatable with
    | deleted deletes =>
      exact ⟨_, (itemOf_eq_delete_iff declared indexed live).2 (.inl deletes)⟩
    | gone loads missing =>
      exact ⟨_, (itemOf_eq_delete_iff declared indexed live).2 (.inr ⟨loads, missing⟩)⟩
    | read provides extracted =>
      rcases deletes_or_writes live with deletes | ⟨-, operation, writes⟩
      · exact absurd provides (not_provides_of_delete deletes).2
      · exact ⟨_, (itemOf_eq_written_iff declared indexed live).2
          ⟨writes, _, provides, extracted⟩⟩

/-- To find its item the entity is loaded, if it is to be. -/
theorem loaded_itemOf :
    (itemOf services registry entry).2.filterMap Request.loaded? =
      if entry.isLoaded then [entry.key] else [] := by
  have carried (operation : WorkOperation) (supplied : Option Instance) :
      (writeCarried services type entry.key index operation supplied).2.filterMap
        Request.loaded? = if supplied.isNone then [entry.key] else [] := by
    cases supplied with
    | some entity => rfl
    | none =>
      rw [writeCarried]
      rcases services.entityLoader entry.key with text | ⟨_ | entity⟩ <;> rfl
  rw [itemOf, declared, PlanEntry.isLoaded]
  simp only [indexed]
  cases pending : entry.operation with
  | add supplied | update supplied | addOrUpdate supplied => exact carried _ supplied
  | delete => rfl
  | noop => exact absurd (by rw [pending]; rfl) live

end Becoming

variable {operations : List PlanEntry} {item : WorkItem} {cause : FailureCause}

/-- Where no key comes twice, an item with the key of an operation is its own. -/
theorem mem_itemsOf_iff_of_key (distinct : (operations.map PlanEntry.key).Nodup)
    (member : entry ∈ operations) (same : item.key = entry.key) :
    item ∈ (itemsOf services registry operations).1.1 ↔
      (itemOf services registry entry).1 = .ok item := by
  rw [mem_itemsOf]
  constructor
  · rintro ⟨other, listed, made⟩
    have shared : other.key = entry.key := (key_itemOf made).symm.trans same
    exact List.inj_on_of_nodup_map distinct listed member shared ▸ made
  · exact fun made => ⟨entry, member, made⟩

/-- So is a failure with its key. -/
theorem mem_failuresOf_iff_of_key (distinct : (operations.map PlanEntry.key).Nodup)
    (member : entry ∈ operations) :
    ⟨[entry.key], cause⟩ ∈ (itemsOf services registry operations).1.2 ↔
      (itemOf services registry entry).1 = .error cause := by
  rw [mem_failuresOf]
  constructor
  · rintro ⟨other, listed, found, made, same⟩
    obtain ⟨keys, rfl⟩ := Failure.mk.inj same
    have alone := List.inj_on_of_nodup_map distinct listed member (List.singleton_inj.1 keys).symm
    exact alone ▸ made
  · exact fun made => ⟨entry, member, cause, made, rfl⟩

/-- What becomes of an operation among the items and the failures of several, if its type has
an index. -/
structure Becomes (services : Services) (type : MappedType) (index : String) (entry : PlanEntry)
    (items : List WorkItem) (failures : List Failure) : Prop where
  /-- Its document is deleted exactly if that is the operation, or the entity had to be loaded
  and is gone. -/
  deleted : deletedItem entry.key index ∈ items ↔
    entry.operation.kind = .delete ∨
      (entry.isLoaded = true ∧ services.entityLoader entry.key = .ok none)
  /-- A document is written exactly by the operation that is pending, and if it was extracted
  from the supplied or the loaded instance. -/
  written : ∀ operation document, writtenItem entry.key index operation document ∈ items ↔
    entry.operation.kind.write? = some operation ∧
      ∃ entity, entry.Provides services entity ∧ services.extractor entity type = .ok document
  /-- Either item is for the document of the key in the index of the type; it has no other. -/
  items : ∀ item ∈ items, item.key = entry.key → item = deletedItem entry.key index ∨
    ∃ operation document, item = writtenItem entry.key index operation document
  /-- It fails exactly if the entity had to be loaded and could not be, -/
  unloaded : ∀ text, ⟨[entry.key], .loader text⟩ ∈ failures ↔
    entry.isLoaded = true ∧ services.entityLoader entry.key = .error text
  /-- or if nothing could be extracted from the supplied or the loaded instance. -/
  unread : ∀ text, ⟨[entry.key], .extraction text⟩ ∈ failures ↔
    ∃ entity, entry.Provides services entity ∧ services.extractor entity type = .error text
  /-- Either failure is of its key alone, and none other is of its key. -/
  failures : ∀ failure ∈ failures, entry.key ∈ failure.keys → ∃ text,
    failure = ⟨[entry.key], .loader text⟩ ∨ failure = ⟨[entry.key], .extraction text⟩

/-- This becomes of every operation that is carried out. -/
theorem becomes (distinct : (operations.map PlanEntry.key).Nodup) (member : entry ∈ operations)
    (live : entry.operation.kind ≠ .noop) (declared : registry.get? entry.key.type = some type)
    (indexed : type.index = some index) :
    Becomes services type index entry (itemsOf services registry operations).1.1
      (itemsOf services registry operations).1.2 where
  deleted := (mem_itemsOf_iff_of_key distinct member rfl).trans
    (itemOf_eq_delete_iff declared indexed live)
  written operation document := (mem_itemsOf_iff_of_key distinct member rfl).trans
    (itemOf_eq_written_iff declared indexed live)
  items item listed same := by
    have made := (mem_itemsOf_iff_of_key distinct member same).1 listed
    rcases itemOf_cases declared indexed live services with
      (deleted | ⟨operation, document, written⟩) | ⟨text, failed | failed⟩
    · exact .inl (Except.ok.inj (made.symm.trans deleted))
    · exact .inr ⟨operation, document, Except.ok.inj (made.symm.trans written)⟩
    · cases made.symm.trans failed
    · cases made.symm.trans failed
  unloaded text := (mem_failuresOf_iff_of_key distinct member).trans
    (itemOf_eq_loader_iff declared indexed live)
  unread text := (mem_failuresOf_iff_of_key distinct member).trans
    (itemOf_eq_extraction_iff declared indexed live)
  failures failure listed own := by
    obtain ⟨other, member', cause, made, rfl⟩ := mem_failuresOf.1 listed
    obtain rfl := List.inj_on_of_nodup_map distinct member member' (List.mem_singleton.1 own)
    rcases itemOf_cases declared indexed live services with
      (deleted | ⟨operation, document, written⟩) | ⟨text, failed | failed⟩
    · cases made.symm.trans deleted
    · cases made.symm.trans written
    · exact ⟨text, .inl (by rw [Except.error.inj (made.symm.trans failed)])⟩
    · exact ⟨text, .inr (by rw [Except.error.inj (made.symm.trans failed)])⟩

/-- The entities are loaded that have to be, one after the other. -/
theorem loaded_itemsOf (live : ∀ entry ∈ operations, entry.operation.kind ≠ .noop)
    (indexed : ∀ entry ∈ operations, ∃ type index,
      registry.get? entry.key.type = some type ∧ type.index = some index) :
    (itemsOf services registry operations).2.filterMap Request.loaded? =
      (operations.filter PlanEntry.isLoaded).map PlanEntry.key := by
  induction operations with
  | nil => rfl
  | cons entry rest inductionHypothesis =>
    obtain ⟨liveEntry, liveRest⟩ := List.forall_mem_cons.1 live
    obtain ⟨⟨type, index, declared, located⟩, indexedRest⟩ := List.forall_mem_cons.1 indexed
    rw [asked_itemsOf_cons, List.filterMap_append, loaded_itemOf declared located liveEntry,
      inductionHypothesis liveRest indexedRest, List.filter_cons]
    split <;> simp

/-- Collaborators answer alike for an operation: they load the same entity, if it is to be
loaded, and extract the same from what is there of it. -/
structure Alike (services other : Services) (entry : PlanEntry) : Prop where
  loads : entry.isLoaded = true →
    other.entityLoader entry.key = services.entityLoader entry.key
  extracts : ∀ entity type, entry.Provides services entity →
    other.extractor entity type = services.extractor entity type

/-- Then the operation becomes the same. -/
theorem itemOf_congr {other : Services} (alike : Alike services other entry) :
    itemOf other registry entry = itemOf services registry entry := by
  have carried (type : MappedType) (index : String) (operation : WorkOperation)
      (supplied : Option Instance) (carries : entry.operation.carried? = supplied)
      (undeleted : entry.operation.kind ≠ .delete) :
      writeCarried other type entry.key index operation supplied =
        writeCarried services type entry.key index operation supplied := by
    cases supplied with
    | some entity => simp only [writeCarried, writeItem, alike.extracts entity type (.inl carries)]
    | none =>
      have loads : entry.isLoaded = true := by simp [PlanEntry.isLoaded, carries, undeleted]
      rw [writeCarried, writeCarried, alike.loads loads]
      rcases answered : services.entityLoader entry.key with text | ⟨_ | entity⟩
      · rfl
      · rfl
      · simp only [writeItem, alike.extracts entity type (.inr ⟨loads, answered⟩)]
  rw [itemOf, itemOf]
  cases registry.get? entry.key.type with
  | none => rfl
  | some type =>
    cases located : type.index with
    | none => simp only [located]
    | some index =>
      simp only [located]
      cases pending : entry.operation with
      | add supplied | update supplied | addOrUpdate supplied =>
        have carries : entry.operation.carried? = supplied := by rw [pending]; rfl
        exact carried type index _ supplied carries (by simp [pending, Operation.kind])
      | delete | noop => rfl

/-- What becomes of operations depends on them alone. -/
theorem itemsOf_congr {other : Services}
    (alike : ∀ entry ∈ operations, Alike services other entry) :
    itemsOf other registry operations = itemsOf services registry operations := by
  induction operations with
  | nil => rfl
  | cons entry rest inductionHypothesis =>
    obtain ⟨first, later⟩ := List.forall_mem_cons.1 alike
    rw [itemsOf, itemsOf, itemOf_congr first, inductionHypothesis later]

/-- The items and the failures of other entities are made as if an operation were not there. -/
theorem itemsOf_apart (key : EntityKey) :
    (itemsOf services registry operations).1.1.filter (·.key != key) =
        (itemsOf services registry (operations.filter (·.key != key))).1.1 ∧
      (itemsOf services registry operations).1.2.filter (·.keys != [key]) =
        (itemsOf services registry (operations.filter (·.key != key))).1.2 := by
  induction operations with
  | nil => exact ⟨rfl, rfl⟩
  | cons entry rest inductionHypothesis =>
    obtain ⟨items, failures⟩ := inductionHypothesis
    by_cases own : entry.key = key
    · cases made : (itemOf services registry entry).1 with
      | ok item => simp [itemsOf_cons_ok made, key_itemOf made, own, items, failures]
      | error cause => simp [itemsOf_cons_error made, own, items, failures]
    · cases made : (itemOf services registry entry).1 with
      | ok item => simp [itemsOf_cons_ok made, key_itemOf made, own, items, failures]
      | error cause => simp [itemsOf_cons_error made, own, items, failures]

end Items

end Reindex
