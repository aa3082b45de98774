import Reindex.Flush.Services
import Reindex.Plan

/-!
# The work items of operations

A deletion needs only the key. Any other operation needs the document of the
entity: of the carried instance, or else of the entity loaded now; an entity that
no longer exists has its document deleted. An operation whose item cannot be
made fails its own key and no other.
-/

namespace Reindex.Items

/-- The item that deletes a document. -/
def deleteItem (key : EntityKey) (index : String) : WorkItem :=
  { key, index, documentId := key.id.documentId, operation := .delete, document := none }

/-- The item that writes the document of an entity. -/
def writeItem (services : Services) (type : MappedType) (key : EntityKey) (index : String)
    (operation : WorkOperation) (entity : Instance) : Except FailureCause WorkItem :=
  match services.extractor entity type with
  | .ok document =>
    .ok { key, index, documentId := key.id.documentId, operation, document := some document }
  | .error text => .error (.extraction text)

/-- The item that writes the document of the carried instance, or of the entity
as it is loaded now. -/
def writeCarried (services : Services) (type : MappedType) (key : EntityKey) (index : String)
    (operation : WorkOperation) (carried : Option Instance) :
    Except FailureCause WorkItem × List Request :=
  match carried with
  | some entity => (writeItem services type key index operation entity, [.extract key])
  | none =>
    match services.entityLoader key with
    | .ok (some entity) =>
      (writeItem services type key index operation entity, [.load key, .extract key])
    | .ok none => (.ok (deleteItem key index), [.load key])
    | .error text => (.error (.loader text), [.load key])

/-- The work item of an operation, and what was asked to find it. -/
def itemOf (services : Services) (registry : Registry) (entry : PlanEntry) :
    Except FailureCause WorkItem × List Request :=
  let key := entry.key
  match registry.get? key.type with
  | none => (.error (.extraction ("type '" ++ key.type ++ "' is not mapped")), [])
  | some type =>
    match type.index with
    | none => (.error (.extraction ("type '" ++ key.type ++ "' has no index")), [])
    | some index =>
      match entry.operation with
      | .add carried => writeCarried services type key index .add carried
      | .update carried | .addOrUpdate carried =>
        writeCarried services type key index .update carried
      | .delete | .noop => (.ok (deleteItem key index), [])

/-- The items and failures of a list of operations, each in the order of the
operations. -/
def itemsOf (services : Services) (registry : Registry) :
    List PlanEntry → (List WorkItem × List Failure) × List Request
  | [] => (([], []), [])
  | entry :: rest =>
    let (made, asked) := itemOf services registry entry
    let ((items, failures), later) := itemsOf services registry rest
    match made with
    | .ok item => ((item :: items, failures), asked ++ later)
    | .error cause => ((items, ⟨[entry.key], cause⟩ :: failures), asked ++ later)

end Reindex.Items
