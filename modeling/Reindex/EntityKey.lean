import Reindex.EntityId

/-!
# Keys of entities

A key is the name of a mapped type with an identifier; it is what pending work
is gathered by. Keys are ordered by type name and then by identifier.
-/

namespace Reindex

/-- The name of a mapped type. -/
abbrev TypeName := String

/-- An entity of a mapped type. -/
structure EntityKey where
  type : TypeName
  id : EntityId
  deriving DecidableEq

namespace EntityKey

/-- By type name, then by identifier. -/
def order (a b : EntityKey) : Ordering := (compare a.type b.type).then (compare a.id b.id)

instance : Ord EntityKey := ⟨order⟩

/-- The type name, a number sign and the document id. -/
def render (key : EntityKey) : String := key.type ++ "#" ++ key.id.documentId

/-- The serialized form. -/
def toJson (key : EntityKey) : Json :=
  .object [("id", key.id.toJson), ("type_id", .text key.type)]

/-- The key that a value serializes: an object with both members, other members
being of no account, or a pair in the order type, identifier. -/
def ofJson? : Json → Option EntityKey
  | .object members =>
    match Fields.get? members "type_id", Fields.get? members "id" with
    | some (.text type), some id => (EntityId.ofJson? id).map (⟨type, ·⟩)
    | _, _ => none
  | .array [.text type, id] => (EntityId.ofJson? id).map (⟨type, ·⟩)
  | _ => none

end EntityKey

end Reindex
