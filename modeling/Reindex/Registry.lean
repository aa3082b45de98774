import Reindex.Error
import Reindex.Instance
import Reindex.ReadSet
import Reindex.Text.Escaped

/-!
# Mapped types

A type is mapped with an index of its own, or without one when its entities only
appear inside the documents of others. Its declaration says how an entity is
identified, which changes its own document depends on, and which associated
entities the document embeds.

A registry is a sequence of declarations that fit together: no type, entity name
or index twice, and no reference to a type that is not declared, be it earlier
or later. Declarations are looked up by type or by entity name and listed in the
order in which they were made.
-/

namespace Reindex

/-- How the identifier of an entity is found. -/
inductive IdentifierRule where
  | property (name : String)
  /-- The named properties, in order, as the parts of a composite. -/
  | composite (names : List String)
  | custom (identify : Instance → Option EntityId)

/-- The text of a rule. A custom function does not show. -/
def IdentifierRule.render : IdentifierRule → String
  | .property name => "Property(" ++ Text.quote name ++ ")"
  | .composite names => "Composite([" ++ String.intercalate ", " (names.map Text.quote) ++ "])"
  | .custom _ => "Custom(..)"

/-- An association whose target is embedded in the documents of its owner. -/
structure Embedding where
  property : String
  target : TypeName
  /-- The paths of the target that are read. -/
  includes : ReadSet := .all
  /-- How many levels, this one included, a chain may have from here down. -/
  maxDepth : Option Nat := none

/-- The declaration of a mapped type. -/
structure MappedType where
  name : TypeName
  entityName : String
  /-- The index of the type's own documents, if it has any. -/
  index : Option String
  identifier : IdentifierRule := .property "id"
  /-- The paths that the own document depends on. -/
  dirtyPaths : ReadSet := .all
  supertype : Option TypeName := none
  embeddings : List Embedding := []

namespace MappedType

/-- Whether the type has documents of its own. -/
def isIndexed (type : MappedType) : Bool := type.index.isSome

/-- Whether a change concerns the own document. -/
def isDirty (type : MappedType) (changed : Option PathSet) : Bool :=
  type.dirtyPaths.isTriggeredBy changed

/-- The identifier that a property holds. -/
def idOfProperty (type : MappedType) (entity : Instance) (name : String) :
    Except IndexingError EntityId :=
  match (entity.property? name).bind EntityId.ofValue? with
  | some id => .ok id
  | none => .error (.identifierExtraction type.name (.property name))

/-- The identifier of an entity of this type. -/
def extractId (type : MappedType) (entity : Instance) : Except IndexingError EntityId :=
  match type.identifier with
  | .property name => type.idOfProperty entity name
  | .composite names => (names.mapM (type.idOfProperty entity)).map .composite
  | .custom identify =>
    match identify entity with
    | some id => .ok id
    | none => .error (.identifierExtraction type.name .customRule)

end MappedType

/-- The mapped types, in order of declaration. -/
structure Registry where
  types : List MappedType

namespace Registry

/-- The declaration of a type. -/
def get? (registry : Registry) (name : TypeName) : Option MappedType :=
  registry.types.find? (·.name == name)

/-- Whether a type is mapped. -/
def contains (registry : Registry) (name : TypeName) : Bool := (registry.get? name).isSome

/-- The declaration of a type, or the reason that there is none. -/
def resolve (registry : Registry) (name : TypeName) : Except IndexingError MappedType :=
  match registry.get? name with
  | some type => .ok type
  | none => .error (.unknownType name)

/-- The declaration with an entity name. -/
def resolveEntityName (registry : Registry) (name : String) : Except IndexingError MappedType :=
  match registry.types.find? (·.entityName == name) with
  | some type => .ok type
  | none => .error (.unknownEntityName name (registry.types.map MappedType.entityName))

/-- The types with documents of their own. -/
def indexed (registry : Registry) : List MappedType := registry.types.filter MappedType.isIndexed

/-- Refuse a second declaration of a type or of an entity name. -/
def checkNames (types names : List String) : List MappedType → Except MappingProblem Unit
  | [] => .ok ()
  | type :: rest =>
    if type.name ∈ types then .error (.typeTwice type.name)
    else if type.entityName ∈ names then .error (.entityNameTwice type.entityName)
    else checkNames (type.name :: types) (type.entityName :: names) rest

/-- Refuse an embedding whose target is not declared. -/
def checkEmbeddings (declared : List String) (type : TypeName) :
    List Embedding → Except MappingProblem Unit
  | [] => .ok ()
  | embedding :: rest =>
    if embedding.target ∈ declared then checkEmbeddings declared type rest
    else .error (.unknownTarget type embedding.property embedding.target)

/-- Refuse an index used twice and every reference to an undeclared type. -/
def checkReferences (declared indices : List String) : List MappedType → Except MappingProblem Unit
  | [] => .ok ()
  | type :: rest => do
    let shared := type.index.filter (· ∈ indices)
    match shared with
    | some index => .error (.indexShared index)
    | none => .ok ()
    match type.supertype.filter (· ∉ declared) with
    | some supertype => .error (.unknownSupertype type.name supertype)
    | none => .ok ()
    checkEmbeddings declared type.name type.embeddings
    checkReferences declared (type.index.toList ++ indices) rest

/-- The registry of declarations that fit together, or the first problem found:
names first, then the references of each type in turn. -/
def ofDeclarations (types : List MappedType) : Except MappingProblem Registry := do
  checkNames [] [] types
  checkReferences (types.map MappedType.name) [] types
  pure ⟨types⟩

end Registry

end Reindex
