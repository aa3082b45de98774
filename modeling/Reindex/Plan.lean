import Reindex.Mapping
import Reindex.Operation

/-!
# Plans

The pending work of one unit: for each entity the operation that its
registrations amount to, in the order of first registration, and a log of
changes with one record for each entity, which says which documents that embed
the entity may have become stale.

An entity of an indexed type gets an operation and a record. An entity that only
appears inside other documents gets a record alone. Any other type is refused,
and a refused registration changes nothing.
-/

namespace Reindex

/-- The operation pending for an entity. -/
structure PlanEntry where
  key : EntityKey
  operation : Operation

/-- The paths of an entity that changed; none when they are not known. -/
structure Change where
  key : EntityKey
  paths : Option PathSet

/-- The pending work of one unit. -/
structure Plan where
  mapping : Mapping
  entries : List PlanEntry := []
  changes : List Change := []

/-- How entities of a type take part in indexing. -/
inductive Standing where
  | indexed
  | contained
  deriving DecidableEq, Repr

namespace Plan

/-- A plan without pending work. -/
def empty (mapping : Mapping) : Plan := { mapping }

/-- The standing of a type. -/
def classify (plan : Plan) (type : TypeName) : Except IndexingError Standing :=
  match plan.mapping.registry.get? type with
  | none => .error (.unindexedType type)
  | some declaration =>
    if declaration.isIndexed then .ok .indexed
    else if plan.mapping.containment.isContained type then .ok .contained
    else .error (.notIndexable type)

/-- The operation pending for a key. -/
def get? (plan : Plan) (key : EntityKey) : Option Operation :=
  (plan.entries.find? (·.key == key)).map PlanEntry.operation

/-- Whether a key has an entry. -/
def hasEntry (plan : Plan) (key : EntityKey) : Bool := (plan.get? key).isSome

/-- Apply a function to the operation of a key. -/
def mapEntry (key : EntityKey) (f : Operation → Operation) : List PlanEntry → List PlanEntry
  | [] => []
  | entry :: rest =>
    if entry.key = key then ⟨key, f entry.operation⟩ :: rest else entry :: mapEntry key f rest

/-- Merge an operation into the entry of a key; the first one makes the entry. -/
def mergeEntry (key : EntityKey) (operation : Operation) : List PlanEntry → List PlanEntry
  | [] => [⟨key, operation⟩]
  | entry :: rest =>
    if entry.key = key then ⟨key, entry.operation.merge operation⟩ :: rest
    else entry :: mergeEntry key operation rest

/-- Paths changed by either of two changes; not known once either is not. -/
def mergePaths : Option PathSet → Option PathSet → Option PathSet
  | some earlier, some later => some (earlier.union later)
  | _, _ => none

/-- Log a change of an entity; the first one makes the record. -/
def logChange (key : EntityKey) (paths : Option PathSet) : List Change → List Change
  | [] => [⟨key, paths⟩]
  | change :: rest =>
    if change.key = key then ⟨key, mergePaths change.paths paths⟩ :: rest
    else change :: logChange key paths rest

/-- Register an operation: log the change, and merge it if the type has documents
of its own. -/
def register (plan : Plan) (key : EntityKey) (paths : Option PathSet) (operation : Operation) :
    Except IndexingError Plan := do
  let standing ← plan.classify key.type
  let logged := { plan with changes := logChange key paths plan.changes }
  match standing with
  | .indexed => pure { logged with entries := mergeEntry key operation plan.entries }
  | .contained => pure logged

/-- Register a new entity. -/
def add (plan : Plan) (key : EntityKey) (supplied : Option Instance) : Except IndexingError Plan :=
  plan.register key none (.add supplied)

/-- Register an entity of which it is not known whether it is new. -/
def addOrUpdate (plan : Plan) (key : EntityKey) (supplied : Option Instance) :
    Except IndexingError Plan :=
  plan.register key none (.addOrUpdate supplied)

/-- Register a deletion. -/
def delete (plan : Plan) (key : EntityKey) : Except IndexingError Plan :=
  plan.register key none .delete

/-- Whether a change of an entity makes its own document stale. A type that is
not mapped leaves the question to the registration, which refuses it. -/
def isDirty (plan : Plan) (key : EntityKey) (paths : Option PathSet) : Bool :=
  match plan.mapping.registry.get? key.type with
  | some declaration => declaration.isDirty paths
  | none => true

/-- Register a change of the given paths. When the own document does not depend
on them only the log takes note; a pending operation still gets the fresher
instance. -/
def updatePaths (plan : Plan) (key : EntityKey) (supplied : Option Instance)
    (paths : Option PathSet) : Except IndexingError Plan :=
  if plan.isDirty key paths then plan.register key paths (.update supplied)
  else do
    let _ ← plan.classify key.type
    pure { plan with
      changes := logChange key paths plan.changes
      entries := mapEntry key (Operation.refresh supplied) plan.entries }

/-- Register a change of an entity whose paths are not known. -/
def update (plan : Plan) (key : EntityKey) (supplied : Option Instance) :
    Except IndexingError Plan :=
  plan.updatePaths key supplied none

/-- Schedule the document of an entity to be written anew, unless the entity has
an entry already. Tells whether it was scheduled; nothing is logged. -/
def reindex (plan : Plan) (key : EntityKey) : Except IndexingError (Bool × Plan) := do
  match ← plan.classify key.type with
  | .contained => throw (.notIndexable key.type)
  | .indexed =>
    if plan.hasEntry key then pure (false, plan)
    else pure (true, { plan with entries := plan.entries ++ [⟨key, .addOrUpdate none⟩] })

/-- The operations to carry out, in order of first registration. -/
def resolve (plan : Plan) : List PlanEntry := plan.entries.filter (·.operation.isLive)

/-- The keys with something to do, then the changed keys that have no entry. -/
def pendingKeys (plan : Plan) : List EntityKey :=
  plan.resolve.map PlanEntry.key ++
    (plan.changes.map Change.key).filter fun key => !plan.hasEntry key

/-- The number of entries. -/
def size (plan : Plan) : Nat := plan.entries.length

/-- Whether there is no entry. -/
def isEmpty (plan : Plan) : Bool := plan.entries.isEmpty

end Plan

end Reindex
