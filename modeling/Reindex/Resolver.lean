import Reindex.Registry

/-!
# From live entities to keys

The class that an entity has at run time may be a proxy or a subclass that is
not mapped. It stands for the nearest mapped class among itself, without the
proxy marker and what follows, and its superclasses. The superclass table comes
from outside and may be cyclic, so a class already passed ends the walk.

Answers are remembered by the full class name, absent ones too. What is
remembered only ever repeats what the walk would find.
-/

namespace Reindex

/-- The superclass of each class that has one; the latest entry of a class counts. -/
abbrev Hierarchy := List (String × String)

/-- The superclass of a class. -/
def Hierarchy.superclass? (hierarchy : Hierarchy) (className : String) : Option String :=
  hierarchy.reverse.lookup className

/-- What precedes the first occurrence of a marker. -/
def beforeMarker (marker : List Char) : List Char → List Char
  | [] => []
  | c :: rest =>
    if marker.isPrefixOf (c :: rest) then [] else c :: beforeMarker marker rest

/-- Finds the mapped type of a class, and remembers. -/
structure Resolver where
  registry : Registry
  hierarchy : Hierarchy
  proxyMarker : String
  memo : List (String × Option TypeName) := []

namespace Resolver

/-- The class that a walk starts from: the name without the proxy marker and all
that follows it. -/
def start (resolver : Resolver) (className : String) : String :=
  String.ofList (beforeMarker resolver.proxyMarker.toList className.toList)

/-- The nearest mapped class upward. Each step passes one more class of the
table, so there are at most as many steps as entries. -/
def walk (registry : Registry) (hierarchy : Hierarchy) (visited : List String)
    (fuel : Nat) (className : String) : Option TypeName :=
  if registry.contains className then some className
  else if className ∈ visited then none
  else match fuel with
    | 0 => none
    | fuel + 1 =>
      (hierarchy.superclass? className).bind
        (walk registry hierarchy (className :: visited) fuel)

/-- The mapped type of a class, found anew. -/
def find? (resolver : Resolver) (className : String) : Option TypeName :=
  walk resolver.registry resolver.hierarchy [] (resolver.hierarchy.length + 1)
    (resolver.start className)

/-- The mapped type of a class, remembered from the first time on. -/
def tryResolve (resolver : Resolver) (className : String) : Option TypeName × Resolver :=
  match resolver.memo.lookup className with
  | some known => (known, resolver)
  | none =>
    let found := resolver.find? className
    (found, { resolver with memo := (className, found) :: resolver.memo })

/-- The mapped type of a class, or the reason that there is none. -/
def resolve (resolver : Resolver) (className : String) :
    Except IndexingError TypeName × Resolver :=
  let (found, resolver) := resolver.tryResolve className
  match found with
  | some type => (.ok type, resolver)
  | none => (.error (.unindexedType className), resolver)

/-- The key of a live entity: the mapped type of its class and the identifier
that this type's rule finds. -/
def identify (resolver : Resolver) (entity : Instance) :
    Except IndexingError EntityKey × Resolver :=
  let (resolved, resolver) := resolver.resolve entity.className
  let key := do
    let type ← resolved
    let declaration ← resolver.registry.resolve type
    let id ← declaration.extractId entity
    pure ⟨type, id⟩
  (key, resolver)

/-- The key with an identifier that is known already. -/
def identifyId (resolver : Resolver) (type : TypeName) (id : EntityId) :
    Except IndexingError EntityKey :=
  if resolver.registry.contains type then .ok ⟨type, id⟩ else .error (.unindexedType type)

/-- How many classes have been asked for. -/
def memoized (resolver : Resolver) : Nat := resolver.memo.length

end Resolver

end Reindex
