import Reindex.Containment.Graph

/-!
# The documents that embed a changed entity

For every route that a change triggers, the persistence layer is asked for the
roots that contain the entity; it answers with a stream that may break off with
an error. The roots of all routes make one set in key order. An error ends the
search: no later route is asked for.
-/

namespace Reindex

/-- What the persistence layer answers for an entity and a route: keys in any
order and number, and errors by their texts. -/
abbrev RootLoader := EntityKey → ContainmentPath → List (Except String EntityKey)

/-- A question put to a collaborator while a flush is prepared. -/
inductive Request where
  /-- Which roots contain an entity by a route. -/
  | roots (leaf : EntityKey) (path : ContainmentPath)
  /-- Load an entity. -/
  | load (key : EntityKey)
  /-- Extract the document of an entity. -/
  | extract (key : EntityKey)

namespace ContainmentGraph

/-- Enter the keys of a stream into a set, up to its first error. -/
def drain (roots : List EntityKey) : List (Except String EntityKey) → Except String (List EntityKey)
  | [] => .ok roots
  | .ok root :: rest => drain (Ordered.insert root roots) rest
  | .error text :: _ => .error text

/-- Ask for the roots of one route after the other. -/
def gather (loader : RootLoader) (changed : EntityKey) (roots : List EntityKey) :
    List ContainmentPath → Except IndexingError (List EntityKey) × List Request
  | [] => (.ok roots, [])
  | path :: rest =>
    match drain roots (loader changed path) with
    | .error text =>
      (.error (.loaderFailure changed (path.descriptor ++ ": " ++ text)), [.roots changed path])
    | .ok roots =>
      let (result, requests) := gather loader changed roots rest
      (result, .roots changed path :: requests)

/-- The indexed documents that a change requires to be indexed anew, and what the
persistence layer was asked. -/
def requiredRoots (graph : ContainmentGraph) (loader : RootLoader) (changed : EntityKey)
    (paths : Option PathSet) : Except IndexingError (List EntityKey) × List Request :=
  gather loader changed [] ((graph.pathsFor changed.type).filter (·.reads.isTriggeredBy paths))

end ContainmentGraph

end Reindex
