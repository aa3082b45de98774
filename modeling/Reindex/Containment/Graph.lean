import Reindex.Containment.Closure
import Reindex.Ordered

/-!
# The containment graph

For every embedded type, the routes by which the documents of indexed types read
it. A route is a chain with an indexed top whose edges all allow its depth and
which reads something. Routes are listed by root type and then by descriptor; a
type without a route is not contained.
-/

namespace Reindex

/-- A route from an indexed type down to an embedded one. -/
structure ContainmentPath where
  containing : TypeName
  contained : TypeName
  chain : Chain
  /-- The paths of the embedded type that the root's documents read. -/
  reads : ReadSet

namespace ContainmentPath

/-- The root type and the properties passed, joined by dots. -/
def descriptor (path : ContainmentPath) : String :=
  String.intercalate "." (path.containing :: path.chain.map (·.embedding.property))

/-- The number of edges. -/
def depth (path : ContainmentPath) : Nat := path.chain.length

/-- The text of a route. -/
def render (path : ContainmentPath) : String :=
  path.descriptor ++ " -> " ++ path.contained ++ " reads " ++ path.reads.render

/-- The route of a chain, if documents of its top read the leaf through it. -/
def ofChain? (registry : Registry) (leaf : TypeName) (chain : Chain) : Option ContainmentPath := do
  let top ← chain.top?
  let type ← registry.get? top
  if type.isIndexed && chain.depthAllowed then
    let reads ← chain.reads?
    pure ⟨top, leaf, chain, reads⟩
  else none

/-- By root type, then by descriptor. -/
def mayPrecede (a b : ContainmentPath) : Bool :=
  ((compare a.containing b.containing).then (compare a.descriptor b.descriptor)).isLE

end ContainmentPath

/-- The routes to each contained type. -/
structure ContainmentGraph where
  routes : List (TypeName × List ContainmentPath)

namespace ContainmentGraph

/-- The routes to a type, in order. -/
def routesTo (registry : Registry) (depth : Nat) (leaf : TypeName) : List ContainmentPath :=
  Ordered.sortBy ContainmentPath.mayPrecede
    ((Closure.chains registry.edges depth leaf).filterMap (ContainmentPath.ofChain? registry leaf))

/-- The graph of a registry. -/
def build (registry : Registry) (depth : Nat) : ContainmentGraph :=
  let leaves := Ordered.ofList (registry.edges.map (·.embedding.target))
  let routes := leaves.map fun leaf => (leaf, routesTo registry depth leaf)
  ⟨routes.filter fun (_, paths) => !paths.isEmpty⟩

/-- The routes to a type; none when it is not contained. -/
def pathsFor (graph : ContainmentGraph) (type : TypeName) : List ContainmentPath :=
  (graph.routes.lookup type).getD []

/-- Whether a type is embedded in documents of an indexed type. -/
def isContained (graph : ContainmentGraph) (type : TypeName) : Bool :=
  (graph.routes.lookup type).isSome

/-- The number of routes. -/
def pathCount (graph : ContainmentGraph) : Nat :=
  (graph.routes.flatMap Prod.snd).length

end ContainmentGraph

end Reindex
