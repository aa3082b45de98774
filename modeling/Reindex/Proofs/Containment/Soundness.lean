import Reindex.Proofs.Containment.Completeness
import Mathlib.Data.Prod.Lex
import Mathlib.Data.String.Basic

/-!
# Every route is a chain that counts

Whatever the declarations are, and also when their chains cannot be told apart, what
the graph lists for a type is real: declared embeddings that lead from an indexed type
down to it, within the bounds of the graph and of each embedding, with what is read
along them. A route is known by its hops, that is by the types and the properties that
it passes. Routes with the same hops have the same mark, and the search lists no mark
twice. Sorting rearranges the routes and leaves them in order.
-/

namespace Reindex

/-- One embedding as a route passes it. -/
structure Hop where
  containing : TypeName
  property : String
  contained : TypeName

/-- The hop over an edge. -/
def Edge.hop (edge : Edge) : Hop :=
  ⟨edge.owner, edge.embedding.property, edge.embedding.target⟩

namespace ContainmentPath

/-- The hops of a route, from the root down. -/
def hops (path : ContainmentPath) : List Hop := path.chain.map Edge.hop

/-- The place of a route in a list: by root type, then by descriptor. -/
def rank (path : ContainmentPath) : TypeName ×ₗ String := toLex (path.containing, path.descriptor)

/-- A route of declared embeddings. -/
structure Sound (registry : Registry) (depth : Nat) (leaf : TypeName)
    (path : ContainmentPath) : Prop where
  /-- The edges are declared, each target owns the next edge, and the last one is the
  embedded type, -/
  leads : path.chain.LeadsTo registry.edges leaf
  /-- which is the type that the route is said to lead to. -/
  ends : path.contained = leaf
  /-- The first edge belongs to the type that the route is said to start from, -/
  starts : path.chain.top? = some path.containing
  /-- which has documents of its own. -/
  indexed : ∃ type, registry.get? path.containing = some type ∧ type.isIndexed = true
  /-- There is an edge, and there are no more than the configured depth admits. -/
  bounded : 1 ≤ path.depth ∧ path.depth ≤ max 1 depth
  /-- An edge that is bounded itself has fewer edges below it than its bound. -/
  admitted : ∀ above edge below, path.chain = above ++ edge :: below →
    ∀ limit, edge.embedding.maxDepth = some limit → below.length < limit
  /-- What is read is what the includes leave from the root down: -/
  reads : path.chain.Reads path.reads
  /-- unless a property contains a dot, what all of them include, as it is called there. -/
  covers : (∀ edge ∈ path.chain, '.' ∉ edge.embedding.property.toList) →
    ∀ inner, path.reads.Covers inner ↔ path.chain.Passes inner

/-- When a chain is a route, and which one. -/
theorem of_ofChain? {registry : Registry} {leaf : TypeName} {chain : Chain}
    {path : ContainmentPath} (route : ofChain? registry leaf chain = some path) :
    path.chain = chain ∧ path.contained = leaf ∧ chain.top? = some path.containing ∧
      (∃ type, registry.get? path.containing = some type ∧ type.isIndexed = true) ∧
        chain.depthAllowed = true ∧ chain.Reads path.reads := by
  obtain ⟨top, starts, route⟩ := Option.bind_eq_some_iff.1 route
  obtain ⟨type, found, route⟩ := Option.bind_eq_some_iff.1 route
  split at route
  · rename_i counts
    obtain ⟨indexed, allowed⟩ := Bool.and_eq_true_iff.1 counts
    obtain ⟨reads, narrowed, route⟩ := Option.bind_eq_some_iff.1 route
    cases route
    exact ⟨rfl, rfl, starts, ⟨type, found, indexed⟩, allowed, Chain.reads?_eq_some_iff.1 narrowed⟩
  · cases route

/-- A listed route is sound: the search gives the edges and their number, and the rest
is asked of every chain. -/
theorem sound_of_mem_pathsFor {registry : Registry} {depth : Nat} {leaf : TypeName}
    {path : ContainmentPath}
    (listed : path ∈ (ContainmentGraph.build registry depth).pathsFor leaf) :
    path.Sound registry depth leaf := by
  obtain ⟨chain, found, route⟩ := ContainmentGraph.mem_pathsFor_build.1 listed
  obtain ⟨rfl, ends, starts, indexed, allowed, read⟩ := of_ofChain? route
  obtain ⟨leads, most⟩ := Closure.leads_of_mem_chains found
  exact {
    leads := leads
    ends := ends
    starts := starts
    indexed := indexed
    bounded := ⟨leads.length_pos, most⟩
    admitted := Chain.depthAllowed_iff.1 allowed
    reads := read
    covers := fun undotted _ => read.covers_iff undotted }

/-- Which of two routes may come first is a matter of their ranks. -/
theorem mayPrecede_iff {path other : ContainmentPath} :
    path.mayPrecede other = true ↔ path.rank ≤ other.rank := by
  rw [mayPrecede, Ordering.isLE_then_iff_or, rank, rank, Prod.Lex.toLex_le_toLex,
    compare_lt_iff_lt, compare_eq_iff_eq, Ordering.isLE_iff_ne_gt]
  exact or_congr_right (and_congr_right fun _ => compare_le_iff_le)

end ContainmentPath

namespace ContainmentGraph

variable {registry : Registry} {depth : Nat} {leaf : TypeName}

/-- Chains with the same hops have the same mark. -/
theorem mark_of_hops {chain other : Chain} (same : chain.map Edge.hop = other.map Edge.hop) :
    Closure.mark chain = Closure.mark other := by
  have owners : chain.map Edge.owner = other.map Edge.owner := by
    have names := congrArg (List.map Hop.containing) same
    rwa [List.map_map, List.map_map] at names
  have labels : chain.map Edge.label = other.map Edge.label := by
    have texts := congrArg (List.map fun hop => hop.containing ++ "." ++ hop.property) same
    rwa [List.map_map, List.map_map] at texts
  have tops : chain.top? = other.top? := by
    rw [Chain.top?, Chain.top?, ← List.head?_map, ← List.head?_map, owners]
  rw [Closure.mark, Closure.mark, Chain.label, Chain.label, tops, labels]

/-- No two routes to a type have the same hops. -/
theorem nodup_hops :
    (((build registry depth).pathsFor leaf).map ContainmentPath.hops).Nodup := by
  rw [pathsFor_build, routesTo]
  refine ((Ordered.sortBy_perm _ _).map _).nodup_iff.2 (List.pairwise_map.2 ?_)
  have marked : (Closure.chains registry.edges depth leaf).Pairwise
      fun chain other => Closure.mark chain ≠ Closure.mark other :=
    List.pairwise_map.1 Closure.nodup_chains
  refine List.Pairwise.filterMap _ ?_ marked
  intro chain other differs path route path' route' same
  obtain ⟨rfl, -⟩ := ContainmentPath.of_ofChain? route
  obtain ⟨rfl, -⟩ := ContainmentPath.of_ofChain? route'
  exact differs (mark_of_hops same)

/-- The routes to a type are in order. -/
theorem pairwise_rank :
    ((build registry depth).pathsFor leaf).Pairwise
      fun earlier later => earlier.rank ≤ later.rank := by
  have total : ∀ path other : ContainmentPath,
      path.mayPrecede other = true ∨ other.mayPrecede path = true := by
    intro path other
    rw [ContainmentPath.mayPrecede_iff, ContainmentPath.mayPrecede_iff]
    exact le_total path.rank other.rank
  have transitive : ∀ path other third : ContainmentPath, path.mayPrecede other = true →
      other.mayPrecede third = true → path.mayPrecede third = true := by
    intro path other third
    rw [ContainmentPath.mayPrecede_iff, ContainmentPath.mayPrecede_iff,
      ContainmentPath.mayPrecede_iff]
    exact le_trans
  rw [pathsFor_build, routesTo]
  exact (Ordered.pairwise_sortBy total transitive _).imp ContainmentPath.mayPrecede_iff.1

/-- A type is contained when there are routes to it. -/
theorem isContained_iff :
    (build registry depth).isContained leaf = true ↔ (build registry depth).pathsFor leaf ≠ [] := by
  rw [isContained, pathsFor]
  cases answered : (build registry depth).routes.lookup leaf with
  | none => simp
  | some paths =>
    obtain ⟨before, after, split, -⟩ := List.lookup_eq_some_iff.1 answered
    have member : (leaf, paths) ∈ (build registry depth).routes := by
      rw [split]
      exact List.mem_append_right _ List.mem_cons_self
    have nonempty := (List.mem_filter.1 member).2
    simpa using nonempty

end ContainmentGraph

/-- The containment closure is sound, for every registry and every depth. What is listed
for a type are sound routes to it, none with the hops of another, by root type and then
by descriptor; and a type counts as contained exactly when something is listed for it. -/
theorem routes_sound (registry : Registry) (depth : Nat) (leaf : TypeName) :
    let graph := ContainmentGraph.build registry depth
    (∀ path ∈ graph.pathsFor leaf, path.Sound registry depth leaf) ∧
      ((graph.pathsFor leaf).map ContainmentPath.hops).Nodup ∧
      (graph.pathsFor leaf).Pairwise (fun earlier later => earlier.rank ≤ later.rank) ∧
      (graph.isContained leaf = true ↔ graph.pathsFor leaf ≠ []) := by
  refine ⟨?_, ContainmentGraph.nodup_hops, ContainmentGraph.pairwise_rank,
    ContainmentGraph.isContained_iff⟩
  intro path listed
  exact ContainmentPath.sound_of_mem_pathsFor listed

namespace Library

/-- Authors are read through books, and within two levels by nothing deeper. What is read of
them are the paths that every embedding on the way includes. -/
theorem authors_read_within_two :
    (ContainmentGraph.build registry 2).isContained "Author" = true ∧
      ∀ path ∈ (ContainmentGraph.build registry 2).pathsFor "Author", path.depth ≤ 2 ∧
        ∀ inner, path.reads.Covers inner ↔ path.chain.Passes inner := by
  obtain ⟨sound, -, -, contained⟩ := routes_sound registry 2 "Author"
  have found : [writtenBy] ∈ Closure.chains registry.edges 2 "Author" := .head _
  have listed : ⟨"Book", "Author", [writtenBy], .all⟩ ∈
      (ContainmentGraph.build registry 2).pathsFor "Author" :=
    ContainmentGraph.mem_pathsFor_build.2 ⟨_, found, rfl⟩
  constructor
  · exact contained.2 (List.ne_nil_of_mem listed)
  · intro path listed
    have route := sound path listed
    exact ⟨route.bounded.2, route.covers fun edge member =>
      registry_distinguishable.edge_undotted (route.leads.declared edge member)⟩

end Library

end Reindex
