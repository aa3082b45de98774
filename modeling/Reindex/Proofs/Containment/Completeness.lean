import Reindex.Containment.Graph
import Reindex.Proofs.Containment.Closure
import Reindex.Proofs.Containment.Narrowing
import Reindex.Proofs.Library
import Reindex.Proofs.Ordered

/-!
# Every chain that counts is a route

The graph answers for a type as the search for that type does: types that no edge
ends at and types whose chains are all refused have no routes either way. Since
the search finds every chain that the depth admits, a chain with an indexed top
whose edges all bear the levels below them and which reads something is listed,
with its own edges and with the read set found along it.
-/

namespace Reindex

namespace ContainmentGraph

/-- A list of answers from which the empty ones were dropped still answers for
every name asked. -/
theorem lookup_nonempty (answer : TypeName → List ContainmentPath) (names : List TypeName)
    (asked : TypeName) :
    (((names.map fun name => (name, answer name)).filter
        fun (_, paths) => !paths.isEmpty).lookup asked).getD [] =
      if asked ∈ names then answer asked else [] := by
  induction names with
  | nil => rfl
  | cons name rest inductionHypothesis =>
    cases found : answer name with
    | nil =>
      rw [List.map_cons, List.filter_cons_of_neg (by simp [found]), inductionHypothesis]
      by_cases same : asked = name
      · simp [same, found]
      · simp [same]
    | cons path paths =>
      rw [List.map_cons, List.filter_cons_of_pos (by simp [found]), List.lookup_cons]
      by_cases same : asked = name
      · simp [same]
      · have other : (asked == name) = false := by simpa using same
        rw [other, inductionHypothesis]
        simp [same]

/-- What the graph lists for a type is what the search for it finds. -/
theorem pathsFor_build (registry : Registry) (depth : Nat) (leaf : TypeName) :
    (build registry depth).pathsFor leaf = routesTo registry depth leaf := by
  rw [pathsFor, build, lookup_nonempty]
  by_cases targeted : leaf ∈ registry.edges.map (·.embedding.target)
  · rw [if_pos (Ordered.mem_ofList.2 targeted)]
  · rw [if_neg (mt Ordered.mem_ofList.1 targeted), routesTo, Closure.chains_eq_nil]
    · rfl
    · intro edge declared same
      exact targeted (List.mem_map.2 ⟨edge, declared, same⟩)

/-- A route to a type is a chain found by the search that documents read through. -/
theorem mem_pathsFor_build {registry : Registry} {depth : Nat} {leaf : TypeName}
    {path : ContainmentPath} :
    path ∈ (build registry depth).pathsFor leaf ↔
      ∃ chain ∈ Closure.chains registry.edges depth leaf,
        ContainmentPath.ofChain? registry leaf chain = some path := by
  rw [pathsFor_build, routesTo, Ordered.mem_sortBy, List.mem_filterMap]

end ContainmentGraph

/-- Depths are allowed when every edge admits the levels that hang below it. -/
theorem Chain.depthAllowed_iff {chain : Chain} :
    chain.depthAllowed = true ↔
      ∀ above edge below, chain = above ++ edge :: below →
        ∀ limit, edge.embedding.maxDepth = some limit → below.length < limit := by
  induction chain with
  | nil => simp [depthAllowed]
  | cons head rest inductionHypothesis =>
    rw [depthAllowed, Bool.and_eq_true, inductionHypothesis]
    constructor
    · rintro ⟨bears, deeper⟩ above edge below split limit bound
      cases above with
      | nil =>
        obtain ⟨rfl, rfl⟩ := List.cons.inj split
        simpa [bound] using bears
      | cons first above =>
        exact deeper above edge below (List.cons.inj split).2 limit bound
    · intro allowed
      refine ⟨?_, ?_⟩
      · cases bound : head.embedding.maxDepth with
        | none => rfl
        | some limit => simpa using allowed [] head rest rfl limit bound
      · intro above edge below split
        exact allowed (head :: above) edge below (congrArg (head :: ·) split)

namespace ContainmentPath

/-- When documents read through a chain: its top is indexed, its depth is allowed
and something is read. The route then keeps the chain and what is read. -/
theorem ofChain?_eq_some {registry : Registry} {leaf : TypeName} {root : Edge} {below : Chain}
    {type : MappedType} {reads : ReadSet} (found : registry.get? root.owner = some type)
    (indexed : type.isIndexed = true) (allowed : Chain.depthAllowed (root :: below) = true)
    (read : Chain.Reads (root :: below) reads) :
    ofChain? registry leaf (root :: below) = some ⟨root.owner, leaf, root :: below, reads⟩ := by
  have narrowed := Chain.reads?_eq_some_iff.2 read
  simp [ofChain?, Chain.top?, found, indexed, allowed, narrowed]

end ContainmentPath

/-- The containment closure is complete. When declarations are accepted and their
chains can be told apart by their labels, every chain of declared embeddings down
to a type is listed for that type, provided that its root is indexed, that it is
no longer than the depth, that each of its edges admits the levels below it and
that narrowing the includes along it leaves something to read. It is listed with
exactly these edges and exactly this read set. Something is left whenever some path
passes all the includes on the way, and then the paths that pass are the ones read. -/
theorem pathsFor_complete {types : List MappedType} {registry : Registry} {depth : Nat}
    {leaf : TypeName} {root : Edge} {below : Chain}
    (accepted : Registry.ofDeclarations types = .ok registry)
    (distinguishable : registry.Distinguishable)
    (leads : Chain.LeadsTo registry.edges leaf (root :: below))
    (bounded : (root :: below).length ≤ depth)
    (indexed : ∃ type ∈ registry.types, type.name = root.owner ∧ type.isIndexed = true)
    (admitted : ∀ above edge under, root :: below = above ++ edge :: under →
      ∀ limit, edge.embedding.maxDepth = some limit → under.length < limit) :
    (∀ reads, Chain.Reads (root :: below) reads →
      ∃ path ∈ (ContainmentGraph.build registry depth).pathsFor leaf,
        path.containing = root.owner ∧ path.contained = leaf ∧ path.chain = root :: below ∧
          path.reads = reads) ∧
    ((∃ inner, Chain.Passes (root :: below) inner) →
      ∃ path ∈ (ContainmentGraph.build registry depth).pathsFor leaf,
        path.containing = root.owner ∧ path.contained = leaf ∧ path.chain = root :: below ∧
          Chain.Reads (root :: below) path.reads ∧
          ∀ inner, path.reads.Covers inner ↔ Chain.Passes (root :: below) inner) := by
  obtain ⟨-, distinct, -⟩ := Registry.of_accepted accepted
  obtain ⟨type, member, named, documents⟩ := indexed
  have found : registry.get? root.owner = some type := by
    rw [← named]
    exact Registry.get?_of_mem distinct member
  have unique : ∀ chain other : Chain, chain.LeadsTo registry.edges leaf →
      other.LeadsTo registry.edges leaf → Closure.mark chain = Closure.mark other →
        chain = other := by
    intro chain other leads leads' same
    exact distinguishable.label_unique distinct leads leads' (Prod.ext_iff.1 same).2
  have searched : root :: below ∈ Closure.chains registry.edges depth leaf := by
    rw [Closure.mem_chains unique]
    exact ⟨leads, by omega⟩
  have listed : ∀ reads, Chain.Reads (root :: below) reads →
      ⟨root.owner, leaf, root :: below, reads⟩ ∈
        (ContainmentGraph.build registry depth).pathsFor leaf := by
    intro reads read
    rw [ContainmentGraph.mem_pathsFor_build]
    exact ⟨root :: below, searched, ContainmentPath.ofChain?_eq_some found documents
      (Chain.depthAllowed_iff.2 admitted) read⟩
  have undotted : ∀ edge ∈ root :: below, '.' ∉ edge.embedding.property.toList :=
    fun edge member => distinguishable.edge_undotted (leads.declared edge member)
  constructor
  · intro reads read
    exact ⟨_, listed reads read, rfl, rfl, rfl, rfl⟩
  · rintro ⟨inner, passes⟩
    obtain ⟨reads, read⟩ := Chain.Passes.exists_reads passes (List.cons_ne_nil _ _) undotted
    exact ⟨_, listed reads read, rfl, rfl, rfl, read, fun _ => read.covers_iff undotted⟩

namespace Library

/-- The author that a book embeds. -/
def writtenBy : Edge := ⟨"Book", { property := "author", target := "Author" }⟩

/-- The mentor that an author embeds. -/
def taughtBy : Edge := ⟨"Author", { property := "mentor", target := "Author", maxDepth := some 2 }⟩

/-- Chains of the library can be told apart. -/
theorem registry_distinguishable : registry.Distinguishable where
  once := by decide
  undotted := by decide
  ownerUnstroked := by decide
  propertyUnstroked := by decide

/-- A book's document reads all of the mentor of the mentor of its author: two of the
embeddings are one that loops, and admits just the one level below it. -/
theorem mentors_of_mentors_listed :
    (∃ path ∈ (ContainmentGraph.build registry 3).pathsFor "Author",
      path.containing = "Book" ∧ path.contained = "Author" ∧
        path.chain = [writtenBy, taughtBy, taughtBy] ∧ path.reads = .all) ∧
    ∃ path ∈ (ContainmentGraph.build registry 3).pathsFor "Author",
      path.chain = [writtenBy, taughtBy, taughtBy] ∧ path.reads.Covers "name.first" := by
  have mentor : Chain.LeadsTo registry.edges "Author" [taughtBy] :=
    .last (.tail _ (.tail _ (.head _))) rfl
  have twice : Chain.LeadsTo registry.edges "Author" [taughtBy, taughtBy] :=
    .above (.tail _ (.tail _ (.head _))) rfl mentor
  have leads : Chain.LeadsTo registry.edges "Author" [writtenBy, taughtBy, taughtBy] :=
    .above (.tail _ (.head _)) rfl twice
  have reads : Chain.Reads [writtenBy, taughtBy, taughtBy] .all :=
    .root (.through .all (.all _) (.through .all (.all _) (.here _)))
  have passes : Chain.Passes [writtenBy, taughtBy, taughtBy] "name.first" := by
    simp only [Chain.passes_cons_iff]
    exact ⟨trivial, trivial, trivial, Chain.passes_nil⟩
  obtain ⟨exactly, passed⟩ := pathsFor_complete registry_accepted registry_distinguishable leads
    (le_refl 3) ⟨book, .tail _ (.head _), rfl, rfl⟩ (Chain.depthAllowed_iff.1 rfl)
  obtain ⟨path, listed, -, -, hops, -, covers⟩ := passed ⟨_, passes⟩
  exact ⟨exactly _ reads, path, listed, hops, (covers _).2 passes⟩

end Library

end Reindex
