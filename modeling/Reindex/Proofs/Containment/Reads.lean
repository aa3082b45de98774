import Reindex.Proofs.Containment.Soundness

/-!
# What triggers a route

A route keeps what is read along its chain, and that covers the paths which pass all the
includes on the way. So a change of the leaf concerns the documents of the root exactly
when something within the changed path passes them, and a chain that is dropped for reading
nothing passes nothing.
-/

namespace Reindex

/-- Read sets mean what the includes say. Let no property contain a dot. A change of
a path of an embedded type triggers a route exactly when some path within the
changed one passes every include along the route; and the only chains of declared
edges that are dropped for reading nothing are those that no path passes. -/
theorem route_triggered_iff {registry : Registry}
    (undotted : ∀ type ∈ registry.types, ∀ embedding ∈ type.embeddings,
      '.' ∉ embedding.property.toList) :
    (∀ depth leaf, ∀ path ∈ (ContainmentGraph.build registry depth).pathsFor leaf,
      ∀ changed : Path, path.reads.isTriggeredBy (some (.ofList [changed])) = true ↔
        ∃ inner : Path, inner.Within changed ∧ path.chain.Passes inner) ∧
      ∀ chain : Chain, chain ≠ [] → (∀ edge ∈ chain, edge ∈ registry.edges) →
        chain.reads? = none → ∀ path, ¬ chain.Passes path := by
  have edgesUndotted : ∀ chain : Chain, (∀ edge ∈ chain, edge ∈ registry.edges) →
      ∀ edge ∈ chain, '.' ∉ edge.embedding.property.toList := by
    intro chain declared edge member
    obtain ⟨type, typeMember, embedding, embedded, rfl⟩ :=
      Registry.mem_edges.1 (declared edge member)
    exact undotted type typeMember embedding embedded
  constructor
  · intro depth leaf path listed changed
    have sound := ContainmentPath.sound_of_mem_pathsFor listed
    have covers := sound.covers (edgesUndotted _ sound.leads.declared)
    simp only [ReadSet.isTriggeredBy_some_iff, PathSet.mem_ofList, List.mem_singleton,
      exists_eq_left, covers]
  · intro chain nonempty declared dropped path passes
    obtain ⟨reads, found, -⟩ :=
      (Chain.covers_reads? nonempty (edgesUndotted chain declared)).2 passes
    simp [dropped] at found

namespace Library

/-- The books that a shelf embeds. -/
def onShelf : Edge := ⟨"Shelf", {
  property := "books"
  target := "Book"
  includes := .paths (.ofList ["title", "author.name"]) }⟩

/-- A change within an author's name reaches the shelves, for shelves read names of
authors; they read nothing of mentors. -/
theorem shelves_read_names :
    (∃ inner : Path, inner.Within "name.first" ∧ Chain.Passes [onShelf, writtenBy] inner) ∧
      ∀ path, ¬ Chain.Passes [onShelf, writtenBy, taughtBy] path := by
  obtain ⟨triggered, dropped⟩ := @route_triggered_iff registry (by decide)
  have found : [onShelf, writtenBy] ∈ Closure.chains registry.edges 2 "Author" :=
    .tail _ (.tail _ (.head _))
  have listed : ⟨"Shelf", "Author", [onShelf, writtenBy], .paths (.ofList ["name"])⟩ ∈
      (ContainmentGraph.build registry 2).pathsFor "Author" :=
    ContainmentGraph.mem_pathsFor_build.2 ⟨_, found, rfl⟩
  have declared : ∀ edge ∈ [onShelf, writtenBy, taughtBy], edge ∈ registry.edges := by
    simp only [List.forall_mem_cons]
    exact ⟨.head _, .tail _ (.head _), .tail _ (.tail _ (.head _)), by simp⟩
  exact ⟨(triggered 2 "Author" _ listed "name.first").1 rfl,
    dropped _ (List.cons_ne_nil _ _) declared rfl⟩

end Library

end Reindex
