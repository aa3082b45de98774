import Reindex.Containment.Chain
import Reindex.Proofs.Registry

/-!
# Chains told apart by their labels

A chain is known by its top and the text of its label, so two chains with one
label are one chain to the search. That is harmless for declarations whose names
keep clear of the two separators: a label is cut at its strokes into the labels
of the edges, and each of these at its last dot into owner and property. Owners
may contain dots, properties may not.

The text does not name the targets. In a chain each target is named by the owner
of the next edge, and the last one is the type that the chain leads to.
-/

namespace Reindex

namespace Chain

/-- Declared edges, each of whose targets owns the next one, down to a type. -/
inductive LeadsTo (edges : List Edge) (leaf : TypeName) : Chain → Prop
  | last {edge : Edge} (declared : edge ∈ edges) (ends : edge.embedding.target = leaf) :
      LeadsTo edges leaf [edge]
  | above {edge next : Edge} {rest : Chain} (declared : edge ∈ edges)
      (joins : edge.embedding.target = next.owner) (below : LeadsTo edges leaf (next :: rest)) :
      LeadsTo edges leaf (edge :: next :: rest)

namespace LeadsTo

variable {edges : List Edge} {leaf : TypeName} {chain : Chain}

/-- A chain of one edge ends where the edge does. -/
theorem singleton_iff {edge : Edge} :
    LeadsTo edges leaf [edge] ↔ edge ∈ edges ∧ edge.embedding.target = leaf := by
  constructor
  · intro leads
    cases leads with
    | last declared ends => exact ⟨declared, ends⟩
  · rintro ⟨declared, ends⟩
    exact .last declared ends

/-- A chain that leads anywhere has an edge. -/
theorem length_pos (leads : LeadsTo edges leaf chain) : 0 < chain.length := by
  cases leads <;> simp

/-- All edges of a chain are declared. -/
theorem declared (leads : LeadsTo edges leaf chain) : ∀ edge ∈ chain, edge ∈ edges := by
  induction leads with
  | last declared ends => simpa using declared
  | above declared joins below inductionHypothesis =>
    intro edge member
    rcases List.mem_cons.1 member with rfl | member
    · exact declared
    · exact inductionHypothesis edge member

end LeadsTo

end Chain

namespace Registry

/-- The names keep clear of the separators, and no type embeds one target twice
under one property. -/
structure Distinguishable (registry : Registry) : Prop where
  /-- Property and target settle the embedding. -/
  once : ∀ type ∈ registry.types,
    (type.embeddings.map fun embedding => (embedding.property, embedding.target)).Nodup
  /-- The last dot of an edge's label stands before the property. -/
  undotted : ∀ type ∈ registry.types, ∀ embedding ∈ type.embeddings,
    '.' ∉ embedding.property.toList
  /-- Strokes only join edges: none is part of an owner, -/
  ownerUnstroked : ∀ type ∈ registry.types, '/' ∉ type.name.toList
  /-- and none is part of a property. -/
  propertyUnstroked : ∀ type ∈ registry.types, ∀ embedding ∈ type.embeddings,
    '/' ∉ embedding.property.toList

/-- The edges are the declared embeddings with their owners. -/
theorem mem_edges {registry : Registry} {edge : Edge} :
    edge ∈ registry.edges ↔
      ∃ type ∈ registry.types, ∃ embedding ∈ type.embeddings, edge = ⟨type.name, embedding⟩ := by
  simp only [edges, List.mem_flatMap, List.mem_map]
  constructor
  · rintro ⟨type, member, embedding, declared, rfl⟩
    exact ⟨type, member, embedding, declared, rfl⟩
  · rintro ⟨type, member, embedding, declared, rfl⟩
    exact ⟨type, member, embedding, declared, rfl⟩

end Registry

namespace Edge

/-- The characters of a label, cut before its property. -/
theorem toList_label (edge : Edge) :
    edge.label.toList = edge.owner.toList ++ '.' :: edge.embedding.property.toList := by
  simp [label]

/-- Texts without a mark are settled by what precedes and follows its last
occurrence. -/
theorem cut_at_last {mark : Char} {before after before' after' : List Char}
    (absent : mark ∉ after) (absent' : mark ∉ after')
    (same : before ++ mark :: after = before' ++ mark :: after') :
    before = before' ∧ after = after' := by
  rcases List.append_eq_append_iff.1 same with ⟨middle, first, second⟩ | ⟨middle, first, second⟩
  · cases middle with
    | nil => simp_all
    | cons head middle => simp_all
  · cases middle with
    | nil => simp_all
    | cons head middle => simp_all

/-- A label without a dot in its property names owner and property. -/
theorem label_inj {edge other : Edge} (undotted : '.' ∉ edge.embedding.property.toList)
    (undotted' : '.' ∉ other.embedding.property.toList) (same : edge.label = other.label) :
    edge.owner = other.owner ∧ edge.embedding.property = other.embedding.property := by
  have cut := congrArg String.toList same
  rw [toList_label, toList_label] at cut
  have parts := cut_at_last undotted undotted' cut
  exact ⟨String.toList_inj.1 parts.1, String.toList_inj.1 parts.2⟩

end Edge

namespace Registry.Distinguishable

variable {registry : Registry}

/-- No dot stands in the property of a declared edge. -/
theorem edge_undotted (distinguishable : registry.Distinguishable) {edge : Edge}
    (declared : edge ∈ registry.edges) : '.' ∉ edge.embedding.property.toList := by
  obtain ⟨type, member, embedding, embedded, rfl⟩ := mem_edges.1 declared
  exact distinguishable.undotted type member embedding embedded

/-- No stroke stands in the label of a declared edge. -/
theorem edge_unstroked (distinguishable : registry.Distinguishable) {edge : Edge}
    (declared : edge ∈ registry.edges) : '/' ∉ edge.label.toList := by
  obtain ⟨type, member, embedding, embedded, rfl⟩ := mem_edges.1 declared
  have owner := distinguishable.ownerUnstroked type member
  have property := distinguishable.propertyUnstroked type member embedding embedded
  simp [Edge.toList_label, owner, property]

/-- A declared edge is settled by its owner, its property and its target. -/
theorem edge_unique (distinguishable : registry.Distinguishable)
    (distinct : (registry.types.map MappedType.name).Nodup) {edge other : Edge}
    (declared : edge ∈ registry.edges) (declared' : other ∈ registry.edges)
    (owner : edge.owner = other.owner)
    (property : edge.embedding.property = other.embedding.property)
    (target : edge.embedding.target = other.embedding.target) : edge = other := by
  obtain ⟨type, member, embedding, embedded, rfl⟩ := mem_edges.1 declared
  obtain ⟨type', member', embedding', embedded', rfl⟩ := mem_edges.1 declared'
  have sameType : type = type' := List.inj_on_of_nodup_map distinct member member' owner
  subst sameType
  have sameEmbedding : embedding = embedding' :=
    List.inj_on_of_nodup_map (distinguishable.once type member) embedded embedded'
      (Prod.ext property target)
  rw [sameEmbedding]

/-- The text of a label is cut at its strokes into the labels of the edges. -/
theorem labels_of_label (distinguishable : registry.Distinguishable) {leaf : TypeName}
    {chain other : Chain} (leads : chain.LeadsTo registry.edges leaf)
    (leads' : other.LeadsTo registry.edges leaf) (same : chain.label = other.label) :
    chain.map Edge.label = other.map Edge.label := by
  have pieces : ∀ {chain : Chain}, chain.LeadsTo registry.edges leaf →
      chain.label.toList.splitOn '/' = (chain.map Edge.label).map String.toList := by
    intro chain leads
    have text : chain.label.toList =
        List.intercalate ['/'] ((chain.map Edge.label).map String.toList) := by
      simp [Chain.label]
    rw [text, List.splitOn_intercalate]
    · intro piece member
      simp only [List.map_map, List.mem_map, Function.comp_apply] at member
      obtain ⟨edge, member, rfl⟩ := member
      exact distinguishable.edge_unstroked (leads.declared edge member)
    · simpa using List.ne_nil_of_length_pos leads.length_pos
  have cut : (chain.map Edge.label).map String.toList =
      (other.map Edge.label).map String.toList := by
    rw [← pieces leads, ← pieces leads', same]
  exact List.map_injective_iff.2 (fun _ _ => String.toList_inj.1) cut

/-- Chains to one type whose edges carry the same labels are one chain. The
induction starts at the edge that ends at the type: its target is known, and the
owner just found is the target of the edge above. -/
theorem unique_of_labels (distinguishable : registry.Distinguishable)
    (distinct : (registry.types.map MappedType.name).Nodup) {leaf : TypeName} {chain other : Chain}
    (leads : chain.LeadsTo registry.edges leaf) (leads' : other.LeadsTo registry.edges leaf)
    (same : chain.map Edge.label = other.map Edge.label) : chain = other := by
  induction leads generalizing other with
  | last declared ends =>
    cases leads' with
    | last declared' ends' =>
      have parts := Edge.label_inj (distinguishable.edge_undotted declared)
        (distinguishable.edge_undotted declared') (List.cons.inj same).1
      rw [distinguishable.edge_unique distinct declared declared' parts.1 parts.2
        (ends.trans ends'.symm)]
    | above declared' joins' below' => simp at same
  | above declared joins below inductionHypothesis =>
    cases leads' with
    | last declared' ends' => simp at same
    | above declared' joins' below' =>
      obtain ⟨head, tail⟩ := List.cons.inj same
      have rest := inductionHypothesis below' tail
      obtain ⟨rfl, rfl⟩ := List.cons.inj rest
      have parts := Edge.label_inj (distinguishable.edge_undotted declared)
        (distinguishable.edge_undotted declared') head
      rw [distinguishable.edge_unique distinct declared declared' parts.1 parts.2
        (joins.trans joins'.symm)]

/-- Among the chains to one type, the label tells which it is. -/
theorem label_unique (distinguishable : registry.Distinguishable)
    (distinct : (registry.types.map MappedType.name).Nodup) {leaf : TypeName} {chain other : Chain}
    (leads : chain.LeadsTo registry.edges leaf) (leads' : other.LeadsTo registry.edges leaf)
    (same : chain.label = other.label) : chain = other :=
  distinguishable.unique_of_labels distinct leads leads'
    (distinguishable.labels_of_label leads leads' same)

end Registry.Distinguishable

end Reindex
