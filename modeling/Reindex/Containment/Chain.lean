import Reindex.Registry

/-!
# Chains of embeddings

An edge is a declared embedding together with its owner. A chain leads from a
document's type down to an embedded one: each edge's target owns the next edge.
Chains are listed from the root, so a chain grows upward at its head.

What the root's document reads of the last target is found from the root down:
at each further edge the read set is narrowed to the property and restricted to
the includes. An edge may bound how many levels, itself included, hang below it.
-/

namespace Reindex

/-- A declared embedding and the type that declares it. -/
structure Edge where
  owner : TypeName
  embedding : Embedding

/-- Edges from a root type down to an embedded one. -/
abbrev Chain := List Edge

namespace Edge

/-- The owner and the property, joined by a dot. -/
def label (edge : Edge) : String := edge.owner ++ "." ++ edge.embedding.property

end Edge

/-- The declared embeddings, in order of declaration. -/
def Registry.edges (registry : Registry) : List Edge :=
  registry.types.flatMap fun type => type.embeddings.map fun embedding => ⟨type.name, embedding⟩

namespace Chain

/-- The type whose documents the chain starts from. -/
def top? (chain : Chain) : Option TypeName := chain.head?.map Edge.owner

/-- The labels of the edges, joined by strokes. Two chains of one top with the
same label are taken for one. -/
def label (chain : Chain) : String := String.intercalate "/" (chain.map Edge.label)

/-- Whether every edge admits as many levels as hang below it. -/
def depthAllowed : Chain → Bool
  | [] => true
  | edge :: below =>
    (match edge.embedding.maxDepth with
      | none => true
      | some limit => below.length < limit) && depthAllowed below

/-- What is read one edge further down. -/
def readsThrough (reads : ReadSet) (edge : Edge) : Option ReadSet :=
  (reads.narrow edge.embedding.property).bind (·.restrict edge.embedding.includes)

/-- What the root's document reads of the last target. -/
def reads? : Chain → Option ReadSet
  | [] => none
  | root :: below => below.foldlM readsThrough root.embedding.includes

end Chain

end Reindex
