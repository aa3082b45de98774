import Reindex.Containment.Chain

/-!
# All chains that end at a type

The chains that end at a type are found level by level, shortest first: a level
holds the chains of one length, and the next one extends each of them upward by
every edge into its top. A chain whose top and label were met before is left out
and not extended. The configured depth bounds the levels, so cyclic embeddings
end as well.
-/

namespace Reindex.Closure

/-- The edges whose target is a type. -/
def edgesInto (edges : List Edge) (target : TypeName) : List Edge :=
  edges.filter (·.embedding.target == target)

/-- What a chain is known by. -/
abbrev Mark := Option TypeName × String

/-- The mark of a chain. -/
def mark (chain : Chain) : Mark := (chain.top?, chain.label)

/-- Leave out the chains whose mark was met before, here or earlier. -/
def unmet (met : List Mark) : List Chain → List Chain
  | [] => []
  | chain :: rest =>
    if mark chain ∈ met then unmet met rest else chain :: unmet (mark chain :: met) rest

/-- The chains one edge longer. -/
def extensions (edges : List Edge) (chain : Chain) : List Chain :=
  match chain.top? with
  | none => []
  | some top => (edgesInto edges top).map (· :: chain)

/-- The chains of a level that are new, and of so many levels above it. -/
def climb (edges : List Edge) : Nat → List Mark → List Chain → List Chain
  | _, _, [] => []
  | 0, met, level => unmet met level
  | above + 1, met, level =>
    let fresh := unmet met level
    fresh ++ climb edges above (fresh.map mark ++ met) (fresh.flatMap (extensions edges))

/-- The chains that end at a type, no longer than a depth; one edge is always
allowed. -/
def chains (edges : List Edge) (depth : Nat) (leaf : TypeName) : List Chain :=
  climb edges (depth - 1) [] ((edgesInto edges leaf).map ([·]))

end Reindex.Closure
