import Reindex.Containment.Chain
import Reindex.Proofs.ReadSet

/-!
# What is left of a read set along a chain

From the root down, a read set is narrowed to the property of each edge and restricted to
its includes. What that leaves is said here of the listed paths, apart from the lists that
the operations build. Of a property that is listed everything is read, and otherwise the
listed paths below it; of two paths that touch, the more specific one is read by both; and
a set that would list nothing is left out.

Its extent is said from the leaf up: a path of the leaf is read when every edge of the chain
includes it, as it is called from that edge's target, behind the properties that lie between.
That holds as long as no property contains a dot, for a property with a dot can lie below a
listed path without being listed.
-/

namespace Reindex

namespace ReadSet

/-- What is read of a property by those who read an entity. -/
inductive Narrows (property : Path) : ReadSet → ReadSet → Prop
  /-- Who reads all of the entity reads all of the property, -/
  | all : Narrows property .all .all
  /-- and so does who lists the property itself. -/
  | listed {set : PathSet} (member : property ∈ set.paths) : Narrows property (.paths set) .all
  /-- Otherwise the paths are read that are listed below it, and there has to be one. -/
  | below {set inner : PathSet} (unlisted : property ∉ set.paths)
      (members : ∀ path, path ∈ inner.paths ↔ property ++ "." ++ path ∈ set.paths)
      (something : inner.paths ≠ []) : Narrows property (.paths set) (.paths inner)

/-- What is read by both of two readers of one entity. -/
inductive Restricts : ReadSet → ReadSet → ReadSet → Prop
  /-- Who reads everything does not restrict the other, -/
  | all (other : ReadSet) : Restricts .all other other
  /-- on either side. -/
  | paths (set : PathSet) : Restricts (.paths set) .all (.paths set)
  /-- Otherwise each path is read that one of them lists within a path of the other, and there
  has to be one. -/
  | common {a b both : PathSet}
      (members : ∀ path, path ∈ both.paths ↔
        (path ∈ a.paths ∧ ∃ q ∈ b.paths, path.Within q) ∨
          path ∈ b.paths ∧ ∃ p ∈ a.paths, path.Within p)
      (something : both.paths ≠ []) : Restricts (.paths a) (.paths b) (.paths both)

variable {reads other left : ReadSet} {property path : Path}

/-- A set of paths is kept as it is, unless it lists none. -/
theorem ofPaths?_eq_some_iff {set : PathSet} :
    ofPaths? set = some left ↔ set.paths ≠ [] ∧ left = .paths set := by
  unfold ofPaths?
  by_cases none : set.isEmpty = true
  · rw [if_pos none]
    exact iff_of_false nofun fun kept => kept.1 (List.isEmpty_iff.1 none)
  · rw [if_neg none, Option.some.injEq]
    exact ⟨fun same => ⟨mt List.isEmpty_iff.2 none, same.symm⟩, fun kept => kept.2.symm⟩

/-- A read set is narrowed to what is read of the property. -/
theorem narrow_eq_some_iff : reads.narrow property = some left ↔ Narrows property reads left := by
  cases reads with
  | all =>
    constructor
    · rintro ⟨⟩
      exact .all
    · rintro ⟨⟩
      rfl
  | paths set =>
    by_cases named : property ∈ set.paths
    · have contains : set.contains property = true := by simpa [PathSet.contains] using named
      rw [narrow, if_pos contains]
      constructor
      · rintro ⟨⟩
        exact .listed named
      · rintro (_ | _ | ⟨unlisted, _, _⟩)
        · rfl
        · exact absurd named unlisted
    · have absent : ¬ set.contains property = true := by simpa [PathSet.contains] using named
      rw [narrow, if_neg absent, ofPaths?_eq_some_iff]
      constructor
      · rintro ⟨something, rfl⟩
        exact .below named (fun path => PathSet.mem_below) something
      · rintro (_ | ⟨member⟩ | ⟨_, members, something⟩)
        · exact absurd member named
        · obtain rfl := PathSet.ext_mem fun path => (members path).trans PathSet.mem_below.symm
          exact ⟨something, rfl⟩

/-- Restricting leaves what is read by both. -/
theorem restrict_eq_some_iff : reads.restrict other = some left ↔ Restricts reads other left := by
  cases reads with
  | all =>
    constructor
    · rintro ⟨⟩
      exact .all other
    · rintro ⟨⟩
      rfl
  | paths a =>
    cases other with
    | all =>
      constructor
      · rintro ⟨⟩
        exact .paths a
      · rintro ⟨⟩
        rfl
    | paths b =>
      have members : ∀ path, path ∈ (PathSet.ofList
          (a.paths.flatMap fun p => b.paths.filterMap (moreSpecific? p))).paths ↔
            (path ∈ a.paths ∧ ∃ q ∈ b.paths, path.Within q) ∨
              path ∈ b.paths ∧ ∃ p ∈ a.paths, path.Within p := by
        intro path
        simp only [PathSet.mem_ofList, List.mem_flatMap, List.mem_filterMap,
          moreSpecific?_eq_some_iff]
        constructor
        · rintro ⟨p, memberP, q, memberQ, ⟨rfl, within⟩ | ⟨rfl, within⟩⟩
          · exact .inl ⟨memberP, q, memberQ, within⟩
          · exact .inr ⟨memberQ, p, memberP, within⟩
        · rintro (⟨memberP, q, memberQ, within⟩ | ⟨memberQ, p, memberP, within⟩)
          · exact ⟨path, memberP, q, memberQ, .inl ⟨rfl, within⟩⟩
          · exact ⟨p, memberP, path, memberQ, .inr ⟨rfl, within⟩⟩
      rw [restrict, ofPaths?_eq_some_iff]
      constructor
      · rintro ⟨something, rfl⟩
        exact .common members something
      · rintro (_ | _ | ⟨listed, something⟩)
        obtain rfl := PathSet.ext_mem fun path => (listed path).trans (members path).symm
        exact ⟨something, rfl⟩

end ReadSet

namespace Chain

/-- What is left of a read set down a chain: at each edge it is narrowed to the property and
restricted to the includes. -/
inductive Leaves : ReadSet → Chain → ReadSet → Prop
  | here (reads : ReadSet) : Leaves reads [] reads
  | through {reads inner met left : ReadSet} {edge : Edge} {below : Chain}
      (narrows : reads.Narrows edge.embedding.property inner)
      (restricts : inner.Restricts edge.embedding.includes met) (further : Leaves met below left) :
      Leaves reads (edge :: below) left

/-- What the root's document reads of the last target: what is left of the includes of the
first edge. -/
inductive Reads : Chain → ReadSet → Prop
  | root {edge : Edge} {below : Chain} {left : ReadSet}
      (leaves : Leaves edge.embedding.includes below left) : Reads (edge :: below) left

/-- What is found from edge to edge is what is left. -/
theorem foldlM_eq_some_iff {reads left : ReadSet} {below : Chain} :
    below.foldlM readsThrough reads = some left ↔ Leaves reads below left := by
  induction below generalizing reads with
  | nil =>
    constructor
    · rintro ⟨⟩
      exact .here _
    · rintro ⟨⟩
      rfl
  | cons edge rest inductionHypothesis =>
    rw [List.foldlM_cons]
    constructor
    · intro folded
      obtain ⟨met, one, folded⟩ := Option.bind_eq_some_iff.1 folded
      obtain ⟨inner, narrowed, restricted⟩ := Option.bind_eq_some_iff.1 one
      exact .through (ReadSet.narrow_eq_some_iff.1 narrowed)
        (ReadSet.restrict_eq_some_iff.1 restricted) (inductionHypothesis.1 folded)
    · rintro (_ | ⟨narrows, restricts, further⟩)
      exact Option.bind_eq_some_iff.2 ⟨_, Option.bind_eq_some_iff.2
        ⟨_, ReadSet.narrow_eq_some_iff.2 narrows, ReadSet.restrict_eq_some_iff.2 restricts⟩,
        inductionHypothesis.2 further⟩

/-- What is found for a chain is what its root's document reads. -/
theorem reads?_eq_some_iff {chain : Chain} {reads : ReadSet} :
    chain.reads? = some reads ↔ chain.Reads reads := by
  cases chain with
  | nil => exact iff_of_false nofun nofun
  | cons root below =>
    rw [reads?, foldlM_eq_some_iff]
    exact ⟨.root, fun ⟨leaves⟩ => leaves⟩

/-- A path of the last target, as it is called from the target of the edge above the
given ones: behind their properties. -/
def pathTo (below : Chain) (path : Path) : Path :=
  below.foldr (fun edge inner => edge.embedding.property ++ "." ++ inner) path

/-- Every edge includes the path, as it is called from the target of that edge. -/
def Passes (chain : Chain) (path : Path) : Prop :=
  ∀ above edge below, chain = above ++ edge :: below →
    edge.embedding.includes.Covers (Chain.pathTo below path)

variable {path : Path}

/-- Without edges every path passes. -/
theorem passes_nil : Passes [] path := by
  intro above edge below split
  simp at split

/-- A chain is passed when its first edge includes the path and the others are passed. -/
theorem passes_cons_iff {edge : Edge} {below : Chain} :
    Passes (edge :: below) path ↔
      edge.embedding.includes.Covers (pathTo below path) ∧ Passes below path := by
  constructor
  · intro passes
    refine ⟨passes [] edge below rfl, fun above next rest split => ?_⟩
    exact passes (edge :: above) next rest (congrArg (edge :: ·) split)
  · rintro ⟨included, passes⟩ above next rest split
    cases above with
    | nil =>
      obtain ⟨rfl, rfl⟩ := List.cons.inj split
      exact included
    | cons first above => exact passes above next rest (List.cons.inj split).2

/-- One edge further down, what is read lies below the property and is included. -/
theorem covers_readsThrough {reads : ReadSet} {edge : Edge}
    (undotted : '.' ∉ edge.embedding.property.toList) :
    (∃ found ∈ readsThrough reads edge, found.Covers path) ↔
      reads.Covers (edge.embedding.property ++ "." ++ path) ∧
        edge.embedding.includes.Covers path := by
  rw [← ReadSet.covers_narrow undotted]
  constructor
  · rintro ⟨found, through, covers⟩
    obtain ⟨narrowed, below, restricted⟩ := Option.bind_eq_some_iff.1 through
    obtain ⟨inner, included⟩ := ReadSet.covers_restrict.1 ⟨found, restricted, covers⟩
    exact ⟨⟨narrowed, below, inner⟩, included⟩
  · rintro ⟨⟨narrowed, below, inner⟩, included⟩
    obtain ⟨found, restricted, covers⟩ := ReadSet.covers_restrict.2 ⟨inner, included⟩
    exact ⟨found, Option.bind_eq_some_iff.2 ⟨narrowed, below, restricted⟩, covers⟩

/-- Down any number of edges, what is read lies below all their properties and passes
all their includes. -/
theorem covers_foldlM {reads : ReadSet} {below : Chain}
    (undotted : ∀ edge ∈ below, '.' ∉ edge.embedding.property.toList) :
    (∃ found ∈ below.foldlM readsThrough reads, found.Covers path) ↔
      reads.Covers (pathTo below path) ∧ Passes below path := by
  induction below generalizing reads with
  | nil => simp [pathTo, Passes]
  | cons edge rest inductionHypothesis =>
    have further := fun reads : ReadSet => @inductionHypothesis reads fun edge member =>
      undotted edge (List.mem_cons_of_mem _ member)
    have through := @covers_readsThrough (pathTo rest path) reads edge
      (undotted edge List.mem_cons_self)
    rw [List.foldlM_cons, passes_cons_iff, ← and_assoc]
    constructor
    · rintro ⟨found, folded, covers⟩
      obtain ⟨middle, one, folded⟩ := Option.bind_eq_some_iff.1 folded
      obtain ⟨inner, passes⟩ := (further middle).1 ⟨found, folded, covers⟩
      exact ⟨through.1 ⟨middle, one, inner⟩, passes⟩
    · rintro ⟨included, passes⟩
      obtain ⟨middle, one, inner⟩ := through.2 included
      obtain ⟨found, folded, covers⟩ := (further middle).2 ⟨inner, passes⟩
      exact ⟨found, Option.bind_eq_some_iff.2 ⟨middle, one, folded⟩, covers⟩

/-- What the root's document reads of the last target is what passes the chain. -/
theorem covers_reads? {chain : Chain} (nonempty : chain ≠ [])
    (undotted : ∀ edge ∈ chain, '.' ∉ edge.embedding.property.toList) :
    (∃ reads ∈ chain.reads?, reads.Covers path) ↔ chain.Passes path := by
  cases chain with
  | nil => exact absurd rfl nonempty
  | cons root below =>
    rw [reads?, covers_foldlM fun edge member => undotted edge (List.mem_cons_of_mem _ member),
      passes_cons_iff]

/-- So a read set covers what passes the chain, -/
theorem Reads.covers_iff {chain : Chain} {reads : ReadSet} (read : chain.Reads reads)
    (undotted : ∀ edge ∈ chain, '.' ∉ edge.embedding.property.toList) :
    reads.Covers path ↔ chain.Passes path := by
  have nonempty : chain ≠ [] := by
    rintro rfl
    cases read
  rw [← covers_reads? nonempty undotted, reads?_eq_some_iff.2 read]
  simp

/-- and a chain that something passes has a read set. -/
theorem Passes.exists_reads {chain : Chain} (passes : chain.Passes path) (nonempty : chain ≠ [])
    (undotted : ∀ edge ∈ chain, '.' ∉ edge.embedding.property.toList) :
    ∃ reads, chain.Reads reads := by
  obtain ⟨reads, found, -⟩ := (covers_reads? nonempty undotted).2 passes
  exact ⟨reads, reads?_eq_some_iff.1 found⟩

end Chain

end Reindex
