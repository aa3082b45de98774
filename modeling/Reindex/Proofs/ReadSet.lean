import Reindex.Proofs.Ordered
import Reindex.Proofs.Path
import Reindex.ReadSet

/-!
# The extents of read sets

Operations on read sets rewrite lists of paths; what they mean is said of the
extents. Narrowing to a property takes the paths below it, restricting intersects,
and a change triggers a read set when the two have a path in common. A result that
is left out has no extent at all.
-/

namespace Reindex

namespace PathSet

/-- Paths entered one by one are listed with those listed before. -/
theorem mem_foldl_insert {path : Path} {set : PathSet} {paths : List Path} :
    path ∈ paths.foldl insert set ↔ path ∈ set ∨ path ∈ paths := by
  induction paths generalizing set with
  | nil => simp
  | cons head rest inductionHypothesis =>
    rw [List.foldl_cons, inductionHypothesis, mem_insert, List.mem_cons, or_assoc, or_left_comm]

/-- The set of listed paths lists them. -/
theorem mem_ofList {path : Path} {paths : List Path} :
    path ∈ (ofList paths).paths ↔ path ∈ paths := by
  have listed : path ∈ ofList paths ↔ path ∈ empty ∨ path ∈ paths := mem_foldl_insert
  have none : path ∉ empty := List.not_mem_nil
  exact listed.trans (or_iff_right none)

/-- A set is known by its members. -/
theorem ext_mem {a b : PathSet} (members : ∀ path, path ∈ a ↔ path ∈ b) : a = b := by
  obtain ⟨paths, increasing⟩ := a
  obtain ⟨paths', increasing'⟩ := b
  rw [mk.injEq]
  exact increasing.ext increasing' members

/-- A union lists the paths of both sets. -/
theorem mem_union {a b : PathSet} {path : Path} : path ∈ a.union b ↔ path ∈ a ∨ path ∈ b :=
  mem_foldl_insert

/-- Paths that are listed already add nothing. -/
theorem union_self (set : PathSet) : set.union set = set :=
  ext_mem fun _ => mem_union.trans or_self_iff

/-- It does not matter which paths are joined first. -/
theorem union_assoc (a b c : PathSet) : (a.union b).union c = a.union (b.union c) := by
  refine ext_mem fun path => ?_
  simp only [mem_union, or_assoc]

/-- The paths below a property are those that continue it. -/
theorem mem_below {set : PathSet} {property path : Path} :
    path ∈ (set.below property).paths ↔ property ++ "." ++ path ∈ set.paths := by
  simp [below, mem_ofList, Path.relativeTo?_eq_some_iff]

end PathSet

namespace ReadSet

variable {reads : ReadSet} {path property : Path}

/-- Listed paths cover what lies within one of them. -/
theorem covers_paths {set : PathSet} :
    (paths set).Covers path ↔ ∃ listed ∈ set.paths, path.Within listed := Iff.rfl

/-- A read set that is left out when it is empty covers the same. -/
theorem covers_ofPaths? {set : PathSet} :
    (∃ found ∈ ofPaths? set, found.Covers path) ↔ ∃ listed ∈ set.paths, path.Within listed := by
  unfold ofPaths?
  by_cases nothing : set.isEmpty = true
  · have none : set.paths = [] := List.isEmpty_iff.1 nothing
    simp [nothing, none]
  · simp [nothing, covers_paths]

/-- Narrowing to a property takes the paths below it. -/
theorem covers_narrow (undotted : '.' ∉ property.toList) :
    (∃ narrowed ∈ reads.narrow property, narrowed.Covers path) ↔
      reads.Covers (property ++ "." ++ path) := by
  cases reads with
  | all => simp [narrow, Covers]
  | paths set =>
    rw [covers_paths]
    simp only [Path.within_property undotted, narrow]
    by_cases named : set.contains property = true
    · have listed : property ∈ set.paths := by simpa [PathSet.contains] using named
      rw [if_pos named]
      exact iff_of_true ⟨.all, rfl, trivial⟩ ⟨property, listed, .inl rfl⟩
    · have unlisted : property ∉ set.paths := by simpa [PathSet.contains] using named
      rw [if_neg named, covers_ofPaths?]
      constructor
      · rintro ⟨above, listed, around⟩
        exact ⟨_, PathSet.mem_below.1 listed, .inr ⟨above, rfl, around⟩⟩
      · rintro ⟨listed, member, rfl | ⟨above, rfl, around⟩⟩
        · exact absurd member unlisted
        · exact ⟨above, PathSet.mem_below.2 member, around⟩

/-- The more specific of two paths that touch is the one within the other. -/
theorem moreSpecific?_eq_some_iff {p q : Path} :
    moreSpecific? p q = some path ↔ path = p ∧ p.Within q ∨ path = q ∧ q.Within p := by
  have first : (p == q || Path.isBelow p q) = true ↔ p.Within q := by
    rw [Bool.or_eq_true, beq_iff_eq, Path.Within, eq_comm]
  unfold moreSpecific?
  by_cases inner : p.Within q
  · rw [if_pos (first.2 inner), Option.some.injEq]
    constructor
    · rintro rfl
      exact .inl ⟨rfl, inner⟩
    · rintro (⟨rfl, -⟩ | ⟨rfl, outer⟩)
      · rfl
      · exact inner.antisymm outer
  · rw [if_neg (mt first.1 inner)]
    by_cases outer : Path.isBelow q p = true
    · rw [if_pos outer, Option.some.injEq]
      constructor
      · rintro rfl
        exact .inr ⟨rfl, .inr outer⟩
      · rintro (⟨-, within⟩ | ⟨rfl, -⟩)
        · exact absurd within inner
        · rfl
    · rw [if_neg outer]
      refine iff_of_false (by simp) ?_
      rintro (⟨-, within⟩ | ⟨-, rfl | below⟩)
      · exact inner within
      · exact inner (.refl _)
      · exact outer below

/-- It covers what both cover. -/
theorem within_moreSpecific? {p q : Path} :
    (∃ kept ∈ moreSpecific? p q, path.Within kept) ↔ path.Within p ∧ path.Within q := by
  simp only [Option.mem_def, moreSpecific?_eq_some_iff]
  constructor
  · rintro ⟨_, ⟨rfl, inner⟩ | ⟨rfl, inner⟩, inside⟩
    · exact ⟨inside, inside.trans inner⟩
    · exact ⟨inside.trans inner, inside⟩
  · rintro ⟨insideP, insideQ⟩
    rcases insideP.comparable insideQ with inner | inner
    · exact ⟨p, .inl ⟨rfl, inner⟩, insideP⟩
    · exact ⟨q, .inr ⟨rfl, inner⟩, insideQ⟩

/-- Restricting intersects. -/
theorem covers_restrict {other : ReadSet} :
    (∃ both ∈ reads.restrict other, both.Covers path) ↔ reads.Covers path ∧ other.Covers path := by
  cases reads with
  | all => simp [restrict, Covers]
  | paths a =>
    cases other with
    | all => simp [restrict, Covers]
    | paths b =>
      simp only [restrict, covers_ofPaths?, PathSet.mem_ofList, List.mem_flatMap,
        List.mem_filterMap, covers_paths]
      constructor
      · rintro ⟨kept, ⟨p, memberP, q, memberQ, specific⟩, inside⟩
        obtain ⟨insideP, insideQ⟩ := within_moreSpecific?.1 ⟨kept, specific, inside⟩
        exact ⟨⟨p, memberP, insideP⟩, q, memberQ, insideQ⟩
      · rintro ⟨⟨p, memberP, insideP⟩, q, memberQ, insideQ⟩
        obtain ⟨kept, specific, inside⟩ := within_moreSpecific?.2 ⟨insideP, insideQ⟩
        exact ⟨kept, ⟨p, memberP, q, memberQ, specific⟩, inside⟩

/-- A known change triggers a read set when some path within a changed one is read. -/
theorem isTriggeredBy_some_iff {changed : PathSet} :
    reads.isTriggeredBy (some changed) = true ↔
      ∃ path, (∃ listed ∈ changed.paths, path.Within listed) ∧ reads.Covers path := by
  cases reads with
  | all =>
    simp only [isTriggeredBy, PathSet.isEmpty, Bool.not_eq_true',
      List.isEmpty_eq_false_iff_exists_mem]
    constructor
    · rintro ⟨listed, member⟩
      exact ⟨listed, ⟨listed, member, .refl listed⟩, trivial⟩
    · rintro ⟨_, ⟨listed, member, _⟩, _⟩
      exact ⟨listed, member⟩
  | paths set =>
    simp only [isTriggeredBy, PathSet.intersects, List.any_eq_true, Path.overlap_iff, covers_paths]
    constructor
    · rintro ⟨read, memberRead, listed, member, path, insideRead, inside⟩
      exact ⟨path, ⟨listed, member, inside⟩, read, memberRead, insideRead⟩
    · rintro ⟨path, ⟨listed, member, inside⟩, read, memberRead, insideRead⟩
      exact ⟨read, memberRead, listed, member, path, insideRead, inside⟩

end ReadSet

end Reindex
