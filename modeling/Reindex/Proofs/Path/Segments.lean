import Mathlib.Data.List.Infix
import Reindex.Instance
import Reindex.Proofs.ReadSet.Extent

/-!
# Paths as lists of segments

Whether two paths touch is seen from their texts as they are stored, byte by byte and
without cutting them. What it means is said of the segments: those of one path begin
those of the other. The dot behind a whole path is all that tells this apart from names
that merely share letters, and an empty path or an empty segment counts like any other.

A property is looked up by the first segment of a path. So a path that leads to a
property lies within its name, and a path that does not touch the name leads past the
property. Setting a property anew leaves every such path where it led before, also when
the name has dots of its own, in which case no path leads to the property at all.
-/

namespace Reindex

namespace Path

/-! ## The segments -/

/-- A text is cut at every dot. -/
theorem splitDots_eq_splitOn (text : List Char) : splitDots text = text.splitOn '.' := by
  induction text with
  | nil => rfl
  | cons c rest inductionHypothesis =>
    rw [List.splitOn_eq_splitOnP] at inductionHypothesis ⊢
    rw [splitDots, List.splitOnP_cons_eq_if_modifyHead, inductionHypothesis]
    by_cases dot : c = '.'
    · simp [dot]
    · cases pieces : rest.splitOnP (· == '.') with
      | nil => exact absurd pieces (List.splitOnP_ne_nil _ _)
      | cons piece others => simp [dot]

/-- There is at least one segment. -/
theorem segments_ne_nil (path : Path) : path.segments ≠ [] := by
  rw [segments, splitDots_eq_splitOn]
  simp

/-- Joined by dots, the segments are the path. -/
theorem intercalate_segments (path : Path) : String.intercalate "." path.segments = path := by
  rw [← String.toList_inj, String.toList_intercalate, segments, splitDots_eq_splitOn, List.map_map]
  simp [Function.comp_def, List.intercalate_splitOn]

/-- What continues a path behind a dot has further segments. -/
theorem segments_append (ancestor rest : Path) :
    segments (ancestor ++ "." ++ rest) = ancestor.segments ++ rest.segments := by
  have text : (ancestor ++ "." ++ rest).toList = ancestor.toList ++ '.' :: rest.toList := by
    simp
  rw [segments, segments, segments, splitDots_eq_splitOn, splitDots_eq_splitOn,
    splitDots_eq_splitOn, text, List.splitOn_append_cons_self, List.map_append]

/-- A path lies within what its first segments, joined by dots, name. -/
theorem within_of_segments {path : Path} {first further : List String} (some : first ≠ [])
    (split : path.segments = first ++ further) : path.Within (String.intercalate "." first) := by
  by_cases none : further = []
  · left
    rw [← intercalate_segments path, split, none, List.append_nil]
  · refine .inr (isBelow_iff.2 ⟨String.intercalate "." further, ?_⟩)
    rw [← intercalate_segments path, split, String.intercalate_append_of_ne_nil some none]

/-- A path lies within another one when the segments of that one begin its own. -/
theorem within_iff_segments {path ancestor : Path} :
    path.Within ancestor ↔ ancestor.segments <+: path.segments := by
  constructor
  · rintro (rfl | below)
    · exact List.prefix_refl _
    · obtain ⟨rest, rfl⟩ := isBelow_iff.1 below
      rw [segments_append]
      exact List.prefix_append _ _
  · rintro ⟨further, split⟩
    have inside := within_of_segments ancestor.segments_ne_nil split.symm
    rwa [intercalate_segments] at inside

/-! ## The stored texts -/

/-- Whether stored bytes are more than those of another text, begin with them, and have a
dot behind them. -/
def continues (path ancestor : List UInt8) : Bool :=
  ancestor.length < path.length && ancestor.isPrefixOf path &&
    path[ancestor.length]? == some '.'.toUInt8

/-- Whether two paths touch can be seen from their bytes. -/
theorem overlap_eq_bytes (a b : Path) :
    overlap a b = (a == b || continues (Text.bytes b) (Text.bytes a) ||
      continues (Text.bytes a) (Text.bytes b)) := by
  have stored (path ancestor : Path) :
      isBelow path ancestor = continues (Text.bytes path) (Text.bytes ancestor) := by
    rw [Bool.eq_iff_iff, isBelow_iff_bytes, continues]
    simp [and_assoc]
  rw [overlap, stored, stored]

end Path

/-! ## What a path leads to -/

/-- A property has no part in where a path leads that does not touch its name. -/
theorem Instance.lookup?_set_of_apart (entity : Instance) {name : String} {path : Path}
    (value : Json) (apart : Path.overlap name path = false) :
    (entity.set name value).lookup? path = entity.lookup? path := by
  unfold lookup?
  cases split : path.segments with
  | nil => rfl
  | cons first members =>
    -- the path lies within its first segment, and it does not lie within the name
    have inside : path.Within first := Path.within_of_segments (List.cons_ne_nil first []) split
    have distinct : first ≠ name := by
      rintro rfl
      rw [Path.overlap_iff_within.2 (.inl inside)] at apart
      cases apart
    have kept : (entity.set name value).property? first = entity.property? first :=
      Fields.get?_set_of_ne _ _ distinct
    simp only [kept]

/-- Paths touch when the pieces of one of them between the dots begin those of the other,
which the stored bytes tell as well, and a change of a property concerns only the paths
that touch its name: all others lead where they led before, for every entity and every
new value. -/
theorem overlap_exact (name path : Path) :
    (Path.overlap name path =
      (name == path || Path.continues (Text.bytes path) (Text.bytes name) ||
        Path.continues (Text.bytes name) (Text.bytes path))) ∧
    (Path.overlap name path = true ↔
      name.toList.splitOn '.' <+: path.toList.splitOn '.' ∨
        path.toList.splitOn '.' <+: name.toList.splitOn '.') ∧
    ∀ (entity : Instance) (value : Json), Path.overlap name path = false →
      (entity.set name value).lookup? path = entity.lookup? path := by
  have pieces (a b : Path) : a.segments <+: b.segments ↔
      a.toList.splitOn '.' <+: b.toList.splitOn '.' := by
    rw [Path.segments, Path.segments, Path.splitDots_eq_splitOn, Path.splitDots_eq_splitOn]
    exact List.prefix_map_iff_of_injective fun _ _ => String.ofList_injective
  refine ⟨Path.overlap_eq_bytes name path, ?_, ?_⟩
  · rw [Path.overlap_iff_within, Path.within_iff_segments, Path.within_iff_segments, pieces, pieces]
  · intro entity value apart
    exact entity.lookup?_set_of_apart value apart

namespace Library

/-- A book with its author. -/
def signed : Instance :=
  ⟨"Book", [("author", .object [("name", .text "Austen")]), ("title", .text "Emma")]⟩

/-- An authorship is not about the author: entered later, it leaves the name of the author
where it was, although the one name begins with the letters of the other. -/
theorem authorship_apart :
    Path.overlap "authorship" "author.name" = false ∧
    (signed.set "authorship" (.text "disputed")).lookup? "author.name" = some (.text "Austen") := by
  obtain ⟨-, -, kept⟩ := overlap_exact "authorship" "author.name"
  have apart : Path.overlap "authorship" "author.name" = false := by decide
  refine ⟨apart, ?_⟩
  rw [kept signed (.text "disputed") apart]
  rfl

end Library

end Reindex
