import Reindex.Proofs.Library
import Reindex.Proofs.ReadSet
import Reindex.Proofs.Text.Bytes
import Mathlib.Data.Set.Basic

/-!
# Read sets as sets of paths

The extent of a read set is an unbounded set of texts, said without any of the tests
that the operations make: all paths, or the listed ones and whatever continues one of
them behind a dot. The tests themselves look at bytes: a path is below another one
when it is longer, begins with the same bytes and has a dot behind them. No character
is cut in two by that, because the first character can be told from the bytes.

Narrowing is then a preimage and restricting an intersection, with nothing read as the
empty extent, and a change triggers a read set when the two extents meet.
-/

namespace Reindex

namespace Path

/-- The first character can be told from the bytes. -/
theorem head_of_bytes {c d : Char} {rest others : List UInt8}
    (same : String.utf8EncodeChar c ++ rest = String.utf8EncodeChar d ++ others) : c = d := by
  have decoded := congrArg (fun bytes => bytes.toByteArray.utf8DecodeChar? 0) same
  simpa [List.toByteArray_append, ByteArray.utf8DecodeChar?_utf8EncodeChar_append] using decoded

/-- A text begins with another one when its bytes do. -/
theorem bytes_prefix_iff {beginning text : List Char} :
    beginning.flatMap String.utf8EncodeChar <+: text.flatMap String.utf8EncodeChar ↔
      beginning <+: text := by
  constructor
  · intro begins
    induction beginning generalizing text with
    | nil => exact List.nil_prefix
    | cons c beginning inductionHypothesis =>
      obtain ⟨rest, same⟩ := begins
      cases text with
      | nil =>
        have coded := Char.utf8Size_pos c
        have lengths := congrArg List.length same
        simp only [List.flatMap_cons, List.flatMap_nil, List.length_append,
          String.length_utf8EncodeChar, List.length_nil] at lengths
        omega
      | cons d text =>
        rw [List.flatMap_cons, List.flatMap_cons, List.append_assoc] at same
        obtain rfl := head_of_bytes same
        have later := List.append_cancel_left same
        exact (List.prefix_cons_inj c).2 (inductionHypothesis ⟨rest, later⟩)
  · rintro ⟨rest, rfl⟩
    rw [List.flatMap_append]
    exact List.prefix_append _ _

/-- Below another path is a longer one that begins with its bytes and has a dot
behind them. -/
theorem isBelow_iff_bytes {path ancestor : Path} :
    isBelow path ancestor = true ↔
      (Text.bytes ancestor).length < (Text.bytes path).length ∧
        Text.bytes ancestor <+: Text.bytes path ∧
        (Text.bytes path)[(Text.bytes ancestor).length]? = some '.'.toUInt8 := by
  have dot : String.utf8EncodeChar '.' = ['.'.toUInt8] := by decide
  constructor
  · intro below
    obtain ⟨rest, rfl⟩ := isBelow_iff.1 below
    have stored : Text.bytes (ancestor ++ "." ++ rest) =
        Text.bytes ancestor ++ ('.'.toUInt8 :: Text.bytes rest) := by
      simp [Text.bytes_eq_flatMap, dot]
    rw [stored]
    exact ⟨by simp, List.prefix_append _ _, by simp⟩
  · rintro ⟨-, ⟨rest, begins⟩, next⟩
    rw [← begins, List.getElem?_append_right (le_refl _), Nat.sub_self] at next
    obtain ⟨others, rfl⟩ := List.head?_eq_some_iff.1 (List.head?_eq_getElem? ▸ next)
    have dotted : ancestor.toList ++ ['.'] <+: path.toList := by
      rw [← bytes_prefix_iff, List.flatMap_append, List.flatMap_singleton, dot]
      exact ⟨others, by simpa [Text.bytes_eq_flatMap] using begins⟩
    obtain ⟨text, same⟩ := dotted
    refine isBelow_iff.2 ⟨String.ofList text, ?_⟩
    rw [← String.toList_inj, ← same]
    simp

end Path

namespace PathSet

/-- The paths that a set lists, and all that continue one of them behind a dot. -/
def extent (set : PathSet) : Set Path :=
  {path | ∃ listed ∈ set.paths, path = listed ∨ ∃ rest : Path, path = listed ++ "." ++ rest}

/-- The extent of a set is what lies within a listed path. -/
theorem mem_extent {set : PathSet} {path : Path} :
    path ∈ set.extent ↔ ∃ listed ∈ set.paths, path.Within listed := by
  refine exists_congr fun listed => and_congr_right fun _ => ?_
  rw [Path.Within, Path.isBelow_iff, eq_comm]

end PathSet

namespace ReadSet

/-- The paths that are read: every text, or those of the listed paths. -/
def extent : ReadSet → Set Path
  | .all => Set.univ
  | .paths set => set.extent

/-- What is left of a read set after an operation; where nothing is left, nothing
is read. -/
def extent? (found : Option ReadSet) : Set Path := found.elim ∅ extent

variable {reads : ReadSet} {found : Option ReadSet} {path : Path}

/-- To be in the extent is to be covered. -/
theorem mem_extent : path ∈ reads.extent ↔ reads.Covers path := by
  cases reads with
  | all => exact iff_of_true trivial trivial
  | paths set => exact PathSet.mem_extent

/-- To be in what is left is to be covered by a read set that is left. -/
theorem mem_extent? : path ∈ extent? found ↔ ∃ left ∈ found, left.Covers path := by
  cases found with
  | none => simp [extent?]
  | some left => simp [extent?, mem_extent]

/-- The operations are those on the extents. Narrowing to a property leaves the paths
whose continuation of the property is read, restricting leaves what both read, a known
change triggers exactly when its extent meets that of the read set, and an unknown one
always does. -/
theorem extents_exact (reads other : ReadSet) (changed : PathSet) {property : Path}
    (undotted : '.' ∉ property.toList) :
    (∀ path : Path,
      path ∈ extent? (reads.narrow property) ↔ property ++ "." ++ path ∈ reads.extent) ∧
    extent? (reads.restrict other) = reads.extent ∩ other.extent ∧
    (reads.isTriggeredBy (some changed) = true ↔
      (reads.extent ∩ (paths changed).extent).Nonempty) ∧
    reads.isTriggeredBy none = true := by
  refine ⟨fun path => ?_, Set.ext fun path => ?_, ?_, rfl⟩
  · rw [mem_extent?, mem_extent, covers_narrow undotted]
  · rw [mem_extent?, covers_restrict, Set.mem_inter_iff, mem_extent, mem_extent]
  · rw [isTriggeredBy_some_iff]
    refine exists_congr fun path => ?_
    rw [Set.mem_inter_iff, mem_extent, mem_extent, covers_paths, and_comm]

end ReadSet

namespace Library

/-- The authorship of a book is not about its author: of a card with both, the author
is left the name and everything in it, and nothing of the authorship. -/
theorem author_read_by_name :
    '.' ∉ "author".toList ∧
    "name.first" ∈ ReadSet.extent?
      ((ReadSet.paths (.ofList ["author.name", "authorship.year"])).narrow "author") ∧
    (ReadSet.paths (.ofList ["author.name", "authorship.year"])).isTriggeredBy
      (some (.ofList ["author.name.first"])) = true := by
  obtain ⟨narrowed, -, triggered, -⟩ := ReadSet.extents_exact
    (.paths (.ofList ["author.name", "authorship.year"])) .all (.ofList ["author.name.first"])
    (show '.' ∉ "author".toList by decide)
  have below : "author.name.first" ∈
      (ReadSet.paths (.ofList ["author.name", "authorship.year"])).extent :=
    ⟨"author.name", by decide, .inr ⟨"first", by decide⟩⟩
  refine ⟨by decide, (narrowed "name.first").2 below, triggered.2 ⟨"author.name.first", below, ?_⟩⟩
  exact ⟨"author.name.first", by decide, .inl rfl⟩

end Library

end Reindex
