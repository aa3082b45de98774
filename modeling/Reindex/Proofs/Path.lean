import Reindex.Path
import Mathlib.Data.List.Infix

/-!
# Paths within paths

A path lies within another one when it is that path or continues it behind a dot.
Put a dot behind both, and this is to begin with the other path: the dots decide
that `product` and `productCode` are apart. So what lies within a path is ordered
like the beginnings of a text: of any two paths around a third one, one lies within
the other, and two paths touch exactly when something lies within both.
-/

namespace Reindex.Path

/-- To be a path, or to continue it behind a dot. -/
def Within (path ancestor : Path) : Prop := ancestor = path ∨ isBelow path ancestor = true

/-- The path that follows a property is found behind its name and a dot. -/
theorem relativeTo?_eq_some_iff {property path rest : Path} :
    relativeTo? property path = some rest ↔ path = property ++ "." ++ rest := by
  simp only [relativeTo?, Option.map_eq_some_iff, remainder_eq_some_iff]
  constructor
  · rintro ⟨text, begins, rfl⟩
    rw [← String.toList_inj]
    simpa using begins
  · rintro rfl
    exact ⟨rest.toList, by simp, by simp⟩

/-- A path below another one continues it behind a dot. -/
theorem isBelow_iff {path ancestor : Path} :
    isBelow path ancestor = true ↔ ∃ rest : Path, path = ancestor ++ "." ++ rest := by
  simp only [isBelow, Option.isSome_iff_exists, relativeTo?_eq_some_iff]

/-- With a dot behind both, to lie within a path is to begin with it. -/
theorem within_iff {path ancestor : Path} :
    path.Within ancestor ↔ ancestor.toList ++ ['.'] <+: path.toList ++ ['.'] := by
  constructor
  · rintro (rfl | below)
    · exact List.prefix_refl _
    · obtain ⟨rest, rfl⟩ := isBelow_iff.1 below
      exact ⟨rest.toList ++ ['.'], by simp⟩
  · rintro ⟨tail, same⟩
    rcases List.eq_nil_or_concat tail with rfl | ⟨rest, last, rfl⟩
    · left
      rw [← String.toList_inj]
      simpa using same
    · right
      obtain ⟨text, dot⟩ := List.append_inj' (show (ancestor.toList ++ ['.'] ++ rest) ++ [last] =
        path.toList ++ ['.'] by simpa using same) rfl
      refine isBelow_iff.2 ⟨String.ofList rest, ?_⟩
      rw [← String.toList_inj, ← text]
      simp

namespace Within

variable {path other ancestor : Path}

/-- A path lies within itself. -/
theorem refl (path : Path) : path.Within path := .inl rfl

/-- What lies within a path lies within all around it. -/
theorem trans {inner : Path} (first : inner.Within path) (second : path.Within ancestor) :
    inner.Within ancestor :=
  within_iff.2 ((within_iff.1 second).trans (within_iff.1 first))

/-- Of two paths within each other, each is the other. -/
theorem antisymm (first : path.Within other) (second : other.Within path) : path = other := by
  have same := (within_iff.1 first).eq_of_length_le (within_iff.1 second).length_le
  rw [← String.toList_inj]
  exact (List.append_cancel_right same).symm

/-- Of two paths around a third one, one lies within the other. -/
theorem comparable (first : path.Within ancestor) (second : path.Within other) :
    ancestor.Within other ∨ other.Within ancestor := by
  rw [within_iff, within_iff]
  exact (List.prefix_or_prefix_of_prefix (within_iff.1 first) (within_iff.1 second)).symm

end Within

/-- Two paths touch when one of them lies within the other, -/
theorem overlap_iff_within {a b : Path} :
    overlap a b = true ↔ b.Within a ∨ a.Within b := by
  simp only [overlap, Within, Bool.or_eq_true, beq_iff_eq]
  constructor
  · rintro ((same | below) | below)
    · exact .inl (.inl same)
    · exact .inl (.inr below)
    · exact .inr (.inr below)
  · rintro ((same | below) | (same | below))
    · exact .inl (.inl same)
    · exact .inl (.inr below)
    · exact .inl (.inl same.symm)
    · exact .inr below

/-- that is, exactly when something lies within both. -/
theorem overlap_iff {a b : Path} :
    overlap a b = true ↔ ∃ path : Path, path.Within a ∧ path.Within b := by
  rw [overlap_iff_within]
  constructor
  · rintro (inside | inside)
    · exact ⟨b, inside, .refl b⟩
    · exact ⟨a, .refl a, inside⟩
  · rintro ⟨path, first, second⟩
    exact (first.comparable second).symm

/-- A path below a property without dots lies within that property, and besides
within the paths below it that the rest lies within. -/
theorem within_property {property rest ancestor : Path} (undotted : '.' ∉ property.toList) :
    (property ++ "." ++ rest).Within ancestor ↔
      ancestor = property ∨ ∃ above, ancestor = property ++ "." ++ above ∧ rest.Within above := by
  have inside : (property ++ "." ++ rest).Within property := .inr (isBelow_iff.2 ⟨rest, rfl⟩)
  constructor
  · intro around
    rcases inside.comparable around with property' | ancestor'
    · rcases property' with same | below
      · exact .inl same
      · obtain ⟨text, rfl⟩ := isBelow_iff.1 below
        simp at undotted
    · rcases ancestor' with same | below
      · exact .inl same.symm
      · obtain ⟨above, rfl⟩ := isBelow_iff.1 below
        refine .inr ⟨above, rfl, ?_⟩
        rw [within_iff] at around ⊢
        simpa [List.prefix_append_right_inj] using around
  · rintro (rfl | ⟨above, rfl, around⟩)
    · exact inside
    · rw [within_iff] at around ⊢
      simpa [List.prefix_append_right_inj] using around

end Reindex.Path
