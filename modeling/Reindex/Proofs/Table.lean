import Std.Data.HashMap.Lemmas
import Mathlib.Data.List.Nodup

/-!
# Tables of places

A table leads from a key to its place in a list. It is exact if it leads to a place
exactly where the key is listed there. From this follows what a table is kept for: a
key without a place is not listed, none is listed twice, and a new one can be listed
behind the others.
-/

namespace Reindex.Table

variable {Key : Type} {keys : List Key} {key : Key} {place : Nat}

/-- A list with one more element behind it lists that one there and the others where they
were. -/
theorem getElem?_concat_eq_some_iff {tested : Key} :
    (keys ++ [key])[place]? = some tested ↔
      keys[place]? = some tested ∨ (keys.length = place ∧ key = tested) := by
  rcases Nat.lt_trichotomy place keys.length with within | rfl | beyond
  · rw [List.getElem?_append_left within]
    simp [Nat.ne_of_gt within]
  · simp
  · have outside : keys.length + 1 ≤ place := beyond
    rw [List.getElem?_eq_none (by simpa using outside), List.getElem?_eq_none (Nat.le_of_lt beyond)]
    simp [Nat.ne_of_lt beyond]

variable [BEq Key] [Hashable Key] {table : Std.HashMap Key Nat}

/-- The table leads from each key to the places where it is listed, and nowhere else. -/
def Locates (table : Std.HashMap Key Nat) (keys : List Key) : Prop :=
  ∀ (key : Key) (place : Nat), table[key]? = some place ↔ keys[place]? = some key

/-- An empty table is a table of nothing. -/
theorem locates_nil : Locates (∅ : Std.HashMap Key Nat) [] := by
  intro key place
  simp

/-- A key without a place is not listed, -/
theorem Locates.eq_none_iff (locates : Locates table keys) : table[key]? = none ↔ key ∉ keys := by
  rw [Option.eq_none_iff_forall_not_mem, List.mem_iff_getElem?, not_exists]
  exact forall_congr' fun place => not_congr (locates key place)

/-- and none has two, so that nothing is listed twice. -/
theorem Locates.nodup (locates : Locates table keys) : keys.Nodup := by
  rw [List.nodup_iff_getElem?_ne_getElem?]
  intro earlier later before bounded same
  have listed : keys[later]? = some keys[later] := List.getElem?_eq_getElem bounded
  have first := (locates _ _).2 (same.trans listed)
  have second := (locates _ _).2 listed
  exact absurd (Option.some.inj (first.symm.trans second)) (Nat.ne_of_lt before)

variable [LawfulBEq Key]

/-- A key is in the table exactly when it is listed. -/
theorem Locates.contains_iff (locates : Locates table keys) :
    table.contains key = true ↔ key ∈ keys := by
  rw [Std.HashMap.contains_iff_mem, Std.HashMap.mem_iff_isSome_getElem?,
    ← Option.ne_none_iff_isSome, ne_eq, locates.eq_none_iff, not_not]

/-- A key without a place can be listed behind the others. -/
theorem Locates.concat (locates : Locates table keys) (fresh : key ∉ keys) :
    Locates (table.insert key keys.length) (keys ++ [key]) := by
  intro tested place
  rw [Std.HashMap.getElem?_insert, getElem?_concat_eq_some_iff]
  by_cases same : key = tested
  · subst same
    have absent : keys[place]? ≠ some key := fun listed => fresh (List.mem_of_getElem? listed)
    simp [absent]
  · simp [same, locates tested place]

end Reindex.Table
