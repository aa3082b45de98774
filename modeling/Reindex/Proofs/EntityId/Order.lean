import Reindex.EntityKey
import Mathlib.Data.List.Basic

/-!
# The order of identifiers and keys

Two identifiers are compared part by part, at any depth, so what is known of the order
of the parts carries over to composites. Equal comparison is equality, the comparison
the other way round is the opposite one, and what precedes something that precedes a
third precedes the third. Keys inherit this from their two members.
-/

namespace Reindex

namespace Uuid

/-- UUIDs are ordered as their digits are. -/
instance : Std.TransOrd Uuid where
  eq_swap := by
    intro a b
    change compare (a.digits.map Fin.val) (b.digits.map Fin.val) = _
    exact Std.OrientedOrd.eq_swap
  isLE_trans := by
    intro a b c below above
    change (compare (a.digits.map Fin.val) (b.digits.map Fin.val)).isLE at below
    change (compare (a.digits.map Fin.val) (c.digits.map Fin.val)).isLE
    exact Std.TransOrd.isLE_trans below above

/-- No two UUIDs have the same digits. -/
instance : Std.LawfulEqOrd Uuid where
  compare_self := by
    intro a
    change compare (a.digits.map Fin.val) (a.digits.map Fin.val) = .eq
    exact Std.ReflOrd.compare_self
  eq_of_compare := by
    intro a b same
    have digits : a.digits.map Fin.val = b.digits.map Fin.val :=
      Std.LawfulEqOrd.eq_of_compare same
    cases a
    cases b
    rw [Uuid.mk.injEq]
    exact List.map_injective_iff.2 (fun _ _ => Fin.ext) digits

end Uuid

namespace EntityId

/-- The place of an identifier's kind among the kinds. -/
def kind : EntityId → Nat
  | .int _ => 0
  | .text _ => 1
  | .uuid _ => 2
  | .composite _ => 3

/-- Nothing of a later kind precedes. -/
theorem kind_le_of_order {a b : EntityId} (below : order a b = .lt) : a.kind ≤ b.kind := by
  cases a <;> cases b <;> simp_all [kind, order]

mutual

/-- Comparing the other way round gives the opposite answer. -/
theorem order_swap : (a b : EntityId) → order a b = (order b a).swap
  | .int _, .int _ => Std.OrientedOrd.eq_swap
  | .text _, .text _ => Std.OrientedOrd.eq_swap
  | .uuid _, .uuid _ => Std.OrientedOrd.eq_swap
  | .composite a, .composite b => orderParts_swap a b
  | .int _, .text _ | .int _, .uuid _ | .int _, .composite _
  | .text _, .int _ | .text _, .uuid _ | .text _, .composite _
  | .uuid _, .int _ | .uuid _, .text _ | .uuid _, .composite _
  | .composite _, .int _ | .composite _, .text _ | .composite _, .uuid _ => rfl

/-- So does comparing the parts. -/
theorem orderParts_swap : (a b : List EntityId) → orderParts a b = (orderParts b a).swap
  | [], [] | [], _ :: _ | _ :: _, [] => rfl
  | a :: as, b :: bs => by
    rw [orderParts, orderParts, Ordering.swap_then, ← order_swap a b, ← orderParts_swap as bs]

end

mutual

/-- Identifiers compare equal exactly when they are equal. -/
theorem order_eq_iff : (a b : EntityId) → (order a b = .eq ↔ a = b)
  | .int a, .int b => by simp [order]
  | .text a, .text b => by simp [order]
  | .uuid a, .uuid b => by simp [order]
  | .composite a, .composite b => by simpa [order] using orderParts_eq_iff a b
  | .int _, .text _ | .int _, .uuid _ | .int _, .composite _
  | .text _, .int _ | .text _, .uuid _ | .text _, .composite _
  | .uuid _, .int _ | .uuid _, .text _ | .uuid _, .composite _
  | .composite _, .int _ | .composite _, .text _ | .composite _, .uuid _ => by simp [order]

/-- So do lists of them. -/
theorem orderParts_eq_iff : (a b : List EntityId) → (orderParts a b = .eq ↔ a = b)
  | [], [] | [], _ :: _ | _ :: _, [] => by simp [orderParts]
  | a :: as, b :: bs => by
    rw [orderParts, Ordering.then_eq_eq, order_eq_iff a b, orderParts_eq_iff as bs, List.cons.injEq]

end

mutual

/-- What precedes something that precedes a third precedes the third. Kinds decide at
once; within a kind it is the order of the values. -/
theorem order_lt_trans : (a b c : EntityId) → order a b = .lt → order b c = .lt →
    order a c = .lt
  | .int a, b, .int c, below, above => by
    cases b with
    | int b =>
      change compare a b = .lt at below
      change compare b c = .lt at above
      change compare a c = .lt
      exact Std.TransCmp.lt_trans below above
    | text b => cases above
    | uuid b => cases above
    | composite b => cases above
  | .text a, b, .text c, below, above => by
    cases b with
    | int b => cases below
    | text b =>
      change compare a b = .lt at below
      change compare b c = .lt at above
      change compare a c = .lt
      exact Std.TransCmp.lt_trans below above
    | uuid b => cases above
    | composite b => cases above
  | .uuid a, b, .uuid c, below, above => by
    cases b with
    | int b => cases below
    | text b => cases below
    | uuid b =>
      change compare a b = .lt at below
      change compare b c = .lt at above
      change compare a c = .lt
      exact Std.TransCmp.lt_trans below above
    | composite b => cases above
  | .composite a, b, .composite c, below, above => by
    cases b with
    | int b => cases below
    | text b => cases below
    | uuid b => cases below
    | composite b => exact orderParts_lt_trans a b c below above
  | .int _, _, .text _, _, _ | .int _, _, .uuid _, _, _ | .int _, _, .composite _, _, _
  | .text _, _, .uuid _, _, _ | .text _, _, .composite _, _, _
  | .uuid _, _, .composite _, _, _ => rfl
  | .text a, b, .int c, below, above | .uuid a, b, .int c, below, above
  | .uuid a, b, .text c, below, above | .composite a, b, .int c, below, above
  | .composite a, b, .text c, below, above | .composite a, b, .uuid c, below, above => by
    have kinds := Nat.le_trans (kind_le_of_order below) (kind_le_of_order above)
    exact absurd kinds (by simp [kind])

/-- So it is with lists: the first parts that differ decide. -/
theorem orderParts_lt_trans : (a b c : List EntityId) → orderParts a b = .lt →
    orderParts b c = .lt → orderParts a c = .lt
  | [], _, _ :: _, _, _ => rfl
  | [], [], [], below, _ => by cases below
  | [], _ :: _, [], _, above => by cases above
  | _ :: _, [], _, below, _ => by cases below
  | _ :: _, _ :: _, [], _, above => by cases above
  | a :: as, b :: bs, c :: cs, below, above => by
    rw [orderParts, Ordering.then_eq_lt] at below above ⊢
    obtain below | ⟨same, below⟩ := below
    · obtain above | ⟨same, above⟩ := above
      · exact .inl (order_lt_trans a b c below above)
      · obtain rfl := (order_eq_iff b c).1 same
        exact .inl below
    · obtain rfl := (order_eq_iff a b).1 same
      obtain above | ⟨same, above⟩ := above
      · exact .inl above
      · exact .inr ⟨same, orderParts_lt_trans as bs cs below above⟩

end

/-- Equal comparison of identifiers is equality. -/
instance : Std.LawfulEqOrd EntityId where
  compare_self := by
    intro a
    exact (order_eq_iff a a).2 rfl
  eq_of_compare := by
    intro a b same
    exact (order_eq_iff a b).1 same

/-- Identifiers are totally ordered. -/
instance : Std.TransOrd EntityId where
  eq_swap := by
    intro a b
    exact order_swap a b
  isLE_trans := by
    intro a b c below above
    rw [Ordering.isLE_iff_eq_lt_or_eq_eq] at below above ⊢
    obtain below | same := below
    · obtain above | same := above
      · exact .inl (order_lt_trans a b c below above)
      · obtain rfl := (order_eq_iff b c).1 same
        exact .inl below
    · obtain rfl := (order_eq_iff a b).1 same
      exact above

end EntityId

namespace EntityKey

/-- Equal comparison of keys is equality. -/
instance : Std.LawfulEqOrd EntityKey where
  compare_self := by
    intro a
    change (compare a.type a.type).then (compare a.id a.id) = .eq
    rw [Ordering.then_eq_eq]
    exact ⟨Std.ReflOrd.compare_self, Std.ReflOrd.compare_self⟩
  eq_of_compare := by
    intro a b same
    change (compare a.type b.type).then (compare a.id b.id) = .eq at same
    obtain ⟨type, id⟩ := Ordering.then_eq_eq.1 same
    rw [EntityKey.mk.injEq]
    exact ⟨Std.LawfulEqOrd.eq_of_compare type, Std.LawfulEqOrd.eq_of_compare id⟩

/-- Keys are totally ordered. -/
instance : Std.TransOrd EntityKey :=
  inferInstanceAs (Std.TransCmp (compareLex (compareOn EntityKey.type) (compareOn EntityKey.id)))

end EntityKey

end Reindex
