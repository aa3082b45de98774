import Mathlib.Order.Defs.Unbundled
import Reindex.Proofs.EntityId.Order
import Reindex.Proofs.Ordered
import Reindex.Proofs.Text.Bytes

/-!
# Which key comes first

The order of keys is computed by comparing part by part. Here it is said without any
comparing: names of types come by their bytes, integers before texts, texts before UUIDs
and these before composites, and composites come as words do, with identifiers for
letters. The rule for composites speaks of the identifiers inside them, so what computes
it is tied to it for identifiers and lists of them together.

It follows what a set of keys is listed as. There is one list only that names the keys of
a set in this order, so neither their arrival nor their repetitions leave a trace.
-/

namespace Reindex

/-- UUIDs come by their digits. -/
theorem Uuid.compare_eq_lt_iff {a b : Uuid} : compare a b = .lt ↔ a.digits < b.digits := by
  have digits (as bs : List (Fin 16)) :
      compare (as.map Fin.val) (bs.map Fin.val) = .lt ↔ as < bs := by
    induction as generalizing bs with
    | nil => cases bs <;> simp
    | cons digit as inductionHypothesis =>
      cases bs with
      | nil => simp
      | cons other bs =>
        rw [List.map_cons, List.map_cons, List.compare_cons_cons, Ordering.then_eq_lt,
          Std.compare_eq_lt, Std.LawfulEqCmp.compare_eq_iff_eq, inductionHypothesis,
          List.cons_lt_cons_iff, Fin.lt_def, Fin.ext_iff]
  exact digits a.digits b.digits

namespace EntityId

/-- One identifier comes before another one. -/
inductive Precedes : EntityId → EntityId → Prop
  /-- Integers come first, then texts, then UUIDs, then composites. -/
  | kind {a b : EntityId} (earlier : a.kind < b.kind) : Precedes a b
  | int {a b : Int64} (below : a < b) : Precedes (.int a) (.int b)
  /-- Texts come by their bytes, -/
  | text {a b : String} (below : Text.bytes a < Text.bytes b) : Precedes (.text a) (.text b)
  /-- and UUIDs by their digits. -/
  | uuid {a b : Uuid} (below : a.digits < b.digits) : Precedes (.uuid a) (.uuid b)
  /-- The first parts that differ decide, and a beginning comes before its continuations. -/
  | composite {a b : List EntityId} (below : List.Lex Precedes a b) :
      Precedes (.composite a) (.composite b)

/-! Within a kind, only the rule of the kind applies. -/

theorem precedes_int_iff {a b : Int64} : Precedes (.int a) (.int b) ↔ a < b := by
  refine ⟨fun before => ?_, .int⟩
  cases before with
  | kind earlier => exact absurd earlier (Nat.lt_irrefl _)
  | int below => exact below

theorem precedes_text_iff {a b : String} :
    Precedes (.text a) (.text b) ↔ Text.bytes a < Text.bytes b := by
  refine ⟨fun before => ?_, .text⟩
  cases before with
  | kind earlier => exact absurd earlier (Nat.lt_irrefl _)
  | text below => exact below

theorem precedes_uuid_iff {a b : Uuid} : Precedes (.uuid a) (.uuid b) ↔ a.digits < b.digits := by
  refine ⟨fun before => ?_, .uuid⟩
  cases before with
  | kind earlier => exact absurd earlier (Nat.lt_irrefl _)
  | uuid below => exact below

theorem precedes_composite_iff {a b : List EntityId} :
    Precedes (.composite a) (.composite b) ↔ List.Lex Precedes a b := by
  refine ⟨fun before => ?_, .composite⟩
  cases before with
  | kind earlier => exact absurd earlier (Nat.lt_irrefl _)
  | composite below => exact below

mutual

/-- What compares as smaller comes first. -/
theorem order_eq_lt_iff : (a b : EntityId) → (order a b = .lt ↔ a.Precedes b)
  | .int a, .int b => by
    rw [precedes_int_iff, ← Std.compare_eq_lt]
    rfl
  | .text a, .text b => by
    rw [precedes_text_iff, Text.bytes_lt_iff, ← compare_lt_iff_lt]
    rfl
  | .uuid a, .uuid b => by
    rw [precedes_uuid_iff, ← Uuid.compare_eq_lt_iff]
    rfl
  | .composite a, .composite b => by
    rw [precedes_composite_iff, ← orderParts_eq_lt_iff a b]
    rfl
  | .int _, .text _ | .int _, .uuid _ | .int _, .composite _
  | .text _, .uuid _ | .text _, .composite _ | .uuid _, .composite _ =>
    iff_of_true rfl (.kind (by simp [EntityId.kind]))
  | .text _, .int _ | .uuid _, .int _ | .uuid _, .text _
  | .composite _, .int _ | .composite _, .text _ | .composite _, .uuid _ => by
    refine iff_of_false (by simp [order]) ?_
    rintro ⟨earlier⟩
    simp [EntityId.kind] at earlier

/-- So it is with lists, which come as words do. -/
theorem orderParts_eq_lt_iff : (a b : List EntityId) →
    (orderParts a b = .lt ↔ List.Lex Precedes a b)
  | [], [] | _ :: _, [] => iff_of_false (by simp [orderParts]) (by rintro ⟨⟩)
  | [], _ :: _ => iff_of_true rfl .nil
  | a :: as, b :: bs => by
    rw [orderParts, Ordering.then_eq_lt, order_eq_lt_iff a b, order_eq_iff,
      orderParts_eq_lt_iff as bs]
    constructor
    · rintro (below | ⟨rfl, below⟩)
      · exact .rel below
      · exact .cons below
    · intro before
      cases before with
      | rel below => exact .inl below
      | cons below => exact .inr ⟨rfl, below⟩

end

end EntityId

namespace EntityKey

/-- One key comes before another one: by the bytes of the types, then by the identifiers. -/
def Precedes (a b : EntityKey) : Prop :=
  Text.bytes a.type < Text.bytes b.type ∨ a.type = b.type ∧ a.id.Precedes b.id

/-- What compares as smaller comes first. -/
theorem compare_eq_lt_iff {a b : EntityKey} : compare a b = .lt ↔ a.Precedes b := by
  change (compare a.type b.type).then (EntityId.order a.id b.id) = .lt ↔ _
  rw [Ordering.then_eq_lt, compare_lt_iff_lt, compare_eq_iff_eq, EntityId.order_eq_lt_iff,
    ← Text.bytes_lt_iff, Precedes]

/-- Not to come later is a linear order of the keys. -/
theorem isLinearOrder_compare : IsLinearOrder EntityKey fun a b => (compare a b).isLE = true where
  refl _ := Std.ReflCmp.isLE_rfl
  trans _ _ _ first second := Std.TransOrd.isLE_trans first second
  antisymm _ _ first second :=
    Std.LawfulEqOrd.eq_of_compare (Std.OrientedCmp.isLE_antisymm first second)
  total a b := by
    rw [← Std.OrientedCmp.isGE_iff_isLE (a := a)]
    cases compare a b <;> simp

end EntityKey

/-- The comparison of keys is a linear order, and no other than the one in which types come
by their bytes and identifiers part by part. Collecting keys lists them in this order, each
once, and no other list of the same keys is in order. -/
theorem keys_in_order :
    (IsLinearOrder EntityKey fun a b => (compare a b).isLE = true) ∧
    (∀ a b : EntityKey, (compare a b = .lt ↔ a.Precedes b) ∧ (compare a b = .eq ↔ a = b) ∧
      (compare a b = .gt ↔ b.Precedes a)) ∧
    ∀ keys listed : List EntityKey,
      listed = Ordered.ofList keys ↔
        listed.Pairwise EntityKey.Precedes ∧ ∀ key, key ∈ listed ↔ key ∈ keys := by
  refine ⟨EntityKey.isLinearOrder_compare, fun a b => ⟨EntityKey.compare_eq_lt_iff, ?_, ?_⟩, ?_⟩
  · exact Std.LawfulEqCmp.compare_eq_iff_eq
  · rw [← EntityKey.compare_eq_lt_iff]
    exact Std.OrientedCmp.gt_iff_lt
  · intro keys listed
    rw [Ordered.eq_ofList_iff]
    exact and_congr_left' (List.Pairwise.iff fun _ _ => EntityKey.compare_eq_lt_iff)

/-- Three books and an author, as they arrive. -/
example :
    Ordered.ofList [⟨"Book", .text "7"⟩, ⟨"Book", .composite [.int 7]⟩, ⟨"Author", .text "Austen"⟩,
      ⟨"Book", .int 10⟩, ⟨"Book", .text "7"⟩] =
    ([⟨"Author", .text "Austen"⟩, ⟨"Book", .int 10⟩, ⟨"Book", .text "7"⟩,
      ⟨"Book", .composite [.int 7]⟩] : List EntityKey) := by
  decide

end Reindex
