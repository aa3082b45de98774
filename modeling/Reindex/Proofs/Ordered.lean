import Reindex.Ordered
import Mathlib.Data.List.Perm.Basic

/-!
# What sorting keeps

Entering the elements of a list one by one into an ordered set neither loses nor
invents a member, and lists them in order, each once. Sorting by a rank is a
rearrangement: every element stays as often as it was given, whatever the rank
says. When ranks are total and transitive, what comes out is in order.
-/

namespace Reindex.Ordered

variable {α : Type} [Ord α]

/-- Elements entered one by one are the ones held before and the given ones. -/
theorem mem_foldl_insert [Std.LawfulEqOrd α] {tested : α} {held elements : List α} :
    tested ∈ elements.foldl (fun held element => insert element held) held ↔
      tested ∈ held ∨ tested ∈ elements := by
  induction elements generalizing held with
  | nil => simp
  | cons element rest inductionHypothesis =>
    rw [List.foldl_cons, inductionHypothesis, mem_insert, List.mem_cons]
    constructor
    · rintro ((same | held) | later)
      · exact .inr (.inl same)
      · exact .inl held
      · exact .inr (.inr later)
    · rintro (held | same | later)
      · exact .inl (.inr held)
      · exact .inl (.inl same)
      · exact .inr later

/-- The set of a list has the members of the list. -/
theorem mem_ofList [Std.LawfulEqOrd α] {tested : α} {elements : List α} :
    tested ∈ ofList elements ↔ tested ∈ elements := by
  rw [ofList, mem_foldl_insert]
  simp

/-- Elements entered one by one keep the order strict, -/
theorem increasing_foldl_insert [Std.TransOrd α] [Std.LawfulEqOrd α] {held elements : List α}
    (increasing : Increasing held) :
    Increasing (elements.foldl (fun held element => insert element held) held) := by
  induction elements generalizing held with
  | nil => exact increasing
  | cons element rest inductionHypothesis =>
    exact inductionHypothesis (increasing_insert increasing)

/-- so the set of a list is strictly ordered, -/
theorem increasing_ofList [Std.TransOrd α] [Std.LawfulEqOrd α] {elements : List α} :
    Increasing (ofList elements) :=
  increasing_foldl_insert List.Pairwise.nil

/-- and lists nothing twice. -/
theorem Increasing.nodup [Std.ReflOrd α] {elements : List α} (increasing : Increasing elements) :
    elements.Nodup := by
  refine List.Pairwise.imp ?_ increasing
  rintro earlier later below rfl
  rw [Std.ReflOrd.compare_self] at below
  cases below

/-- What precedes an element of such a list stands in front of it. -/
theorem Increasing.mem_front [Std.TransOrd α] {before after : List α} {pivot other : α}
    (increasing : Increasing (before ++ pivot :: after)) (listed : other ∈ before ++ pivot :: after)
    (below : compare other pivot = .lt) : other ∈ before := by
  rcases List.mem_append.1 listed with front | behind
  · exact front
  · rcases List.mem_cons.1 behind with rfl | later
    · rw [Std.ReflOrd.compare_self] at below
      cases below
    · have above := (List.pairwise_cons.1 (List.pairwise_append.1 increasing).2.1).1 other later
      rw [Std.OrientedCmp.gt_of_lt above] at below
      cases below

/-- Strictly ordered lists with the same members are the same list. -/
theorem Increasing.ext [Std.TransOrd α] {first second : List α} (increasing : Increasing first)
    (increasing' : Increasing second) (members : ∀ tested, tested ∈ first ↔ tested ∈ second) :
    first = second := by
  have rearranged : first.Perm second :=
    (List.perm_ext_iff_of_nodup increasing.nodup increasing'.nodup).2 members
  refine rearranged.eq_of_pairwise ?_ increasing increasing'
  -- no two elements precede each other
  intro earlier later _ _ below above
  rw [Std.OrientedCmp.gt_of_lt below] at above
  cases above

/-- The set of a list is the only strictly ordered list with the members of the list. -/
theorem eq_ofList_iff [Std.TransOrd α] [Std.LawfulEqOrd α] {listed elements : List α} :
    listed = ofList elements ↔
      Increasing listed ∧ ∀ tested, tested ∈ listed ↔ tested ∈ elements := by
  constructor
  · rintro rfl
    exact ⟨increasing_ofList, fun _ => mem_ofList⟩
  · rintro ⟨increasing, members⟩
    exact increasing.ext increasing_ofList fun tested => (members tested).trans mem_ofList.symm

/-- Entering by rank adds one element and rearranges nothing else. -/
theorem insertBefore_perm {β : Type} (mayPrecede : β → β → Bool) (element : β)
    (elements : List β) :
    (insertBefore mayPrecede element elements).Perm (element :: elements) := by
  induction elements with
  | nil => exact .refl _
  | cons head rest inductionHypothesis =>
    rw [insertBefore]
    split
    · exact .refl _
    · exact (inductionHypothesis.cons head).trans (.swap element head rest)

/-- Sorting is a rearrangement. -/
theorem sortBy_perm {β : Type} (mayPrecede : β → β → Bool) (elements : List β) :
    (sortBy mayPrecede elements).Perm elements := by
  induction elements with
  | nil => exact .refl _
  | cons element rest inductionHypothesis =>
    exact (insertBefore_perm mayPrecede element _).trans (inductionHypothesis.cons element)

/-- A sorted list has the members that it was sorted from. -/
theorem mem_sortBy {β : Type} {mayPrecede : β → β → Bool} {tested : β} {elements : List β} :
    tested ∈ sortBy mayPrecede elements ↔ tested ∈ elements :=
  (sortBy_perm mayPrecede elements).mem_iff

section Ranked

variable {β : Type} {mayPrecede : β → β → Bool}
  (total : ∀ a b, mayPrecede a b = true ∨ mayPrecede b a = true)
  (transitive : ∀ a b c, mayPrecede a b = true → mayPrecede b c = true → mayPrecede a c = true)

include total transitive

/-- Entering by rank keeps a list in order. -/
theorem pairwise_insertBefore {element : β} {elements : List β}
    (sorted : elements.Pairwise fun earlier later => mayPrecede earlier later = true) :
    (insertBefore mayPrecede element elements).Pairwise
      fun earlier later => mayPrecede earlier later = true := by
  induction elements with
  | nil => exact List.pairwise_singleton _ _
  | cons head rest inductionHypothesis =>
    obtain ⟨first, restSorted⟩ := List.pairwise_cons.1 sorted
    rw [insertBefore]
    by_cases precedes : mayPrecede element head = true
    · rw [if_pos precedes]
      refine List.pairwise_cons.2 ⟨?_, sorted⟩
      intro later member
      rcases List.mem_cons.1 member with rfl | member
      · exact precedes
      · exact transitive element head later precedes (first later member)
    · rw [if_neg precedes]
      refine List.pairwise_cons.2 ⟨?_, inductionHypothesis restSorted⟩
      intro later member
      rcases List.mem_cons.1 ((insertBefore_perm mayPrecede element rest).mem_iff.1 member)
        with rfl | member
      · exact (total later head).resolve_left precedes
      · exact first later member

/-- Sorting brings a list in order. -/
theorem pairwise_sortBy (elements : List β) :
    (sortBy mayPrecede elements).Pairwise
      fun earlier later => mayPrecede earlier later = true := by
  induction elements with
  | nil => exact List.Pairwise.nil
  | cons element rest inductionHypothesis =>
    exact pairwise_insertBefore total transitive inductionHypothesis

end Ranked

end Reindex.Ordered
