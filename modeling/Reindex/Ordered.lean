/-!
# Sorted lists without repetitions

A finite set whose elements are listed in increasing order. Insertion walks to
the first element that is not smaller and leaves the list alone when it finds
the element itself, so what is listed depends only on which elements were
inserted and never on their order or number.
-/

namespace Reindex.Ordered

variable {α : Type} [Ord α]

/-- Each element precedes every later one. -/
def Increasing (elements : List α) : Prop :=
  elements.Pairwise fun earlier later => compare earlier later = .lt

/-- Enter an element at its place. -/
def insert (element : α) : List α → List α
  | [] => [element]
  | head :: rest =>
    match compare element head with
    | .lt => element :: head :: rest
    | .eq => head :: rest
    | .gt => head :: insert element rest

/-- The distinct elements of a list, in order. -/
def ofList (elements : List α) : List α :=
  elements.foldl (fun held element => insert element held) []

/-- Enter an element in front of the first one that it may precede. -/
def insertBefore {β : Type} (mayPrecede : β → β → Bool) (element : β) : List β → List β
  | [] => [element]
  | head :: rest =>
    if mayPrecede element head then element :: head :: rest
    else head :: insertBefore mayPrecede element rest

/-- Sort, keeping elements of equal rank in their given order. -/
def sortBy {β : Type} (mayPrecede : β → β → Bool) (elements : List β) : List β :=
  elements.foldr (insertBefore mayPrecede) []

/-- Insertion adds the element and nothing else. -/
theorem mem_insert [Std.LawfulEqOrd α] {element tested : α} {elements : List α} :
    tested ∈ insert element elements ↔ tested = element ∨ tested ∈ elements := by
  induction elements with
  | nil => simp [insert]
  | cons head rest inductionHypothesis =>
    simp only [insert]
    split
    · simp
    · rename_i same
      have same := Std.LawfulEqOrd.eq_of_compare same
      subst same
      simp
    · simp only [List.mem_cons, inductionHypothesis]
      exact or_left_comm

/-- Insertion keeps the order strict. -/
theorem increasing_insert [Std.TransOrd α] [Std.LawfulEqOrd α] {element : α} {elements : List α}
    (increasing : Increasing elements) : Increasing (insert element elements) := by
  induction elements with
  | nil => simp [insert, Increasing]
  | cons head rest inductionHypothesis =>
    obtain ⟨above, tail⟩ := List.pairwise_cons.1 increasing
    simp only [insert]
    split
    · rename_i smaller
      refine List.pairwise_cons.2 ⟨?_, increasing⟩
      intro later member
      rcases List.mem_cons.1 member with rfl | member
      · exact smaller
      · exact Std.TransCmp.lt_trans smaller (above later member)
    · exact increasing
    · rename_i greater
      refine List.pairwise_cons.2 ⟨?_, inductionHypothesis tail⟩
      intro later member
      rcases mem_insert.1 member with rfl | member
      · exact Std.OrientedCmp.lt_of_gt greater
      · exact above later member

end Reindex.Ordered
