import Reindex.Flush.Batching

/-!
# Batches put together again

Cutting loses nothing: what fits into the begun piece, followed by the pieces after
it, is the list that was cut.
-/

namespace Reindex.Batching

/-- The begun piece and the later ones make up the items. -/
theorem flatten_cut {α : Type} (size room : Nat) (items : List α) :
    (cut size room items).1 ++ (cut size room items).2.flatten = items := by
  induction items generalizing room with
  | nil => rfl
  | cons item rest inductionHypothesis =>
    cases room with
    | zero => simpa [cut] using inductionHypothesis (size - 1)
    | succ room => simpa [cut] using inductionHypothesis room

/-- The pieces make up the items. -/
theorem flatten_pieces {α : Type} (size : Nat) (items : List α) :
    (pieces size items).flatten = items := by
  have whole := flatten_cut size 0 items
  cases items with
  | nil => rfl
  | cons item rest => simpa [pieces, cut] using whole

/-- Numbering leaves the items as they are. -/
theorem items_number (sequence : Nat) (pieces : List (List WorkItem)) :
    (number sequence pieces).map WorkBatch.items = pieces := by
  induction pieces generalizing sequence with
  | nil => rfl
  | cons items rest inductionHypothesis =>
    rw [number, List.map_cons, inductionHypothesis]

/-- The numbers follow one another. -/
theorem sequences_number (sequence : Nat) (pieces : List (List WorkItem)) :
    (number sequence pieces).map WorkBatch.sequence = List.range' sequence pieces.length := by
  induction pieces generalizing sequence with
  | nil => rfl
  | cons items rest inductionHypothesis =>
    rw [number, List.map_cons, inductionHypothesis, List.length_cons, List.range'_succ]

/-- The batches are numbered from zero on. -/
theorem sequences_batches (size : Nat) (items : List WorkItem) :
    (batches size items).map WorkBatch.sequence = List.range (batches size items).length := by
  have length : (batches size items).length = (pieces size items).length := by
    rw [batches, ← List.length_map WorkBatch.items, items_number]
  rw [length, batches, sequences_number, List.range_eq_range']

/-- The batches carry the items, in order. -/
theorem items_batches (size : Nat) (items : List WorkItem) :
    (batches size items).flatMap WorkBatch.items = items := by
  rw [List.flatMap_def, batches, items_number, flatten_pieces]

end Reindex.Batching
