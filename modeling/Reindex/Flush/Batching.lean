import Reindex.Work

/-!
# Cutting work into batches

Items keep their order; every batch but the last is full, and no batch is empty.
A size of zero would never use up the items; it counts as one.
-/

namespace Reindex.Batching

/-- The items that still fit into a begun piece with the given room, and the
full-size pieces of what follows. -/
def cut {α : Type} (size : Nat) : Nat → List α → List α × List (List α)
  | _, [] => ([], [])
  | 0, item :: rest =>
    let (piece, pieces) := cut size (size - 1) rest
    ([], (item :: piece) :: pieces)
  | room + 1, item :: rest =>
    let (piece, pieces) := cut size room rest
    (item :: piece, pieces)

/-- Pieces of the given size; the last may be shorter. -/
def pieces {α : Type} (size : Nat) (items : List α) : List (List α) := (cut size 0 items).2

/-- Number the pieces from the given sequence number on. -/
def number (sequence : Nat) : List (List WorkItem) → List WorkBatch
  | [] => []
  | items :: rest => ⟨sequence, items⟩ :: number (sequence + 1) rest

/-- The batches of a list of items. -/
def batches (size : Nat) (items : List WorkItem) : List WorkBatch := number 0 (pieces size items)

end Reindex.Batching
