import Mathlib.Algebra.Order.Floor.Div
import Reindex.Proofs.Flush.Batching
import Reindex.Proofs.Library
import Reindex.Proofs.Mapping

/-!
# Batches filled in rounds

Batches are filled in rounds. As long as an item is left, a round opens the next batch and
takes as many of the items in front as it has room for. With room for one item at least
every round uses some up, so the rounds end, and they end with the batches that the cutting
lists, wherever they are watched. Without room a round would add an empty batch and change
nothing else, and the rounds would not end; the bounds of the settings prevent that.

What every round keeps is that nothing is lost, that the batches are numbered from zero on,
that none of them is empty or too large, and that all are full until the last item is taken.
-/

namespace Reindex

namespace Batching

/-- How far the rounds are: the batches that were filled, and the items that are left. -/
structure Filling where
  batches : List WorkBatch
  left : List WorkItem

/-- As long as an item is left, the next batch is filled. -/
inductive Round (size : Nat) : Filling → Filling → Prop
  | fill (batches : List WorkBatch) (item : WorkItem) (rest : List WorkItem) :
      Round size ⟨batches, item :: rest⟩
        ⟨batches ++ [⟨batches.length, (item :: rest).take size⟩], (item :: rest).drop size⟩

/-- Any number of rounds. -/
abbrev Rounds (size : Nat) : Filling → Filling → Prop := Relation.ReflTransGen (Round size)

variable {size : Nat} {before after other reached : Filling} {items : List WorkItem}

/-- What a round does is determined. -/
theorem Round.unique (round : Round size before after) (round' : Round size before other) :
    after = other := by
  cases round with
  | fill batches item rest =>
    cases round'
    rfl

/-- A round with room takes an item at least. -/
theorem Round.shortens (positive : 0 < size) (round : Round size before after) :
    after.left.length < before.left.length := by
  cases round with
  | fill batches item rest =>
    rw [List.length_drop]
    exact Nat.sub_lt (Nat.succ_pos rest.length) positive

/-- So no rounds go on forever. -/
theorem wellFounded_round (positive : 0 < size) :
    WellFounded fun after before => Round size before after :=
  Subrelation.wf (Round.shortens positive) (measure fun filling : Filling => filling.left.length).wf

/-- The room of the begun piece takes the items in front, and the others are cut anew. -/
theorem cut_eq {α : Type} (size room : Nat) (items : List α) :
    cut size room items = (items.take room, pieces size (items.drop room)) := by
  induction items generalizing room with
  | nil => simp [cut, pieces]
  | cons item rest inductionHypothesis =>
    cases room with
    | zero => rfl
    | succ room => simp [cut, inductionHypothesis room]

/-- The first piece is filled, and the others are the pieces of what is left. -/
theorem pieces_cons {α : Type} (positive : 0 < size) (item : α) (rest : List α) :
    pieces size (item :: rest) =
      (item :: rest).take size :: pieces size ((item :: rest).drop size) := by
  obtain ⟨room, rfl⟩ := Nat.exists_eq_add_of_le' positive
  change (item :: (cut (room + 1) room rest).1) :: (cut (room + 1) room rest).2 = _
  rw [cut_eq]
  rfl

/-- From where they are, the rounds go on to the pieces of the items that are left. -/
theorem rounds_of_pieces (positive : 0 < size) (batches : List WorkBatch) (left : List WorkItem) :
    Rounds size ⟨batches, left⟩ ⟨batches ++ number batches.length (pieces size left), []⟩ := by
  induction shorter : left.length using Nat.strong_induction_on generalizing batches left with
  | h length inductionHypothesis =>
    cases left with
    | nil =>
      rw [show pieces size ([] : List WorkItem) = [] from rfl, number, List.append_nil]
    | cons item rest =>
      have round : Round size ⟨batches, item :: rest⟩ _ := .fill batches item rest
      have further := inductionHypothesis _ (shorter ▸ round.shortens positive)
        (batches ++ [⟨batches.length, (item :: rest).take size⟩]) _ rfl
      rw [List.length_append, List.append_assoc] at further
      rw [pieces_cons positive, number]
      exact .head round further

/-- However far the rounds have come, they go on to the end. -/
theorem rounds_to_end (positive : 0 < size) (rounds : Rounds size ⟨[], items⟩ reached) :
    Rounds size reached ⟨batches size items, []⟩ := by
  induction rounds with
  | refl => exact rounds_of_pieces positive [] items
  | tail _ round inductionHypothesis =>
    -- the end is not where a round begins, so this round is the first of those to the end
    rcases Relation.ReflTransGen.cases_head inductionHypothesis with same | ⟨next, first, further⟩
    · cases same ▸ round
    · exact round.unique first ▸ further

/-- What holds of the batches before each round and after it. -/
structure Filled (size : Nat) (items : List WorkItem) (filling : Filling) : Prop where
  /-- Nothing is lost. -/
  kept : filling.batches.flatMap WorkBatch.items ++ filling.left = items
  /-- The numbers are those of the places. -/
  numbered : filling.batches.map WorkBatch.sequence = List.range filling.batches.length
  /-- No batch is empty and none too large. -/
  within : ∀ batch ∈ filling.batches, 1 ≤ batch.size ∧ batch.size ≤ size
  /-- All are full but the last one, -/
  full : ∀ batch ∈ filling.batches.dropLast, batch.size = size
  /-- and that one as well as long as an item is left. -/
  fullWhileLeft : filling.left ≠ [] → ∀ batch ∈ filling.batches, batch.size = size

/-- A round keeps all that. -/
theorem Filled.round (positive : 0 < size) (filled : Filled size items before)
    (round : Round size before after) : Filled size items after := by
  cases round with
  | fill batches item rest =>
    have allFull := filled.fullWhileLeft (List.cons_ne_nil item rest)
    have taken : ((item :: rest).take size).length = min size (rest.length + 1) :=
      List.length_take
    constructor
    · rw [← filled.kept, List.flatMap_append, List.flatMap_singleton, List.append_assoc,
        List.take_append_drop]
    · rw [List.map_append, filled.numbered, List.length_append, List.length_singleton,
        List.range_succ]
      rfl
    · intro batch member
      rcases List.mem_append.1 member with earlier | last
      · exact filled.within batch earlier
      · rw [List.mem_singleton.1 last, WorkBatch.size, taken]
        omega
    · intro batch member
      rw [List.dropLast_concat] at member
      exact allFull batch member
    · intro left batch member
      rcases List.mem_append.1 member with earlier | last
      · exact allFull batch earlier
      · have more := List.length_pos_iff.2 left
        rw [List.length_drop, List.length_cons] at more
        rw [List.mem_singleton.1 last, WorkBatch.size, taken]
        omega

/-- So do any number of rounds. -/
theorem Filled.rounds (positive : 0 < size) (filled : Filled size items before)
    (rounds : Rounds size before after) : Filled size items after := by
  induction rounds with
  | refl => exact filled
  | tail _ round inductionHypothesis => exact inductionHypothesis.round positive round

/-- Before the first round nothing is filled. -/
theorem filled_nothing (size : Nat) (items : List WorkItem) : Filled size items ⟨[], items⟩ where
  kept := rfl
  numbered := rfl
  within := by simp
  full := by simp
  fullWhileLeft := by simp

/-- Batches that part a list of items: no item is lost or moved, no batch is empty, and all
but the last one are full. -/
structure Partition (size : Nat) (items : List WorkItem) (batches : List WorkBatch) : Prop where
  whole : batches.flatMap WorkBatch.items = items
  within : ∀ batch ∈ batches, 1 ≤ batch.size ∧ batch.size ≤ size
  full : ∀ batch ∈ batches.dropLast, batch.size = size
  count : batches.length = items.length ⌈/⌉ size
  sequences : batches.map WorkBatch.sequence = List.range batches.length

/-- The items of full batches and of a last one that is not empty fill as many batches as
the quotient, rounded up, says. -/
theorem Filled.count (positive : 0 < size) {batches : List WorkBatch}
    (filled : Filled size items ⟨batches, []⟩) : batches.length = items.length ⌈/⌉ size := by
  have kept : batches.flatMap WorkBatch.items = items := by
    simpa using filled.kept
  rcases List.eq_nil_or_concat' batches with rfl | ⟨earlier, last, rfl⟩
  · rw [← kept]
    exact (zero_ceilDiv size).symm
  · have sizes : earlier.map WorkBatch.size = List.replicate earlier.length size := by
      refine List.eq_replicate_iff.2 ⟨List.length_map _, ?_⟩
      intro carried member
      obtain ⟨batch, listed, rfl⟩ := List.mem_map.1 member
      exact filled.full batch (by simpa using listed)
    have total : items.length = size * earlier.length + last.size := by
      rw [← kept, List.flatMap_append, List.length_append, List.flatMap_singleton,
        List.length_flatMap]
      change (earlier.map WorkBatch.size).sum + last.size = _
      rw [sizes, List.sum_replicate_nat, Nat.mul_comm]
    obtain ⟨least, most⟩ := filled.within last (by simp)
    have enough : items.length ≤ size * (earlier.length + 1) := by
      rw [total, Nat.mul_succ]
      omega
    have needed : ¬ items.length ≤ size * earlier.length := by omega
    rw [← ceilDiv_le_iff_le_mul positive] at enough needed
    rw [List.length_append, List.length_singleton]
    omega

/-- The batches of a list of items part it, when there is room for one item at least. -/
theorem partition_batches (positive : 0 < size) (items : List WorkItem) :
    Partition size items (batches size items) := by
  have filled := (filled_nothing size items).rounds positive
    (rounds_of_pieces positive [] items)
  exact {
    whole := items_batches size items
    within := filled.within
    full := filled.full
    count := filled.count positive
    sequences := sequences_batches size items }

end Batching

/-- Cutting into batches parts the items without loss, for every mapping that was built and
all items. The size of a batch is within the bounds of the settings, so the rounds that fill
the batches do not go on forever, and however far they have come, they go on to the batches
that are listed. These carry the items in order; none of them is empty or too large, all but
the last one are full, there are as many as the quotient, rounded up, and they are numbered
from zero on. -/
theorem batches_part_items {config : Config} {hierarchy : Hierarchy} {types : List MappedType}
    {mapping : Mapping} (built : Mapping.build config hierarchy types = .ok mapping)
    (items : List WorkItem) :
    let size := mapping.config.batchSize
    (1 ≤ size ∧ size ≤ 10000) ∧
      (WellFounded fun after before => Batching.Round size before after) ∧
      (∀ reached, Batching.Rounds size ⟨[], items⟩ reached →
        Batching.Rounds size reached ⟨Batching.batches size items, []⟩) ∧
      Batching.Partition size items (Batching.batches size items) := by
  intro size
  have mapped := Mapping.built_of_build built
  have bounds : 1 ≤ size ∧ size ≤ 10000 := by
    rw [show size = config.batchSize from congrArg Config.batchSize mapped.settings]
    exact mapped.valid.batchSize
  exact ⟨bounds, Batching.wellFounded_round bounds.1,
    fun _ rounds => Batching.rounds_to_end bounds.1 rounds,
    Batching.partition_batches bounds.1 items⟩

namespace Library

/-- Five books that go. -/
def weeding : List WorkItem :=
  ["1", "2", "3", "4", "5"].map fun number =>
    { key := bookKey number, index := "books", documentId := number, operation := .delete,
      document := none }

/-- Two at a time, five books go in three batches, the last one with a single book. -/
theorem weeding_parted :
    Batching.Rounds 2 ⟨[], weeding⟩ ⟨Batching.batches 2 weeding, []⟩ ∧
      Batching.Partition 2 weeding (Batching.batches 2 weeding) ∧
      (Batching.batches 2 weeding).map WorkBatch.size = [2, 2, 1] := by
  have built : Mapping.build { batchSize := 2 } [] [shelf, book, author] =
      .ok (mapping { batchSize := 2 }) := rfl
  obtain ⟨-, -, ends, parted⟩ := batches_part_items built weeding
  exact ⟨ends _ .refl, parted, rfl⟩

end Library

end Reindex
