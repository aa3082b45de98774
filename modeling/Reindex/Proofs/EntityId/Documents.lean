import Reindex.EntityId
import Reindex.Proofs.Uuid
import Mathlib.Data.String.Basic

/-!
# The documents of identifiers

A document id is a text with colons in it, and colons are all it remembers of a composite:
neither where a part ends that has colons of its own, nor of what kind the parts are. What
it does remember are the segments between the colons. Two identifiers have one document id
exactly if they have the same segments. Identifiers of one shape, with the same kind at
every place, are told apart by them as long as no text inside a composite has a colon.
-/

namespace Reindex

namespace EntityId

/-- A natural number is written in digits, -/
theorem notMem_repr {c : Char} (other : c.isDigit = false) (n : Nat) : c ∉ n.repr.toList := by
  rw [Nat.toList_repr]
  intro listed
  rw [Nat.isDigit_of_mem_toDigits (by decide) (by decide) listed] at other
  cases other

/-- and an integer without colons; -/
theorem colon_notMem_toString (value : Int) : ':' ∉ (toString value).toList := by
  rw [Int.toString_eq_repr, Int.repr_eq_if]
  split
  · exact notMem_repr rfl _
  · rw [String.toList_append, List.mem_append]
    exact not_or.2 ⟨by decide, notMem_repr rfl _⟩

/-- the digits tell the number, and a sign in front of them that it is negative. -/
theorem eq_of_repr_eq {a b : Int} (same : a.repr = b.repr) : a = b := by
  have digits {m n : Nat} (same : m.repr.toList = n.repr.toList) : m = n := by
    have read := congrArg (fun digits => Nat.ofDigitChars 10 digits 0) same
    simpa [Nat.toList_repr, Nat.ofDigitChars_ten_toDigits] using read
  have unsigned (m n : Nat) : m.repr.toList ≠ '-' :: n.repr.toList := fun same =>
    notMem_repr (c := '-') rfl m (same ▸ List.mem_cons_self)
  have listed := congrArg String.toList same
  rw [Int.repr_eq_if, Int.repr_eq_if] at listed
  split at listed <;> split at listed
  · have whole := digits listed
    omega
  · rw [String.toList_append] at listed
    exact absurd listed (unsigned _ _)
  · rw [String.toList_append] at listed
    exact absurd listed.symm (unsigned _ _)
  · rw [String.toList_append, String.toList_append] at listed
    have whole := digits (List.append_cancel_left listed)
    omega

mutual

/-- What stands between the colons of the document id: the digits of an integer, the digits
and hyphens of a UUID, the pieces of a text, and those of all parts of a composite. An empty
composite is an empty text. -/
def segments : EntityId → List (List Char)
  | .int value => [(toString value.toInt).toList]
  | .text value => value.toList.splitOn ':'
  | .uuid value => [value.toChars]
  | .composite parts => if parts.isEmpty then [[]] else segmentsOf parts

/-- The segments of several identifiers, one after the other. -/
def segmentsOf : List EntityId → List (List Char)
  | [] => []
  | part :: rest => segments part ++ segmentsOf rest

end

mutual

/-- Cutting the document id at its colons gives the segments. -/
theorem splitOn_documentId : (id : EntityId) → id.documentId.toList.splitOn ':' = id.segments
  | .int value => List.splitOn_eq_singleton (colon_notMem_toString value.toInt)
  | .text value => rfl
  | .uuid value => by
    rw [documentId, Uuid.render, String.toList_ofList, segments]
    exact List.splitOn_eq_singleton value.colon_notMem_toChars
  | .composite parts => splitOn_documentIds parts

/-- Cutting the joined document ids of the parts of a composite gives theirs. -/
theorem splitOn_documentIds : (parts : List EntityId) →
    (String.intercalate ":" (documentIds parts)).toList.splitOn ':' =
      if parts.isEmpty then [[]] else segmentsOf parts
  | [] => rfl
  | [first] => by
    rw [documentIds, documentIds, String.intercalate_singleton, splitOn_documentId first]
    simp [segmentsOf]
  | first :: second :: rest => by
    have joined : (String.intercalate ":" (documentIds (first :: second :: rest))).toList =
        first.documentId.toList ++
          ':' :: (String.intercalate ":" (documentIds (second :: rest))).toList := by
      simp [documentIds]
    rw [joined, List.splitOn_append_cons_self, splitOn_documentId first,
      splitOn_documentIds (second :: rest)]
    rfl

end

/-- Identifiers have one document id exactly if they have the same segments. -/
theorem documentId_eq_iff {a b : EntityId} :
    a.documentId = b.documentId ↔ a.segments = b.segments := by
  rw [← splitOn_documentId a, ← splitOn_documentId b]
  constructor
  · intro same
    rw [same]
  · intro same
    have joined := congrArg ([':'].intercalate ·) same
    simpa only [List.intercalate_splitOn, String.toList_inj] using joined

mutual

/-- Whether two identifiers have the same kind at every place. -/
def sameShape : EntityId → EntityId → Bool
  | .int _, .int _ | .text _, .text _ | .uuid _, .uuid _ => true
  | .composite a, .composite b => sameShapes a b
  | _, _ => false

/-- Whether two lists have identifiers of the same shapes. -/
def sameShapes : List EntityId → List EntityId → Bool
  | [], [] => true
  | a :: as, b :: bs => sameShape a b && sameShapes as bs
  | _, _ => false

end

mutual

/-- Whether no text at any place has a colon. -/
def colonless : EntityId → Bool
  | .text value => ':' ∉ value.toList
  | .composite parts => colonlessAll parts
  | .int _ | .uuid _ => true

/-- Whether no text of several identifiers has a colon. -/
def colonlessAll : List EntityId → Bool
  | [] => true
  | part :: rest => colonless part && colonlessAll rest

end

/-- Whether the colons of the document id are those that join parts: no text inside a
composite has one. A text that is an identifier by itself may have colons. -/
def separable : EntityId → Bool
  | .composite parts => colonlessAll parts
  | .int _ | .text _ | .uuid _ => true

mutual

/-- Identifiers of one shape without colons have as many segments. -/
theorem length_segments : (a b : EntityId) → sameShape a b = true → colonless a = true →
    colonless b = true → a.segments.length = b.segments.length
  | .int _, .int _, _, _, _ | .uuid _, .uuid _, _, _, _ => by
    rw [segments, segments, List.length_singleton, List.length_singleton]
  | .text a, .text b, _, plain, plain' => by
    rw [segments, segments, List.splitOn_eq_singleton (by simpa [colonless] using plain),
      List.splitOn_eq_singleton (by simpa [colonless] using plain')]
    rfl
  | .composite [], .composite [], _, _, _ => rfl
  | .composite (a :: as), .composite (b :: bs), same, plain, plain' =>
    length_segmentsOf (a :: as) (b :: bs) same plain plain'

/-- So do lists of them. -/
theorem length_segmentsOf : (as bs : List EntityId) → sameShapes as bs = true →
    colonlessAll as = true → colonlessAll bs = true →
      (segmentsOf as).length = (segmentsOf bs).length
  | [], [], _, _, _ => rfl
  | a :: as, b :: bs, same, plain, plain' => by
    rw [sameShapes, Bool.and_eq_true] at same
    rw [colonlessAll, Bool.and_eq_true] at plain plain'
    rw [segmentsOf, segmentsOf, List.length_append, List.length_append,
      length_segments a b same.1 plain.1 plain'.1,
      length_segmentsOf as bs same.2 plain.2 plain'.2]

end

mutual

/-- Identifiers of one shape without colons are settled by their segments. -/
theorem segments_inj : (a b : EntityId) → sameShape a b = true → colonless a = true →
    colonless b = true → a.segments = b.segments → a = b
  | .int a, .int b, _, _, _, same => by
    have spelled : a.toInt.repr = b.toInt.repr := by
      rw [segments, segments, List.singleton_inj, String.toList_inj] at same
      exact same
    rw [Int64.toInt_inj.1 (eq_of_repr_eq spelled)]
  | .text a, .text b, _, _, _, same => by
    have spelled : (EntityId.text a).documentId = (EntityId.text b).documentId :=
      documentId_eq_iff.2 same
    exact congrArg EntityId.text spelled
  | .uuid a, .uuid b, _, _, _, same => by
    rw [Uuid.toChars_injective (List.singleton_inj.1 same)]
  | .composite [], .composite [], _, _, _, _ => rfl
  | .composite (a :: as), .composite (b :: bs), shape, plain, plain', same =>
    congrArg EntityId.composite (segmentsOf_inj (a :: as) (b :: bs) shape plain plain' same)

/-- So are lists of them: the segments of the first parts are as many on both sides. -/
theorem segmentsOf_inj : (as bs : List EntityId) → sameShapes as bs = true →
    colonlessAll as = true → colonlessAll bs = true → segmentsOf as = segmentsOf bs → as = bs
  | [], [], _, _, _, _ => rfl
  | a :: as, b :: bs, shape, plain, plain', same => by
    rw [sameShapes, Bool.and_eq_true] at shape
    rw [colonlessAll, Bool.and_eq_true] at plain plain'
    rw [segmentsOf, segmentsOf] at same
    obtain ⟨first, rest⟩ := List.append_inj same (length_segments a b shape.1 plain.1 plain'.1)
    rw [segments_inj a b shape.1 plain.1 plain'.1 first,
      segmentsOf_inj as bs shape.2 plain.2 plain'.2 rest]

end

/-- Separable identifiers of one shape have document ids of their own. -/
theorem documentId_inj : (a b : EntityId) → sameShape a b = true → separable a = true →
    separable b = true → a.documentId = b.documentId → a = b
  | .text _, .text _, _, _, _, same => congrArg EntityId.text same
  | .int _, .int _, shape, _, _, same | .uuid _, .uuid _, shape, _, _, same =>
    segments_inj _ _ shape rfl rfl (documentId_eq_iff.1 same)
  | .composite _, .composite _, shape, joins, joins', same =>
    segments_inj _ _ shape joins joins' (documentId_eq_iff.1 same)

end EntityId

end Reindex
