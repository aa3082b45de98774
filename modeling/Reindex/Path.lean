/-!
# Dotted property paths

A path such as `product.name` names a property of an entity and then members of
its value. One path lies below another when it continues it behind a dot; two
paths touch the same part of an entity exactly when they are equal or one lies
below the other. Comparison is by the text: `product` and `productCode` share
letters but no segment, and do not touch.
-/

namespace Reindex

/-- Property names joined by dots. -/
abbrev Path := String

namespace Path

/-- What follows the given beginning of a text, if the text begins so. -/
def remainder : List Char → List Char → Option (List Char)
  | [], text => some text
  | _ :: _, [] => none
  | c :: beginning, d :: text => if c = d then remainder beginning text else none

/-- The path below a property, relative to it: what follows the property's name
and a dot. -/
def relativeTo? (property path : Path) : Option Path :=
  (remainder (property.toList ++ ['.']) path.toList).map String.ofList

/-- Whether `path` continues `ancestor` behind a dot. -/
def isBelow (path ancestor : Path) : Bool := (relativeTo? ancestor path).isSome

/-- Whether two paths touch the same part of an entity. -/
def overlap (a b : Path) : Bool := a == b || isBelow b a || isBelow a b

/-- Cut a text at its dots. The empty text is one empty piece. -/
def splitDots : List Char → List (List Char)
  | [] => [[]]
  | c :: rest =>
    if c = '.' then [] :: splitDots rest
    else match splitDots rest with
      | [] => [[c]]
      | piece :: pieces => (c :: piece) :: pieces

/-- The names between the dots of a path. The empty path is one empty name. -/
def segments (path : Path) : List String := (splitDots path.toList).map String.ofList

/-- A beginning is removed exactly from the texts that start with it. -/
theorem remainder_eq_some_iff {beginning text rest : List Char} :
    remainder beginning text = some rest ↔ text = beginning ++ rest := by
  induction beginning generalizing text with
  | nil => simp [remainder]
  | cons c beginning inductionHypothesis =>
    cases text with
    | nil => simp [remainder]
    | cons d text =>
      by_cases same : c = d
      · simp [remainder, same, inductionHypothesis]
      · simp [remainder, same, Ne.symm same]

end Path

end Reindex
