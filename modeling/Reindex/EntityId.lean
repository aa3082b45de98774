import Reindex.Uuid

/-!
# Identifiers of entities

An identifier is a 64-bit integer, a text, a UUID, or a composite of
identifiers. Identifiers of different kinds differ even when their document ids
agree, and are ordered by kind before they are ordered by value; composites are
compared part by part, a beginning before its continuations.

A property value is an identifier when it is an integer within range, a text, or
a non-empty array of such values. The serialized form names the kind: an object
with one member.
-/

namespace Reindex

/-- The value that identifies an entity among those of its type. -/
inductive EntityId where
  | int (value : Int64)
  | text (value : String)
  | uuid (value : Uuid)
  | composite (parts : List EntityId)

namespace EntityId

mutual

/-- Whether two identifiers are the same. -/
def decideEq : (a b : EntityId) → Decidable (a = b)
  | .int a, .int b => decidable_of_iff (a = b) (by simp)
  | .text a, .text b => decidable_of_iff (a = b) (by simp)
  | .uuid a, .uuid b => decidable_of_iff (a = b) (by simp)
  | .composite a, .composite b =>
    match decideEqParts a b with
    | isTrue same => isTrue (by rw [same])
    | isFalse distinct => isFalse (by simpa using distinct)
  | .int _, .text _ | .int _, .uuid _ | .int _, .composite _
  | .text _, .int _ | .text _, .uuid _ | .text _, .composite _
  | .uuid _, .int _ | .uuid _, .text _ | .uuid _, .composite _
  | .composite _, .int _ | .composite _, .text _ | .composite _, .uuid _ =>
    isFalse (by simp)

/-- Whether two lists of identifiers are the same. -/
def decideEqParts : (a b : List EntityId) → Decidable (a = b)
  | [], [] => isTrue rfl
  | [], _ :: _ | _ :: _, [] => isFalse (by simp)
  | a :: as, b :: bs =>
    match decideEq a b, decideEqParts as bs with
    | isTrue same, isTrue rest => isTrue (by rw [same, rest])
    | isFalse distinct, _ => isFalse (by simp [distinct])
    | _, isFalse distinct => isFalse (by simp [distinct])

end

instance : DecidableEq EntityId := decideEq

mutual

/-- Integers, then texts, then UUIDs, then composites; within a kind by value. -/
def order : EntityId → EntityId → Ordering
  | .int a, .int b => compare a b
  | .int _, _ => .lt
  | .text _, .int _ => .gt
  | .text a, .text b => compare a b
  | .text _, _ => .lt
  | .uuid _, .int _ | .uuid _, .text _ => .gt
  | .uuid a, .uuid b => compare a b
  | .uuid _, .composite _ => .lt
  | .composite a, .composite b => orderParts a b
  | .composite _, _ => .gt

/-- The first parts that differ decide; a beginning comes first. -/
def orderParts : List EntityId → List EntityId → Ordering
  | [], [] => .eq
  | [], _ :: _ => .lt
  | _ :: _, [] => .gt
  | a :: as, b :: bs => (order a b).then (orderParts as bs)

end

instance : Ord EntityId := ⟨order⟩

mutual

/-- The id of the entity's document: the parts of a composite are joined by
colons, without any escaping. -/
def documentId : EntityId → String
  | .int value => toString value.toInt
  | .text value => value
  | .uuid value => value.render
  | .composite parts => String.intercalate ":" (documentIds parts)

/-- The document ids of the parts of a composite. -/
def documentIds : List EntityId → List String
  | [] => []
  | part :: rest => documentId part :: documentIds rest

end

/-- An integer within the signed 64-bit range. -/
def ofInt? (value : Int) : Option EntityId :=
  if Int64.minValue.toInt ≤ value ∧ value ≤ Int64.maxValue.toInt then
    some (.int (Int64.ofInt value))
  else none

mutual

/-- The identifier that a property value holds. -/
def ofValue? : Json → Option EntityId
  | .number (.integer value) => ofInt? value
  | .text value => some (.text value)
  | .array [] => none
  | .array (first :: rest) => do
    let first ← ofValue? first
    let rest ← ofValues? rest
    pure (.composite (first :: rest))
  | _ => none

/-- The identifiers that values hold, if each of them holds one. -/
def ofValues? : List Json → Option (List EntityId)
  | [] => some []
  | first :: rest => do
    let first ← ofValue? first
    let rest ← ofValues? rest
    pure (first :: rest)

end

mutual

/-- The serialized form: one member, named for the kind. -/
def toJson : EntityId → Json
  | .int value => .object [("Int", .number (.integer value.toInt))]
  | .text value => .object [("Str", .text value)]
  | .uuid value => .object [("Uuid", .text value.render)]
  | .composite parts => .object [("Composite", .array (toJsonParts parts))]

/-- The serialized forms of the parts of a composite. -/
def toJsonParts : List EntityId → List Json
  | [] => []
  | part :: rest => toJson part :: toJsonParts rest

end

mutual

/-- The identifier that a value serializes. -/
def ofJson? : Json → Option EntityId
  | .object [("Int", .number (.integer value))] => ofInt? value
  | .object [("Str", .text value)] => some (.text value)
  | .object [("Uuid", .text value)] => (Uuid.read? value).map .uuid
  | .object [("Composite", .array parts)] => (ofJsonParts? parts).map .composite
  | _ => none

/-- The identifiers that values serialize, if each of them does. -/
def ofJsonParts? : List Json → Option (List EntityId)
  | [] => some []
  | first :: rest => do
    let first ← ofJson? first
    let rest ← ofJsonParts? rest
    pure (first :: rest)

end

end EntityId

end Reindex
