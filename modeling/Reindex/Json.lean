/-!
# Property values

Entities carry properties whose values are JSON. A number keeps the one
distinction that identifiers depend on: an integer literal within the 64-bit
range is an integer, and every other literal is a decimal kept by its spelling,
so a document repeats exactly the number it was given.

The members of an object, like the properties of an entity, are an association
list sorted by name in which a name occurs once. `Fields.set` is the only way
such a list is built here, and a later value for a name replaces the earlier one.
-/

namespace Reindex

/-- A JSON number: an integer literal within the 64-bit range, or any other
literal by its spelling. -/
inductive Number where
  | integer (value : Int)
  | decimal (spelling : String)
  deriving DecidableEq, Repr

/-- A JSON value. -/
inductive Json where
  | null
  | bool (value : Bool)
  | number (value : Number)
  | text (value : String)
  | array (items : List Json)
  | object (members : List (String × Json))
  deriving Repr, Inhabited

/-- Named values, each name once, in increasing order of names. -/
abbrev Fields := List (String × Json)

namespace Fields

/-- The value of a name, if it has one. -/
def get? (fields : Fields) (name : String) : Option Json :=
  match fields with
  | [] => none
  | (other, value) :: rest => if name = other then some value else get? rest name

/-- Give a name its value, replacing an earlier one. A new name enters in front
of the first greater one, which keeps a sorted list sorted. -/
def set (fields : Fields) (name : String) (value : Json) : Fields :=
  match fields with
  | [] => [(name, value)]
  | (other, held) :: rest =>
    if name = other then (name, value) :: rest
    else if name < other then (name, value) :: (other, held) :: rest
    else (other, held) :: set rest name value

/-- The fields set one after another, so a later value for a name replaces an
earlier one. -/
def ofList (pairs : List (String × Json)) : Fields :=
  pairs.foldl (fun fields (name, value) => fields.set name value) []

/-- The names in use. -/
def names (fields : Fields) : List String := fields.map Prod.fst

/-- Setting one name leaves every other name as it was. -/
theorem get?_set_of_ne (fields : Fields) {name tested : String} (value : Json)
    (distinct : tested ≠ name) : (fields.set name value).get? tested = fields.get? tested := by
  induction fields with
  | nil => simp [set, get?, distinct]
  | cons field rest inductionHypothesis =>
    obtain ⟨other, held⟩ := field
    by_cases same : name = other
    · subst same
      simp [set, get?, distinct]
    · by_cases before : name < other
      · simp [set, get?, same, before, distinct]
      · simp [set, get?, same, before, inductionHypothesis]

end Fields

namespace Json

/-- One step of a dotted lookup: the member of an object. No other value has
members. -/
def member? (value : Json) (name : String) : Option Json :=
  match value with
  | .object members => Fields.get? members name
  | _ => none

/-- The text of a string value. -/
def text? : Json → Option String
  | .text value => some value
  | _ => none

/-- The name of an alternative without content: the name itself, or an object
that gives the name alone the value null. -/
def unitTag? : Json → Option String
  | .text tag => some tag
  | .object [(tag, .null)] => some tag
  | _ => none

/-- The texts of an array of strings. -/
def texts? : Json → Option (List String)
  | .array items => items.mapM text?
  | _ => none

end Json

end Reindex
