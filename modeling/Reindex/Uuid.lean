import Reindex.Json.Reader

/-!
# UUIDs

A UUID is thirty-two hexadecimal digits. It is written in lower case with
hyphens behind the eighth, twelfth, sixteenth and twentieth digit. Read are that
form, the bare digits, the hyphenated form between braces and behind `urn:uuid:`,
each in any case. The order of UUIDs is that of their digits.
-/

namespace Reindex

/-- Thirty-two hexadecimal digits, the most significant first. -/
structure Uuid where
  digits : List (Fin 16)
  length_digits : digits.length = 32
  deriving DecidableEq

namespace Uuid

/-- The lower-case spelling of a hexadecimal digit. -/
def digitChar (digit : Fin 16) : Char :=
  if digit.val < 10 then Char.ofNat (digit.val + '0'.toNat)
  else Char.ofNat (digit.val - 10 + 'a'.toNat)

/-- The hexadecimal digit that a character spells, in either case. -/
def digit? (c : Char) : Option (Fin 16) :=
  if '0' ≤ c ∧ c ≤ '9' then some (Fin.ofNat 16 (c.toNat - '0'.toNat))
  else if 'a' ≤ c ∧ c ≤ 'f' then some (Fin.ofNat 16 (c.toNat - 'a'.toNat + 10))
  else if 'A' ≤ c ∧ c ≤ 'F' then some (Fin.ofNat 16 (c.toNat - 'A'.toNat + 10))
  else none

/-- The UUID of thirty-two digit characters. -/
def ofDigitChars? (cs : List Char) : Option Uuid :=
  match cs.mapM digit? with
  | none => none
  | some digits => if complete : digits.length = 32 then some ⟨digits, complete⟩ else none

/-- The lengths of the groups between hyphens. -/
def groups : List Nat := [8, 4, 4, 4, 12]

/-- Cut digits into groups and set a hyphen between them. -/
def hyphenate : List Nat → List Char → List Char
  | [], _ => []
  | [count], cs => cs.take count
  | count :: counts, cs => cs.take count ++ '-' :: hyphenate counts (cs.drop count)

/-- The hyphenated lower-case text. -/
def toChars (uuid : Uuid) : List Char := hyphenate groups (uuid.digits.map digitChar)

/-- The hyphenated lower-case text. -/
def render (uuid : Uuid) : String := String.ofList uuid.toChars

/-- The UUID of a hyphenated text: each hyphen stands at its place. -/
def ofHyphenated? (cs : List Char) : Option Uuid :=
  let digits := cs.filter (· ≠ '-')
  if hyphenate groups digits = cs then ofDigitChars? digits else none

/-- The UUID that a text spells in one of the four forms, told apart by length. -/
def ofChars? (cs : List Char) : Option Uuid :=
  if cs.length = 32 then ofDigitChars? cs
  else if cs.length = 36 then ofHyphenated? cs
  else if cs.length = 38 ∧ cs.head? = some '\x7b' ∧ cs.getLast? = some '\x7d' then
    ofHyphenated? ((cs.drop 1).take 36)
  else if cs.length = 45 ∧ cs.take 9 = ['u', 'r', 'n', ':', 'u', 'u', 'i', 'd', ':'] then
    ofHyphenated? (cs.drop 9)
  else none

/-- The UUID that a text spells. -/
def read? (text : String) : Option Uuid := ofChars? text.toList

/-- The order of the digits, from the most significant. -/
def order (a b : Uuid) : Ordering := compare (a.digits.map Fin.val) (b.digits.map Fin.val)

instance : Ord Uuid := ⟨order⟩

end Uuid

end Reindex
