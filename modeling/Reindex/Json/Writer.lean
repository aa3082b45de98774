import Reindex.Json

/-!
# Writing JSON text

One line, no blanks. A character that JSON does not allow in a string, and only
such a character, is written as an escape; all other text stands for itself.
-/

namespace Reindex.Json

/-- The four-digit escape of a control character. -/
def controlEscape (c : Char) : String :=
  let digits := Nat.toDigits 16 c.toNat
  "\\u" ++ String.ofList (List.replicate (4 - digits.length) '0' ++ digits)

/-- The written form of one character of a string. -/
def escapeChar (c : Char) : String :=
  match c with
  | '"' => "\\\""
  | '\\' => "\\\\"
  | '\n' => "\\n"
  | '\r' => "\\r"
  | '\t' => "\\t"
  | c => if c.toNat < 0x20 then controlEscape c else c.toString

/-- A string between quotes. -/
def quote (text : String) : String := "\"" ++ String.join (text.toList.map escapeChar) ++ "\""

/-- An integer in decimal digits, or the spelling that the number was read from. -/
def Number.write : Number → String
  | .integer value => toString value
  | .decimal spelling => spelling

mutual

/-- The written form of a value. -/
def write : Json → String
  | .null => "null"
  | .bool true => "true"
  | .bool false => "false"
  | .number value => Number.write value
  | .text value => quote value
  | .array items => "[" ++ String.intercalate "," (writeItems items) ++ "]"
  | .object members => "\x7b" ++ String.intercalate "," (writeMembers members) ++ "\x7d"

/-- The written forms of the items of an array, in order. -/
def writeItems : List Json → List String
  | [] => []
  | item :: rest => write item :: writeItems rest

/-- The written forms of the members of an object, in order. -/
def writeMembers : List (String × Json) → List String
  | [] => []
  | (name, value) :: rest => (quote name ++ ":" ++ write value) :: writeMembers rest

end

end Reindex.Json
