import Reindex.Json

/-!
# Reading JSON text

A text is read in one pass over its characters by two machines. The lexical one
gathers a string, a number or a word, or sees a single mark; the structural one
keeps the arrays and objects that are still open. Neither can look back, so the
reader is a fold, and a text is accepted exactly when the fold ends with one
complete value and nothing open.

A repeated member of an object replaces the earlier one. Numbers are told apart
by their spelling alone: only an integer literal within the 64-bit range counts
as an integer.
-/

namespace Reindex.Json.Reader

/-- An array or object still open, with what it holds so far. -/
inductive Frame where
  /-- The items read so far, last first. -/
  | array (before : List Json)
  /-- The members read so far and the name whose value is being read. -/
  | object (members : Fields) (name : String)

/-- What the text may go on with. -/
inductive Expecting where
  | value (opened : List Frame)
  /-- Just behind an opening bracket, which may close at once. -/
  | firstItem (opened : List Frame)
  /-- Just behind an opening brace, which may close at once. -/
  | firstName (opened : List Frame)
  | name (members : Fields) (opened : List Frame)
  | colon (members : Fields) (name : String) (opened : List Frame)
  /-- A value is complete; its container goes on or closes. -/
  | after (value : Json) (opened : List Frame)

/-- A mark, or a value that holds no other. -/
inductive Token where
  | openArray
  | closeArray
  | openObject
  | closeObject
  | comma
  | colon
  | scalar (value : Json)

/-- A value can start here. -/
def startValue (opened : List Frame) : Token → Option Expecting
  | .openArray => some (.firstItem opened)
  | .openObject => some (.firstName opened)
  | .scalar value => some (.after value opened)
  | _ => none

/-- Take one token. -/
def accept : Expecting → Token → Option Expecting
  | .value opened, token => startValue opened token
  | .firstItem opened, .closeArray => some (.after (.array []) opened)
  | .firstItem opened, token => startValue (.array [] :: opened) token
  | .firstName opened, .closeObject => some (.after (.object []) opened)
  | .firstName opened, .scalar (.text name) => some (.colon [] name opened)
  | .name members opened, .scalar (.text name) => some (.colon members name opened)
  | .colon members name opened, .colon => some (.value (.object members name :: opened))
  | .after value (.array before :: opened), .comma =>
    some (.value (.array (value :: before) :: opened))
  | .after value (.array before :: opened), .closeArray =>
    some (.after (.array (value :: before).reverse) opened)
  | .after value (.object members name :: opened), .comma =>
    some (.name (members.set name value) opened)
  | .after value (.object members name :: opened), .closeObject =>
    some (.after (.object (members.set name value)) opened)
  | _, _ => none

/-- The value of one hexadecimal digit. -/
def hexDigit? (c : Char) : Option Nat :=
  if '0' ≤ c ∧ c ≤ '9' then some (c.toNat - '0'.toNat)
  else if 'a' ≤ c ∧ c ≤ 'f' then some (c.toNat - 'a'.toNat + 10)
  else if 'A' ≤ c ∧ c ≤ 'F' then some (c.toNat - 'A'.toNat + 10)
  else none

/-- The character that a one-letter escape stands for. -/
def escaped? : Char → Option Char
  | '"' => some '"'
  | '\\' => some '\\'
  | '/' => some '/'
  | 'b' => some '\x08'
  | 'f' => some '\x0c'
  | 'n' => some '\n'
  | 'r' => some '\r'
  | 't' => some '\t'
  | _ => none

/-- Whether a character can stand in a number or in a word. -/
def isWordChar (c : Char) : Bool := c.isAlphanum || c = '-' || c = '+' || c = '.'

/-- Whether what follows the integral part of a literal is a fraction, a power of
ten, or both. -/
def isDecimalTail (tail : List Char) : Bool :=
  let digitsOf (cs : List Char) := cs.takeWhile Char.isDigit
  let isPower : List Char → Bool
    | [] => true
    | mark :: '-' :: digits | mark :: '+' :: digits | mark :: digits =>
      (mark = 'e' || mark = 'E') && digits ≠ [] && digits.all Char.isDigit
  match tail with
  | '.' :: rest => digitsOf rest ≠ [] && isPower (rest.drop (digitsOf rest).length)
  | rest => rest ≠ [] && isPower rest

/-- The number that decimal digits spell. -/
def ofDigits (digits : List Char) : Nat :=
  digits.foldl (fun n c => n * 10 + (c.toNat - '0'.toNat)) 0

/-- The number that a literal spells. Beyond the 64-bit range, and for the
negative zero, an integer literal counts as a decimal of the same value. -/
def numberOfLiteral? (literal : List Char) : Option Number :=
  let negative := literal.head? = some '-'
  let unsigned := if negative then literal.drop 1 else literal
  let integral := unsigned.takeWhile Char.isDigit
  let tail := unsigned.drop integral.length
  if integral = [] ∨ (integral.head? = some '0' ∧ integral ≠ ['0']) then none
  else if tail = [] then
    let magnitude := ofDigits integral
    if negative ∧ magnitude ≠ 0 ∧ Int64.minValue.toInt ≤ -magnitude then
      some (.integer (-magnitude))
    else if ¬negative ∧ magnitude < UInt64.size then some (.integer magnitude)
    else some (.decimal (String.ofList literal ++ ".0"))
  else if isDecimalTail tail then some (.decimal (String.ofList literal))
  else none

/-- The value that a word outside strings spells. -/
def scalarOfWord? (word : List Char) : Option Json :=
  if word = ['n', 'u', 'l', 'l'] then some .null
  else if word = ['t', 'r', 'u', 'e'] then some (.bool true)
  else if word = ['f', 'a', 'l', 's', 'e'] then some (.bool false)
  else (numberOfLiteral? word).map .number

/-- What the lexical machine is gathering; gathered characters are last first. -/
inductive Gathering where
  | nothing
  | word (gathered : List Char)
  | string (gathered : List Char)
  | escape (gathered : List Char)
  /-- Hexadecimal digits of an escape, and the high half read before them if any. -/
  | unit (gathered : List Char) (high : Option Nat) (digits : Nat) (value : Nat)
  /-- A high half was read; the low half must follow. -/
  | lowHalf (gathered : List Char) (high : Nat)
  | lowEscape (gathered : List Char) (high : Nat)

/-- Both machines together. -/
structure State where
  gathering : Gathering
  expecting : Expecting

/-- A complete 16-bit unit: a scalar value by itself, or a half of a pair. -/
def completeUnit? (gathered : List Char) (high : Option Nat) (value : Nat) : Option Gathering :=
  match high with
  | none =>
    if 0xd800 ≤ value ∧ value < 0xdc00 then some (.lowHalf gathered value)
    else if 0xdc00 ≤ value ∧ value < 0xe000 then none
    else some (.string (Char.ofNat value :: gathered))
  | some high =>
    if 0xdc00 ≤ value ∧ value < 0xe000 then
      some (.string (Char.ofNat (0x10000 + (high - 0xd800) * 0x400 + (value - 0xdc00)) :: gathered))
    else none

/-- Take a character outside strings and words. -/
def takeMark (expecting : Expecting) (c : Char) : Option State :=
  let mark (token : Token) : Option State :=
    (accept expecting token).map fun next => ⟨.nothing, next⟩
  match c with
  | ' ' | '\n' | '\r' | '\t' => some ⟨.nothing, expecting⟩
  | '[' => mark .openArray
  | ']' => mark .closeArray
  | '\x7b' => mark .openObject
  | '\x7d' => mark .closeObject
  | ',' => mark .comma
  | ':' => mark .colon
  | '"' => some ⟨.string [], expecting⟩
  | c => if isWordChar c then some ⟨.word [c], expecting⟩ else none

/-- End the word being gathered, if there is one. -/
def endWord? (gathered : List Char) (expecting : Expecting) : Option Expecting := do
  let value ← scalarOfWord? gathered.reverse
  accept expecting (.scalar value)

/-- Take one character. -/
def step (state : State) (c : Char) : Option State :=
  let keep (gathering : Gathering) : Option State := some ⟨gathering, state.expecting⟩
  match state.gathering with
  | .nothing => takeMark state.expecting c
  | .word gathered =>
    if isWordChar c then keep (.word (c :: gathered))
    else (endWord? gathered state.expecting).bind fun next => takeMark next c
  | .string gathered =>
    if c = '"' then
      (accept state.expecting (.scalar (.text (String.ofList gathered.reverse)))).map
        fun next => ⟨.nothing, next⟩
    else if c = '\\' then keep (.escape gathered)
    else if c.toNat < 0x20 then none
    else keep (.string (c :: gathered))
  | .escape gathered =>
    if c = 'u' then keep (.unit gathered none 0 0)
    else (escaped? c).bind fun meant => keep (.string (meant :: gathered))
  | .unit gathered high digits value =>
    (hexDigit? c).bind fun digit =>
      if digits = 3 then (completeUnit? gathered high (value * 16 + digit)).bind keep
      else keep (.unit gathered high (digits + 1) (value * 16 + digit))
  | .lowHalf gathered high => if c = '\\' then keep (.lowEscape gathered high) else none
  | .lowEscape gathered high => if c = 'u' then keep (.unit gathered (some high) 0 0) else none

/-- The value left when the text ends, if it ends between values. -/
def finish? (state : State) : Option Json :=
  let complete : Expecting → Option Json
    | .after value [] => some value
    | _ => none
  match state.gathering with
  | .nothing => complete state.expecting
  | .word gathered => (endWord? gathered state.expecting).bind complete
  | _ => none

end Reader

/-- The value that a JSON text spells. -/
def read? (text : String) : Option Json :=
  (text.toList.foldlM Reader.step ⟨.nothing, .value []⟩).bind Reader.finish?

end Reindex.Json
