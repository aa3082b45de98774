import Reindex.Json.Reader

/-!
# Numbers and words of plain scalars

What a plain scalar would be taken for: nothing, a truth value, an integer or a
decimal number. Integers are decimal, or hexadecimal, octal or binary behind a
mark; digits that begin with a superfluous zero are no number at all.
-/

namespace Reindex.Yaml

/-- The words for nothing. -/
def isNull (text : String) : Bool := ["null", "Null", "NULL", "~"].contains text

/-- The words for a truth value. -/
def isTruth (text : String) : Bool :=
  ["true", "True", "TRUE", "false", "False", "FALSE"].contains text

/-- The value of a digit in a base up to sixteen. -/
def digitIn? (base : Nat) (c : Char) : Option Nat :=
  (Json.Reader.hexDigit? c).filter (· < base)

/-- The number that digits spell; there is at least one. -/
def ofDigits? (base : Nat) (digits : List Char) : Option Nat :=
  if digits.isEmpty then none
  else digits.foldlM (fun n c => (digitIn? base c).map (n * base + ·)) 0

/-- Whether a text is digits that begin with a superfluous zero, with or without a
sign. -/
def isPadded (cs : List Char) : Bool :=
  let unsigned := match cs with
    | '+' :: rest | '-' :: rest => rest
    | rest => rest
  match unsigned with
  | '0' :: rest => !rest.isEmpty && rest.all Char.isDigit
  | _ => false

/-- The magnitude that digits, marked or not, spell behind the sign. -/
def magnitude? (cs : List Char) : Option Nat :=
  match cs with
  | '0' :: 'x' :: digits => ofDigits? 16 digits
  | '0' :: 'o' :: digits => ofDigits? 8 digits
  | '0' :: 'b' :: digits => ofDigits? 2 digits
  | digits => if isPadded digits then none else ofDigits? 10 digits

/-- The non-negative integer that a text spells, below a bound. -/
def natBelow? (bound : Nat) (text : String) : Option Nat :=
  let unsigned := match text.toList with
    | '+' :: rest => rest
    | rest => rest
  (magnitude? unsigned).filter (· < bound)

/-- Whether a text spells an integer of up to 128 bits. -/
def isInteger (text : String) : Bool :=
  match text.toList with
  | '-' :: rest => (magnitude? rest).any (· ≤ 1 <<< 127)
  | _ => (natBelow? (1 <<< 128) text).isSome

/-- The parts of a decimal literal without its sign: the digits in front of the
point and behind it, and the power of ten. -/
def decimalParts? (cs : List Char) : Option (List Char × List Char × Int) :=
  let whole := cs.takeWhile Char.isDigit
  let rest := cs.drop whole.length
  let (fraction, rest) := match rest with
    | '.' :: rest =>
      let fraction := rest.takeWhile Char.isDigit
      (fraction, rest.drop fraction.length)
    | rest => ([], rest)
  if whole.isEmpty && fraction.isEmpty then none
  else match rest with
    | [] => some (whole, fraction, 0)
    | mark :: power =>
      if mark = 'e' || mark = 'E' then
        let (negative, digits) := match power with
          | '-' :: digits => (true, digits)
          | '+' :: digits => (false, digits)
          | digits => (false, digits)
        (ofDigits? 10 digits).map fun n => (whole, fraction, if negative then -(n : Int) else n)
      else none

/-- Whether a decimal number is within the range of double precision: below the
middle between the greatest double and the power of two behind it. -/
def isFinite (whole fraction : List Char) (power : Int) : Bool :=
  let digits := (whole ++ fraction).dropWhile (· = '0')
  let places : Int := digits.length + power - fraction.length
  if digits.isEmpty || places < 309 then true
  else if 309 < places then false
  else
    let value := Json.Reader.ofDigits digits
    let scale := power - fraction.length
    let limit := (1 <<< 1024) - (1 <<< 970)
    if 0 ≤ scale then value * Nat.pow 10 scale.toNat < limit
    else value < limit * Nat.pow 10 (-scale).toNat

/-- Whether a text spells a decimal number, an infinity or no number. -/
def isDecimal (text : String) : Bool :=
  let special := [".inf", ".Inf", ".INF", "+.inf", "+.Inf", "+.INF", "-.inf", "-.Inf", "-.INF",
    ".nan", ".NaN", ".NAN"]
  let unsigned := match text.toList with
    | '+' :: rest | '-' :: rest => rest
    | rest => rest
  special.contains text || (!isPadded text.toList && match decimalParts? unsigned with
    | some (whole, fraction, power) => isFinite whole fraction power
    | none => false)

/-- Whether a plain scalar of a text would not be read as that text. -/
def isTaken (text : String) : Bool :=
  text = "" || isNull text || isTruth text || isInteger text || isDecimal text ||
    isPadded text.toList

end Reindex.Yaml
