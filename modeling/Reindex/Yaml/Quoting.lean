import Reindex.Yaml.Number
import Reindex.Yaml.Scalar

/-!
# Writing a text as a scalar

A text is written plain if it would be read back as itself. If it would be taken
for something else, or if plain writing does not allow it, it stands between single
quotes, a quote being written twice. A text of several lines is a literal block.
Where neither keeps the text, and where a character does not print, it stands
between double quotes with escapes.
-/

namespace Reindex.Yaml

/-- Whether a character is written as it is. -/
def isPrintable (c : Char) : Bool :=
  (' ' ≤ c && c ≤ '~') || ('\u00a0' ≤ c && c ≠ '\ufeff' && c ≠ '\ufffe' && c ≠ '\uffff')

/-- Whether a character marks something at the start of a plain scalar. -/
def isLeadingMark (c : Char) : Bool := "#,[]\x7b\x7d&*!|>'\"%@\x60".toList.contains c

/-- Whether a character ends a word of a written text. -/
def isWordEnd (c : Char) : Bool := c = ' ' || c = '\t' || c = '\n' || c = '\r' || c = '\u0085' ||
  c = '\u2028' || c = '\u2029'

/-- Whether what follows ends a word. -/
def beforeWordEnd (rest : List Char) : Bool := rest.isEmpty || rest.head?.any isWordEnd

/-- Whether a mark stands behind the start of a text where plain writing does not
allow it: a colon at the end of a word, or a number sign at its start. -/
def hasInnerMark (behindBlank : Bool) : List Char → Bool
  | [] => false
  | c :: rest =>
    (c = ':' && beforeWordEnd rest) || (c = '#' && behindBlank) || hasInnerMark (isWordEnd c) rest

/-- Whether plain writing does not allow a text. -/
def hasMark (cs : List Char) : Bool :=
  match cs with
  | [] => false
  | c :: rest =>
    cs.take 3 = "---".toList || cs.take 3 = "...".toList || isLeadingMark c ||
      ((c = '?' || c = ':' || c = '-') && beforeWordEnd rest) || hasInnerMark (isWordEnd c) rest

/-- Whether a text starts or ends with a space, or holds a break. -/
def isRagged (cs : List Char) : Bool :=
  cs.head? = some ' ' || cs.getLast? = some ' ' || cs.any isBreak

/-- Whether a space stands in front of a break. -/
def hasSpaceBeforeBreak : List Char → Bool
  | ' ' :: d :: rest => isBreak d || hasSpaceBeforeBreak (d :: rest)
  | _ :: rest => hasSpaceBeforeBreak rest
  | [] => false

/-- Whether a space stands behind a break. -/
def hasSpaceBehindBreak (cs : List Char) : Bool := hasSpaceBeforeBreak cs.reverse

/-- The upper-case hexadecimal digits of a number, with leading zeros. -/
def hexDigits (width n : Nat) : String :=
  let digits := (Nat.toDigits 16 n).map Char.toUpper
  String.ofList (List.replicate (width - digits.length) '0' ++ digits)

/-- One character between double quotes. -/
def escapeChar (c : Char) : String :=
  match c with
  | '\x00' => "\\0"
  | '\x07' => "\\a"
  | '\x08' => "\\b"
  | '\t' => "\\t"
  | '\n' => "\\n"
  | '\x0b' => "\\v"
  | '\x0c' => "\\f"
  | '\r' => "\\r"
  | '\x1b' => "\\e"
  | '"' => "\\\""
  | '\\' => "\\\\"
  | '\u0085' => "\\N"
  | '\u2028' => "\\L"
  | '\u2029' => "\\P"
  | c =>
    if isPrintable c then c.toString
    else if c.toNat ≤ 0xff then "\\x" ++ hexDigits 2 c.toNat
    else if c.toNat ≤ 0xffff then "\\u" ++ hexDigits 4 c.toNat
    else "\\U" ++ hexDigits 8 c.toNat

/-- A text between double quotes. -/
def doubleQuoted (text : String) : String :=
  "\"" ++ String.join (text.toList.map escapeChar) ++ "\""

/-- The lines of a scalar that has several stand this far in. -/
def lineIndent : List Char := [' ', ' ']

/-- The characters of a text between single quotes. The line behind a break is
indented. -/
def singleQuotedChars : List Char → List Char
  | [] => []
  | c :: rest =>
    let written := if c = '\'' then ['\'', '\''] else [c]
    let indent := if isBreak c && !rest.head?.any isBreak then lineIndent else []
    written ++ indent ++ singleQuotedChars rest

/-- A text between single quotes. -/
def singleQuoted (text : String) : String :=
  "'" ++ String.ofList (singleQuotedChars text.toList) ++ "'"

/-- What the mark of a block says about its text: its indentation, where the first
line does not show it, and how many of its last breaks belong to it. -/
def blockMark (cs : List Char) : List Char :=
  let indent := if cs.head?.any (fun c => c = ' ' || isBreak c) then ['2'] else []
  let ending := match cs.reverse with
    | last :: before =>
      if !isBreak last then ['-']
      else if before.isEmpty || before.head?.any isBreak then ['+']
      else []
    | [] => ['-']
  '|' :: (indent ++ ending)

/-- A text as a literal block. -/
def literalBlock (text : String) : String :=
  let cs := text.toList
  let body := (lines cs).flatMap fun (line, ending) =>
    (if line.isEmpty then [] else lineIndent ++ line) ++ ending.toList
  String.ofList (blockMark cs ++ '\n' :: body)

/-- Whether a literal block keeps a text. -/
def fitsBlock (cs : List Char) : Bool :=
  cs.all (fun c => isPrintable c || c = '\t' || c = '\n') && cs.getLast? ≠ some ' ' &&
    !hasSpaceBeforeBreak cs

/-- The scalar of a text. -/
def writeScalar (text : String) : String :=
  let cs := text.toList
  if cs.contains '\n' then if fitsBlock cs then literalBlock text else doubleQuoted text
  else if !cs.all isPrintable || hasSpaceBeforeBreak cs || hasSpaceBehindBreak cs then
    doubleQuoted text
  else if isTaken text || hasMark cs || isRagged cs then singleQuoted text
  else text

/-- An entry of a block, with the break that ends its last line. -/
def writeEntry (key scalar : String) : String :=
  key ++ ": " ++ scalar ++ (if scalar.toList.getLast?.any isBreak then "" else "\n")

end Reindex.Yaml
