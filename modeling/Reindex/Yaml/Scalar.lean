import Reindex.Json.Reader
import Reindex.Yaml.Layout

/-!
# Scalars

A scalar is written plain, between quotes, or as a block of lines. How it is
written matters to those who read it, so a scalar keeps its style, and its tag if
it has one. Lines of a plain or quoted scalar are folded; a block keeps them or
folds those that are not indented further.

Each reader below takes one character after the other and gives up, with no
result, where the text is not well formed.
-/

namespace Reindex.Yaml

/-- How a scalar is written. -/
inductive ScalarStyle where
  | plain
  | quoted
  | literal
  | folded
  deriving DecidableEq, Repr

/-- A scalar with its style and its tag. -/
structure Scalar where
  text : String
  style : ScalarStyle
  tag : Option String := none
  deriving DecidableEq, Repr

/-- Whether a character is a mark of collections. -/
def isFlowMark (c : Char) : Bool := c = ',' || c = '[' || c = ']' || c = '\x7b' || c = '\x7d'

/-- Whether a plain scalar can start with a character, given what follows it. -/
def startsPlain (inBraces : Bool) (c : Char) (rest : List Char) : Bool :=
  if c = '-' then !endsWord rest
  else if c = '?' || c = ':' then !inBraces && !endsWord rest
  else !(isGap c || isFlowMark c || c = '#' || c = '&' || c = '*' || c = '!' || c = '|' ||
    c = '>' || c = '\'' || c = '"' || c = '%' || c = '@' || c = '\x60')

/-- Read a plain scalar to its end; `text` is what was read so far, last first.
Further lines belong to it when they are indented at least as the least column
tells. -/
def plainFrom (inBraces : Bool) (least : Nat) (text : List Char) (gap : Gap) :
    List Char → Option (List Char × Cursor)
  | [] => some (text.reverse, ⟨[], gap.column⟩)
  | c :: rest =>
    let here : Cursor := ⟨c :: rest, gap.column⟩
    let done : Option (List Char × Cursor) := some (text.reverse, here)
    if isGap c then
      if c = '\t' && (gap.column.any (· < least)) then none
      else plainFrom inBraces least text (gap.push c) rest
    else if !inBraces && gap.column.any (· < least) then done
    else if here.atBoundary then done
    else if c = '#' && !gap.isEmpty then done
    else if c = ':' && inBraces && rest.head?.any (fun d => isFlowMark d || d = '?') then none
    else if c = ':' && endsWord rest then done
    else if inBraces && isFlowMark c then done
    else plainFrom inBraces least (c :: (gap.fold.reverse ++ text)) {} rest

/-- Read a scalar between single quotes, behind the first. A quote is written
twice. -/
def singleQuotedFrom (text : List Char) (gap : Gap) : List Char → Option (List Char × List Char)
  | [] => none
  | c :: rest =>
    if isGap c then singleQuotedFrom text (gap.push c) rest
    else if Cursor.atBoundary ⟨c :: rest, gap.column⟩ then none
    else
      let text := gap.fold.reverse ++ text
      if c = '\'' then
        match rest with
        | '\'' :: rest => singleQuotedFrom ('\'' :: text) {} rest
        | rest => some (text.reverse, rest)
      else singleQuotedFrom (c :: text) {} rest

/-- The character that a one-letter escape stands for. -/
def escaped? (c : Char) : Option Char :=
  match c with
  | '0' => some '\x00'
  | 'a' => some '\x07'
  | 'b' => some '\x08'
  | 't' | '\t' => some '\t'
  | 'n' => some '\n'
  | 'v' => some '\x0b'
  | 'f' => some '\x0c'
  | 'r' => some '\r'
  | 'e' => some '\x1b'
  | ' ' => some ' '
  | '"' => some '"'
  | '/' => some '/'
  | '\\' => some '\\'
  | 'N' => some '\u0085'
  | '_' => some '\u00a0'
  | 'L' => some '\u2028'
  | 'P' => some '\u2029'
  | _ => none

/-- The number of hexadecimal digits behind an escape that has some. -/
def digitCount? (c : Char) : Option Nat :=
  match c with
  | 'x' => some 2
  | 'u' => some 4
  | 'U' => some 8
  | _ => none

/-- Where a reader of double-quoted text stands. -/
inductive QuotedMode where
  | words
  /-- Behind a backslash. -/
  | escape
  /-- Within a number of so many more digits. -/
  | digits (left : Nat) (value : Nat)

/-- Read a scalar between double quotes, behind the first. -/
def doubleQuotedFrom (mode : QuotedMode) (text : List Char) (gap : Gap) :
    List Char → Option (List Char × List Char)
  | [] => none
  | c :: rest =>
    match mode with
    | .words =>
      if isGap c then doubleQuotedFrom .words text (gap.push c) rest
      else if Cursor.atBoundary ⟨c :: rest, gap.column⟩ then none
      else
        let text := gap.fold.reverse ++ text
        if c = '"' then some (text.reverse, rest)
        else if c = '\\' then doubleQuotedFrom .escape text {} rest
        else doubleQuotedFrom .words (c :: text) {} rest
    | .escape =>
      if isBreak c then doubleQuotedFrom .words text { begun := true, escaped := true } rest
      else match digitCount? c with
        | some count => doubleQuotedFrom (.digits count 0) text {} rest
        | none => (escaped? c).bind fun meant => doubleQuotedFrom .words (meant :: text) {} rest
    | .digits left value =>
      (Json.Reader.hexDigit? c).bind fun digit =>
        let value := value * 16 + digit
        if left ≤ 1 then
          if value.isValidChar then doubleQuotedFrom .words (Char.ofNat value :: text) {} rest
          else none
        else doubleQuotedFrom (.digits (left - 1) value) text {} rest

/-- A line and the break that ends it, if one does. -/
abbrev Line := List Char × Option Char

/-- Cut a text into lines. -/
def lines : List Char → List Line
  | [] => []
  | c :: rest =>
    if isBreak c then ([], some c) :: lines rest
    else match lines rest with
      | [] => [([c], none)]
      | (line, ending) :: more => (c :: line, ending) :: more

/-- Put lines together again. -/
def unlines (parts : List Line) : List Char :=
  parts.flatMap fun (line, ending) => line ++ ending.toList

/-- The number of spaces that a line starts with. -/
def indentation (line : List Char) : Nat := (line.takeWhile (· = ' ')).length

/-- What is left of a block at its end: the breaks behind its last line, and the
text that follows it. -/
structure BlockText where
  text : List Char
  /-- The break of the last line. -/
  ending : List Char
  /-- The breaks of the empty lines behind it. -/
  empty : List Char
  after : Cursor

/-- The indentation of a block: that of its first line with text, but at least
that of an empty line before it and the least that its place allows. -/
def blockIndent (least widest : Nat) : List Line → Option Nat
  | [] => some (max widest least)
  | (line, ending) :: more =>
    let spaces := indentation line
    match line.drop spaces, ending with
    | [], some _ => blockIndent least (max widest spaces) more
    | '\t' :: _, _ => none
    | _, _ => some (max (max widest spaces) least)

/-- Read the lines of a block with the given indentation. -/
def blockLines (keepLines : Bool) (indent : Nat) (text ending empty : List Char)
    (wasIndented : Bool) : List Line → Option BlockText
  | [] => some ⟨text, ending, empty, ⟨[], some 0⟩⟩
  | (line, lineEnd) :: more =>
    let spaces := min (indentation line) indent
    match line.drop spaces, lineEnd with
    | [], some c => blockLines keepLines indent text ending (empty ++ [c]) wasIndented more
    | [], none => some ⟨text, ending, empty, ⟨[], some spaces⟩⟩
    | c :: content, lineEnd =>
      if spaces < indent then
        if c = '\t' then none
        else
          let left := (c :: content) ++ lineEnd.toList ++ unlines more
          some ⟨text, ending, empty, ⟨left, some spaces⟩⟩
      else
        let joined :=
          if !keepLines && ending = ['\n'] && !wasIndented && !isBlank c then
            if empty.isEmpty then [' '] else []
          else ending
        blockLines keepLines indent (text ++ joined ++ empty ++ c :: content) lineEnd.toList []
          (isBlank c) more

/-- What the line of a block's mark says: how to treat the last breaks, and the
indentation relative to the place of the block. -/
structure BlockHeader where
  keepEnd : Bool := false
  dropEnd : Bool := false
  increment : Option Nat := none

/-- Read the sign of a block's mark. -/
def headerSign? (header : BlockHeader) : List Char → BlockHeader × List Char
  | '+' :: rest => ({ header with keepEnd := true }, rest)
  | '-' :: rest => ({ header with dropEnd := true }, rest)
  | rest => (header, rest)

/-- Read the digit of a block's mark, which is not zero. -/
def headerDigit? (header : BlockHeader) : List Char → Option (BlockHeader × List Char)
  | c :: rest =>
    if c = '0' then none
    else if c.isDigit then some ({ header with increment := some (c.toNat - '0'.toNat) }, rest)
    else some (header, c :: rest)
  | [] => some (header, [])

/-- Read what follows a block's mark, sign and digit in any order. -/
def header? (rest : List Char) : Option (BlockHeader × List Char) :=
  match rest with
  | '+' :: _ | '-' :: _ => headerDigit? (headerSign? {} rest).1 (headerSign? {} rest).2
  | _ => (headerDigit? {} rest).map fun (header, rest) =>
    if header.increment.isSome then headerSign? header rest else (header, rest)

/-- Read a block behind its mark. -/
def block? (keepLines : Bool) (indent : Nat) (rest : List Char) : Option (List Char × Cursor) := do
  let (header, rest) ← header? rest
  let behind := rest.dropWhile isBlank
  let comment := behind.head? = some '#'
  if !behind.isEmpty && !comment && !(behind.head?.any isBreak) then none
  else
    let body := lines ((behind.dropWhile fun c => !isBreak c).drop 1)
    let indent ← match header.increment with
      | some increment => some (indent + increment)
      | none => blockIndent (indent + 1) 0 body
    let read ← blockLines keepLines indent [] [] [] false body
    let ending := if header.dropEnd then [] else read.ending
    let empty := if header.keepEnd then read.empty else []
    pure (read.text ++ ending ++ empty, read.after)

end Reindex.Yaml
