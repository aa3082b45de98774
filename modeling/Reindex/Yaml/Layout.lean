/-!
# Blanks, line breaks and comments

The places between the scalars of a YAML text. A cursor stands in front of what
is still to be read; it knows its column as long as only indentation precedes it
on its line, which is where a key may start and where a tab may not.

All spellings of an ordinary line break are made one beforehand. The line and
paragraph separators are breaks too, but keep their identity in folded text.
-/

namespace Reindex.Yaml

/-- Make one line break of each of its spellings. -/
def unifyBreaks : List Char → List Char
  | [] => []
  | '\r' :: '\n' :: rest => '\n' :: unifyBreaks rest
  | '\r' :: rest => '\n' :: unifyBreaks rest
  | '\u0085' :: rest => '\n' :: unifyBreaks rest
  | c :: rest => c :: unifyBreaks rest

/-- Whether a character may stand in a text at all. -/
def isAllowed (c : Char) : Bool :=
  c = '\t' || c = '\n' || c = '\r' || c = '\u0085' || (' ' ≤ c && c ≤ '~') ||
    ('\u00a0' ≤ c && c ≠ '\ufffe' && c ≠ '\uffff')

/-- Whether a character ends a line. -/
def isBreak (c : Char) : Bool := c = '\n' || c = '\u2028' || c = '\u2029'

/-- Whether a character separates words within a line. -/
def isBlank (c : Char) : Bool := c = ' ' || c = '\t'

/-- Whether a character separates words. -/
def isGap (c : Char) : Bool := isBlank c || isBreak c

/-- Whether a word ends here. -/
def endsWord : List Char → Bool
  | [] => true
  | c :: _ => isGap c

/-- A place in a text. -/
structure Cursor where
  rest : List Char
  /-- The column, while only indentation precedes on the line. -/
  column : Option Nat

namespace Cursor

/-- Pass blanks, breaks and comments. Within braces a tab is a blank like any
other; outside it is none where indentation counts. -/
def skipFrom (inBraces : Bool) (inComment : Bool) (column : Option Nat) : List Char → Cursor
  | [] => ⟨[], column⟩
  | c :: rest =>
    if isBreak c then skipFrom inBraces false (some 0) rest
    else if inComment then skipFrom inBraces true column rest
    else if c = '#' then skipFrom inBraces true column rest
    else if c = ' ' || (c = '\t' && (inBraces || column.isNone)) then
      skipFrom inBraces false (column.map (· + 1)) rest
    else ⟨c :: rest, column⟩

/-- Pass blanks, breaks and comments. -/
def skip (cursor : Cursor) (inBraces : Bool) : Cursor :=
  skipFrom inBraces false cursor.column cursor.rest

/-- Whether a line starts here with three times the given character, alone. -/
def atMarker (cursor : Cursor) (mark : Char) : Bool :=
  cursor.column = some 0 && match cursor.rest with
    | a :: b :: c :: rest => a = mark && b = mark && c = mark && endsWord rest
    | _ => false

/-- Whether a document ends or starts here. -/
def atBoundary (cursor : Cursor) : Bool := cursor.atMarker '-' || cursor.atMarker '.'

/-- Whether nothing of a block indented by so much is left here: the text or the
document ends, or a line starts that is not indented more. -/
def atBlockEnd (cursor : Cursor) (indent : Nat) : Bool :=
  cursor.rest.isEmpty || match cursor.column with
    | some column => column ≤ indent
    | none => false

/-- What lies between two places. -/
def upTo (start finish : Cursor) : List Char :=
  start.rest.take (start.rest.length - finish.rest.length)

/-- Whether what lies between two places fits a key: one line of limited length. -/
def fitsKey (start finish : Cursor) : Bool :=
  let passed := start.upTo finish
  !passed.any isBreak && passed.length ≤ 1024

end Cursor

/-- The blanks and breaks between two words of a scalar. -/
structure Gap where
  /-- The breaks, last first. -/
  breaks : List Char := []
  /-- The blanks behind the last break, last first. -/
  blanks : List Char := []
  /-- Whether a line has ended. -/
  begun : Bool := false
  /-- Whether the end of the first line was escaped. -/
  escaped : Bool := false

namespace Gap

/-- One more blank or break. -/
def push (gap : Gap) (c : Char) : Gap :=
  if isBreak c then { gap with breaks := c :: gap.breaks, blanks := [], begun := true }
  else { gap with blanks := c :: gap.blanks }

/-- The column behind the gap, if a line was begun. -/
def column (gap : Gap) : Option Nat := if gap.begun then some gap.blanks.length else none

/-- Whether nothing separates the words. -/
def isEmpty (gap : Gap) : Bool := !gap.begun && gap.blanks.isEmpty

/-- What the gap contributes to the text: blanks within a line stay, one break
becomes a space, and of several the first goes. An escaped break is nothing. -/
def fold (gap : Gap) : List Char :=
  if !gap.begun then gap.blanks.reverse
  else if gap.escaped then gap.breaks.reverse
  else match gap.breaks.reverse with
    | ['\n'] => [' ']
    | '\n' :: more => more
    | other => other

end Gap

end Reindex.Yaml
