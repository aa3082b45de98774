import Reindex.Yaml.Node

/-!
# Flat documents

A document that holds one mapping of scalars to scalars, in block form with one
entry a line or in braces, or that holds nothing and stands for the empty mapping.
Entries are listed in their order. A text that holds anything else, or more than
one document, is given up.

A key stands on one line. In block form all keys have the same column, and a value
may follow on lines that are indented more.
-/

namespace Reindex.Yaml

/-- Keys with their values, in order. -/
abbrev Entries := List (Scalar × Scalar)

/-- Entries that were read, and what is known and left then. -/
structure Read where
  entries : Entries
  reading : Reading
  cursor : Cursor

/-- Read a node in block form behind the mark of an entry, where it may be left
out. -/
def blockNode? (reading : Reading) (indent : Nat) (cursor : Cursor) :
    Option (Scalar × Reading × Cursor) :=
  node? reading false indent (cursor.skip false)

/-- Read an entry whose key is marked by a question mark. -/
def markedEntry? (reading : Reading) (indent : Nat) (rest : List Char) : Option Read := do
  let (key, reading, cursor) ← blockNode? reading indent ⟨rest, some (indent + 1)⟩
  let cursor := cursor.skip false
  match cursor.rest with
  | ':' :: rest =>
    if cursor.column = some indent && endsWord rest then
      let (value, reading, cursor) ← blockNode? reading indent ⟨rest, some (indent + 1)⟩
      pure ⟨[(key, value)], reading, cursor⟩
    else none
  | _ => pure ⟨[(key, { text := "", style := .plain })], reading, cursor⟩

/-- Read an entry whose key stands in front of a colon. The key is where it may
be, so its column says no more. -/
def plainEntry? (reading : Reading) (indent : Nat) (start : Cursor) : Option Read := do
  let (key, reading, cursor) ← node? reading false indent ⟨start.rest, none⟩
  let cursor := cursor.skip false
  match cursor.rest with
  | ':' :: rest =>
    if start.fitsKey cursor && endsWord rest then
      let (value, reading, cursor) ← blockNode? reading indent ⟨rest, none⟩
      pure ⟨[(key, value)], reading, cursor⟩
    else none
  | _ => none

/-- Read the entries of a block whose keys start in the given column. Each entry
takes a character at least. -/
def blockEntries? (indent : Nat) : Nat → Reading → Cursor → Option Read
  | 0, _, _ => none
  | more + 1, reading, cursor =>
    let cursor := cursor.skip false
    if cursor.rest.isEmpty || cursor.atBoundary then some ⟨[], reading, cursor⟩
    else match cursor.column with
      | none => none
      | some column =>
        if column < indent then some ⟨[], reading, cursor⟩
        else if indent < column then none
        else do
          let first ← match cursor.rest with
            | '?' :: rest =>
              if endsWord rest then markedEntry? reading indent rest
              else plainEntry? reading indent cursor
            | _ => plainEntry? reading indent cursor
          let others ← blockEntries? indent more first.reading first.cursor
          pure { others with entries := first.entries ++ others.entries }

/-- Read the value of an entry in braces, if a colon announces one. -/
def bracedValue? (reading : Reading) (key : Scalar) (start cursor : Cursor) (marked : Bool) :
    Option Read :=
  match cursor.rest with
  | ':' :: rest =>
    if marked || start.fitsKey cursor then do
      let (value, reading, cursor) ← node? reading true 0 (Cursor.skip ⟨rest, none⟩ true)
      pure ⟨[(key, value)], reading, cursor⟩
    else none
  | _ => some ⟨[(key, { text := "", style := .plain })], reading, cursor⟩

/-- Read one entry in braces. -/
def bracedEntry? (reading : Reading) (start : Cursor) : Option Read := do
  let (marked, cursor) := match start.rest with
    | '?' :: rest => (true, Cursor.skip ⟨rest, none⟩ true)
    | _ => (false, start)
  if !marked && cursor.rest.head? = some ':' then none
  else
    let (key, reading, cursor) ← node? reading true 0 cursor
    bracedValue? reading key start (cursor.skip true) marked

/-- Read entries up to the closing brace. -/
def bracedEntries? : Nat → Reading → Cursor → Option Read
  | 0, _, _ => none
  | more + 1, reading, cursor =>
    let cursor := cursor.skip true
    match cursor.rest with
    | [] => none
    | '\x7d' :: rest => some ⟨[], reading, ⟨rest, none⟩⟩
    | ',' :: _ => none
    | _ => do
      let first ← bracedEntry? reading cursor
      let behind := first.cursor.skip true
      match behind.rest with
      | ',' :: rest =>
        let others ← bracedEntries? more first.reading ⟨rest, none⟩
        pure { others with entries := first.entries ++ others.entries }
      | '\x7d' :: rest => pure ⟨first.entries, first.reading, ⟨rest, none⟩⟩
      | _ => none

/-- Read the mapping that a document holds, if it holds any. -/
def mapping? (reading : Reading) (cursor : Cursor) : Option Read :=
  let cursor := cursor.skip false
  if cursor.rest.isEmpty || cursor.atBoundary then some ⟨[], reading, cursor⟩
  else match cursor.rest, cursor.column with
    | '\x7b' :: rest, _ => bracedEntries? (rest.length + 1) reading ⟨rest, none⟩
    | _, some column => blockEntries? column (cursor.rest.length + 1) reading cursor
    | _, none => none

/-- Read the mapping of a document. Properties in front of it that end their line
or precede a brace are its own; others belong to its first key. -/
def root? (reading : Reading) (cursor : Cursor) : Option Read := do
  let start := cursor.skip false
  let (found, behind) ← properties? reading false 3 {} start
  let own := found.anchor.isSome || found.tag.isSome
  if own && (behind.column.isSome || behind.rest.isEmpty || behind.rest.head? = some '\x7b') then
    mapping? reading behind
  else mapping? reading start

/-- Read the version that a directive asks for. -/
def version? (rest : List Char) : Option Unit :=
  let number (digits : List Char) : Option Nat :=
    if digits.isEmpty || digits.length > 9 then none else some (Json.Reader.ofDigits digits)
  let words := rest.dropWhile isBlank
  let major := words.takeWhile Char.isDigit
  match words.drop major.length with
  | '.' :: words =>
    let minor := words.takeWhile Char.isDigit
    let behind := (words.drop minor.length).dropWhile isBlank
    let known := number major = some 1 && (number minor = some 1 || number minor = some 2)
    if known && (behind.isEmpty || behind.head? = some '#') then some () else none
  | _ => none

/-- Read a handle and what it stands for. -/
def handle? (rest : List Char) : Option (String × String) :=
  let words := rest.dropWhile isBlank
  match words with
  | '!' :: words =>
    let name := words.takeWhile isNameChar
    let words := words.drop name.length
    let (handle, words) := match words with
      | '!' :: words => ("!" ++ String.ofList name ++ "!", words)
      | words => ("!" ++ String.ofList name, words)
    let meant := words.dropWhile isBlank
    let uri := meant.takeWhile fun c => isTagChar c || c = ',' || c = '[' || c = ']'
    let behind := (meant.drop uri.length).dropWhile isBlank
    let complete := handle = "!" || handle.toList.getLast? = some '!'
    if complete && words.head?.any isBlank && !uri.isEmpty && endsWord (meant.drop uri.length) &&
        (behind.isEmpty || behind.head? = some '#') then
      some (handle, String.ofList uri)
    else none
  | _ => none

/-- What the directives of a document say. -/
structure Head where
  versioned : Bool := false
  handles : List (String × String) := []

/-- Read one directive behind its percent sign. -/
def directive? (head : Head) (line : List Char) : Option Head :=
  let name := line.takeWhile isNameChar
  let rest := line.drop name.length
  if !endsWord rest then none
  else if name = "YAML".toList then
    if head.versioned then none else (version? rest).map fun _ => { head with versioned := true }
  else if name = "TAG".toList then
    (handle? rest).bind fun (handle, meant) =>
      if (head.handles.lookup handle).isSome then none
      else some { head with handles := (handle, meant) :: head.handles }
  else none

/-- Read the directives of a document and the line that ends them. -/
def directives? : Nat → Head → Cursor → Option (Head × Cursor)
  | 0, _, _ => none
  | more + 1, head, cursor =>
    let cursor := cursor.skip false
    match cursor.rest with
    | '%' :: rest =>
      if cursor.column = some 0 then
        (directive? head (rest.takeWhile fun c => !isBreak c)).bind fun head =>
          directives? more head ⟨rest.dropWhile fun c => !isBreak c, none⟩
      else none
    | _ =>
      if cursor.atMarker '-' then some (head, ⟨cursor.rest.drop 3, none⟩)
      else if head.versioned || !head.handles.isEmpty then none
      else some (head, cursor)

/-- Whether nothing but the end of the document follows. -/
def isOver : Nat → Cursor → Bool
  | 0, _ => false
  | more + 1, cursor =>
    let cursor := cursor.skip false
    cursor.rest.isEmpty || (cursor.atMarker '.' && isOver more ⟨cursor.rest.drop 3, none⟩)

/-- The place where a text starts. A byte order mark is passed, but takes a column
like any other character. -/
def start (text : String) : Cursor :=
  match unifyBreaks text.toList with
  | '\ufeff' :: rest => ⟨rest, some 1⟩
  | rest => ⟨rest, some 0⟩

/-- The entries of the one document that a text holds. -/
def entries? (text : String) : Option Entries :=
  if !text.toList.all isAllowed then none
  else do
    let start := start text
    let bound := start.rest.length + 1
    let (head, cursor) ← directives? bound {} start
    let known : Reading := {}
    let read ← root? { known with handles := head.handles ++ known.handles } cursor
    if isOver bound read.cursor then pure read.entries else none

end Reindex.Yaml
