import Reindex.Yaml.Scalar

/-!
# Nodes

A scalar may have an anchor, by which an alias repeats it later, and a tag. A tag
is spelled out or abbreviated by a handle; two handles are always known and a
directive at the head of the document may make others known.

Only scalars are nodes here. A text with a collection in the place of a scalar is
given up like one that is not well formed.
-/

namespace Reindex.Yaml

/-- What is known while a document is read. -/
structure Reading where
  /-- The handles of tags and what they stand for. -/
  handles : List (String × String) := [("!!", "tag:yaml.org,2002:"), ("!", "!")]
  /-- The scalars with an anchor, the latest first. -/
  anchors : List (String × Scalar) := []

/-- Whether a character can stand in the name of an anchor or a handle. -/
def isNameChar (c : Char) : Bool := c.isAlphanum || c = '-' || c = '_'

/-- Whether a character can stand in a tag. -/
def isTagChar (c : Char) : Bool := isNameChar c || ";/?:@&=+$.!~*'()%".toList.contains c

/-- The properties in front of a node. A tag that says nothing is no tag. -/
structure Properties where
  anchor : Option String := none
  tag : Option (Option String) := none

/-- Read the name of an anchor. -/
def anchorName? (rest : List Char) : Option (String × List Char) :=
  let name := rest.takeWhile isNameChar
  let rest := rest.drop name.length
  let ended := endsWord rest || "?:,]\x7d%@\x60".toList.any (rest.head? = some ·)
  if !name.isEmpty && ended then some (String.ofList name, rest) else none

/-- The tag that a word behind an exclamation mark stands for. -/
def tagOf? (reading : Reading) (word : List Char) : Option (Option String) :=
  let name := word.takeWhile isNameChar
  match word, word.drop name.length with
  | [], _ => some none
  | _, '!' :: suffix =>
    if suffix.isEmpty then none
    else (reading.handles.lookup ("!" ++ String.ofList name ++ "!")).map fun meant =>
      some (meant ++ String.ofList suffix)
  | _, _ => (reading.handles.lookup "!").map fun meant => some (meant ++ String.ofList word)

/-- Read a tag behind its exclamation mark. -/
def tag? (reading : Reading) (inBraces : Bool) (rest : List Char) :
    Option (Option String × List Char) := do
  let (tag, rest) ← match rest with
    | '<' :: rest =>
      let word := rest.takeWhile fun c => isTagChar c || c = ',' || c = '[' || c = ']'
      match rest.drop word.length with
      | '>' :: rest => if word.isEmpty then none else some (some (String.ofList word), rest)
      | _ => none
    | rest => do
      let word := rest.takeWhile isTagChar
      pure (← tagOf? reading word, rest.drop word.length)
  if endsWord rest || (inBraces && rest.head? = some ',') then pure (tag, rest) else none

/-- Read the properties of a node, at most one of each kind. -/
def properties? (reading : Reading) (inBraces : Bool) :
    Nat → Properties → Cursor → Option (Properties × Cursor)
  | 0, found, cursor => some (found, cursor)
  | more + 1, found, cursor =>
    match cursor.rest with
    | '&' :: rest =>
      if found.anchor.isSome then none
      else (anchorName? rest).bind fun (name, rest) =>
        properties? reading inBraces more { found with anchor := some name }
          (Cursor.skip ⟨rest, none⟩ inBraces)
    | '!' :: rest =>
      if found.tag.isSome then none
      else (tag? reading inBraces rest).bind fun (tag, rest) =>
        properties? reading inBraces more { found with tag := some tag }
          (Cursor.skip ⟨rest, none⟩ inBraces)
    | _ => some (found, cursor)

/-- Whether no node starts here: the block, the document or the entry goes on. -/
def atNodeEnd (inBraces : Bool) (indent : Nat) (cursor : Cursor) : Bool :=
  match cursor.rest with
  | [] => true
  | c :: rest =>
    if inBraces then c = ',' || c = '\x7d' || c = ':'
    else cursor.atBlockEnd indent || (c = ':' && endsWord rest)

/-- Read the text of a scalar that has one. -/
def content? (inBraces : Bool) (indent : Nat) (cursor : Cursor) :
    Option (String × ScalarStyle × Cursor) :=
  match cursor.rest with
  | [] => none
  | c :: rest =>
    let quoted (read : Option (List Char × List Char)) : Option (String × ScalarStyle × Cursor) :=
      read.map fun (text, rest) => (String.ofList text, .quoted, ⟨rest, none⟩)
    if cursor.atBoundary then none
    else if c = '\'' then quoted (singleQuotedFrom [] {} rest)
    else if c = '"' then quoted (doubleQuotedFrom .words [] {} rest)
    else if !inBraces && c = '|' then
      (block? true indent rest).map fun (text, cursor) => (String.ofList text, .literal, cursor)
    else if !inBraces && c = '>' then
      (block? false indent rest).map fun (text, cursor) => (String.ofList text, .folded, cursor)
    else if startsPlain inBraces c rest then
      (plainFrom inBraces (if inBraces then 0 else indent + 1) [] {} cursor.rest).map
        fun (text, cursor) => (String.ofList text, .plain, cursor)
    else none

/-- Remember a scalar under its anchor. -/
def Reading.remember (reading : Reading) (anchor : Option String) (scalar : Scalar) : Reading :=
  match anchor with
  | some name => { reading with anchors := (name, scalar) :: reading.anchors }
  | none => reading

/-- Read a node: an alias, or a scalar with its properties. A node may be left
out, and is then an empty plain scalar. -/
def node? (reading : Reading) (inBraces : Bool) (indent : Nat) (cursor : Cursor) :
    Option (Scalar × Reading × Cursor) :=
  match cursor.rest with
  | '*' :: rest => do
    let (name, rest) ← anchorName? rest
    let scalar ← reading.anchors.lookup name
    pure (scalar, reading, ⟨rest, none⟩)
  | _ => do
    let (found, cursor) ← properties? reading inBraces 3 {} cursor
    let (text, style, cursor) ←
      if atNodeEnd inBraces indent cursor then some ("", .plain, cursor)
      else content? inBraces indent cursor
    let scalar : Scalar := { text, style, tag := found.tag.join }
    pure (scalar, reading.remember found.anchor scalar, cursor)

end Reindex.Yaml
