import Reindex.Text.Hidden

/-!
# Quoted text in messages

A text that a message repeats stands between double quotes, so that its end can
be seen. Quotes and backslashes are marked by a backslash, the common controls
have one-letter names, and any other character that does not show by itself is
given by its number in braces.
-/

namespace Reindex.Text

/-- The lower-case hexadecimal number of a character between braces. -/
def byNumber (c : Char) : String :=
  "\\u\x7b" ++ String.ofList (Nat.toDigits 16 c.toNat) ++ "\x7d"

/-- The quoted form of one character. -/
def quoteChar (c : Char) : String :=
  match c with
  | '\x00' => "\\0"
  | '\t' => "\\t"
  | '\r' => "\\r"
  | '\n' => "\\n"
  | '\\' => "\\\\"
  | '"' => "\\\""
  | c => if isHidden c then byNumber c else c.toString

/-- A text between double quotes. -/
def quote (text : String) : String := "\"" ++ String.join (text.toList.map quoteChar) ++ "\""

end Reindex.Text
