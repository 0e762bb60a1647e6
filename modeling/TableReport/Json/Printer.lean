import TableReport.Json.Basic
import TableReport.Number.Layout
/-!
# JSON text

The compact text of a value, without blanks, and the indented one with two blanks to a level. Inside
quotes only the quote, the backslash and the control characters are escaped.
-/
namespace TableReport.Json

/-- One character inside quotes. -/
def escape (c : Char) : List Char :=
  if c == '"' then ['\\', '"']
  else if c == '\\' then ['\\', '\\']
  else if c == '\x08' then ['\\', 'b']
  else if c == '\t' then ['\\', 't']
  else if c == '\n' then ['\\', 'n']
  else if c == '\x0c' then ['\\', 'f']
  else if c == '\r' then ['\\', 'r']
  else if c.toNat < 0x20 then
    let ds := Nat.toDigits 16 c.toNat
    ['\\', 'u'] ++ List.replicate (4 - ds.length) '0' ++ ds
  else [c]

/-- A text in quotes. -/
def quote (s : String) : List Char := '"' :: s.toList.flatMap escape ++ ['"']

/-- The text of a value that holds no others. -/
def leafText : Json → List Char
  | .null => "null".toList
  | .bool v => (if v then "true" else "false").toList
  | .int v => (toString v).toList
  | .float v => if v.isFinite then (v.text .json).toList else "null".toList
  | .text v => quote v
  | .list _ => ['[', ']']
  | .object _ => ['\x7b', '\x7d']

mutual

/-- The compact text of a value. -/
def compactChars : Json → List Char
  | .list items => '[' :: compactItems items ++ [']']
  | .object members => '\x7b' :: compactMembers members ++ ['\x7d']
  | v => leafText v

/-- The compact texts of items, with commas between them. -/
def compactItems : List Json → List Char
  | [] => []
  | [v] => compactChars v
  | v :: rest => compactChars v ++ ',' :: compactItems rest

/-- The compact texts of members, with commas between them. -/
def compactMembers : List (String × Json) → List Char
  | [] => []
  | [(name, v)] => quote name ++ ':' :: compactChars v
  | (name, v) :: rest => quote name ++ ':' :: compactChars v ++ ',' :: compactMembers rest

end

/-- A line end and the blanks of a level. -/
def lineStart (level : Nat) : List Char := '\n' :: List.replicate (2 * level) ' '

mutual

/-- The indented text of a value at a level. -/
def indentedChars (level : Nat) : Json → List Char
  | .list (v :: rest) =>
    '[' :: indentedItems (level + 1) (v :: rest) ++ lineStart level ++ [']']
  | .object (m :: rest) =>
    '\x7b' :: indentedMembers (level + 1) (m :: rest) ++ lineStart level ++ ['\x7d']
  | v => leafText v

/-- The indented texts of items, each on a line of its own. -/
def indentedItems (level : Nat) : List Json → List Char
  | [] => []
  | [v] => lineStart level ++ indentedChars level v
  | v :: rest => lineStart level ++ indentedChars level v ++ ',' :: indentedItems level rest

/-- The indented texts of members, each on a line of its own. -/
def indentedMembers (level : Nat) : List (String × Json) → List Char
  | [] => []
  | [(name, v)] => lineStart level ++ quote name ++ ':' :: ' ' :: indentedChars level v
  | (name, v) :: rest =>
    lineStart level ++ quote name ++ ':' :: ' ' :: indentedChars level v ++
      ',' :: indentedMembers level rest

end

/-- The compact text of a value. -/
def compact (v : Json) : String := String.ofList v.compactChars

/-- The indented text of a value. -/
def indented (v : Json) : String := String.ofList (v.indentedChars 0)

end TableReport.Json
