import TableReport.Text.Printable
/-!
# Quoted text

The form in which messages quote a name or a literal: double quotes around it, and an escape for
every character that would not show.
-/
namespace TableReport.Text

/-- One character inside a quoted text. -/
def escapeQuoted (c : Char) : List Char :=
  if c == '\x00' then ['\\', '0']
  else if c == '\t' then ['\\', 't']
  else if c == '\n' then ['\\', 'n']
  else if c == '\r' then ['\\', 'r']
  else if c == '"' then ['\\', '"']
  else if c == '\\' then ['\\', '\\']
  else if isShownPlain c then [c]
  else ['\\', 'u', '\x7b'] ++ Nat.toDigits 16 c.toNat ++ ['\x7d']

def quoted (s : String) : String :=
  String.ofList ('"' :: s.toList.flatMap escapeQuoted ++ ['"'])

def commaList (names : List String) : String :=
  ", ".intercalate names

def bracketed (names : List String) : String :=
  "[" ++ commaList names ++ "]"

def quotedList (names : List String) : String :=
  bracketed (names.map quoted)

end TableReport.Text
