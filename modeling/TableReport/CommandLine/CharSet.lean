/-!
# Sets of characters

The sets that patterns are made of, and the named ones among them. All named sets are ASCII.
-/
namespace TableReport

/-- A set of characters. -/
inductive CharSet where
  | empty
  | range (low high : Char)
  | union (a b : CharSet)
  | intersection (a b : CharSet)
  | difference (a b : CharSet)
  | complement (a : CharSet)
  /-- The set with both cases of each ASCII letter in it. -/
  | anyCase (a : CharSet)
deriving DecidableEq, Repr

/-- An ASCII letter in the other case, and any other character as it is. -/
def otherCase (c : Char) : Char := if c.isUpper then c.toLower else c.toUpper

namespace CharSet

def contains (c : Char) : CharSet → Bool
  | .empty => false
  | .range low high => low ≤ c && c ≤ high
  | .union a b => contains c a || contains c b
  | .intersection a b => contains c a && contains c b
  | .difference a b => contains c a && !contains c b
  | .complement a => !contains c a
  | .anyCase a => contains c a || contains (otherCase c) a

/-- The set of one character. -/
def one (c : Char) : CharSet := .range c c

/-- The set of the characters of a list. -/
def ofList (cs : List Char) : CharSet := cs.foldr (fun c s => .union (.one c) s) .empty

/-- What is in one of two sets, but not in both. -/
def symmetricDifference (a b : CharSet) : CharSet := .union (.difference a b) (.difference b a)

def digit : CharSet := .range '0' '9'

def lower : CharSet := .range 'a' 'z'

def upper : CharSet := .range 'A' 'Z'

def letter : CharSet := .union lower upper

def letterOrDigit : CharSet := .union letter digit

/-- Letters, digits and the underscore. -/
def word : CharSet := .union letterOrDigit (.one '_')

/-- The ASCII blanks. -/
def space : CharSet := ofList [' ', '\t', '\n', '\x0b', '\x0c', '\r']

/-- What is visible, but neither a letter nor a digit. -/
def punctuation : CharSet := .difference (.range '!' '~') letterOrDigit

/-- The sets that have a name inside brackets. -/
def ofName? (name : String) : Option CharSet :=
  [("alnum", letterOrDigit), ("alpha", letter), ("ascii", .range '\x00' '\x7f'),
    ("blank", ofList [' ', '\t']), ("cntrl", .union (.range '\x00' '\x1f') (.one '\x7f')),
    ("digit", digit), ("graph", .range '!' '~'), ("lower", lower), ("print", .range ' ' '~'),
    ("punct", punctuation), ("space", space), ("upper", upper), ("word", word),
    ("xdigit", .union digit (.union (.range 'a' 'f') (.range 'A' 'F')))].lookup name

end CharSet

end TableReport
