/-!
# Blank characters

The Unicode property White_Space, and trimming by it.
-/
namespace TableReport.Text

/-- A character with the Unicode property White_Space. -/
def isBlank (c : Char) : Bool :=
  let n := c.toNat
  (0x9 ≤ n && n ≤ 0xd) || n == 0x20 || n == 0x85 || n == 0xa0 || n == 0x1680 ||
    (0x2000 ≤ n && n ≤ 0x200a) || n == 0x2028 || n == 0x2029 || n == 0x202f ||
    n == 0x205f || n == 0x3000

def trimLeft (cs : List Char) : List Char :=
  cs.dropWhile isBlank

def trimChars (cs : List Char) : List Char :=
  (trimLeft (trimLeft cs).reverse).reverse

def trim (s : String) : String :=
  String.ofList (trimChars s.toList)

/-- ASCII letters in lower case, everything else as it is. -/
def lowerAscii (s : String) : String :=
  String.ofList (s.toList.map Char.toLower)

/-- The pieces of a list between the elements that pass the test; one more than there are such
elements. -/
def splitOn {α : Type} (isSeparator : α → Bool) : List α → List (List α)
  | [] => [[]]
  | a :: rest =>
    if isSeparator a then [] :: splitOn isSeparator rest
    else match splitOn isSeparator rest with
      | [] => [[a]]
      | piece :: pieces => (a :: piece) :: pieces

def pieces (separator : Char) (s : String) : List String :=
  (splitOn (· == separator) s.toList).map String.ofList

end TableReport.Text
