import TableReport.Json.Basic
import TableReport.Number.Reading
/-!
# Reading JSON

Strict JSON text. Each reader takes the characters from where it starts and gives what it has read
with the characters after it. Arrays and objects may be nested to a depth of one hundred and
twenty-seven.
-/
namespace TableReport.Json

/-- The blanks of JSON text. -/
def isSpace (c : Char) : Bool := c == ' ' || c == '\t' || c == '\n' || c == '\r'

/-- The characters after any blanks. -/
def skipSpace (cs : List Char) : List Char := cs.dropWhile isSpace

/-- The characters after a given word. -/
def expect? : List Char → List Char → Option (List Char)
  | [], cs => some cs
  | w :: word, c :: cs => if w == c then expect? word cs else none
  | _ :: _, [] => none

/-- The value of a hexadecimal digit. -/
def hexValue? (c : Char) : Option Nat :=
  if c.isDigit then some (c.toNat - '0'.toNat)
  else if 'a' ≤ c && c ≤ 'f' then some (c.toNat - 'a'.toNat + 10)
  else if 'A' ≤ c && c ≤ 'F' then some (c.toNat - 'A'.toNat + 10)
  else none

/-- Four hexadecimal digits. -/
def hexUnit? : List Char → Option (Nat × List Char)
  | a :: b :: c :: d :: rest => do
    let n := (← hexValue? a) * 4096 + (← hexValue? b) * 256 + (← hexValue? c) * 16 + (← hexValue? d)
    some (n, rest)
  | _ => none

/-- The character that a backslash and what follows stand for; a pair of surrogates is one
character. -/
def escaped? : List Char → Option (Char × List Char)
  | 'u' :: rest => do
    let (n, tail) ← hexUnit? rest
    if 0xd800 ≤ n && n < 0xdc00 then
      match tail with
      | '\\' :: 'u' :: more =>
        let (low, tail') ← hexUnit? more
        if 0xdc00 ≤ low && low < 0xe000 then
          some (Char.ofNat (0x10000 + (n - 0xd800) * 0x400 + (low - 0xdc00)), tail')
        else none
      | _ => none
    else if 0xdc00 ≤ n && n < 0xe000 then none
    else some (Char.ofNat n, tail)
  | c :: rest =>
    if c == '"' || c == '\\' || c == '/' then some (c, rest)
    else if c == 'b' then some ('\x08', rest)
    else if c == 'f' then some ('\x0c', rest)
    else if c == 'n' then some ('\n', rest)
    else if c == 'r' then some ('\r', rest)
    else if c == 't' then some ('\t', rest)
    else none
  | [] => none

/-- The characters up to the closing quote; the first argument bounds their number. -/
def quotedChars? : Nat → List Char → Option (List Char × List Char)
  | 0, _ => none
  | _, [] => none
  | fuel + 1, c :: rest =>
    if c == '"' then some ([], rest)
    else if c == '\\' then do
      let (d, tail) ← escaped? rest
      let (ds, tail') ← quotedChars? fuel tail
      some (d :: ds, tail')
    else if c.toNat < 0x20 then none
    else do
      let (ds, tail) ← quotedChars? fuel rest
      some (c :: ds, tail)

/-- A text, its opening quote already read. -/
def readQuoted? (cs : List Char) : Option (String × List Char) :=
  (quotedChars? (cs.length + 1) cs).map fun (ds, rest) => (String.ofList ds, rest)

/-- The digits in front and what follows them. -/
def spanDigits (cs : List Char) : List Char × List Char :=
  (cs.takeWhile Char.isDigit, cs.dropWhile Char.isDigit)

/-- The digits before a point or exponent: a lone zero, or digits that do not begin with one. -/
def wholeDigits? (cs : List Char) : Option (List Char × List Char) :=
  match cs with
  | '0' :: c :: rest => if c.isDigit then none else some (['0'], c :: rest)
  | _ =>
    let (ds, rest) := spanDigits cs
    if ds.isEmpty then none else some (ds, rest)

/-- A point with at least one digit, or nothing. -/
def fractionDigits? (cs : List Char) : Option (List Char × List Char) :=
  match cs with
  | '.' :: rest =>
    let (ds, tail) := spanDigits rest
    if ds.isEmpty then none else some (ds, tail)
  | _ => some ([], cs)

/-- An exponent with at least one digit, or nothing. -/
def exponentPart? (cs : List Char) : Option (Option Int × List Char) :=
  match cs with
  | e :: rest =>
    if e == 'e' || e == 'E' then
      let (negative, ds) := match rest with
        | '-' :: ds => (true, ds)
        | '+' :: ds => (false, ds)
        | ds => (false, ds)
      let (digits, tail) := spanDigits ds
      if digits.isEmpty then none
      else
        let n : Int := digitsValue digits
        some (some (if negative then -n else n), tail)
    else some (none, cs)
  | [] => some (none, [])

/-- Whether an integer has no more than 64 bits. -/
def fitsWord (n : Nat) : Bool := n ≤ highestWord

/-- A number continued by digits as long as it fits, and the digits that are left. -/
def continueWord : Nat → List Char → Nat × List Char
  | n, [] => (n, [])
  | n, d :: ds =>
    let next := n * 10 + digitValue d
    if fitsWord next then continueWord next ds else (n, d :: ds)

/-- The value of an integer literal that fits; negative zero and what is below the signed range are
binary64 numbers. -/
def ofInteger (negative : Bool) (n : Nat) : Json :=
  if negative then
    if n = 0 || Nat.pow 2 63 < n then .float (Binary64.ofDecimal true n 0) else .int (-(n : Int))
  else .int n

/-- The greatest power of ten to multiply or to divide by. -/
def maxPower : Nat := 308

/-- A power of ten. -/
def powerOfTen (e : Nat) : Binary64 := Binary64.ofDecimal false 1 e

/-- An integer that fits times a power of ten, each step rounded. There is none beyond the finite
numbers, and below the powers two divisions leave zero. -/
def scaledWord? (n : Nat) (e : Int) : Option Binary64 :=
  let x := Binary64.ofNat n
  if n = 0 then some 0
  else if maxPower < e then none
  else if 0 ≤ e then (some (x * powerOfTen e.toNat)).filter Binary64.isFinite
  else if -maxPower ≤ e then some (x / powerOfTen (-e).toNat)
  else if -(2 * maxPower) ≤ e then some (x / powerOfTen maxPower / powerOfTen (-e - maxPower).toNat)
  else some 0

/-- A number, its sign already read. An integer that fits is one, and any other number is the integer of
its first digits times a power of ten. A number beyond the finite ones is none. -/
def unsignedNumber? (negative : Bool) (cs : List Char) : Option (Json × List Char) := do
  let (whole, rest) ← wholeDigits? cs
  let (fraction, rest) ← fractionDigits? rest
  let (exponent, rest) ← exponentPart? rest
  match continueWord 0 whole, fraction, exponent with
  | (n, []), [], none => some (ofInteger negative n, rest)
  | (n, skipped), _, _ =>
    let (n, left) := continueWord n fraction
    let places : Int := (fraction.length : Int) - left.length
    let x ← scaledWord? n (skipped.length - places + exponent.getD 0)
    some (.float (if negative then -x else x), rest)

/-- A number. -/
def number? (cs : List Char) : Option (Json × List Char) :=
  match cs with
  | '-' :: rest => unsignedNumber? true rest
  | _ => unsignedNumber? false cs

mutual

/-- A value, with blanks before it skipped. The first argument bounds the number of steps, the second
the depth of nesting. -/
def value? : Nat → Nat → List Char → Option (Json × List Char)
  | 0, _, _ => none
  | fuel + 1, depth, cs =>
    match skipSpace cs with
    | [] => none
    | '"' :: rest => (readQuoted? rest).map fun (s, tail) => (.text s, tail)
    | '[' :: rest =>
      match depth with
      | 0 => none
      | depth + 1 =>
        match skipSpace rest with
        | ']' :: tail => some (.list [], tail)
        | tail => (items? fuel depth tail).map fun (vs, after) => (.list vs, after)
    | '\x7b' :: rest =>
      match depth with
      | 0 => none
      | depth + 1 =>
        match skipSpace rest with
        | '\x7d' :: tail => some (.object [], tail)
        | tail => (entries? fuel depth tail).map fun (ms, after) => (.ofPairs ms, after)
    | c :: rest =>
      if c == 'n' then (expect? ['u', 'l', 'l'] rest).map (.null, ·)
      else if c == 't' then (expect? ['r', 'u', 'e'] rest).map (.bool true, ·)
      else if c == 'f' then (expect? ['a', 'l', 's', 'e'] rest).map (.bool false, ·)
      else number? (c :: rest)

/-- The items of an array and its closing bracket. -/
def items? : Nat → Nat → List Char → Option (List Json × List Char)
  | 0, _, _ => none
  | fuel + 1, depth, cs => do
    let (v, rest) ← value? fuel depth cs
    match skipSpace rest with
    | ',' :: tail =>
      let (vs, after) ← items? fuel depth tail
      some (v :: vs, after)
    | ']' :: tail => some ([v], tail)
    | _ => none

/-- The members of an object and its closing brace. -/
def entries? : Nat → Nat → List Char → Option (List (String × Json) × List Char)
  | 0, _, _ => none
  | fuel + 1, depth, cs =>
    match skipSpace cs with
    | '"' :: rest => do
      let (name, tail) ← readQuoted? rest
      match skipSpace tail with
      | ':' :: tail =>
        let (v, after) ← value? fuel depth tail
        match skipSpace after with
        | ',' :: more =>
          let (ms, last) ← entries? fuel depth more
          some ((name, v) :: ms, last)
        | '\x7d' :: last => some ([(name, v)], last)
        | _ => none
      | _ => none
    | _ => none

end

/-- The greatest depth of nesting. -/
def maxDepth : Nat := 127

/-- Enough steps to read a text of a given length. -/
def stepsFor (length : Nat) : Nat := 2 * length + 2

/-- The value at the front of the characters. -/
def readValue? (cs : List Char) : Option (Json × List Char) :=
  value? (stepsFor cs.length) maxDepth cs

/-- The value that a whole text denotes. -/
def parse? (s : String) : Option Json := do
  let (v, rest) ← readValue? s.toList
  if (skipSpace rest).isEmpty then some v else none

end TableReport.Json
