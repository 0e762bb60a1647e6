import TableReport.Number.Shortest
/-!
# Number text

A layout says how the shortest digits of a number are written; there is one for conversation with
people, one for JSON, and one that never uses an exponent.
-/
namespace TableReport

structure NumberLayout where
  /-- Which of two equally short and equally near decimals is written. -/
  tie : Tie
  /-- Powers of ten of the first digit for which no exponent is written; without bounds, all. -/
  positional : Option (Int × Int)
  /-- Whether a whole number keeps a point and a zero. -/
  point : Bool
  /-- Whether a positive exponent keeps its sign. -/
  plus : Bool

namespace NumberLayout

/-- Messages and cells: no exponent from a ten-thousandth up to ten to the sixteenth. -/
def shown : NumberLayout := ⟨.up, some (-4, 15), true, false⟩

/-- JSON: no exponent from a hundred-thousandth up to ten to the sixteenth. -/
def json : NumberLayout := ⟨.even, some (-5, 15), true, true⟩

/-- Workbook cells: no exponent at all, and no point in a whole number. -/
def plain : NumberLayout := ⟨.up, none, false, false⟩

/-- Digits with the decimal point in its place. -/
def positionalText (layout : NumberLayout) (d : Decimal) : List Char :=
  let ds := d.text
  let places := (-d.scale).toNat
  if 0 ≤ d.scale then
    ds ++ List.replicate d.scale.toNat '0' ++ (if layout.point then ['.', '0'] else [])
  else if places < ds.length then
    ds.take (ds.length - places) ++ '.' :: ds.drop (ds.length - places)
  else '0' :: '.' :: List.replicate (places - ds.length) '0' ++ ds

/-- The first digit, the others behind a point, and the exponent. -/
def exponentText (layout : NumberLayout) (d : Decimal) : List Char :=
  let sign := if d.leading < 0 then ['-'] else if layout.plus then ['+'] else []
  let mantissa := match d.text with
    | [] => []
    | [c] => [c]
    | c :: more => c :: '.' :: more
  mantissa ++ 'e' :: sign ++ Nat.toDigits 10 d.leading.natAbs

def decimalText (layout : NumberLayout) (d : Decimal) : List Char :=
  match layout.positional with
  | none => layout.positionalText d
  | some (least, most) =>
    if least ≤ d.leading && d.leading ≤ most then layout.positionalText d
    else layout.exponentText d

end NumberLayout

def Binary64.text (layout : NumberLayout) (x : Binary64) : String :=
  if x.isNaN then "NaN"
  else
    let sign := if x.isNegative then ['-'] else []
    let body :=
      if !x.isFinite then ['i', 'n', 'f']
      else if x.isZero then (if layout.point then ['0', '.', '0'] else ['0'])
      else layout.decimalText (x.shortest layout.tie)
    String.ofList (sign ++ body)

end TableReport
