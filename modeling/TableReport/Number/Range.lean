/-!
# Integers of 64 bits

The ends of the ranges of integers with and without a sign.
-/
namespace TableReport

def lowestInt64 : Int := -9223372036854775808

def highestInt64 : Int := 9223372036854775807

def fitsInt64 (i : Int) : Bool := lowestInt64 ≤ i && i ≤ highestInt64

def highestWord : Nat := 18446744073709551615

end TableReport
