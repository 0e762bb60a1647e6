/-!
# UTF-8

Reading a list of bytes as characters, and the longest part in front that can be read.
-/
namespace TableReport.Text

/-- The low six bits of a continuation byte. -/
private def continuation? (b : UInt8) : Option Nat :=
  if 0x80 ≤ b && b < 0xc0 then some (b.toNat % 64) else none

/-- The character at the front of the bytes and the number of bytes it takes. Overlong forms,
surrogates and values above the last code point have none. -/
def frontChar? : List UInt8 → Option (Char × Nat)
  | [] => none
  | b :: rest =>
    let n := b.toNat
    if n < 0x80 then some (Char.ofNat n, 1)
    else if n < 0xc2 then none
    else if n < 0xe0 then do
      let x ← continuation? (← rest[0]?)
      some (Char.ofNat ((n - 0xc0) * 64 + x), 2)
    else if n < 0xf0 then do
      let x ← continuation? (← rest[0]?)
      let y ← continuation? (← rest[1]?)
      let v := (n - 0xe0) * 4096 + x * 64 + y
      if v < 0x800 || (0xd800 ≤ v && v < 0xe000) then none else some (Char.ofNat v, 3)
    else if n < 0xf5 then do
      let x ← continuation? (← rest[0]?)
      let y ← continuation? (← rest[1]?)
      let z ← continuation? (← rest[2]?)
      let v := (n - 0xf0) * 262144 + x * 4096 + y * 64 + z
      if v < 0x10000 || 0x110000 ≤ v then none else some (Char.ofNat v, 4)
    else none

/-- The characters at the front of the bytes, and how many bytes they take; the first argument bounds
the number of characters. -/
private def frontChars : Nat → List UInt8 → List Char × Nat
  | 0, _ => ([], 0)
  | fuel + 1, bytes =>
    match frontChar? bytes with
    | none => ([], 0)
    | some (c, taken) =>
      let (cs, more) := frontChars fuel (bytes.drop taken)
      (c :: cs, taken + more)

/-- Bytes read as UTF-8, or the length of the longest part in front that is valid. -/
def decodeUtf8 (bytes : List UInt8) : Except Nat String :=
  let (cs, taken) := frontChars bytes.length bytes
  if taken = bytes.length then .ok (String.ofList cs) else .error taken

def encodeUtf8 (s : String) : List UInt8 :=
  s.toUTF8.toList

end TableReport.Text
