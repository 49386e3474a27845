import EtherRelay.Wire.Bytes
/-!
# Hexadecimal text

Numbers of a fixed number of digits and byte strings, in lower case. Byte strings are read back
in either case.
-/

namespace EtherRelay.Hex

/-- The digit for a number below sixteen. -/
def digit (n : Nat) : Char :=
  "0123456789abcdef".toList.getD (n % 16) '0'

/-- The last `width` digits of `n`. -/
def ofNat (width n : Nat) : String :=
  String.ofList ((List.range width).map fun i => digit (n / Nat.pow 16 (width - 1 - i)))

/-- Two digits for each byte. -/
def ofBytes (bytes : Bytes) : String :=
  String.ofList (bytes.flatMap fun b => [digit (b.toNat / 16), digit b.toNat])

/-- The value of a digit in either case. -/
def value? (c : Char) : Option Nat :=
  if c.isDigit then some (c.toNat - '0'.toNat)
  else if 'a' ≤ c ∧ c ≤ 'f' then some (c.toNat - 'a'.toNat + 10)
  else if 'A' ≤ c ∧ c ≤ 'F' then some (c.toNat - 'A'.toNat + 10)
  else none

/-- The bytes that pairs of digits stand for. -/
def pairs? : List Char → Option Bytes
  | [] => some []
  | a :: b :: rest => do
    let high ← value? a
    let low ← value? b
    let bytes ← pairs? rest
    pure (UInt8.ofNat (high * 16 + low) :: bytes)
  | [_] => none

/-- Read two digits for each byte. -/
def toBytes? (text : String) : Option Bytes := pairs? text.toList

end EtherRelay.Hex
