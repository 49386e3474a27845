import EtherRelay.Number.Double
/-!
# The shortest decimal text of a floating-point number

`Double.shortest` is the decimal number with the fewest digits among those that are nearer to
the given number than to any other of the format; of several it is the nearest one, and the even
one if two are equally near. `Double.text` writes it with a decimal point from `0.00001` up to
sixteen digits before the point, and with a signed power of ten beyond.
-/

namespace EtherRelay

/-- The number `digits * 10 ^ exponent`. -/
structure Decimal where
  digits : Nat
  exponent : Int
  deriving Repr, DecidableEq

namespace Decimal

/-- Drop the zeros at the end of the digits. -/
def trim : (fuel : Nat) → Decimal → Decimal
  | 0, d => d
  | fuel + 1, d =>
    if d.digits ≠ 0 ∧ d.digits % 10 = 0 then trim fuel ⟨d.digits / 10, d.exponent + 1⟩ else d

/-- The number with a point in its digits, or with a power of ten if it is very large or very
small. -/
def text (d : Decimal) : String :=
  let digits := toString d.digits
  let count := digits.length
  let point : Int := count + d.exponent
  if 0 ≤ d.exponent ∧ point ≤ 16 then
    digits ++ String.ofList (List.replicate d.exponent.toNat '0') ++ ".0"
  else if 0 < point ∧ point ≤ 16 then
    let cs := digits.toList
    String.ofList (cs.take point.toNat ++ '.' :: cs.drop point.toNat)
  else if -5 < point ∧ point ≤ 0 then
    "0." ++ String.ofList (List.replicate (-point).toNat '0') ++ digits
  else
    let power := (if 0 < point then "+" else "") ++ toString (point - 1)
    if count = 1 then digits ++ "e" ++ power
    else
      let cs := digits.toList
      String.ofList (cs.take 1 ++ '.' :: cs.drop 1) ++ "e" ++ power

end Decimal

namespace Double

/-- The interval of the numbers nearest to a given one, all over the same denominator: its
lower end, the number and its upper end. -/
structure Neighbourhood where
  low : Nat
  centre : Nat
  high : Nat
  denominator : Nat
  /-- Whether the ends belong to it. -/
  closed : Bool

/-- The next smaller number is only half as far away as the next larger one if the mantissa is
the least of its exponent. An end is nearest to the number whose mantissa is even. -/
def neighbourhood (f : Double) : Neighbourhood :=
  let below := if f.mantissa = Nat.pow 2 52 ∧ -1074 < f.exponent then 1 else 2
  let unit := Nat.pow 2 f.exponent.toNat
  { low := (4 * f.mantissa - below) * unit
    centre := 4 * f.mantissa * unit
    high := (4 * f.mantissa + 2) * unit
    denominator := 4 * Nat.pow 2 (-f.exponent).toNat
    closed := f.mantissa % 2 == 0 }

namespace Neighbourhood

/-- Whether `digits * 10 ^ exponent` lies in the interval. -/
def contains (n : Neighbourhood) (d : Decimal) : Bool :=
  let value := d.digits * Nat.pow 10 d.exponent.toNat * n.denominator
  let unit := Nat.pow 10 (-d.exponent).toNat
  if n.closed then decide (n.low * unit ≤ value ∧ value ≤ n.high * unit)
  else decide (n.low * unit < value ∧ value < n.high * unit)

/-- How far `digits * 10 ^ exponent` is from the centre, in units that depend on the exponent
alone. -/
def distance (n : Neighbourhood) (d : Decimal) : Nat :=
  let value := d.digits * Nat.pow 10 d.exponent.toNat * n.denominator
  let centre := n.centre * Nat.pow 10 (-d.exponent).toNat
  (value - centre) + (centre - value)

/-- The multiple of `10 ^ exponent` to write, if one of the two next to the centre lies in the
interval. -/
def candidate (n : Neighbourhood) (exponent : Int) : Option Decimal :=
  let floor := n.centre * Nat.pow 10 (-exponent).toNat / (n.denominator * Nat.pow 10 exponent.toNat)
  let lower : Decimal := ⟨floor, exponent⟩
  let upper : Decimal := ⟨floor + 1, exponent⟩
  match n.contains lower, n.contains upper with
  | true, true =>
    if n.distance lower < n.distance upper ∨
        (n.distance lower = n.distance upper ∧ floor % 2 = 0)
    then some lower else some upper
  | true, false => some lower
  | false, true => some upper
  | false, false => none

/-- The exponent of the first digit: the number is at least ten to it and less than ten times
as much. -/
def leading (n : Neighbourhood) : Int :=
  let estimate : Int := ((toString n.centre).length : Int) - (toString n.denominator).length
  if n.denominator * Nat.pow 10 estimate.toNat ≤ n.centre * Nat.pow 10 (-estimate).toNat then
    estimate
  else estimate - 1

end Neighbourhood

/-- The decimal number with the fewest digits that stands for this one. -/
def shortest (f : Double) : Decimal :=
  let n := f.neighbourhood
  let lead := n.leading
  let found := (List.range 17).findSome? fun (more : Nat) => n.candidate (lead - more)
  (found.getD ⟨0, 0⟩).trim 17

/-- The text of the number, with a minus sign if asked for. -/
def text (negative : Bool) (f : Double) : String :=
  let sign := if negative then "-" else ""
  sign ++ if f.isZero then "0.0" else f.shortest.text

end Double

end EtherRelay
