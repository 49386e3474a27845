import EtherRelay.Number.Rounding
/-!
# Binary floating-point numbers of double width

A `Double` is a finite number that is not negative, `mantissa * 2 ^ exponent`, whose mantissa
has at most 53 bits and whose exponent is at least -1074. `Double.nearest` is the one nearest to
a quotient, and every operation is the exact result rounded in this way. The exponent has no
upper bound; `isInfinite` holds of what the format itself cannot represent.
-/

namespace EtherRelay

/-- The number `mantissa * 2 ^ exponent`. -/
structure Double where
  mantissa : Nat
  exponent : Int
  deriving Repr, DecidableEq

namespace Double

def zero : Double := ⟨0, -1074⟩

/-- `num / den / 2 ^ exponent` as a quotient of two natural numbers. -/
def scaledBack (num den : Nat) (exponent : Int) : Nat × Nat :=
  (num * Nat.pow 2 (-exponent).toNat, den * Nat.pow 2 exponent.toNat)

/-- The nearest multiple of `2 ^ exponent`, in units of it. -/
def unitsOf (num den : Nat) (exponent : Int) : Nat :=
  let (num, den) := scaledBack num den exponent
  roundHalfEven num den

/-- The number nearest to `num / den`. -/
def nearest (num den : Nat) : Double :=
  let low := max (-1074) ((num.log2 : Int) - den.log2 - 53)
  let exponent := if unitsOf num den low < Nat.pow 2 53 then low else low + 1
  let mantissa := unitsOf num den exponent
  if mantissa = Nat.pow 2 53 then ⟨Nat.pow 2 52, exponent + 1⟩ else ⟨mantissa, exponent⟩

def ofNat (n : Nat) : Double := nearest n 1

/-- The exact value as a quotient. -/
def ratio (f : Double) : Nat × Nat :=
  (f.mantissa * Nat.pow 2 f.exponent.toNat, Nat.pow 2 (-f.exponent).toNat)

def isZero (f : Double) : Bool := f.mantissa == 0

/-- Whether the number is too large for the format. -/
def isInfinite (f : Double) : Bool :=
  decide (Nat.pow 2 1024 ≤ f.mantissa * Nat.pow 2 f.exponent.toNat ∧ 0 < f.exponent)

def add (f g : Double) : Double :=
  nearest (f.ratio.1 * g.ratio.2 + g.ratio.1 * f.ratio.2) (f.ratio.2 * g.ratio.2)

def mul (f g : Double) : Double :=
  nearest (f.ratio.1 * g.ratio.1) (f.ratio.2 * g.ratio.2)

/-- The quotient; the divisor must not be zero. -/
def div (f g : Double) : Double :=
  nearest (f.ratio.1 * g.ratio.2) (f.ratio.2 * g.ratio.1)

def le (f g : Double) : Bool :=
  decide (f.ratio.1 * g.ratio.2 ≤ g.ratio.1 * f.ratio.2)

def max (f g : Double) : Double := if f.le g then g else f

/-- The nearest integer, the even one if there are two. -/
def round (f : Double) : Nat := roundHalfEven f.ratio.1 f.ratio.2

/-- The nearest integer, the greater one if there are two. -/
def roundHalfUp (f : Double) : Nat := (2 * f.ratio.1 + f.ratio.2) / (2 * f.ratio.2)

end Double

end EtherRelay
