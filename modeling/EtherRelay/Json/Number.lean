import EtherRelay.Json.Reader
import EtherRelay.Number.Shortest
/-!
# JSON numbers

A number without fraction and exponent is an integer if it fits 64 bits; every other number is a
floating-point number. Its digits beyond 64 bits do not count, and it is the rounded product or
quotient of the rounded digits and a rounded power of ten, so its last bit may differ from that
of the nearest one.
-/

namespace EtherRelay

/-- A number as a text gives it. -/
inductive JsonNumber where
  | natural (n : Nat)
  /-- The number `-n`; zero is none of these. -/
  | negative (n : Nat)
  | double (minus : Bool) (value : Double)
  deriving Repr, DecidableEq

/-- The number as messages show it. -/
def JsonNumber.text : JsonNumber → String
  | natural n => s!"integer `{n}`"
  | negative n => s!"integer `-{n}`"
  | double minus value => s!"floating point `{value.text minus}`"

namespace JsonReader

/-- The power of ten; it is at most 308. -/
def tenTo (power : Nat) : Double := Double.nearest (Nat.pow 10 power) 1

/-- Scale by a power of ten, in steps of at most 308. -/
def scale (f : Double) (power : Int) : Except JsonError Double :=
  if 308 < power then if f.isZero then .ok f else .error .malformed
  else if 0 ≤ power then
    let product := f.mul (tenTo power.toNat)
    if product.isInfinite then .error .malformed else .ok product
  else if power < -308 then
    if f.isZero then .ok f else scale (f.div (tenTo 308)) (power + 308)
  else .ok (f.div (tenTo (-power).toNat))
termination_by power.natAbs
decreasing_by omega

def double (minus : Bool) (significand : Nat) (power : Int) : JsonReader JsonNumber :=
  match scale (Double.ofNat significand) power with
  | .ok value => pure (.double minus value)
  | .error e => fail e

/-- Take digits into the significand as long as it fits 64 bits. The answer is how many were
taken, and the digits that are left. -/
def accumulate : (significand taken : Nat) → List Char → Nat × Nat × List Char
  | significand, taken, [] => (significand, taken, [])
  | significand, taken, c :: rest =>
    let more := significand * 10 + digitValue c
    if more < UInt64.size then accumulate more (taken + 1) rest else (significand, taken, c :: rest)

/-- The exponent after its letter, with a power of ten from the digits before it. A positive
exponent beyond 31 bits is an error unless all digits are zero; a negative one gives zero. -/
def exponent (minus : Bool) (significand : Nat) (power : Int) : JsonReader JsonNumber := do
  advance
  let sign ← peek
  if sign = some '+' ∨ sign = some '-' then advance
  let first ← next
  if !first.isDigit then fail .malformed
  let value := (first :: (← digits)).foldl (fun n c => n * 10 + digitValue c) 0
  let down := sign == some '-'
  if UInt32.size / 2 ≤ value then
    if significand ≠ 0 ∧ !down then fail .malformed
    else pure (.double minus .zero)
  else double minus significand (if down then power - value else power + value)

/-- The digits after a point, with a power of ten from the digits before it. -/
def fraction (minus : Bool) (significand : Nat) (power : Int) : JsonReader JsonNumber := do
  advance
  let all ← digits
  if all.isEmpty then
    match ← peek with
    | none => fail .truncated
    | some _ => fail .malformed
  let (significand, taken, _) := accumulate significand 0 all
  let power := power - taken
  match ← peek with
  | some 'e' | some 'E' => exponent minus significand power
  | _ => double minus significand power

/-- A number after its sign. -/
def number (minus : Bool) : JsonReader JsonNumber := do
  let first ← next
  if !first.isDigit then fail .malformed
  let more ← digits
  if first = '0' ∧ !more.isEmpty then fail .malformed
  let (significand, _, left) := accumulate 0 0 (first :: more)
  match ← peek with
  | some '.' => fraction minus significand left.length
  | some 'e' | some 'E' => exponent minus significand left.length
  | _ =>
    if !left.isEmpty then double minus significand left.length
    else if !minus then pure (.natural significand)
    else if significand = 0 ∨ UInt64.size / 2 < significand then
      pure (.double true (Double.ofNat significand))
    else pure (.negative significand)

end JsonReader

end EtherRelay
