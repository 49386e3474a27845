/-!
# Checked sums and differences

A sum of machine words that reaches `2 ^ 32`, or a difference below zero, is an error here. What
does fit is the sum or difference of the plain numbers.
-/

namespace EtherRelay

/-- An operation on machine words whose result is no machine word. -/
inductive Overflow where
  | add
  | subtract
  deriving Repr, DecidableEq

namespace Overflow

def message : Overflow → String
  | add => "attempt to add with overflow"
  | subtract => "attempt to subtract with overflow"

end Overflow

/-- The sum of two words. -/
def checkedAdd (a b : UInt32) : Except Overflow UInt32 :=
  if a.toNat + b.toNat < UInt32.size then .ok (a + b) else .error .add

/-- The difference of two words. -/
def checkedSub (a b : UInt32) : Except Overflow UInt32 :=
  if b ≤ a then .ok (a - b) else .error .subtract

section

variable {a b : UInt32}

theorem checkedAdd_of_lt (h : a.toNat + b.toNat < UInt32.size) : checkedAdd a b = .ok (a + b) :=
  if_pos h

theorem checkedAdd_of_le (h : UInt32.size ≤ a.toNat + b.toNat) : checkedAdd a b = .error .add :=
  if_neg (Nat.not_lt.mpr h)

theorem checkedSub_of_le (h : b ≤ a) : checkedSub a b = .ok (a - b) := if_pos h

theorem toNat_add_of_lt (h : a.toNat + b.toNat < UInt32.size) :
    (a + b).toNat = a.toNat + b.toNat := by
  rw [UInt32.toNat_add]
  exact Nat.mod_eq_of_lt h

end

end EtherRelay
