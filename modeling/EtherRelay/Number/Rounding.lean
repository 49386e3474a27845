/-!
# Rounding a quotient to an integer

`roundHalfEven num den` is the integer nearest to `num / den`; halfway between two integers it
is the even one.
-/

namespace EtherRelay

/-- The integer nearest to `num / den`, the even one if there are two. -/
def roundHalfEven (num den : Nat) : Nat :=
  let quotient := num / den
  let rest := num % den
  if den < 2 * rest ∨ (den = 2 * rest ∧ quotient % 2 = 1) then quotient + 1 else quotient

end EtherRelay
