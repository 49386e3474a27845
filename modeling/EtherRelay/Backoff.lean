import EtherRelay.Settings
/-!
# Backoff

A worker counts its consecutive empty polls. Under `BackoffPolicy.spinThenYield` it gives its
core away from the eleventh one on, until a poll finds work again.
-/

namespace EtherRelay

/-- The empty polls of one worker since the last that found work. -/
structure Backoff where
  policy : BackoffPolicy
  idleRounds : Nat := 0
  deriving Repr, DecidableEq

namespace Backoff

/-- Empty polls that are spent spinning before a core is given away. -/
def spinLimit : Nat := 10

/-- After a poll that found nothing. -/
def idle (b : Backoff) : Backoff := { b with idleRounds := b.idleRounds + 1 }

/-- After a poll that found work. -/
def reset (b : Backoff) : Backoff := { b with idleRounds := 0 }

/-- Whether the worker hands its core back between polls. -/
def isYielding (b : Backoff) : Bool :=
  b.policy = .spinThenYield && spinLimit < b.idleRounds

end Backoff

end EtherRelay
