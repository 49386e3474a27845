/-!
# Life cycles

A context is created, launched, drained once its workers have stopped, and destroyed once its
rings are released. The recorded phase only moves forward. A stop request is recorded apart
from it, and shows in the reported state of a running context alone.
-/

namespace EtherRelay

/-- The phases of a context, in order. -/
inductive Phase where
  | created
  | running
  | drained
  | destroyed
  deriving Repr, DecidableEq

/-- The position of a phase in the order. -/
def Phase.rank : Phase → Nat
  | .created => 0
  | .running => 1
  | .drained => 3
  | .destroyed => 4

/-- What a context reports of itself. -/
inductive ContextState where
  | created
  | running
  | stopRequested
  | drained
  | destroyed
  deriving Repr, DecidableEq

/-- The position of a state in the order. -/
def ContextState.rank : ContextState → Nat
  | .created => 0
  | .running => 1
  | .stopRequested => 2
  | .drained => 3
  | .destroyed => 4

/-- The recorded phase of a context and whether it was asked to stop. -/
structure Lifecycle where
  phase : Phase := .created
  stopRequested : Bool := false
  deriving Repr, DecidableEq

namespace Lifecycle

/-- Ask the workers to stop. -/
def requestStop (l : Lifecycle) : Lifecycle := { l with stopRequested := true }

/-- Move on to a phase, never back. -/
def advance (l : Lifecycle) (phase : Phase) : Lifecycle :=
  if l.phase.rank < phase.rank then { l with phase } else l

/-- The reported state. -/
def state (l : Lifecycle) : ContextState :=
  match l.phase with
  | .created => .created
  | .running => if l.stopRequested then .stopRequested else .running
  | .drained => .drained
  | .destroyed => .destroyed

end Lifecycle

end EtherRelay
