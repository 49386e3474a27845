import EtherRelay.Settings
/-!
# Queue sets and their rotation

One end of a context names between one and three queues of its interface, in order and
possibly with repeats. A `Rotation` walks such a set and starts over at its end; it may be
moved between sets of different sizes.
-/

namespace EtherRelay

/-- The number of a hardware queue. -/
abbrev QueueId := UInt16

/-- The queues that one end of a context reads or writes, in order. -/
structure QueueSet where
  queues : List QueueId
  nonempty : 0 < queues.length
  length_le : queues.length ≤ maxQueues
  deriving Repr, DecidableEq

namespace QueueSet

/-- Accept one to three queues. -/
def ofList (queues : List QueueId) : Except ConfigError QueueSet :=
  if h : 0 < queues.length ∧ queues.length ≤ maxQueues then
    .ok ⟨queues, h.1, h.2⟩
  else
    .error (.queueCount queues.length)

/-- A single queue. -/
def single (queue : QueueId) : QueueSet :=
  ⟨[queue], Nat.zero_lt_one, by simp [maxQueues]⟩

def length (set : QueueSet) : Nat := set.queues.length

def isEmpty (set : QueueSet) : Bool := set.queues.isEmpty

def get? (set : QueueSet) (index : Nat) : Option QueueId := set.queues[index]?

theorem length_pos (set : QueueSet) : 0 < set.length := set.nonempty

/-- The set in brackets, as messages show it. -/
def text (set : QueueSet) : String :=
  "[" ++ ",".intercalate (set.queues.map fun q => toString q.toNat) ++ "]"

end QueueSet

/-- The position of the next queue to pick. -/
structure Rotation where
  next : Nat := 0
  deriving Repr, DecidableEq

namespace Rotation

/-- The queue whose turn it is. -/
def queue (r : Rotation) (set : QueueSet) : QueueId :=
  set.queues.get ⟨r.next % set.length, Nat.mod_lt _ set.length_pos⟩

/-- The rotation after the pick. -/
def advance (r : Rotation) (set : QueueSet) : Rotation :=
  ⟨(r.next + 1) % set.length⟩

/-- Pick the queue whose turn it is. -/
def pick (r : Rotation) (set : QueueSet) : QueueId × Rotation :=
  (r.queue set, r.advance set)

end Rotation

end EtherRelay
