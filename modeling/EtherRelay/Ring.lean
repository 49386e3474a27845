import EtherRelay.Settings
/-!
# Bounded rings

A ring passes items from one producer to one consumer, oldest first. Its slots are addressed
by two free-running 64-bit indices, `head` for the next write and `tail` for the next read.
Each side works with its own copy of the other side's index and reads it afresh only when the
copy does not suffice: the producer when the copy shows too little room, the consumer when it
shows nothing to take.

A burst is admitted whole or not at all. When both halves are gone the ring gives up what is
still queued, oldest first. `Ring.toList` is the queue that a ring stands for.
-/

namespace EtherRelay

/-- Why a ring cannot be made. -/
inductive RingError where
  | invalidCapacity (name : String) (capacity : Nat)
  deriving Repr, DecidableEq

/-- The text shown for a ring that cannot be made. -/
def RingError.message : RingError → String
  | .invalidCapacity name capacity =>
    s!"ring `{name}` has capacity {capacity}, but capacity must be a non-zero power of two"

/-- A refused burst: its size and the room that there was. -/
structure RingFull where
  requested : Nat
  free : Nat
  deriving Repr, DecidableEq

/-- A bounded queue between one producer and one consumer. -/
structure Ring (α : Type) where
  name : String
  slots : Array (Option α)
  /-- Index of the next write. -/
  head : UInt64 := 0
  /-- Index of the next read. -/
  tail : UInt64 := 0
  /-- The producer's copy of `tail`. -/
  cachedTail : UInt64 := 0
  /-- The consumer's copy of `head`. -/
  cachedHead : UInt64 := 0
  producerOpen : Bool := true
  consumerOpen : Bool := true
  deriving Repr

namespace Ring

variable {α : Type}

/-- An empty ring with room for `capacity` items. -/
def create (name : String) (capacity : Nat) : Except RingError (Ring α) :=
  if isPowerOfTwo capacity then
    .ok { name, slots := Array.replicate capacity none }
  else
    .error (.invalidCapacity name capacity)

/-- The number of items that the ring has room for. -/
def capacity (r : Ring α) : Nat := r.slots.size

/-- The slot that an index stands for. -/
def slot (r : Ring α) (index : UInt64) : Nat := index.toNat % r.capacity

/-- Fill the slot of an index. -/
def write (r : Ring α) (index : UInt64) (item : α) : Ring α :=
  { r with slots := r.slots.setIfInBounds (r.slot index) (some item) }

/-- The item in the slot of an index, if the slot was filled. -/
def read? (r : Ring α) (index : UInt64) : Option α :=
  (r.slots[r.slot index]?).join

/-- The number of items queued. -/
def length (r : Ring α) : Nat := (r.head - r.tail).toNat

def isEmpty (r : Ring α) : Bool := r.length == 0

/-- The queued items, oldest first. -/
def toList (r : Ring α) : List α :=
  (List.range r.length).filterMap fun i => r.read? (r.tail + UInt64.ofNat i)

/-! ## The producer -/

/-- The free slots as far as the producer's copy of `tail` shows. -/
def cachedFree (r : Ring α) : Nat :=
  (UInt64.ofNat r.capacity - (r.head - r.cachedTail)).toNat

/-- Read `tail` afresh if the copy does not show `wanted` free slots. -/
def refreshTail (r : Ring α) (wanted : Nat) : Ring α :=
  if wanted ≤ r.cachedFree then r else { r with cachedTail := r.tail }

/-- Write one item and move `head` past it. -/
def push (r : Ring α) (item : α) : Ring α :=
  let r := r.write r.head item
  { r with head := r.head + 1 }

/-- Admit one item. A refused item is handed back. -/
def enqueue (r : Ring α) (item : α) : Option α × Ring α :=
  let r := r.refreshTail 1
  if r.cachedFree = 0 then (some item, r) else (none, r.push item)

/-- Admit a burst, whole or not at all. The answer is what stays with the caller, and why. -/
def enqueueBulk (r : Ring α) (burst : List α) : List α × Option RingFull × Ring α :=
  match burst with
  | [] => ([], none, r)
  | _ =>
    let r := r.refreshTail burst.length
    if r.cachedFree < burst.length then
      (burst, some ⟨burst.length, r.cachedFree⟩, r)
    else
      ([], none, burst.foldl push r)

/-! ## The consumer -/

/-- The items that the consumer's copy of `head` shows. -/
def cachedLength (r : Ring α) : Nat := (r.cachedHead - r.tail).toNat

/-- Read `head` afresh if the copy shows nothing to take. -/
def refreshHead (r : Ring α) : Ring α :=
  if r.cachedLength = 0 then { r with cachedHead := r.head } else r

/-- Take the oldest item. -/
def pop (r : Ring α) : Option α × Ring α :=
  let item := r.read? r.tail
  (item, { r with
    slots := r.slots.setIfInBounds (r.slot r.tail) none
    tail := r.tail + 1 })

/-- Take the `n` oldest items. -/
def popMany (r : Ring α) : Nat → List α × Ring α
  | 0 => ([], r)
  | n + 1 =>
    let (item, r) := r.pop
    let (rest, r) := r.popMany n
    (item.toList ++ rest, r)

/-- Take at most `max` items, no more than the consumer's view shows. -/
def dequeueBurst (r : Ring α) (max : Nat) : List α × Ring α :=
  let r := r.refreshHead
  r.popMany (min r.cachedLength max)

/-- Take the `n` oldest items and put them behind `out`. -/
def popInto (r : Ring α) (out : List α) : Nat → List α × Ring α
  | 0 => (out, r)
  | n + 1 =>
    let (item, r) := r.pop
    r.popInto (out ++ item.toList) n

/-- Take a burst of at most `max` items, put it behind `out` and count it. -/
def dequeueInto (r : Ring α) (out : List α) (max : Nat) : Nat × List α × Ring α :=
  let r := r.refreshHead
  let n := min r.cachedLength max
  (n, r.popInto out n)

/-! ## Giving up the halves -/

/-- Give up whatever is queued once both halves are gone. -/
def release (r : Ring α) : List α × Ring α :=
  if r.producerOpen || r.consumerOpen then ([], r) else r.popMany r.length

/-- Close the producer's half; the answer holds the items that the ring gives up. -/
def closeProducer (r : Ring α) : List α × Ring α :=
  if r.producerOpen then { r with producerOpen := false }.release else ([], r)

/-- Close the consumer's half; the answer holds the items that the ring gives up. -/
def closeConsumer (r : Ring α) : List α × Ring α :=
  if r.consumerOpen then { r with consumerOpen := false }.release else ([], r)

end Ring

/-- The number that the next ring name ends in. -/
structure RingNames where
  next : Nat := 0
  deriving Repr, DecidableEq

/-- A name of the given kind for a context; no number is used twice. -/
def RingNames.fresh (names : RingNames) (kind : String) (context : UInt16) :
    String × RingNames :=
  (s!"{kind}_{context.toNat}_{names.next}", ⟨names.next + 1⟩)

end EtherRelay
