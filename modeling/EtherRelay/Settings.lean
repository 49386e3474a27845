/-!
# Relay settings

The settings of a relay and what makes them acceptable. `Settings.validate` reports the first
fault in the order of the fields, and `Settings.validateSourceQueues` holds the one condition
that also depends on the size of a context's source queue set.
-/

namespace EtherRelay

/-- The largest number of frames moved at once. -/
def maxBurst : Nat := 32

/-- The largest number of queues that one end of a context may name. -/
def maxQueues : Nat := 3

/-- Whether `n` is one of 1, 2, 4, 8, … -/
def isPowerOfTwo (n : Nat) : Bool :=
  n != 0 && Nat.pow 2 n.log2 == n

theorem isPowerOfTwo_iff {n : Nat} : isPowerOfTwo n = true ↔ ∃ k, n = Nat.pow 2 k := by
  constructor
  · intro h
    simp only [isPowerOfTwo, Bool.and_eq_true, beq_iff_eq] at h
    exact ⟨n.log2, h.2.symm⟩
  · rintro ⟨k, rfl⟩
    simp [isPowerOfTwo, Nat.log2_two_pow]

/-- The two rings of a context. -/
inductive RingRole where
  /-- The ring between receiver and transmitter. -/
  | relay
  /-- The ring between receiver and monitor. -/
  | stats
  deriving Repr, DecidableEq

/-- The word that ring names begin with. -/
def RingRole.kind : RingRole → String
  | .relay => "relay_ring"
  | .stats => "stats_ring"

/-- The words for the ring in messages. -/
def RingRole.label : RingRole → String
  | .relay => "relay ring"
  | .stats => "stats ring"

/-- The two intervals that must not be empty. -/
inductive IntervalRole where
  /-- The time between two counter samples. -/
  | statsPeriod
  /-- The time between two drains of the stats ring. -/
  | probePoll
  deriving Repr, DecidableEq

/-- The words for the interval in messages. -/
def IntervalRole.label : IntervalRole → String
  | .statsPeriod => "stats period"
  | .probePoll => "probe poll interval"

/-- Why settings or queue sets are refused. -/
inductive ConfigError where
  | burstSize (size : Nat)
  | ringCapacity (ring : RingRole) (capacity : Nat)
  | queueCount (count : Nat)
  | fixedQueueIndex (index count : Nat)
  | zeroDuration (what : IntervalRole)
  deriving Repr, DecidableEq

/-- The text shown for a refusal. -/
def ConfigError.message : ConfigError → String
  | .burstSize size =>
    s!"burst size must be between 1 and {maxBurst}, but {size} was configured"
  | .ringCapacity ring capacity =>
    s!"{ring.label} capacity must be a non-zero power of two, but {capacity} was configured"
  | .queueCount count =>
    s!"a queue set must contain between 1 and {maxQueues} queues, but {count} were configured"
  | .fixedQueueIndex index count =>
    s!"the fixed receive queue index {index} is out of range for {count} source queues"
  | .zeroDuration what => s!"the {what.label} must be longer than zero"

/-- Which source queue a receive poll reads. -/
inductive RxQueuePolicy where
  /-- Always the queue at this position of the source queue set. -/
  | fixed (index : Nat)
  /-- The next queue of the source queue set on every poll. -/
  | roundRobin
  deriving Repr, DecidableEq

/-- What a worker does after a poll that found nothing. -/
inductive BackoffPolicy where
  /-- Retry at once, forever. -/
  | spin
  /-- Retry with growing pauses, and give the core away after a while. -/
  | spinThenYield
  deriving Repr, DecidableEq

/-- The settings shared by the contexts of a relay. Intervals are in nanoseconds. -/
structure Settings where
  /-- Most frames that one poll moves. -/
  burstSize : Nat := maxBurst
  ringCapacity : Nat := 8192
  statsRingCapacity : Nat := 1024
  statsPeriodNs : Nat := 3000000000
  probePollNs : Nat := 10000000
  rxQueuePolicy : RxQueuePolicy := .fixed 0
  backoff : BackoffPolicy := .spin
  /-- Whether hardware samples include the extended breakdown. -/
  extendedHardware : Bool := false
  deriving Repr, DecidableEq

namespace Settings

/-- Accept the settings or report the first fault. -/
def validate (s : Settings) : Except ConfigError Unit := do
  if s.burstSize = 0 ∨ maxBurst < s.burstSize then throw (.burstSize s.burstSize)
  if !isPowerOfTwo s.ringCapacity then throw (.ringCapacity .relay s.ringCapacity)
  if !isPowerOfTwo s.statsRingCapacity then throw (.ringCapacity .stats s.statsRingCapacity)
  if s.statsPeriodNs = 0 then throw (.zeroDuration .statsPeriod)
  if s.probePollNs = 0 then throw (.zeroDuration .probePoll)

/-- Check the receive policy against the number of source queues of a context. -/
def validateSourceQueues (s : Settings) (count : Nat) : Except ConfigError Unit :=
  match s.rxQueuePolicy with
  | .fixed index => if count ≤ index then throw (.fixedQueueIndex index count) else pure ()
  | .roundRobin => pure ()

end Settings

end EtherRelay
