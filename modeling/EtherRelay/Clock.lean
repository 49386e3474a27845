/-!
# Cycle clocks

Time is read from a free-running 64-bit cycle counter of known frequency. `Clock.deltaNs` is
the length of the interval between two readings, and the counter may wrap once in between. The
length is computed in words of 128 bits.
-/

namespace EtherRelay

/-- A cycle counter that moves only when it is told to. -/
structure ManualClock where
  cycles : UInt64 := 0
  hz : UInt64
  deriving Repr, DecidableEq

namespace ManualClock

/-- Move the counter on; it wraps at `2 ^ 64`. -/
def advance (clock : ManualClock) (cycles : UInt64) : ManualClock :=
  { clock with cycles := clock.cycles + cycles }

end ManualClock

namespace Clock

/-- Nanoseconds in a second. -/
def nsPerSecond : Nat := 1000000000

/-- The frequency of a counter of nanoseconds. -/
def monotonicHz : UInt64 := 1000000000

/-- The nanoseconds that so many cycles take, rounded down, in words of 128 bits. -/
def wideNs (cycles hz : UInt64) : BitVec 128 :=
  cycles.toBitVec.setWidth 128 * BitVec.ofNat 128 nsPerSecond / hz.toBitVec.setWidth 128

/-- The nanoseconds between two readings, rounded down. Intervals too long for 64 bits
saturate, and a counter of frequency zero measures nothing. -/
def deltaNs (previous current hz : UInt64) : UInt64 :=
  if hz = 0 then 0
  else
    let ns := (wideNs (current - previous) hz).toNat
    if ns < UInt64.size then UInt64.ofNat ns else UInt64.ofNat (UInt64.size - 1)

end Clock

end EtherRelay
