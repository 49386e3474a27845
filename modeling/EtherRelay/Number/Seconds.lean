import EtherRelay.Number.Double

/-!
# Times in seconds

Where a time is handled as a floating-point number, it counts seconds. The way there rounds twice,
and the way back goes to the nearest whole nanosecond.
-/

namespace EtherRelay.Double

/-- A time in seconds: the whole seconds and the rest are rounded each, and then their sum. -/
def ofNanoseconds (ns : Nat) : Double :=
  (ofNat (ns / 1000000000)).add ((ofNat (ns % 1000000000)).div (ofNat 1000000000))

/-- The nanoseconds in so many seconds; half a nanosecond goes to the even neighbour. -/
def toNanoseconds (seconds : Double) : Nat :=
  roundHalfEven (seconds.ratio.1 * 1000000000) seconds.ratio.2

end EtherRelay.Double
