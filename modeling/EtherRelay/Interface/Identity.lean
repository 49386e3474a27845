/-!
# Interface identity and counters

What other parts of the relay see of an interface: its name and port, and the six counters
that a driver keeps.
-/

namespace EtherRelay

/-- An interface as the device layer knows it. -/
structure InterfaceId where
  port : UInt16
  /-- Usually the address of the function on its bus. -/
  name : String
  deriving Repr, DecidableEq

/-- The interface as messages show it. -/
def InterfaceId.text (id : InterfaceId) : String :=
  s!"{id.name} (port {id.port.toNat})"

/-- What the device layer reports about an interface. -/
inductive DeviceEventKind where
  | removed
  | reset
  deriving Repr, DecidableEq

/-- The kind of event as messages show it. -/
def DeviceEventKind.text : DeviceEventKind → String
  | .removed => "removed"
  | .reset => "reset"

/-- The cumulative counters of an interface; they wrap at `2 ^ 64`. -/
structure InterfaceCounters where
  rxPackets : UInt64 := 0
  rxBytes : UInt64 := 0
  rxErrors : UInt64 := 0
  txPackets : UInt64 := 0
  txBytes : UInt64 := 0
  txErrors : UInt64 := 0
  deriving Repr, DecidableEq

/-- The six counters, receive side first. -/
def InterfaceCounters.values (c : InterfaceCounters) : List UInt64 :=
  [c.rxPackets, c.rxBytes, c.rxErrors, c.txPackets, c.txBytes, c.txErrors]

end EtherRelay
