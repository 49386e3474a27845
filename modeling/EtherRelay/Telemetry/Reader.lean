import EtherRelay.Telemetry.Record
/-!
# Reading stats records

A line is split at its commas into a heading and fields, and each field at its first equals sign
into a key and a value. What a field tells about is read off its key alone, wherever it stands in
the line: the port of one end of the context, an interface counter or a hardware counter of one
end, or a counter of the relay.

`Sample.read` puts together a sample from the values found under the expected keys. Values are
numbers, except for the names of the interfaces.
-/

namespace EtherRelay

namespace Record

/-- Split a field at its first equals sign. -/
def splitField (field : List Char) : Option (List Char × List Char) :=
  match field.dropWhile (· != '=') with
  | [] => none
  | _ :: value => some (field.takeWhile (· != '='), value)

/-- Split a line at its commas, without the line feed at its end. The first piece is the heading,
and the others are fields. -/
def split (line : String) : Option (List Char × List (List Char × List Char)) := do
  let body ← ['\n'].isSuffixOf? line.toList
  match body.splitOn ',' with
  | [] => none
  | heading :: fields => return (heading, ← fields.mapM splitField)

/-- The number below `bound` that decimal digits make. -/
def number? (bound : Nat) (digits : List Char) : Option Nat :=
  let value := Nat.ofDigitChars 10 digits 0
  if digits ≠ [] ∧ digits.all Char.isDigit ∧ value < bound then some value else none

/-- What follows a beginning. -/
def after? (beginning : String) (text : List Char) : Option (List Char) :=
  beginning.toList.isPrefixOf? text

/-- A small number with a closing parenthesis behind it. -/
def closed? (text : List Char) : Option UInt16 := do
  let digits ← [')'].isSuffixOf? text
  return UInt16.ofNat (← number? UInt16.size digits)

end Record

namespace InterfaceCounters

/-- The counters with these values, receive side first. -/
def ofValues? : List UInt64 → Option InterfaceCounters
  | [rxPackets, rxBytes, rxErrors, txPackets, txBytes, txErrors] =>
    some { rxPackets, rxBytes, rxErrors, txPackets, txBytes, txErrors }
  | _ => none

theorem ofValues?_values (c : InterfaceCounters) : ofValues? c.values = some c := rfl

end InterfaceCounters

namespace Hardware.Totals

/-- The totals with these values. -/
def ofList? {α : Type} : List α → Option (Totals α)
  | [packets, goodPackets, bytes, goodBytes] => some { packets, goodPackets, bytes, goodBytes }
  | _ => none

theorem ofList?_toList {α : Type} (t : Totals α) : ofList? t.toList = some t := rfl

end Hardware.Totals

namespace Sample

open Record

/-- An end of a context. -/
inductive Side where
  | source | destination
  deriving Repr, DecidableEq

/-- How the key for the port of an end begins. -/
def Side.opening : Side → String
  | .source => "rx_port("
  | .destination => "tx_port("

/-- Put in front of the names of the counters of an end. -/
def Side.mark : Side → String
  | .source => sourceSide
  | .destination => destinationSide

/-- What a field tells about. -/
inductive Key where
  | port (side : Side) (port : UInt16)
  | counter (side : Side) (name : String)
  | hardware (side : Side) (name : String)
  /-- Something of the whole context. -/
  | plain (name : String)
  deriving Repr, DecidableEq

/-- What a key says of this end. -/
def Key.ofSide? (side : Side) (text : List Char) : Option Key :=
  match after? side.opening text with
  | some number => (closed? number).map (.port side)
  | none =>
    match after? side.mark text with
    | none => none
    | some name =>
      match after? "hw_" name with
      | some name => some (.hardware side (String.ofList name))
      | none => some (.counter side (String.ofList name))

/-- What a key says. -/
def Key.ofText (text : List Char) : Key :=
  ((Key.ofSide? .source text).or (Key.ofSide? .destination text)).getD
    (.plain (String.ofList text))

/-- What a record says of a context. -/
structure Reading where
  context : UInt16
  source : PortSample
  destination : PortSample
  /-- The counters that are reported, with their names. -/
  relay : List (String × UInt64)
  deltaNs : UInt64
  deriving Repr, DecidableEq

/-- Values with the names of what they tell about. -/
abbrev Named := List (String × List Char)

/-- The values whose keys are of one kind, by name. -/
def named (name? : Key → Option String) (fields : List (Key × List Char)) : Named :=
  fields.filterMap fun field => (name? field.1).map fun name => (name, field.2)

/-- The name of an interface counter of this end. -/
def Key.counter? (side : Side) : Key → Option String
  | .counter side' name => if side' = side then some name else none
  | _ => none

/-- The name of a hardware counter of this end. -/
def Key.hardware? (side : Side) : Key → Option String
  | .hardware side' name => if side' = side then some name else none
  | _ => none

/-- The name of something of the whole context. -/
def Key.plain? : Key → Option String
  | .plain name => some name
  | _ => none

/-- The port and the name of the interface of this end. -/
def readInterface (side : Side) (fields : List (Key × List Char)) : Option InterfaceId :=
  fields.findSome? fun field =>
    match field.1 with
    | .port side' port => if side' = side then some ⟨port, String.ofList field.2⟩ else none
    | _ => none

/-- The number that stands under a name. -/
def lookup (bound : Nat) (fields : Named) (name : String) : Option Nat :=
  (fields.lookup name).bind (number? bound)

/-- The numbers that stand under some names, as words. -/
def lookupAll {α : Type} (bound : Nat) (ofNat : Nat → α) (fields : Named) (names : List String) :
    Option (List α) :=
  names.mapM fun name => (lookup bound fields name).map ofNat

/-- The values of 64 bits that stand under some names. -/
def lookupWords : Named → List String → Option (List UInt64) :=
  lookupAll UInt64.size UInt64.ofNat

/-- The values of 32 bits that stand under some names. -/
def lookupHalves : Named → List String → Option (List UInt32) :=
  lookupAll UInt32.size UInt32.ofNat

/-- The names of the hardware counters that are no totals. -/
def isExtended (name : String) : Bool :=
  !(Hardware.Snapshot.txNames.toList ++ Hardware.Snapshot.rxNames.toList).contains name

/-- The hardware counters of an end; an end without any has none. -/
def readHardware (fields : Named) : Option (Option Hardware.Snapshot) :=
  if fields.isEmpty then some none
  else do
    let tx ← Hardware.Totals.ofList? (← lookupHalves fields Hardware.Snapshot.txNames.toList)
    let rx ← Hardware.Totals.ofList? (← lookupHalves fields Hardware.Snapshot.rxNames.toList)
    let names := (fields.map Prod.fst).filter isExtended
    return some { tx, rx, extended := names.zip (← lookupHalves fields names) }

/-- Everything about one end. -/
def readPort (side : Side) (fields : List (Key × List Char)) : Option PortSample := do
  let interface ← readInterface side fields
  let counters ← InterfaceCounters.ofValues?
    (← lookupWords (named (Key.counter? side) fields) PortSample.counterNames)
  let hardware ← readHardware (named (Key.hardware? side) fields)
  return { interface, counters, hardware }

/-- Read a record of a sample. -/
def read (line : String) : Option Reading := do
  let (heading, fields) ← Record.split line
  let context ← closed? (← after? (statsMeasurement ++ "(ctx-") heading)
  let fields := fields.map fun field => (Key.ofText field.1, field.2)
  let source ← readPort .source fields
  let destination ← readPort .destination fields
  let names := Counter.reported.map Counter.name
  let relay ← lookupWords (named Key.plain? fields) names
  let deltaNs ← lookup UInt64.size (named Key.plain? fields) "DELTA_NS"
  return { context, source, destination, relay := names.zip relay, deltaNs := UInt64.ofNat deltaNs }

end Sample

end EtherRelay
