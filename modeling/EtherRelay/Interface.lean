import EtherRelay.Buffer.Pool
import EtherRelay.Capture.Exporter
import EtherRelay.Hardware.Registers
import EtherRelay.Interface.Identity
import EtherRelay.Queues
/-!
# Interfaces in memory

An interface has receive queues of bounded depth and transmit queues that may accept only a
part of a burst. It counts what a driver would count, in a hardware counter block as well if it
has one, and can write what it transmits to a capture. Transmitted frames are kept for
inspection or given up at once.

The first frames of a burst are accepted and the others are refused, in both directions.
`injectEach` looks at the frames of a burst one by one, as they arrive; `inject` takes those that
there is room for all at once.
-/

namespace EtherRelay

/-- One call to transmit, as the interface saw it. -/
structure TransmitEvent where
  queue : QueueId
  requested : Nat
  accepted : Nat
  deriving Repr, DecidableEq

/-- A transmit queue. -/
structure TxQueue (β : Type) where
  /-- The most frames that one call accepts; none if there is no bound. -/
  limit : Option Nat := none
  /-- The frames kept, oldest first. -/
  transmitted : List β := []
  deriving Repr

/-- The calls of an interface that can be made to fail. -/
inductive InterfaceCall where
  | receive | transmit | counters
  deriving Repr, DecidableEq

/-- An interface whose frames are of type `β`. -/
structure Interface (β : Type) where
  id : InterfaceId
  /-- The frames that wait in each receive queue, oldest first. -/
  rxQueues : List (List β)
  /-- The most frames that wait in one receive queue. -/
  rxDepth : Nat
  txQueues : List (TxQueue β)
  /-- Whether transmitted frames and calls are kept. -/
  retains : Bool := true
  transmitLog : List TransmitEvent := []
  counters : InterfaceCounters := {}
  /-- The counter block that also counts every frame. -/
  hardware : Option Hardware.Layout := none
  capture : Option (Capture.Exporter BoundedDevice) := none
  /-- The call that brings down the worker that makes it. -/
  faultyCall : Option InterfaceCall := none
  /-- Whether such a call was made. -/
  faulted : Bool := false
  deriving Repr

namespace Interface

variable {β : Type}

/-- Frames that wait in a receive queue where no depth is given. -/
def defaultRxDepth : Nat := 1024

/-- An interface with empty queues. -/
def create (id : InterfaceId) (rxQueues txQueues : Nat) (rxDepth : Nat := defaultRxDepth) :
    Interface β where
  id := id
  rxQueues := List.replicate rxQueues []
  rxDepth := rxDepth
  txQueues := List.replicate txQueues {}

/-- The frames that wait in a receive queue; none in a queue that does not exist. -/
def pending (i : Interface β) (queue : QueueId) : List β :=
  i.rxQueues.getD queue.toNat []

/-- Whether a call brings down the worker that makes it. -/
def failsOn (i : Interface β) (call : InterfaceCall) : Bool := i.faultyCall == some call

/-- The bytes of a list of frames. -/
def byteCount [FrameBuffer β] (frames : List β) : Nat :=
  frames.foldr (fun b bytes => (FrameBuffer.frame b).length + bytes) 0

/-- What became of a burst. -/
structure Outcome (β : Type) where
  interface : Interface β
  registers : Hardware.Registers
  accepted : Nat
  /-- The frames that were refused, in order. -/
  refused : List β

/-- Let a burst arrive at a receive queue. The queue takes the first frames that it has room
for, and a queue that does not exist takes none; the others are counted as errors. -/
def inject [FrameBuffer β] (i : Interface β) (registers : Hardware.Registers) (queue : QueueId)
    (burst : List β) : Outcome β :=
  let c := i.counters
  match i.rxQueues[queue.toNat]? with
  | none =>
    { interface :=
        { i with counters := { c with rxErrors := c.rxErrors + UInt64.ofNat burst.length } }
      registers, accepted := 0, refused := burst }
  | some waiting =>
    let accepted := burst.take (i.rxDepth - waiting.length)
    let refused := burst.drop (i.rxDepth - waiting.length)
    let bytes := byteCount accepted
    { interface :=
        { i with
          rxQueues := i.rxQueues.set queue.toNat (waiting ++ accepted)
          counters :=
            { c with
              rxPackets := c.rxPackets + UInt64.ofNat accepted.length
              rxBytes := c.rxBytes + UInt64.ofNat bytes
              rxErrors := c.rxErrors + UInt64.ofNat refused.length } }
      registers :=
        match i.hardware with
        | none => registers
        | some layout =>
          registers.countFrames layout.rx (UInt32.ofNat accepted.length) (UInt32.ofNat bytes)
      accepted := accepted.length
      refused }

/-- How far a burst has arrived at a receive queue. -/
structure Arriving (β : Type) where
  /-- The frames that wait in the queue. -/
  waiting : List β
  accepted : Nat := 0
  bytes : Nat := 0
  missed : List β := []

/-- Let the next frame of a burst arrive: it waits behind the others if there is room for it. -/
def Arriving.next [FrameBuffer β] (depth : Nat) (a : Arriving β) (b : β) : Arriving β :=
  if depth ≤ a.waiting.length then { a with missed := a.missed ++ [b] }
  else
    { a with
      waiting := a.waiting ++ [b]
      accepted := a.accepted + 1
      bytes := a.bytes + (FrameBuffer.frame b).length }

/-- Let a burst arrive at a receive queue frame by frame, and count it when all of it is there. -/
def injectEach [FrameBuffer β] (i : Interface β) (registers : Hardware.Registers)
    (queue : QueueId) (burst : List β) : Outcome β :=
  let c := i.counters
  match i.rxQueues[queue.toNat]? with
  | none =>
    { interface :=
        { i with counters := { c with rxErrors := c.rxErrors + UInt64.ofNat burst.length } }
      registers, accepted := 0, refused := burst }
  | some waiting =>
    let a := burst.foldl (Arriving.next i.rxDepth) { waiting }
    { interface :=
        { i with
          rxQueues := i.rxQueues.set queue.toNat a.waiting
          counters :=
            { c with
              rxPackets := c.rxPackets + UInt64.ofNat a.accepted
              rxBytes := c.rxBytes + UInt64.ofNat a.bytes
              rxErrors := c.rxErrors + UInt64.ofNat a.missed.length } }
      registers :=
        match i.hardware with
        | none => registers
        | some layout =>
          registers.countFrames layout.rx (UInt32.ofNat a.accepted) (UInt32.ofNat a.bytes)
      accepted := a.accepted
      refused := a.missed }

/-- Take at most `max` frames from the front of a receive queue. -/
def receive (i : Interface β) (queue : QueueId) (max : Nat) : List β × Interface β :=
  let waiting := i.pending queue
  (waiting.take max, { i with rxQueues := i.rxQueues.set queue.toNat (waiting.drop max) })

/-- What a transmit call came to. -/
structure Sent (β : Type) extends Outcome β where
  /-- The accepted frames, if the interface does not keep them. -/
  givenUp : List β

/-- Transmit the front of a burst, as much as the queue accepts; a queue that does not exist
accepts nothing and counts nothing. `ns` is the time of the call. -/
def transmit [FrameBuffer β] (i : Interface β) (registers : Hardware.Registers) (ns : Nat)
    (queue : QueueId) (burst : List β) : Sent β :=
  match i.txQueues[queue.toNat]? with
  | none => { interface := i, registers, accepted := 0, refused := burst, givenUp := [] }
  | some tx =>
    let n := match tx.limit with
      | none => burst.length
      | some limit => limit
    let accepted := burst.take n
    let refused := burst.drop n
    let bytes := byteCount accepted
    let c := i.counters
    { interface :=
        { i with
          txQueues :=
            if i.retains then
              i.txQueues.set queue.toNat { tx with transmitted := tx.transmitted ++ accepted }
            else i.txQueues
          transmitLog :=
            if i.retains then i.transmitLog ++ [⟨queue, burst.length, accepted.length⟩]
            else i.transmitLog
          capture := i.capture.map fun exporter =>
            accepted.foldl (fun exporter b => exporter.track ns (FrameBuffer.frame b)) exporter
          counters :=
            { c with
              txPackets := c.txPackets + UInt64.ofNat accepted.length
              txBytes := c.txBytes + UInt64.ofNat bytes
              txErrors := c.txErrors + UInt64.ofNat refused.length } }
      registers :=
        match i.hardware with
        | none => registers
        | some layout =>
          registers.countFrames layout.tx (UInt32.ofNat accepted.length) (UInt32.ofNat bytes)
      accepted := accepted.length
      refused
      givenUp := if i.retains then [] else accepted }

/-- Bound the frames that one call to transmit on a queue accepts, or lift the bound. -/
def setTxLimit (i : Interface β) (queue : QueueId) (limit : Option Nat) : Interface β :=
  { i with txQueues := i.txQueues.modify queue.toNat fun tx => { tx with limit } }

/-- Take the frames kept for a transmit queue, oldest first. -/
def takeTransmitted (i : Interface β) (queue : QueueId) : List β × Interface β :=
  ((i.txQueues[queue.toNat]?.map TxQueue.transmitted).getD [],
    { i with txQueues := i.txQueues.modify queue.toNat fun tx => { tx with transmitted := [] } })

end Interface

end EtherRelay
