import EtherRelay.Clock
import EtherRelay.Hardware.Snapshot
import EtherRelay.Interface
import EtherRelay.Log
import EtherRelay.Telemetry.Sink
/-!
# The world around the forwarding contexts

Everything that contexts share: the interfaces, the register file of the card, the telemetry
sink, the cycle clock, the buffer pool and the log. Each operation is one indivisible step on
the whole. A buffer that an operation takes out of circulation goes back to the pool at once.
-/

namespace EtherRelay

/-- What the contexts of a relay share. Frames are of type `β`, the sink is of type `σ`. -/
structure World (β σ : Type) where
  interfaces : List (Interface β)
  registers : Hardware.Registers := {}
  sink : σ
  clock : ManualClock
  /-- The nanoseconds since the start, as sleeping workers measure them. -/
  wallNs : Nat := 0
  pool : Pool
  /-- What was reported by the caller's own steps, oldest first. -/
  log : List Event := []
  /-- What workers reported, oldest first. -/
  workerLog : List Event := []

namespace World

variable {β σ : Type}

/-- Report an event. -/
def note (w : World β σ) (e : Event) : World β σ := { w with log := w.log ++ [e] }

/-- Run a step of a worker: what it reports goes to the log of the workers. -/
def byWorker {α : Type} (w : World β σ) (step : World β σ → α × World β σ) : α × World β σ :=
  let (a, after) := step { w with log := [] }
  (a, { after with log := w.log, workerLog := w.workerLog ++ after.log })

/-- Give buffers back to the pool, first to last. -/
def release [FrameBuffer β] (w : World β σ) (buffers : List β) : World β σ :=
  { w with pool := w.pool.releaseAll buffers }

/-- Replace an interface by what becomes of it. -/
def modifyInterface (w : World β σ) (index : Nat) (f : Interface β → Interface β) : World β σ :=
  { w with interfaces := w.interfaces.modify index f }

/-- The name and port of an interface. -/
def interfaceId (w : World β σ) (index : Nat) : InterfaceId :=
  (w.interfaces[index]?.map Interface.id).getD ⟨0, ""⟩

/-- The counters of an interface. -/
def interfaceCounters (w : World β σ) (index : Nat) : InterfaceCounters :=
  (w.interfaces[index]?.map Interface.counters).getD {}

/-- Whether a call of an interface brings down the worker that makes it. -/
def failsOn (w : World β σ) (index : Nat) (call : InterfaceCall) : Bool :=
  (w.interfaces[index]?.map (·.failsOn call)).getD false

/-- Note that a call of an interface brought down its caller. -/
def markFaulted (w : World β σ) (index : Nat) : World β σ :=
  w.modifyInterface index fun i => { i with faulted := true }

/-- Let a burst arrive at an interface. The answer is how many frames it accepted; the others
go back to the pool. -/
def inject [FrameBuffer β] (w : World β σ) (index : Nat) (queue : QueueId) (burst : List β) :
    Nat × World β σ :=
  match w.interfaces[index]? with
  | none => (0, w.release burst)
  | some i =>
    let o := i.inject w.registers queue burst
    (o.accepted,
      { w with
        interfaces := w.interfaces.set index o.interface
        registers := o.registers }.release o.refused)

/-- Take at most `max` frames from a receive queue of an interface. -/
def receive (w : World β σ) (index : Nat) (queue : QueueId) (max : Nat) :
    List β × World β σ :=
  match w.interfaces[index]? with
  | none => ([], w)
  | some i =>
    let (frames, i) := i.receive queue max
    (frames, { w with interfaces := w.interfaces.set index i })

/-- Transmit the front of a burst on a queue of an interface. The answer is how many frames it
accepted, and those that it did not. -/
def transmit [FrameBuffer β] (w : World β σ) (index : Nat) (queue : QueueId) (burst : List β) :
    Nat × List β × World β σ :=
  match w.interfaces[index]? with
  | none => (0, burst, w)
  | some i =>
    let s := i.transmit w.registers w.wallNs queue burst
    (s.accepted, s.refused,
      { w with
        interfaces := w.interfaces.set index s.interface
        registers := s.registers }.release s.givenUp)

/-- Take the frames that an interface kept for a transmit queue. -/
def takeTransmitted (w : World β σ) (index : Nat) (queue : QueueId) : List β × World β σ :=
  match w.interfaces[index]? with
  | none => ([], w)
  | some i =>
    let (frames, i) := i.takeTransmitted queue
    (frames, { w with interfaces := w.interfaces.set index i })

/-- Offer a record to the sink. -/
def publish [Sink σ] (w : World β σ) (record : Record) : Except PublishError Unit × World β σ :=
  let (r, sink) := Sink.publish w.sink record.line
  (r, { w with sink })

/-- Take a snapshot of a counter block. -/
def snapshot (w : World β σ) (layout : Hardware.Layout) (extended : Bool) :
    Hardware.Snapshot × World β σ :=
  let (s, registers) := Hardware.Snapshot.take w.registers layout extended
  (s, { w with registers })

/-- Let the cycle clock move on. -/
def advanceClock (w : World β σ) (cycles : UInt64) : World β σ :=
  { w with clock := w.clock.advance cycles }

end World

end EtherRelay
