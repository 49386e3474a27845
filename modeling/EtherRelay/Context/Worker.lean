import EtherRelay.Forwarding.Monitor
import EtherRelay.Forwarding.Receiver
import EtherRelay.Forwarding.Transmitter
/-!
# Workers

Each of the three workers of a context repeats the same loop: look at the stop flag, leave if
it is raised, poll once. A worker is a stage together with the place in its loop, and `step`
takes it to the next place in one indivisible action.

A poll that was begun is finished even if the stop flag is raised meanwhile. A worker that
makes a faulty call crashes: what it holds is freed and its halves of the rings are closed. A
`Door` is a call at which a worker can be held up.
-/

namespace EtherRelay

/-- A call at which workers can be held up. -/
inductive Door where
  /-- Receiving from the interface at this position. -/
  | receive (interface : Nat)
  /-- Transmitting on the interface at this position. -/
  | transmit (interface : Nat)
  /-- Storing a record. -/
  | sink
  deriving Repr, DecidableEq

/-- Where the receive worker is in its loop. -/
inductive ReceivePlace where
  | ready
  /-- It saw no stop request and is about to receive. -/
  | polling
  | finished
  | crashed
  deriving Repr, DecidableEq

/-- Where the transmit worker is in its loop. -/
inductive TransmitPlace (β : Type) where
  | ready
  /-- It saw no stop request and is about to take a burst. -/
  | polling
  /-- It holds a burst and is about to transmit it. -/
  | sending (burst : List β)
  | finished
  | crashed
  deriving Repr

/-- Where the stats worker is in its loop. -/
inductive StatsPlace (β : Type) where
  | ready
  /-- It saw no stop request and is about to take probes. -/
  | polling
  /-- It holds probes that it did not look at yet. -/
  | draining (rest : List β)
  /-- It is about to publish the latency of a probe, with more probes behind it. -/
  | reporting (latency : Probe.Latency) (probe : β) (rest : List β)
  /-- It is about to publish a sample. -/
  | publishing (sample : Sample)
  | finished
  | crashed
  deriving Repr

/-- The receive worker. -/
structure ReceiveWorker where
  stage : Receiver
  place : ReceivePlace := .ready
  deriving Repr

/-- The transmit worker. -/
structure TransmitWorker (β : Type) where
  stage : Transmitter
  place : TransmitPlace β := .ready
  deriving Repr

/-- The stats worker. -/
structure StatsWorker (β : Type) where
  stage : Monitor
  place : StatsPlace β := .ready
  periodNs : Nat
  /-- The time from which the next sample is due. -/
  nextSampleNs : Nat
  deriving Repr

variable {β σ : Type} [FrameBuffer β] [Sink σ]

namespace ReceiveWorker

/-- Whether the worker has left its loop. -/
def isDone (r : ReceiveWorker) : Bool := r.place == .finished || r.place == .crashed

/-- Whether the worker is between two rounds of its loop, or has left it. -/
def rests (r : ReceiveWorker) : Bool := r.place != .polling

/-- The door that the next action leads through. -/
def door? (r : ReceiveWorker) : Option Door :=
  if r.place = .polling then some (.receive r.stage.interface) else none

/-- Go down with what the worker holds. -/
def crash (r : ReceiveWorker) (lane : Lane β) (w : World β σ) :
    ReceiveWorker × Lane β × World β σ :=
  let (freed, lane) := lane.closeReceiver
  ({ r with place := .crashed }, lane, (w.markFaulted r.stage.interface).release freed)

/-- The next action of the loop. -/
def step (stop : Bool) (r : ReceiveWorker) (lane : Lane β) (w : World β σ) :
    ReceiveWorker × Lane β × World β σ :=
  match r.place with
  | .ready =>
    if stop then ({ r with place := .finished }, lane, w.note (.receiveStopped lane.context))
    else ({ r with place := .polling }, lane, w)
  | .polling =>
    if w.failsOn r.stage.interface .receive then r.crash lane w
    else
      let (_, stage, lane, w) := r.stage.poll lane w
      ({ stage, place := .ready }, lane, w)
  | .finished | .crashed => (r, lane, w)

end ReceiveWorker

namespace TransmitWorker

/-- Whether the worker has left its loop. -/
def isDone (t : TransmitWorker β) : Bool :=
  match t.place with
  | .finished | .crashed => true
  | _ => false

/-- Whether the worker is between two rounds of its loop, or has left it. -/
def rests (t : TransmitWorker β) : Bool :=
  match t.place with
  | .polling | .sending _ => false
  | _ => true

/-- The door that the next action leads through. -/
def door? (t : TransmitWorker β) : Option Door :=
  match t.place with
  | .sending _ => some (.transmit t.stage.interface)
  | _ => none

/-- Go down with the burst that the worker holds. -/
def crash (t : TransmitWorker β) (burst : List β) (lane : Lane β) (w : World β σ) :
    TransmitWorker β × Lane β × World β σ :=
  let (freed, lane) := lane.closeTransmitter
  ({ t with place := .crashed }, lane,
    ((w.markFaulted t.stage.interface).release burst).release freed)

/-- The next action of the loop. -/
def step (stop : Bool) (t : TransmitWorker β) (lane : Lane β) (w : World β σ) :
    TransmitWorker β × Lane β × World β σ :=
  match t.place with
  | .ready =>
    if stop then ({ t with place := .finished }, lane, w.note (.transmitStopped lane.context))
    else ({ t with place := .polling }, lane, w)
  | .polling =>
    let (burst, lane) := t.stage.load lane
    ({ t with place := if burst.isEmpty then .ready else .sending burst }, lane, w)
  | .sending burst =>
    if w.failsOn t.stage.interface .transmit then t.crash burst lane w
    else
      let (stage, lane, w) := t.stage.send lane w burst
      ({ stage, place := .ready }, lane, w)
  | .finished | .crashed => (t, lane, w)

end TransmitWorker

namespace StatsWorker

/-- Whether the worker has left its loop. -/
def isDone (s : StatsWorker β) : Bool :=
  match s.place with
  | .finished | .crashed => true
  | _ => false

/-- Whether the worker is between two rounds of its loop, or has left it. -/
def rests (s : StatsWorker β) : Bool :=
  match s.place with
  | .ready | .finished | .crashed => true
  | _ => false

/-- The door that the next action leads through. -/
def door? (s : StatsWorker β) : Option Door :=
  match s.place with
  | .reporting .. | .publishing _ => some .sink
  | _ => none

/-- Go down at the counters of an interface. -/
def crash (s : StatsWorker β) (interface : Nat) (lane : Lane β) (w : World β σ) :
    StatsWorker β × Lane β × World β σ :=
  let (freed, lane) := lane.closeMonitor
  ({ s with place := .crashed }, lane, (w.markFaulted interface).release freed)

/-- Sample the counters if a sample is due, source first. -/
def sampleIfDue (s : StatsWorker β) (lane : Lane β) (w : World β σ) :
    StatsWorker β × Lane β × World β σ :=
  let source := s.stage.source
  let destination := s.stage.destination
  if w.wallNs < s.nextSampleNs then ({ s with place := .ready }, lane, w)
  else if w.failsOn source.interface .counters then s.crash source.interface lane w
  else if w.failsOn destination.interface .counters then
    s.crash destination.interface lane (Monitor.samplePort w source s.stage.extendedHardware).2
  else
    let (sample, stage, w) := s.stage.sample lane w
    ({ s with stage, place := .publishing sample }, lane, w)

/-- The next action of the loop. -/
def step (stop : Bool) (s : StatsWorker β) (lane : Lane β) (w : World β σ) :
    StatsWorker β × Lane β × World β σ :=
  match s.place with
  | .ready =>
    if stop then ({ s with place := .finished }, lane, w.note (.statsStopped lane.context))
    else ({ s with place := .polling }, lane, w)
  | .polling =>
    let (burst, lane) := s.stage.load lane
    ({ s with place := .draining burst }, lane, w)
  | .draining [] => s.sampleIfDue lane w
  | .draining (probe :: rest) =>
    match Monitor.inspect lane w probe with
    | (some latency, lane, w) => ({ s with place := .reporting latency probe rest }, lane, w)
    | (none, lane, w) => ({ s with place := .draining rest }, lane, w.release [probe])
  | .reporting latency probe rest =>
    let (lane, w) := Monitor.publish lane w (latency.record lane.context)
    ({ s with place := .draining rest }, lane, w.release [probe])
  | .publishing sample =>
    let (lane, w) := Monitor.publish lane w (sample.record lane.context)
    ({ s with place := .ready, nextSampleNs := w.wallNs + s.periodNs }, lane, w)
  | .finished | .crashed => (s, lane, w)

end StatsWorker

/-- The three workers of a context. -/
structure Workers (β : Type) where
  receive : ReceiveWorker
  transmit : TransmitWorker β
  stats : StatsWorker β
  deriving Repr

namespace Workers

/-- Whether a worker has left its loop. -/
def isDone (k : Workers β) : WorkerRole → Bool
  | .receive => k.receive.isDone
  | .transmit => k.transmit.isDone
  | .stats => k.stats.isDone

/-- Whether a worker crashed. -/
def crashed (k : Workers β) : WorkerRole → Bool
  | .receive => k.receive.place == .crashed
  | .transmit => match k.transmit.place with
    | .crashed => true
    | _ => false
  | .stats => match k.stats.place with
    | .crashed => true
    | _ => false

/-- Whether a worker is between two rounds of its loop, or has left it. -/
def rests (k : Workers β) : WorkerRole → Bool
  | .receive => k.receive.rests
  | .transmit => k.transmit.rests
  | .stats => k.stats.rests

/-- The door that the next action of a worker leads through. -/
def door? (k : Workers β) : WorkerRole → Option Door
  | .receive => k.receive.door?
  | .transmit => k.transmit.door?
  | .stats => k.stats.door?

/-- The next action of one worker. -/
def step (stop : Bool) (k : Workers β) (lane : Lane β) (w : World β σ) :
    WorkerRole → Workers β × Lane β × World β σ
  | .receive =>
    let (receive, lane, w) := k.receive.step stop lane w
    ({ k with receive }, lane, w)
  | .transmit =>
    let (transmit, lane, w) := k.transmit.step stop lane w
    ({ k with transmit }, lane, w)
  | .stats =>
    let (stats, lane, w) := k.stats.step stop lane w
    ({ k with stats }, lane, w)

/-- The workers that crashed, in the order in which they are waited for. -/
def crashedRoles (k : Workers β) : List WorkerRole :=
  [WorkerRole.receive, .transmit, .stats].filter k.crashed

end Workers

end EtherRelay
