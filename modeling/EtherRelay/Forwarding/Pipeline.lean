import EtherRelay.Forwarding.Monitor
import EtherRelay.Forwarding.Receiver
import EtherRelay.Forwarding.Transmitter
/-!
# Pipelines

A pipeline is a lane with its three stages, each polled by hand. A stage can be dropped, which
gives up its halves of the rings; a dropped stage answers nothing.
-/

namespace EtherRelay

/-- Why a pipeline cannot be made. -/
inductive PipelineError where
  | config (error : ConfigError)
  | ring (error : RingError)
  deriving Repr, DecidableEq

/-- A lane and those of its stages that are still there. -/
structure Pipeline (β : Type) where
  lane : Lane β
  receiver : Option Receiver
  transmitter : Option Transmitter
  monitor : Option Monitor
  stopRequested : Bool := false
  statsPeriodNs : Nat
  deriving Repr

namespace Pipeline

variable {β σ : Type} [FrameBuffer β] [Sink σ]

/-- Make the rings and then the stages. The settings are taken as they are. -/
def create (context : UInt16) (settings : Settings) (source destination : Binding)
    (drainBurst : Nat) (now : UInt64) : Except PipelineError (Pipeline β) := do
  let lane ← (Lane.create context settings {}).1.mapError .ring
  let receiver ← (Receiver.create settings source).mapError .config
  pure
    { lane
      receiver := some receiver
      transmitter := some (Transmitter.create settings destination)
      monitor := some (Monitor.create settings source destination now drainBurst)
      statsPeriodNs := settings.statsPeriodNs }

/-- Poll the receiver, if it is there. -/
def receive (p : Pipeline β) (w : World β σ) : Option Nat × Pipeline β × World β σ :=
  match p.receiver with
  | none => (none, p, w)
  | some r =>
    let (n, r, lane, w) := r.poll p.lane w
    (some n, { p with receiver := some r, lane }, w)

/-- Poll the transmitter, if it is there. -/
def transmit (p : Pipeline β) (w : World β σ) : Option Nat × Pipeline β × World β σ :=
  match p.transmitter with
  | none => (none, p, w)
  | some t =>
    let (n, t, lane, w) := t.poll p.lane w
    (some n, { p with transmitter := some t, lane }, w)

/-- Drain probes once, if the monitor is there. -/
def drain (p : Pipeline β) (w : World β σ) : Option Nat × Pipeline β × World β σ :=
  match p.monitor with
  | none => (none, p, w)
  | some m =>
    let (n, lane, w) := m.drain p.lane w
    (some n, { p with lane }, w)

/-- Sample the counters, if the monitor is there. -/
def sample (p : Pipeline β) (w : World β σ) : Option Sample × Pipeline β × World β σ :=
  match p.monitor with
  | none => (none, p, w)
  | some m =>
    let (s, m, w) := m.sample p.lane w
    (some s, { p with monitor := some m }, w)

/-- Sample the counters and publish the sample, if the monitor is there. -/
def publishSample (p : Pipeline β) (w : World β σ) :
    Option Sample × Pipeline β × World β σ :=
  match p.monitor with
  | none => (none, p, w)
  | some m =>
    let (s, m, lane, w) := m.publishSample p.lane w
    (some s, { p with monitor := some m, lane }, w)

/-- The items waiting in the relay ring, as the transmitter sees them. -/
def relayQueued (p : Pipeline β) : Option Nat := p.transmitter.map fun _ => p.lane.relayRing.length

/-- The items waiting in the stats ring, as the monitor sees them. -/
def statsQueued (p : Pipeline β) : Option Nat := p.monitor.map fun _ => p.lane.statsRing.length

/-- Ask the stages to stop. -/
def requestStop (p : Pipeline β) : Pipeline β := { p with stopRequested := true }

/-- What each stage reports when it runs and sees at once that it should stop. -/
def passThrough (p : Pipeline β) (w : World β σ) : World β σ :=
  let context := p.lane.context
  let w := match p.receiver with
    | none => w
    | some r => (w.note (.receiveStarted context (w.interfaceId r.interface) r.queues)).note
      (.receiveStopped context)
  let w := match p.transmitter with
    | none => w
    | some t => (w.note (.transmitStarted context (w.interfaceId t.interface) t.queues)).note
      (.transmitStopped context)
  match p.monitor with
  | none => w
  | some _ => (w.note (.statsStarted context p.statsPeriodNs)).note (.statsStopped context)

/-- Run each stage in a worker of its own until it sees that it should stop, which it does at
once. Answers whether a stop was requested; without one nothing is run. -/
def run (p : Pipeline β) (w : World β σ) : Bool × World β σ :=
  if !p.stopRequested then (false, w)
  else w.byWorker fun w => (true, p.passThrough w)

/-- Drop a stage; answers whether it was there. -/
def drop (p : Pipeline β) (w : World β σ) : WorkerRole → Bool × Pipeline β × World β σ
  | .receive =>
    match p.receiver with
    | none => (false, p, w)
    | some _ =>
      let (freed, lane) := p.lane.closeReceiver
      (true, { p with receiver := none, lane }, w.release freed)
  | .transmit =>
    match p.transmitter with
    | none => (false, p, w)
    | some _ =>
      let (freed, lane) := p.lane.closeTransmitter
      (true, { p with transmitter := none, lane }, w.release freed)
  | .stats =>
    match p.monitor with
    | none => (false, p, w)
    | some _ =>
      let (freed, lane) := p.lane.closeMonitor
      (true, { p with monitor := none, lane }, w.release freed)

/-- Drop every stage that is still there. -/
def dropAll (p : Pipeline β) (w : World β σ) : World β σ :=
  let (_, p, w) := p.drop w .receive
  let (_, p, w) := p.drop w .transmit
  (p.drop w .stats).2.2

end Pipeline

end EtherRelay
