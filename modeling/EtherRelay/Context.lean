import EtherRelay.Context.Lifecycle
import EtherRelay.Context.Worker
/-!
# Forwarding contexts

A context binds a source interface with its queues to a destination interface with its queues.
It owns the two rings between its workers. It is created, launched, joined once its workers
have left their loops, and destroyed, which releases the rings and every buffer in them; each
operation applies to one of these phases only. A context may be given up in any phase, and
then releases its rings as well.

Joining fails if a worker crashed; the rings are released all the same.
-/

namespace EtherRelay

/-- Why an operation on contexts failed. -/
inductive ContextError where
  | config (error : ConfigError)
  | ring (error : RingError)
  | workerPanicked (context : UInt16) (worker : WorkerRole)
  | duplicateContext (context : UInt16)
  deriving Repr, DecidableEq

namespace ContextError

/-- The text shown for a failure. -/
def message : ContextError → String
  | config _ => "invalid configuration"
  | ring _ => "failed to create ring"
  | workerPanicked context worker =>
    s!"the {worker.text} worker of context {context.toNat} panicked"
  | duplicateContext context => s!"context {context.toNat} was registered twice"

/-- The text of the failure behind it. -/
def cause? : ContextError → Option String
  | config e => some e.message
  | ring e => some e.message
  | _ => none

end ContextError

/-- What is left to say of a destroyed context. -/
structure ContextReport where
  id : UInt16
  source : InterfaceId
  destination : InterfaceId
  counters : Counters
  /-- Frames that were in the relay ring when the workers stopped. -/
  abandonedRelay : Nat
  /-- Probes that were in the stats ring when the workers stopped. -/
  abandonedStats : Nat
  deriving Repr, DecidableEq

/-- What a context consists of besides its rings. -/
inductive ContextBody (β : Type) where
  /-- Not launched. -/
  | created (receiver : Receiver) (transmitter : Transmitter)
  | running (workers : Workers β)
  /-- Joined. -/
  | drained
  /-- Destroyed or given up. -/
  | gone
  deriving Repr

/-- A forwarding context. -/
structure Context (β : Type) where
  sourceId : InterfaceId
  destinationId : InterfaceId
  source : Binding
  destination : Binding
  settings : Settings
  lifecycle : Lifecycle := {}
  lane : Lane β
  body : ContextBody β
  deriving Repr

namespace Context

variable {β σ : Type} [FrameBuffer β] [Sink σ]

def id (c : Context β) : UInt16 := c.lane.context

/-- The reported state. -/
def state (c : Context β) : ContextState := c.lifecycle.state

/-- Whether either end of the context is this interface. -/
def isBoundTo (c : Context β) (interface : InterfaceId) : Bool :=
  c.sourceId == interface || c.destinationId == interface

/-- Ask the workers to stop. This can be asked at any time. -/
def requestStop (c : Context β) : Context β :=
  { c with lifecycle := c.lifecycle.requestStop }

/-- Record that a phase was reached. -/
def advance (c : Context β) (phase : Phase) : Context β :=
  { c with lifecycle := c.lifecycle.advance phase }

/-- Make a context. Ring names are used up even if the receive policy turns out not to fit the
source queues. -/
def create (id : UInt16) (source destination : Binding) (settings : Settings)
    (names : RingNames) (w : World β σ) : Except ContextError (Context β) × RingNames :=
  match settings.validate with
  | .error e => (.error (.config e), names)
  | .ok () =>
    match Lane.create id settings names with
    | (.error e, names) => (.error (.ring e), names)
    | (.ok lane, names) =>
      match Receiver.create settings source with
      | .error e => (.error (.config e), names)
      | .ok receiver =>
        (.ok
          { sourceId := w.interfaceId source.interface
            destinationId := w.interfaceId destination.interface
            source, destination, settings, lane
            body := .created receiver (Transmitter.create settings destination) }, names)

/-- Start the three workers of a context that was only created. -/
def launch (c : Context β) (w : World β σ) : Option (Context β × World β σ) :=
  match c.body with
  | .created receiver transmitter =>
    let monitor := Monitor.create c.settings c.source c.destination w.clock.cycles
      c.settings.burstSize
    let workers : Workers β :=
      { receive := { stage := receiver }
        transmit := { stage := transmitter }
        stats :=
          { stage := monitor
            periodNs := c.settings.statsPeriodNs
            nextSampleNs := w.wallNs + c.settings.statsPeriodNs } }
    let ((), w) := w.byWorker fun w => ((),
      ((w.note (.receiveStarted c.id c.sourceId receiver.queues)).note
        (.transmitStarted c.id c.destinationId transmitter.queues)).note
        (.statsStarted c.id c.settings.statsPeriodNs))
    some ({ c with body := .running workers }.advance .running,
      w.note (.contextRunning c.id c.sourceId c.destinationId))
  | _ => none

/-! ## Running -/

/-- Let one worker do its next action. -/
def stepWorker (role : WorkerRole) (c : Context β) (w : World β σ) : Context β × World β σ :=
  match c.body with
  | .running workers =>
    w.byWorker fun w =>
      let (workers, lane, w) := workers.step c.lifecycle.stopRequested c.lane w role
      ({ c with body := .running workers, lane }, w)
  | _ => (c, w)

/-- Whether the next action of a worker leads through one of the closed doors. -/
def isHeld (closed : List Door) (role : WorkerRole) (c : Context β) : Bool :=
  match c.body with
  | .running workers => match workers.door? role with
    | some door => closed.contains door
    | none => false
  | _ => false

/-- Whether a worker is between two rounds of its loop, or there is no worker. -/
def rests (role : WorkerRole) (c : Context β) : Bool :=
  match c.body with
  | .running workers => workers.rests role
  | _ => true

/-- Let a worker act until it rests or is held up, at most `fuel` times. -/
def turn (closed : List Door) (role : WorkerRole) :
    (fuel : Nat) → Context β → World β σ → Context β × World β σ
  | 0, c, w => (c, w)
  | fuel + 1, c, w =>
    if c.isHeld closed role then (c, w)
    else
      let (c, w) := c.stepWorker role w
      if c.rests role then (c, w) else turn closed role fuel c w

/-- Enough actions for a worker to finish any poll and leave its loop. -/
def turnFuel (c : Context β) : Nat := 2 * c.settings.burstSize + 8

/-- Let a worker finish what it began and leave its loop. Doors do not hold it up. -/
def finishWorker (role : WorkerRole) (c : Context β) (w : World β σ) : Context β × World β σ :=
  let (c, w) := turn [] role c.turnFuel c w
  turn [] role c.turnFuel c w

/-- Let all workers finish, in the order in which they are waited for. -/
def finishWorkers (c : Context β) (w : World β σ) : Context β × World β σ :=
  let (c, w) := c.finishWorker .receive w
  let (c, w) := c.finishWorker .transmit w
  c.finishWorker .stats w

/-- The workers that crashed. -/
def crashedRoles (c : Context β) : List WorkerRole :=
  match c.body with
  | .running workers => workers.crashedRoles
  | _ => []

/-! ## Winding down -/

/-- Release both rings with all that is queued in them. -/
def releaseRings (c : Context β) (w : World β σ) : Context β × World β σ :=
  let (received, lane) := c.lane.closeReceiver
  let (relayed, lane) := lane.closeTransmitter
  let (probes, lane) := lane.closeMonitor
  ({ c with lane, body := .gone }, ((w.release received).release relayed).release probes)

/-- Stop a running context and wait until its workers have left their loops. If one of them
crashed, the context is given up and the first such worker is the answer. -/
def join (c : Context β) (w : World β σ) :
    Option (Except ContextError Unit × Context β × World β σ) :=
  match c.body with
  | .running _ =>
    let (c, w) := c.requestStop.finishWorkers w
    let crashed := c.crashedRoles
    let c := c.advance .drained
    some <| match crashed with
      | role :: _ =>
        let (c, w) := c.releaseRings w
        (.error (.workerPanicked c.id role), c, w)
      | [] => (.ok (), { c with body := .drained }, w.note (.contextDrained c.id))
  | _ => none

/-- Release the rings of a joined context and report what became of it. -/
def destroy (c : Context β) (w : World β σ) : Option (ContextReport × Context β × World β σ) :=
  match c.body with
  | .drained =>
    let report : ContextReport :=
      { id := c.id
        source := c.sourceId
        destination := c.destinationId
        counters := c.lane.counters
        abandonedRelay := c.lane.relayRing.length
        abandonedStats := c.lane.statsRing.length }
    let (c, w) := c.releaseRings w
    some (report, c.advance .destroyed,
      w.note (.contextDestroyed c.id report.counters.forwarded report.counters.totalDrops))
  | _ => none

/-- Give up a context that will never be launched. -/
def discard (c : Context β) (w : World β σ) : Option (Context β × World β σ) :=
  match c.body with
  | .created .. =>
    let (c, w) := c.releaseRings w
    some (c.advance .destroyed, w)
  | _ => none

/-- Give up a context. A running one is stopped first, and its crashed workers are reported. -/
def drop (c : Context β) (w : World β σ) : Context β × World β σ :=
  match c.body with
  | .gone => (c, w)
  | .created .. | .drained => c.releaseRings w
  | .running _ =>
    let w := w.note (.contextAbandoned c.id)
    let (c, w) := c.requestStop.finishWorkers w
    let w := c.crashedRoles.foldl (fun w role => w.note (.workerPanicked c.id role)) w
    let (c, w) := c.releaseRings w
    (c.advance .destroyed, w)

end Context

end EtherRelay
