import EtherRelay.Capture.Directory
import EtherRelay.Relay
import EtherRelay.Telemetry.Datagram
import EtherRelay.Workbench.CommandLine
import EtherRelay.Workbench.Traffic
/-!
# Setting up a run

A run is set up in one order: the settings of the relay are checked, the folder for captures is
made, the ports are declared, and then each context is bound to its source, bound to its
destination and added, together with the generator of its traffic. The first fault ends it; what
was set up so far remains.
-/

namespace EtherRelay.Workbench

/-- Why a run failed. -/
inductive RunError where
  | settings (e : ConfigError)
  | folder (path : String) (e : PathError)
  | capture (e : Capture.CaptureError)
  | duplicatePort (port : UInt16)
  | unknownPort (port : UInt16)
  | queues (e : ConfigError)
  | context (id : UInt16) (e : ContextError)
  /-- A source could not work out the pause between its bursts. -/
  | trafficFailed
  | shutdown (e : ContextError)
  deriving Repr, DecidableEq

/-- The texts of a failure and of the failures behind it, outermost first. -/
def RunError.chain : RunError → List String
  | .settings e => ["invalid relay settings", e.message]
  | .folder path e => [s!"failed to create {path}", e.message]
  | .capture e => [e.message, e.cause]
  | .duplicatePort port => [s!"port {port.toNat} is declared more than once"]
  | .unknownPort port => [s!"unknown port {port.toNat}"]
  | .queues e => [e.message]
  | .context id e =>
    s!"failed to create forwarding context {id.toNat}" :: e.message :: e.cause?.toList
  | .trafficFailed => ["traffic generator panicked"]
  | .shutdown e => e.message :: e.cause?.toList

/-- Where the telemetry of a run goes. -/
inductive RunSink where
  | discard
  | datagrams (sink : DatagramSink)
  /-- Printed among the other lines. -/
  | print (records : List String)
  deriving Repr, DecidableEq

namespace RunSink

def publish (s : RunSink) (record : String) : Except PublishError Unit × RunSink :=
  match s with
  | .discard => (.ok (), s)
  | .datagrams sink =>
    let (r, sink) := sink.publish record
    (r, .datagrams sink)
  | .print records => (.ok (), .print (records ++ [record]))

instance : Sink RunSink where
  publish := publish

/-- The sink that the options ask for. -/
def ofOptions (o : Options) : RunSink :=
  if o.noTelemetry then .discard
  else match o.telemetryUdp with
    | some destination => .datagrams { destination }
    | none => .print []

/-- The printed records, without the ends of their lines. -/
def printed : RunSink → List String
  | .print records => records.map fun r => String.ofList r.toList.dropLast
  | _ => []

end RunSink

/-- The traffic of one context. -/
structure Source where
  port : UInt16
  generator : Generator
  /-- The position of the context in the relay. -/
  context : Nat
  deriving Repr

/-- What has been set up. -/
structure Site where
  world : World Buffer RunSink
  relay : Relay Buffer
  sources : List Source := []
  /-- The folder for captures, if they are wanted. -/
  captures : Option Capture.Folder := none

namespace Site

/-- The position of the interface with a port. -/
def port? (s : Site) (port : UInt16) : Option Nat :=
  s.world.interfaces.findIdx? fun i => i.id.port == port

/-- A site without ports and contexts. -/
def empty (settings : Settings) (poolSize : Nat) : Site where
  world :=
    { interfaces := [], sink := .discard, clock := { hz := Clock.monotonicHz }
      pool := Pool.create poolSize }
  relay := { settings }

/-- The capture files once all exporters have been closed. -/
def closedCaptures (s : Site) : Option Capture.Directory :=
  s.captures.map fun folder => s.world.interfaces.foldl (fun files i =>
    match i.capture with
    | none => files
    | some exporter =>
      files.writeAt (Capture.fileName i.id.name) 0 exporter.close.content) folder.directory

end Site

/-- A step of setting up, which keeps what was set up before a fault. -/
abbrev Setup := ExceptT RunError (StateM Site)

namespace Setup

/-- Make the folder for captures, if they are wanted. -/
def makeFolder (tree : FileTree) (path? : Option String) : Setup Unit := do
  match path? with
  | none => pure ()
  | some path =>
    match tree.makeAll path with
    | .error e => throw (.folder path e)
    | .ok tree => modify fun s => { s with captures := some { path, tree } }

/-- Start the capture of an interface, if captures are wanted. -/
def startCapture (name : String) : Setup (Option (Capture.Exporter BoundedDevice)) := do
  match (← get).captures with
  | none => pure none
  | some folder =>
    match folder.createExporter name with
    | (.error e, _) => throw (.capture e)
    | (.ok _, folder) =>
      modify fun s => { s with captures := some folder }
      pure (some (.create {}))

/-- The interface of a port. -/
def interfaceFor (p : PortPlan) (capture : Option (Capture.Exporter BoundedDevice)) :
    Interface Buffer :=
  let made : Interface Buffer :=
    { Interface.create ⟨p.port, p.name⟩ p.rxQueues.toNat p.txQueues.toNat p.rxDepth with
      retains := false
      hardware := p.cmac.map Hardware.Layout.ofIndex
      capture }
  { made with txQueues := made.txQueues.map fun q => { q with limit := p.txLimit } }

/-- Declare a port. -/
def declarePort (p : PortPlan) : Setup Unit := do
  if ((← get).port? p.port).isSome then throw (.duplicatePort p.port)
  let capture ← startCapture p.name
  modify fun s =>
    { s with
      world := { s.world with
        interfaces := s.world.interfaces ++ [interfaceFor p capture] }.note
          (.portReady ⟨p.port, p.name⟩) }

/-- Bind one end of a context to its port. -/
def bind (e : EndPlan) : Setup Binding := do
  let site ← get
  match site.port? e.port with
  | none => throw (.unknownPort e.port)
  | some interface =>
    match e.queueSet with
    | .error e => throw (.queues e)
    | .ok queues =>
      pure { interface, queues, hardware := (site.world.interfaces[interface]?).bind (·.hardware) }

/-- Add a context and the generator of its traffic. -/
def addContext (plan : TrafficPlan) (seed : UInt64) (c : ContextPlan) : Setup Unit := do
  let source ← bind c.source
  let destination ← bind c.destination
  let site ← get
  match site.relay.add c.id source destination site.world with
  | (.error e, relay) =>
    modify fun s => { s with relay }
    throw (.context c.id e)
  | (.ok _, relay) =>
    let index := site.sources.length
    let generator := Generator.create (seed + UInt64.ofNat index) source.interface source.queues
      plan site.world.wallNs
    modify fun s => { s with
      relay
      sources := s.sources ++ [⟨c.source.port, generator, index⟩] }

/-- Set up everything in the working folder. -/
def all (tree : FileTree) (o : Options) (c : Configuration) (seed : UInt64) : Setup Unit := do
  match c.relay.validate with
  | .error e => throw (.settings e)
  | .ok () => pure ()
  makeFolder tree o.captureDir
  for p in c.interfaces do
    declarePort p
  for x in c.contexts do
    addContext c.traffic seed x

end Setup

end EtherRelay.Workbench
