import EtherRelay.Context.Schedule
import EtherRelay.Number.Seconds
import EtherRelay.Workbench.Setup
/-!
# The course of a run

A run goes from one point in time to the next: a burst of traffic arrives, a device event is
raised, or a sample is due. Between two such points the workers do all that they find to do,
which takes no time.

Events are raised in the order of their times, and in the order of the file if they are
simultaneous. An event that is not before the end of the run is only reported, and so is one for
a port that was not declared.
-/

namespace EtherRelay.Workbench

/-- A run on its way. -/
structure Course where
  site : Site
  /-- For each source, the time of its next burst; none if it has stopped. -/
  bursts : List (Option Nat)
  /-- The events that were not raised yet, in order. -/
  events : List DeviceEventPlan
  deadlineNs : Nat

namespace Course

/-- The events of a configuration in the order in which they are raised. -/
def sortedEvents (events : List DeviceEventPlan) : List DeviceEventPlan :=
  events.mergeSort fun a b => a.atMs ≤ b.atMs

/-- The seconds between two bursts of the same source. -/
def pauseSeconds (plan : TrafficPlan) : Double :=
  (Double.ofNat (max plan.burst 1)).div (Double.ofNat (max plan.packetsPerSecond.toNat 1))

/-- The time between two bursts of the same source; some time always passes. -/
def pauseNs (plan : TrafficPlan) : Nat := max 1 (pauseSeconds plan).toNanoseconds

/-- Whether the number of seconds between two bursts fits 64 bits. A source without such a pause
fails before its first burst. -/
def pauseFits (plan : TrafficPlan) : Bool := decide ((pauseSeconds plan).round < UInt64.size)

/-- Let the workers do what they find to do. -/
def settle (s : Site) : Site :=
  let (contexts, world) := Schedule.settle [] s.relay.contexts s.world
  { s with world, relay := { s.relay with contexts } }

/-- Let time pass, if it is not over already. -/
def passTo (ns : Nat) (s : Site) : Site :=
  let elapsed := ns - s.world.wallNs
  { s with world := { s.world with
      wallNs := s.world.wallNs + elapsed
      clock := s.world.clock.advance (UInt64.ofNat elapsed) } }

/-- Let time pass and the workers run on the way, through all samples that are due before. -/
def runTo (ns : Nat) : (fuel : Nat) → Site → Site
  | 0, s => passTo ns (settle s)
  | fuel + 1, s =>
    let s := settle s
    match Schedule.nextSample s.relay.contexts with
    | some due => if due < ns then runTo ns fuel (passTo due s) else passTo ns s
    | none => passTo ns s

/-- The number of samples that all contexts can take up to a time. -/
def sampleBound (ns : Nat) (s : Site) : Nat :=
  (s.relay.contexts.length + 1) * (ns / max s.relay.settings.statsPeriodNs 1 + 2)

def advance (c : Course) (ns : Nat) : Course :=
  { c with site := runTo ns (sampleBound ns c.site) c.site }

/-- Raise an event at its time, or report why it is not raised. -/
def raise (c : Course) (e : DeviceEventPlan) : Course :=
  let atNs := e.atMs.toNat * 1000000
  let report := fun (event : Event) =>
    { c with site := { c.site with world := c.site.world.note event } }
  if c.deadlineNs ≤ atNs then report (.deviceEventTooLate e.kind e.port)
  else match c.site.port? e.port with
    | none => report (.deviceEventUnknownPort e.kind e.port)
    | some index =>
      let c := c.advance atNs
      let interface := c.site.world.interfaceId index
      let world := c.site.world.note (.deviceEventRaised e.kind interface)
      match c.site.relay.deviceEvent e.kind interface world with
      | none => c
      | some (relay, world) => { c with site := settle { c.site with relay, world } }

/-- The time of the next burst and the position of its source. -/
def nextBurst (c : Course) : Option (Nat × Nat) :=
  (c.bursts.zipIdx.filterMap fun (due, i) => due.map fun ns => (ns, i)).foldl
    (fun best next => match best with
      | none => some next
      | some b => if next.1 < b.1 then some next else some b) none

/-- Let a source send its next burst, unless its context no longer runs. -/
def send (c : Course) (pause ns index : Nat) : Course :=
  let c := c.advance ns
  match c.site.sources[index]? with
  | none => { c with bursts := c.bursts.set index none }
  | some source =>
    let running := (c.site.relay.contexts[source.context]?.map (·.state)) == some .running
    if !running then { c with bursts := c.bursts.set index none }
    else
      let (generator, world) := source.generator.injectBurst c.site.world
      let next := ns + pause
      { c with
        site := settle { c.site with
          world
          sources := c.site.sources.set index { source with generator } }
        bursts := c.bursts.set index (if next < c.deadlineNs then some next else none) }

/-- Go on to the end of the run. -/
def run (pause : Nat) : (fuel : Nat) → Course → Course
  | 0, c => c
  | fuel + 1, c =>
    match c.events, c.nextBurst with
    | [], none => c
    | e :: rest, none => run pause fuel ({ c with events := rest }.raise e)
    | [], some (ns, i) => run pause fuel (c.send pause ns i)
    | e :: rest, some (ns, i) =>
      if e.atMs.toNat * 1000000 ≤ ns then run pause fuel ({ c with events := rest }.raise e)
      else run pause fuel (c.send pause ns i)

/-- The course of a run that starts now and ends after some milliseconds. -/
def start (s : Site) (c : Configuration) (durationMs : UInt64) : Course :=
  let deadlineNs := durationMs.toNat * 1000000
  { site := s
    bursts := s.sources.map fun _ =>
      if 0 < deadlineNs ∧ pauseFits c.traffic then some 0 else none
    events := sortedEvents c.events
    deadlineNs }

/-- The number of steps in a course. -/
def steps (c : Course) (pause : Nat) : Nat :=
  c.events.length + c.bursts.length * (c.deadlineNs / max pause 1 + 2)

/-- Whether a source had not stopped by itself when the run ended. -/
def isBusy (c : Course) : Bool :=
  c.site.sources.any fun s =>
    (c.site.relay.contexts[s.context]?.map (·.state)) == some .running

/-- The whole course. It lasts until the deadline if some traffic does, and ends with a failure
if the sources fail. -/
def finish (c : Course) (plan : TrafficPlan) : Except RunError Unit × Site :=
  let pause := pauseNs plan
  let c := run pause (c.steps pause) c
  if !pauseFits plan ∧ !c.site.sources.isEmpty then (.error .trafficFailed, c.site)
  else if c.isBusy then (.ok (), (c.advance c.deadlineNs).site)
  else (.ok (), c.site)

end Course

end EtherRelay.Workbench
