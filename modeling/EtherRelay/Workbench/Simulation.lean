import EtherRelay.Text.Lines
import EtherRelay.Workbench.ConfigurationFile
import EtherRelay.Workbench.Report
import EtherRelay.Workbench.Timeline
/-!
# Simulated runs

A run prints its parameters, is set up, takes its course, and ends with the shutdown of the relay
and a report. If setting up fails, the run ends there with the causes of the failure.
-/

namespace EtherRelay.Workbench

/-- What a run finds around it. -/
structure Surroundings where
  /-- The files that are known, by their paths. -/
  files : List (String × Bytes) := []
  /-- A number that differs from run to run. -/
  entropy : UInt64 := 0
  /-- The frequency of the time stamp counter. -/
  tscHz : UInt64 := Clock.monotonicHz
  deriving Repr

/-- What is left of a run. -/
structure Outcome where
  result : Except RunError Unit
  /-- What was printed, each text on lines of its own. -/
  printed : List String
  /-- The capture files, if a folder for them was made. -/
  captures : Option Capture.Directory
  log : List Event

/-- The printed lines. -/
def Outcome.lines (o : Outcome) : List String := o.printed.flatMap Text.lines

namespace Surroundings

/-- All files. One of them is everywhere, and empty. -/
def allFiles (s : Surroundings) : List (String × Bytes) := ("/dev/null", []) :: s.files

/-- The files and the folders that they lie in. -/
def tree (s : Surroundings) : FileTree := .ofFiles (s.allFiles.map Prod.fst)

/-- The content of the file at a path. -/
def read (s : Surroundings) (path : String) : Except LoadError Bytes :=
  match s.tree.find path with
  | .error _ => .error .unreadable
  | .ok .folder => .error .folder
  | .ok (.file names) =>
    match s.allFiles.find? fun f => FileTree.namesOf f.1 == names with
    | none => .error .unreadable
    | some f => .ok f.2

end Surroundings

namespace Simulation

/-- The seed of the traffic. -/
def seed (around : Surroundings) (o : Options) : UInt64 :=
  if o.nonDeterministic then around.entropy else o.trafficSeed

/-- What every run prints at first. -/
def parameters (around : Surroundings) (o : Options) : List String :=
  ["--- Params ---", s!"* Traffic seed: {(seed around o).toNat}", s!"* Config path: {o.config}",
    s!"* Duration: {o.durationMs.toNat} ms"]

/-- What is printed when the relay starts. -/
def announcement (around : Surroundings) (o : Options) : List String :=
  (if o.tscClock then [s!"* TSC frequency: {around.tscHz.toNat} Hz"] else [])
    ++ ["--- Running ---"]

/-- The report on a run. -/
def report (s : Site) (reports : List ContextReport) : List String :=
  let interfaces := (s.world.interfaces.map fun i => (i.id, i.counters)).mergeSort
    fun a b => a.1.port ≤ b.1.port
  Report.contexts reports s.world.wallNs ++ Report.interfaces interfaces
    ++ Report.traffic (s.sources.map fun x => (x.port, x.generator.stats))
    ++ Report.pool s.world.pool

/-- Shut the relay down. -/
def close (s : Site) : Except RunError (List ContextReport) × Site :=
  match s.relay.shutdown s.world with
  | none => (.ok [], s)
  | some (result, relay, world) => (result.mapError RunError.shutdown, { s with relay, world })

/-- Drop the relay. -/
def abandon (s : Site) : Site :=
  let (relay, world) := s.relay.drop s.world
  { s with relay, world }

/-- Start the relay, let the run take its course and shut the relay down. -/
def drive (o : Options) (c : Configuration) (s : Site) :
    Except RunError (List ContextReport) × Site :=
  let s := { s with world := { s.world with sink := RunSink.ofOptions o } }
  match s.relay.start s.world with
  | none => (.ok [], s)
  | some (relay, world) =>
    match (Course.start { s with relay, world } c o.durationMs).finish c.traffic with
    | (.ok (), s) => close s
    | (.error e, s) => (.error e, abandon s)

/-- Run a configuration. -/
def run (around : Surroundings) (o : Options) (c : Configuration) : Outcome :=
  let (ready, s) := Setup.all around.tree o c (seed around o)
    (Site.empty c.relay c.traffic.poolSize)
  match ready with
  | .error e => ⟨.error e, parameters around o, s.closedCaptures, s.world.log⟩
  | .ok () =>
    let (result, s) := drive o c s
    let printed := parameters around o ++ announcement around o ++ s.world.sink.printed
    let (result, printed) := match result with
      | .error e => (.error e, printed)
      | .ok reports => (.ok (), printed ++ report s reports)
    ⟨result, printed, s.closedCaptures, s.world.log⟩

/-- Why a program run has no outcome. -/
inductive Refusal where
  | commandLine (e : CommandLineError)
  | file (path : String) (e : LoadError)
  deriving Repr, DecidableEq

/-- Load the configuration at a path. -/
def load (around : Surroundings) (path : String) : Except Refusal Configuration :=
  (around.read path >>= Configuration.ofFile).mapError (.file path)

/-- The whole program: read the arguments, load the configuration, run it. -/
def program (around : Surroundings) (arguments : List String) :
    Except Refusal (Options × Outcome) := do
  let o ← (CommandLine.read arguments).mapError .commandLine
  let c ← load around o.config
  pure (o, run around o c)

end Simulation

end EtherRelay.Workbench
