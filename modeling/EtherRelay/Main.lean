import EtherRelay.Workbench.Simulation
/-!
# The workbench program

Runs a configuration in simulated time. Standard output carries the summary and, unless it goes
elsewhere, the telemetry; standard error carries the log and what went wrong.
-/

namespace EtherRelay.Program

open Workbench

/-- The text for somebody who asks for help. -/
def usage : String :=
  "Usage: workbench --config <CONFIG> [--duration-ms <MS>] [--non-deterministic]\n" ++
  "         [--traffic-rng-seed <SEED>] [--telemetry-udp <ADDRESS> | --no-telemetry]\n" ++
  "         [--capture-dir <DIR>] [--tsc-clock]"

/-- The text for a command line that is not understood. -/
def commandLineFault : CommandLineError → String
  | .unknownArgument => "unexpected argument"
  | .needlessValue => "a switch takes no value"
  | .missingValue => "a value is required"
  | .badValue => "invalid value"
  | .conflict => "an option is given twice or next to one that rules it out"
  | .missingOption => "the option --config is required"
  | .help => usage

/-- An event as a line of the log. -/
def logLine (e : Event) : String :=
  " ".intercalate
    (e.level.text :: e.message :: e.fields.map fun (key, value) => key ++ "=" ++ value)

/-- The texts of a failure, one on each line. -/
def failureLines : List String → List String
  | [] => []
  | outer :: causes => ("Error: " ++ outer) :: causes.map ("  caused by: " ++ ·)

/-- The content of a file. -/
def readFile (path : String) : IO (Except LoadError Bytes) := do
  try
    pure (.ok (← IO.FS.readBinFile path).toList)
  catch _ => pure (.error .unreadable)

/-- Write the capture files into their folder. -/
def writeCaptures (folder : String) (files : Capture.Directory) : IO Unit := do
  IO.FS.createDirAll folder
  for (name, content) in files.files do
    IO.FS.writeBinFile (folder ++ "/" ++ name) ⟨content.toArray⟩

/-- Print lines where results go. -/
def printLines (lines : List String) : IO Unit := do
  for line in lines do
    IO.println line

/-- Print lines where reports go. -/
def reportLines (lines : List String) : IO Unit := do
  for line in lines do
    IO.eprintln line

/-- Run with options and a configuration; the answer is the exit code. -/
def runWith (o : Options) (c : Configuration) : IO UInt32 := do
  let seed := Wire.ofLittleEndian (← IO.getRandomBytes 8).toList
  let outcome := Simulation.run { entropy := UInt64.ofNat seed } o c
  reportLines ((outcome.log.filter fun e => e.level != .debug).map logLine)
  printLines outcome.printed
  if let (some folder, some files) := (o.captureDir, outcome.captures) then
    writeCaptures folder files
  match outcome.result with
  | .ok () => pure 0
  | .error e =>
    reportLines (failureLines e.chain)
    pure 1

/-- Load the configuration that the options name and run it. -/
def loadAndRun (o : Options) : IO UInt32 := do
  match (← readFile o.config) >>= Configuration.ofFile with
  | .error e =>
    reportLines (failureLines [e.message o.config])
    pure 1
  | .ok c => runWith o c

/-- Read the command line and run. -/
def run (arguments : List String) : IO UInt32 := do
  match CommandLine.read arguments with
  | .error .help =>
    IO.println usage
    pure 0
  | .error e =>
    IO.eprintln ("error: " ++ commandLineFault e)
    pure 2
  | .ok o => loadAndRun o

end EtherRelay.Program

/-- The program. -/
def main (arguments : List String) : IO UInt32 := EtherRelay.Program.run arguments
