import EtherRelay.Telemetry.Address
/-!
# The command line of the workbench

A *setting* takes a value, in the next argument or behind an equals sign; a *switch* stands
alone. Both are given by their long name and at most once. Nothing else is taken, and there are
no plain arguments.

A setting whose value is in the next argument is completed only when another option follows or
the arguments end, so an argument that is not understood is reported before a bad value that
stands ahead of it.
-/

namespace EtherRelay.Workbench

/-- What a command line asks for. -/
structure Options where
  /-- The path of the configuration file. -/
  config : String := ""
  durationMs : UInt64 := 5000
  /-- Whether to seed the traffic differently in each run. -/
  nonDeterministic : Bool := false
  trafficSeed : UInt64 := 42
  /-- Where to send telemetry, if not to standard output. -/
  telemetryUdp : Option Endpoint := none
  noTelemetry : Bool := false
  /-- Where to write captures, if anywhere. -/
  captureDir : Option String := none
  /-- Whether to measure time with the time stamp counter. -/
  tscClock : Bool := false
  deriving Repr, DecidableEq

/-- Why a command line gives no options. -/
inductive CommandLineError where
  | unknownArgument
  /-- A switch has a value. -/
  | needlessValue
  /-- A setting has no value, or an empty one where none makes sense. -/
  | missingValue
  | badValue
  /-- An option is given twice, or next to one that rules it out. -/
  | conflict
  | missingOption
  /-- Help is asked for. -/
  | help
  deriving Repr, DecidableEq

namespace CommandLine

/-- The options that take a value. -/
inductive Setting where
  | config | durationMs | trafficSeed | telemetryUdp | captureDir
  deriving Repr, DecidableEq

/-- The options that take none. -/
inductive Switch where
  | nonDeterministic | noTelemetry | tscClock
  deriving Repr, DecidableEq

/-- An option of either kind. -/
inductive Name where
  | setting (s : Setting)
  | switch (s : Switch)
  | help
  deriving Repr, DecidableEq

/-- The long names, without the dashes. -/
def longNames : List (String × Name) :=
  [("config", .setting .config), ("duration-ms", .setting .durationMs),
    ("traffic-rng-seed", .setting .trafficSeed), ("telemetry-udp", .setting .telemetryUdp),
    ("capture-dir", .setting .captureDir), ("non-deterministic", .switch .nonDeterministic),
    ("no-telemetry", .switch .noTelemetry), ("tsc-clock", .switch .tscClock), ("help", .help)]

/-- What an argument looks like. -/
inductive Form where
  /-- Two dashes and a name, perhaps with a value behind an equals sign. -/
  | long (name : String) (value : Option String)
  /-- One dash and letters. -/
  | short (letters : List Char)
  /-- Two dashes alone. -/
  | separator
  | plain
  deriving Repr, DecidableEq

/-- The form of an argument. -/
def Form.of (argument : String) : Form :=
  match argument.toList with
  | ['-', '-'] => .separator
  | '-' :: '-' :: rest =>
    let name := String.ofList (rest.takeWhile (· != '='))
    match rest.dropWhile (· != '=') with
    | [] => .long name none
    | _ :: value => .long name (some (String.ofList value))
  | '-' :: letter :: letters => .short (letter :: letters)
  | _ => .plain

/-- A command line that is being read. -/
structure State where
  options : Options := {}
  /-- The options given so far. -/
  given : List Name := []
  /-- A setting that waits to be completed, and its value once that was seen. -/
  pending : Option (Setting × Option String) := none
  /-- Whether the separator was seen. -/
  separated : Bool := false
  deriving Repr, DecidableEq

/-- A natural number below `2 ^ 64`, in digits that a plus sign may precede. -/
def word? (text : String) : Option UInt64 :=
  let digits := match text.toList with
    | '+' :: rest => rest
    | cs => cs
  if digits.isEmpty ∨ !digits.all Char.isDigit then none
  else
    let n := digits.foldl (fun n c => n * 10 + (c.toNat - '0'.toNat)) 0
    if n < UInt64.size then some (UInt64.ofNat n) else none

/-- Put the value of a setting into the options. -/
def Setting.apply (s : Setting) (value : String) (o : Options) : Except CommandLineError Options :=
  let parsed {α : Type} (a : Option α) (set : α → Options) : Except CommandLineError Options :=
    match a with
    | some a => .ok (set a)
    | none => .error .badValue
  let path (set : String → Options) : Except CommandLineError Options :=
    if value.isEmpty then .error .missingValue else .ok (set value)
  match s with
  | .config => path fun p => { o with config := p }
  | .durationMs => parsed (word? value) fun n => { o with durationMs := n }
  | .trafficSeed => parsed (word? value) fun n => { o with trafficSeed := n }
  | .telemetryUdp => parsed (Endpoint.ofText? value) fun e => { o with telemetryUdp := some e }
  | .captureDir => path fun p => { o with captureDir := some p }

/-- Turn a switch on. -/
def Switch.apply (s : Switch) (o : Options) : Options :=
  match s with
  | .nonDeterministic => { o with nonDeterministic := true }
  | .noTelemetry => { o with noTelemetry := true }
  | .tscClock => { o with tscClock := true }

namespace State

/-- Record an option, which must not have been given before. -/
def giving (st : State) (name : Name) : Except CommandLineError State :=
  if st.given.contains name then .error .conflict
  else .ok { st with given := name :: st.given }

/-- Take a setting with its value. -/
def set (st : State) (s : Setting) (value : String) : Except CommandLineError State := do
  let st ← st.giving (.setting s)
  let options ← s.apply value st.options
  pure { st with options }

/-- Complete the setting that waits. -/
def complete (st : State) : Except CommandLineError State :=
  match st.pending with
  | none => .ok st
  | some (_, none) => .error .missingValue
  | some (s, some value) => { st with pending := none }.set s value

/-- Take an option by name, perhaps with a value behind an equals sign. -/
def take (st : State) (name : Name) (value : Option String) : Except CommandLineError State :=
  match name, value with
  | .setting s, some value => do (← st.complete).set s value
  | .setting s, none => do pure { ← st.complete with pending := some (s, none) }
  | _, some _ => .error .needlessValue
  | .switch s, none => do
    let st ← (← st.complete).giving (.switch s)
    pure { st with options := s.apply st.options }
  | .help, none => do
    let _ ← st.complete
    throw .help

/-- Take an argument that is no option: the value that a setting waits for. -/
def value (st : State) (argument : String) : Except CommandLineError State :=
  match st.pending with
  | some (s, none) => .ok { st with pending := some (s, some argument) }
  | _ => .error .unknownArgument

/-- Take the next argument. -/
def argument (st : State) (text : String) : Except CommandLineError State :=
  if st.separated then .error .unknownArgument
  else match Form.of text with
    | .separator => .ok { st with separated := true }
    | .long name value =>
      match longNames.lookup name with
      | some name => st.take name value
      | none => .error .unknownArgument
    | .short letters =>
      if letters.head? = some 'h' then st.take .help none else .error .unknownArgument
    | .plain => st.value text

/-- The options, once all arguments have been taken. -/
def finish (st : State) : Except CommandLineError Options := do
  let st ← st.complete
  if st.given.contains (.switch .noTelemetry) ∧ st.given.contains (.setting .telemetryUdp) then
    throw .conflict
  if !st.given.contains (.setting .config) then throw .missingOption
  pure st.options

end State

/-- Read the arguments that follow the name of the program. -/
def read (arguments : List String) : Except CommandLineError Options := do
  (← arguments.foldlM State.argument {}).finish

end CommandLine

end EtherRelay.Workbench
