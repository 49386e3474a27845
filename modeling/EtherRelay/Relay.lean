import EtherRelay.Context
/-!
# Relays

A relay holds contexts with distinct ids, made with the same settings. It is started once,
which launches all of them, and shut down once, which stops all of them before it waits for
any. The device layer reports removed and reset interfaces to a relay that was started, even
after its end.
-/

namespace EtherRelay

/-- How far a relay has come. -/
inductive RelayPhase where
  /-- Contexts can be added. -/
  | building
  | running
  /-- Shut down or given up. -/
  | over
  deriving Repr, DecidableEq

/-- The contexts of a process, in the order in which they were added. -/
structure Relay (β : Type) where
  settings : Settings
  names : RingNames := {}
  contexts : List (Context β) := []
  phase : RelayPhase := .building
  /-- The device resets observed since the start, if there was one. -/
  resets : Option Nat := none
  deriving Repr

namespace Relay

variable {β σ : Type} [FrameBuffer β] [Sink σ]

/-- A relay without contexts, for settings that are acceptable. -/
def create (settings : Settings) : Except ConfigError (Relay β) := do
  settings.validate
  pure { settings }

/-- Add a context that no earlier one shares its id with. -/
def add (r : Relay β) (id : UInt16) (source destination : Binding) (w : World β σ) :
    Except ContextError (Context β) × Relay β :=
  if r.contexts.any fun c => c.id == id then (.error (.duplicateContext id), r)
  else
    match Context.create id source destination r.settings r.names w with
    | (.error e, names) => (.error e, { r with names })
    | (.ok c, names) => (.ok c, { r with names, contexts := r.contexts ++ [c] })

/-- Apply an operation to each context in order. -/
def forEach (f : Context β → World β σ → Context β × World β σ) :
    List (Context β) → World β σ → List (Context β) × World β σ
  | [], w => ([], w)
  | c :: rest, w =>
    let (c, w) := f c w
    let (rest, w) := forEach f rest w
    (c :: rest, w)

/-- Launch every context. -/
def start (r : Relay β) (w : World β σ) : Option (Relay β × World β σ) :=
  match r.phase with
  | .building =>
    let (contexts, w) := forEach (fun c w => (c.launch w).getD (c, w)) r.contexts w
    some ({ r with contexts, phase := .running, resets := some 0 },
      w.note (.relayStarted contexts.length))
  | _ => none

/-- Join a running context and destroy it. There is nothing to wind down in any other. -/
def windDown (c : Context β) (w : World β σ) :
    Option (Except ContextError ContextReport) × Context β × World β σ :=
  match c.join w with
  | none => (none, c, w)
  | some (.error e, c, w) => (some (.error e), c, w)
  | some (.ok (), c, w) =>
    match c.destroy w with
    | none => (none, c, w)
    | some (report, c, w) => (some (.ok report), c, w)

/-- A shutdown on its way. It goes through the contexts by their positions, twice. -/
structure Closing (β σ : Type) where
  contexts : List (Context β)
  world : World β σ
  /-- The contexts that are still to be asked to stop. -/
  toStop : List Nat
  /-- The contexts that are still to be joined. -/
  toJoin : List Nat
  reports : List ContextReport := []
  firstError : Option ContextError := none

namespace Closing

/-- Begin with nothing done yet. -/
def create (contexts : List (Context β)) (world : World β σ) : Closing β σ :=
  { contexts, world
    toStop := List.range contexts.length
    toJoin := List.range contexts.length }

/-- Ask the context at this position to stop. -/
def stop (k : Closing β σ) (index : Nat) : Closing β σ :=
  { k with contexts := k.contexts.modify index Context.requestStop }

/-- Join the context at this position and destroy it. Only the first failure is kept. -/
def join (k : Closing β σ) (index : Nat) : Closing β σ :=
  match k.contexts[index]? with
  | none => k
  | some c =>
    let (outcome, c, world) := windDown c k.world
    let k := { k with contexts := k.contexts.set index c, world }
    match outcome with
    | none => k
    | some (.ok report) => { k with reports := k.reports ++ [report] }
    | some (.error e) => { k with firstError := k.firstError.or (some e) }

/-- Do the next thing. No context is joined before all of them have been asked to stop, and a
failure does not keep the others from being joined. -/
def next (k : Closing β σ) : Closing β σ :=
  match k.toStop, k.toJoin with
  | index :: toStop, _ => { k with toStop }.stop index
  | [], index :: toJoin => { k with toJoin }.join index
  | [], [] => k

/-- Do the next things, so many of them. -/
def proceed : Nat → Closing β σ → Closing β σ
  | 0, k => k
  | n + 1, k => proceed n k.next

/-- Do all that is left to do. -/
def finish (k : Closing β σ) : Closing β σ := k.proceed (k.toStop.length + k.toJoin.length)

/-- The first failure, or else a report on each context. -/
def result (k : Closing β σ) : Except ContextError (List ContextReport) :=
  match k.firstError with
  | some e => .error e
  | none => .ok k.reports

end Closing

/-- Stop every context, then join and destroy each. -/
def shutdown (r : Relay β) (w : World β σ) :
    Option (Except ContextError (List ContextReport) × Relay β × World β σ) :=
  match r.phase with
  | .running =>
    let k := (Closing.create r.contexts w).finish
    let r := { r with contexts := k.contexts, phase := .over }
    some <| match k.result with
      | .ok reports => (.ok reports, r, k.world.note (.relayShutDown reports.length))
      | .error e => (.error e, r, k.world)
  | _ => none

/-- Give up the relay. Running contexts are all asked to stop before one is waited for. -/
def drop (r : Relay β) (w : World β σ) : Relay β × World β σ :=
  let contexts := match r.phase with
    | .running => r.contexts.map Context.requestStop
    | _ => r.contexts
  let (contexts, w) := forEach Context.drop contexts w
  ({ r with contexts, phase := .over }, w)

/-! ## Device events -/

/-- An interface was removed: every context bound to it is asked to stop. -/
def interfaceRemoved (r : Relay β) (interface : InterfaceId) (w : World β σ) :
    Relay β × World β σ :=
  let (contexts, w) := forEach (fun c w =>
    if c.isBoundTo interface then (c.requestStop, w.note (.interfaceRemoved c.id interface))
    else (c, w)) r.contexts w
  ({ r with contexts }, w)

/-- An interface was reset: this is counted and reported. -/
def interfaceReset (r : Relay β) (interface : InterfaceId) (w : World β σ) :
    Relay β × World β σ :=
  let affected := (r.contexts.filter fun c => c.isBoundTo interface).length
  ({ r with resets := r.resets.map (· + 1) }, w.note (.interfaceReset interface affected))

/-- The device layer reports an event; a relay that was never started does not listen. -/
def deviceEvent (r : Relay β) (kind : DeviceEventKind) (interface : InterfaceId)
    (w : World β σ) : Option (Relay β × World β σ) :=
  match r.resets with
  | none => none
  | some _ =>
    some <| match kind with
      | .removed => r.interfaceRemoved interface w
      | .reset => r.interfaceReset interface w

end Relay

end EtherRelay
