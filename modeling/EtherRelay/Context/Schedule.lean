import EtherRelay.Context
/-!
# Running contexts to rest

The workers of all contexts take turns until none of them finds anything to do or can go on.
Workers poll without pause, so what they can do they do at once; only samples wait for time to
pass. `settle` runs the workers, and `waitFor` lets time pass until a condition holds.

A round gives each worker a turn, and the receiver one for each of its queues. The number of
rounds is bounded by the frames that are still on their way, since a round that changes
anything moves one of them on.
-/

namespace EtherRelay.Schedule

variable {β σ : Type} [FrameBuffer β] [Sink σ]

/-- What shows that a round changed something: the counters and, for each worker, whether it
rests, whether it has left its loop, and when the next sample is due. -/
def mark (c : Context β) : Counters × List Bool × Nat :=
  match c.body with
  | .running k =>
    (c.lane.counters,
      [WorkerRole.receive, .transmit, .stats].flatMap fun role => [k.rests role, k.isDone role],
      k.stats.nextSampleNs)
  | _ => (c.lane.counters, [], 0)

/-- Give each worker of a context a turn. -/
def round (closed : List Door) (c : Context β) (w : World β σ) : Context β × World β σ :=
  let turns := fun (c, w) => c.turn closed .receive c.turnFuel w
  let (c, w) := c.source.queues.length.repeat turns (c, w)
  let (c, w) := c.turn closed .transmit c.turnFuel w
  c.turn closed .stats c.turnFuel w

/-- Give each worker of every context a turn. -/
def roundAll (closed : List Door) (contexts : List (Context β)) (w : World β σ) :
    List (Context β) × World β σ :=
  match contexts with
  | [] => ([], w)
  | c :: rest =>
    let (c, w) := round closed c w
    let (rest, w) := roundAll closed rest w
    (c :: rest, w)

/-- Give rounds until one changes nothing, at most `fuel` of them. -/
def settleWithin (closed : List Door) :
    (fuel : Nat) → List (Context β) → World β σ → List (Context β) × World β σ
  | 0, contexts, w => (contexts, w)
  | fuel + 1, contexts, w =>
    let (after, w) := roundAll closed contexts w
    if after.map mark = contexts.map mark then (after, w)
    else settleWithin closed fuel after w

/-- The sum of a measure over a list. -/
def total {α : Type} (measure : α → Nat) (xs : List α) : Nat :=
  xs.foldr (fun x sum => measure x + sum) 0

/-- The frames that may still move. -/
def backlog (contexts : List (Context β)) (w : World β σ) : Nat :=
  total (fun i => total List.length i.rxQueues) w.interfaces
    + total (fun c => c.lane.relayRing.length + c.lane.statsRing.length) contexts

/-- Run the workers until nothing changes any more. -/
def settle (closed : List Door) (contexts : List (Context β)) (w : World β σ) :
    List (Context β) × World β σ :=
  settleWithin closed (4 * backlog contexts w + 8 * contexts.length + 8) contexts w

/-- The time at which the next sample is due, if a stats worker is waiting for it. -/
def nextSample (contexts : List (Context β)) : Option Nat :=
  (contexts.filterMap fun c => match c.body with
    | .running k => if k.isDone .stats then none else some k.stats.nextSampleNs
    | _ => none).min?

/-- Let the workers run, and time pass, until the condition holds. Time passes from one due
sample to the next, at most `fuel` times; the answer says whether the condition holds. -/
def waitFor (closed : List Door) (condition : List (Context β) → World β σ → Bool) :
    (fuel : Nat) → List (Context β) → World β σ → Bool × List (Context β) × World β σ
  | 0, contexts, w => (condition contexts w, contexts, w)
  | fuel + 1, contexts, w =>
    let (contexts, w) := settle closed contexts w
    if condition contexts w then (true, contexts, w)
    else match nextSample contexts with
      | none => (false, contexts, w)
      | some ns =>
        waitFor closed condition fuel contexts { w with wallNs := max w.wallNs ns }

end EtherRelay.Schedule
