import EtherRelay.Forwarding.Lane
/-!
# Receivers

A receiver polls the source queues of a context. Probes of a received burst are admitted to
the stats ring one by one, all other frames to the relay ring as one burst that is admitted
whole or freed whole. The first overflow of each ring is reported and every later one only
counted.

`pollInto` is a poll with the lists that a receiver works with and keeps from one poll to the
next: a burst is received behind whatever the first still holds, and whatever the second still
holds is passed on together with the new data. `poll` starts with nothing in hand.
-/

namespace EtherRelay

/-- How the queue to read is found. -/
inductive QueueChoice where
  | fixed (queue : QueueId)
  | rotating (rotation : Rotation)
  deriving Repr, DecidableEq

/-- The receive stage of a context. -/
structure Receiver where
  /-- The position of the source interface in the world. -/
  interface : Nat
  queues : QueueSet
  choice : QueueChoice
  burstSize : Nat
  relayOverflowReported : Bool := false
  statsOverflowReported : Bool := false
  deriving Repr, DecidableEq

namespace Receiver

variable {β σ : Type} [FrameBuffer β]

/-- A receiver for the source end of a context. -/
def create (settings : Settings) (source : Binding) : Except ConfigError Receiver := do
  settings.validateSourceQueues source.queues.length
  let choice ← match settings.rxQueuePolicy with
    | .fixed index => match source.queues.get? index with
      | some queue => pure (QueueChoice.fixed queue)
      | none => throw (.fixedQueueIndex index source.queues.length)
    | .roundRobin => pure (.rotating {})
  pure
    { interface := source.interface
      queues := source.queues
      choice
      burstSize := settings.burstSize }

/-- The queue of the next poll. -/
def chooseQueue (r : Receiver) : QueueId × Receiver :=
  match r.choice with
  | .fixed queue => (queue, r)
  | .rotating rotation =>
    let (queue, rotation) := rotation.pick r.queues
    (queue, { r with choice := .rotating rotation })

/-- Whether a received frame is bound for the stats ring. -/
def isProbe (b : β) : Bool := Probe.isProbe (FrameBuffer.frame b)

/-- Pass a probe to the stats ring, or free it. -/
def admitProbe (r : Receiver) (lane : Lane β) (w : World β σ) (probe : β) :
    Receiver × Lane β × World β σ :=
  match lane.statsRing.enqueue probe with
  | (none, statsRing) => (r, { lane with statsRing }.count 1 .probesEnqueued, w)
  | (some refused, statsRing) =>
    let lane := { lane with statsRing }.count 1 .probeOverflowDrops
    let w := w.release [refused]
    if r.statsOverflowReported then (r, lane, w)
    else
      ({ r with statsOverflowReported := true }, lane,
        w.note (.statsRingFull lane.context statsRing.name))

/-- Pass probes to the stats ring in order. -/
def admitProbes (r : Receiver) (lane : Lane β) (w : World β σ) (probes : List β) :
    Receiver × Lane β × World β σ :=
  probes.foldl (fun (r, lane, w) probe => r.admitProbe lane w probe) (r, lane, w)

/-- Pass frames to the relay ring as one burst, or free them all. -/
def admitData (r : Receiver) (lane : Lane β) (w : World β σ) (data : List β) :
    Receiver × Lane β × World β σ :=
  match lane.relayRing.enqueueBulk data with
  | (_, none, relayRing) => (r, { lane with relayRing }.count data.length .relayed, w)
  | (refused, some full, relayRing) =>
    let lane := { lane with relayRing }.count data.length .relayOverflowDrops
    let w := w.release refused
    if r.relayOverflowReported then (r, lane, w)
    else
      ({ r with relayOverflowReported := true }, lane,
        w.note (.relayRingFull lane.context relayRing.name full))

/-- Pass on a burst that was received. -/
def distribute (r : Receiver) (lane : Lane β) (w : World β σ) (burst : List β) :
    Receiver × Lane β × World β σ :=
  let lane := (lane.count 1 .rxBursts).count burst.length .rxPackets
  let (r, lane, w) := r.admitProbes lane w (burst.filter isProbe)
  r.admitData lane w (burst.filter fun b => !isProbe b)

/-- Receive one burst and pass it on. The answer is the number of frames received. -/
def poll (r : Receiver) (lane : Lane β) (w : World β σ) :
    Nat × Receiver × Lane β × World β σ :=
  let (queue, r) := r.chooseQueue
  let (burst, w) := w.receive r.interface queue r.burstSize
  if burst.isEmpty then (0, r, lane, w)
  else (burst.length, r.distribute lane w burst)

/-! ## With frames in hand -/

/-- The frames that a receiver has in hand. -/
structure Hands (β : Type) where
  /-- The burst as it was received. -/
  burst : List β := []
  /-- Those of its frames that are bound for the relay ring. -/
  data : List β := []

/-- Pass a probe to the stats ring, and put any other frame to the data in hand. -/
def sortFrame (r : Receiver) (data : List β) (lane : Lane β) (w : World β σ) (frame : β) :
    Receiver × List β × Lane β × World β σ :=
  if isProbe frame then
    let (r, lane, w) := r.admitProbe lane w frame
    (r, data, lane, w)
  else (r, data ++ [frame], lane, w)

/-- Sort the frames of a burst in order. -/
def sortBurst (r : Receiver) (data : List β) (lane : Lane β) (w : World β σ) (burst : List β) :
    Receiver × List β × Lane β × World β σ :=
  burst.foldl (fun (r, data, lane, w) frame => r.sortFrame data lane w frame) (r, data, lane, w)

/-- Pass the data in hand to the relay ring, if there is any. What the ring leaves of it stays in
hand, except that a refused burst is freed. -/
def handOver (r : Receiver) (data : List β) (lane : Lane β) (w : World β σ) :
    Receiver × List β × Lane β × World β σ :=
  if data.isEmpty then (r, data, lane, w)
  else
    match lane.relayRing.enqueueBulk data with
    | (left, none, relayRing) => (r, left, { lane with relayRing }.count data.length .relayed, w)
    | (left, some full, relayRing) =>
      let lane := { lane with relayRing }.count data.length .relayOverflowDrops
      if r.relayOverflowReported then (r, [], lane, w.release left)
      else
        ({ r with relayOverflowReported := true }, [], lane,
          (w.note (.relayRingFull lane.context relayRing.name full)).release left)

/-- Receive one burst behind what is in hand and pass everything on. The answer is the number of
frames received. -/
def pollInto (r : Receiver) (hands : Hands β) (lane : Lane β) (w : World β σ) :
    Nat × Receiver × Hands β × Lane β × World β σ :=
  let (queue, r) := r.chooseQueue
  let (received, w) := w.receive r.interface queue r.burstSize
  let burst := hands.burst ++ received
  if received.length = 0 then (0, r, { hands with burst }, lane, w)
  else
    let lane := (lane.count 1 .rxBursts).count received.length .rxPackets
    let (r, data, lane, w) := r.sortBurst hands.data lane w burst
    let (r, data, lane, w) := r.handOver data lane w
    (received.length, r, ⟨[], data⟩, lane, w)

end Receiver

end EtherRelay
