import EtherRelay.Forwarding.Lane
/-!
# Transmitters

A transmitter moves bursts from the relay ring to the destination queues, one queue after
another. The turn passes on only when there was something to send. What the interface does not
accept is freed and counted.

`pollInto` is a poll with the burst that a transmitter keeps from one poll to the next: frames are
taken out of the ring behind whatever it still holds. `poll` starts with nothing in hand.
-/

namespace EtherRelay

/-- The transmit stage of a context. -/
structure Transmitter where
  /-- The position of the destination interface in the world. -/
  interface : Nat
  queues : QueueSet
  rotation : Rotation := {}
  burstSize : Nat
  deriving Repr, DecidableEq

namespace Transmitter

variable {β σ : Type} [FrameBuffer β]

/-- A transmitter for the destination end of a context. -/
def create (settings : Settings) (destination : Binding) : Transmitter where
  interface := destination.interface
  queues := destination.queues
  burstSize := settings.burstSize

/-- Take the next burst out of the relay ring. -/
def load (t : Transmitter) (lane : Lane β) : List β × Lane β :=
  let (burst, relayRing) := lane.relayRing.dequeueBurst t.burstSize
  (burst, { lane with relayRing })

/-- Send a burst on the queue whose turn it is and free what is left of it. -/
def send (t : Transmitter) (lane : Lane β) (w : World β σ) (burst : List β) :
    Transmitter × Lane β × World β σ :=
  let (queue, rotation) := t.rotation.pick t.queues
  let (accepted, left, w) := w.transmit t.interface queue burst
  let lane := (lane.count 1 .txBursts).count accepted .forwarded
  ({ t with rotation }, lane.count left.length .txPartialDrops, w.release left)

/-- Move one burst. The answer is the number of frames taken out of the relay ring. -/
def poll (t : Transmitter) (lane : Lane β) (w : World β σ) :
    Nat × Transmitter × Lane β × World β σ :=
  let (burst, lane) := t.load lane
  if burst.isEmpty then (0, t, lane, w)
  else (burst.length, t.send lane w burst)

/-- Move one burst together with the frames in hand. The answer is the number of frames taken out
of the relay ring. -/
def pollInto (t : Transmitter) (held : List β) (lane : Lane β) (w : World β σ) :
    Nat × Transmitter × List β × Lane β × World β σ :=
  let (dequeued, burst, relayRing) := lane.relayRing.dequeueInto held t.burstSize
  let lane := { lane with relayRing }
  if dequeued = 0 then (0, t, burst, lane, w)
  else
    let (queue, rotation) := t.rotation.pick t.queues
    let t := { t with rotation }
    let (sent, left, w) := w.transmit t.interface queue burst
    let lane := (lane.count 1 .txBursts).count sent .forwarded
    if left.isEmpty then (dequeued, t, left, lane, w)
    else (dequeued, t, [], lane.count left.length .txPartialDrops, w.release left)

end Transmitter

end EtherRelay
