import EtherRelay.World
/-!
# Frames in and out of the world

Operations that start from the bytes of frames, or end with them: the frames that go in are
put into buffers of the pool first, and the buffers that come out are given back once their
bytes are known.
-/

namespace EtherRelay.World

variable {σ : Type}

/-- Let frames arrive as one burst. The answer is how many were accepted, and how many got no
buffer. -/
def injectFrames (w : World Buffer σ) (index : Nat) (queue : QueueId) (frames : List Bytes) :
    Nat × Nat × World Buffer σ :=
  let (burst, missed, pool) := w.pool.allocFrames frames
  let (accepted, w) := { w with pool }.inject index queue burst
  (accepted, missed, w)

/-- Let one frame arrive in a buffer that belongs to no pool. -/
def injectFrame (w : World Buffer σ) (index : Nat) (queue : QueueId) (frame : Bytes) :
    Bool × World Buffer σ :=
  let (accepted, w) := w.inject index queue [Buffer.ofFrame frame]
  (accepted == 1, w)

/-- Take frames from a receive queue. -/
def receiveFrames (w : World Buffer σ) (index : Nat) (queue : QueueId) (max : Nat) :
    List Bytes × World Buffer σ :=
  let (burst, w) := w.receive index queue max
  (burst.map Buffer.data, w.release burst)

/-- Transmit frames as one burst. The answer is how many were accepted, those that were not,
and how many got no buffer. -/
def transmitFrames (w : World Buffer σ) (index : Nat) (queue : QueueId) (frames : List Bytes) :
    Nat × List Bytes × Nat × World Buffer σ :=
  let (burst, missed, pool) := w.pool.allocFrames frames
  let (accepted, left, w) := { w with pool }.transmit index queue burst
  (accepted, left.map Buffer.data, missed, w.release left)

/-- Take the frames that an interface kept for a transmit queue. -/
def takeFrames (w : World Buffer σ) (index : Nat) (queue : QueueId) :
    List Bytes × World Buffer σ :=
  let (burst, w) := w.takeTransmitted index queue
  (burst.map Buffer.data, w.release burst)

/-- Flush the capture of an interface. -/
def flushCapture (w : World Buffer σ) (index : Nat) : World Buffer σ :=
  w.modifyInterface index fun i =>
    { i with capture := i.capture.map fun exporter => exporter.flush.2 }

end EtherRelay.World
