import EtherRelay.Buffer
/-!
# Buffer pools

A pool owns a fixed number of storages, lends them out as empty buffers and takes them back.
It counts what it lent, what came back, and how often it had nothing to lend.

Allocation takes the storage that has been in stock longest and then counts it; release counts
the buffer and then puts the storage behind the others. The stock has room for all storages of
the pool and for no more. `Pool.inUse` is the number of buffers that are out.

`Pool.stats` reads the counters one after the other. `PoolStats.inUse` is the number of buffers
that are out according to what was read.
-/

namespace EtherRelay

/-- A fixed stock of storages and what became of them. -/
structure Pool where
  capacity : Nat
  headroom : Nat
  /-- The storages that are not lent out. -/
  free : List Bytes
  allocated : UInt64 := 0
  freed : UInt64 := 0
  exhausted : UInt64 := 0
  deriving Repr

/-- What a pool tells of itself. -/
structure PoolStats where
  capacity : Nat
  allocated : UInt64
  freed : UInt64
  exhausted : UInt64
  deriving Repr, DecidableEq

/-- The buffers that are lent out, as the two counters tell. -/
def PoolStats.inUse (s : PoolStats) : UInt64 := s.allocated - s.freed

namespace Pool

/-- A pool of `capacity` storages of `headroom + dataRoom` bytes each. -/
def create (capacity : Nat) (headroom : Nat := Buffer.defaultHeadroom)
    (dataRoom : Nat := Buffer.defaultDataRoom) : Pool where
  capacity := capacity
  headroom := headroom
  free := List.replicate capacity (List.replicate (headroom + dataRoom) 0)

/-- The buffers that are lent out. -/
def inUse (p : Pool) : UInt64 := p.allocated - p.freed

/-- Read the counters: those that were lent, then those that came back, then the failures. -/
def stats (p : Pool) : PoolStats where
  capacity := p.capacity
  allocated := p.allocated
  freed := p.freed
  exhausted := p.exhausted

/-- Take a storage from the stock. -/
def takeStorage (p : Pool) : Option Bytes × Pool :=
  match p.free with
  | [] => (none, p)
  | storage :: rest => (some storage, { p with free := rest })

/-- The most storages that the stock holds. -/
def stockRoom (p : Pool) : Nat := max p.capacity 1

/-- Put a storage back into the stock, behind the others. One that finds no room is lost. -/
def giveBack (p : Pool) (storage : Bytes) : Pool :=
  if p.free.length < p.stockRoom then { p with free := p.free ++ [storage] } else p

def countAllocated (p : Pool) : Pool := { p with allocated := p.allocated + 1 }

def countFreed (p : Pool) : Pool := { p with freed := p.freed + 1 }

def countExhausted (p : Pool) : Pool := { p with exhausted := p.exhausted + 1 }

/-- Lend an empty buffer, if there is one. -/
def alloc (p : Pool) : Option Buffer × Pool :=
  match p.takeStorage with
  | (none, p) => (none, p.countExhausted)
  | (some storage, p) =>
    (some { storage, headroom := p.headroom, pooled := true }, p.countAllocated)

/-- Take a buffer back. A buffer that belongs to no pool is simply gone. -/
def release (p : Pool) (b : Buffer) : Pool :=
  if b.pooled then p.countFreed.giveBack b.storage else p

/-- Lend a buffer that holds the frame. A buffer too small for it comes back at once. -/
def allocFrame (p : Pool) (frame : Bytes) : Option Buffer × Pool :=
  match p.alloc with
  | (none, p) => (none, p)
  | (some b, p) =>
    match b.append? frame with
    | some b => (some b, p)
    | none => (none, p.release b)

/-- Lend buffers for as many of the frames as possible, in order. The answer also says how
many frames got none. -/
def allocFrames (p : Pool) : List Bytes → List Buffer × Nat × Pool
  | [] => ([], 0, p)
  | frame :: frames =>
    let (b?, p) := p.allocFrame frame
    let (buffers, missed, p) := p.allocFrames frames
    match b? with
    | some b => (b :: buffers, missed, p)
    | none => (buffers, missed + 1, p)

end Pool

/-- What the relay needs of a buffer: to look at its frame, and to give it back. -/
class FrameBuffer (β : Type) where
  frame : β → Bytes
  release : β → Pool → Pool

instance : FrameBuffer Buffer where
  frame := Buffer.data
  release b p := p.release b

/-- Give back a list of buffers, first to last. -/
def Pool.releaseAll {β : Type} [FrameBuffer β] (p : Pool) (buffers : List β) : Pool :=
  buffers.foldl (fun p b => FrameBuffer.release b p) p

end EtherRelay
