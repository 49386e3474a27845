import EtherRelay.Hardware.Layout
import EtherRelay.Number.Checked
/-!
# Register file with latched counters

Counters accumulate out of sight. Writing the latch value to the latch register of a block
makes every accumulator of that block readable at once and changes none of them; any other
write simply puts a value into a register. Registers that were never made readable read zero.

A `Table` holds the few registers that were touched; `Table.get?_set` is its only law.
-/

namespace EtherRelay.Hardware

/-- Values by register offset, the offsets in the order of their first use. -/
structure Table (α : Type) where
  entries : List (UInt32 × α) := []
  deriving Repr

namespace Table

variable {α : Type}

/-- The value kept for an offset. -/
def get? (t : Table α) (offset : UInt32) : Option α :=
  (t.entries.find? fun e => e.1 == offset).map Prod.snd

/-- Replace the value for an offset, or add one behind the others. -/
def insert (offset : UInt32) (value : α) : List (UInt32 × α) → List (UInt32 × α)
  | [] => [(offset, value)]
  | e :: rest => if e.1 = offset then (offset, value) :: rest else e :: insert offset value rest

/-- Keep a value for an offset. -/
def set (t : Table α) (offset : UInt32) (value : α) : Table α :=
  ⟨insert offset value t.entries⟩

theorem get?_set (t : Table α) (offset place : UInt32) (value : α) :
    (t.set offset value).get? place = if offset = place then some value else t.get? place := by
  obtain ⟨entries⟩ := t
  simp only [set, get?]
  induction entries with
  | nil => by_cases h : offset = place <;> simp [insert, h]
  | cons e rest ih =>
    rw [insert]
    split
    · next he => by_cases h : offset = place <;> simp [he, h]
    · next he =>
      by_cases hp : e.1 = place
      · have apart : ¬offset = place := fun h => he (hp.trans h.symm)
        simp [hp, apart]
      · simp [hp, ih]

end Table

/-- Neighbouring registers: those from `start` on that come before `stop`. -/
structure Block where
  start : UInt32
  stop : UInt32
  deriving Repr, DecidableEq

namespace Block

def contains (block : Block) (offset : UInt32) : Bool :=
  block.start ≤ offset && offset < block.stop

/-- The block that a latch register belongs to. -/
def ofLatch (latch : UInt32) : Except Overflow Block := do
  let start ← checkedSub latch latchPlace
  let stop ← checkedAdd start blockStride
  pure ⟨start, stop⟩

theorem ofLatch_eq {latch : UInt32} (h : latchPlace ≤ latch) :
    ofLatch latch =
      (checkedAdd (latch - latchPlace) blockStride).map (⟨latch - latchPlace, ·⟩) := by
  rw [ofLatch, checkedSub_of_le h]
  cases hstop : checkedAdd (latch - latchPlace) blockStride <;>
    simp only [bind, Except.bind, hstop, pure, Except.pure, Except.map]

end Block

/-- The registers of a card. -/
structure Registers where
  /-- The running counters, out of sight. -/
  accumulators : Table UInt32 := {}
  /-- What reads of a register answer. -/
  visible : Table UInt32 := {}
  /-- How often each latch register was written. -/
  latches : Table UInt64 := {}
  deriving Repr

namespace Registers

/-- Add to a running counter; it wraps at `2 ^ 32`. -/
def bump (r : Registers) (offset delta : UInt32) : Registers :=
  { r with
    accumulators := r.accumulators.set offset ((r.accumulators.get? offset).getD 0 + delta) }

/-- Count frames, and their bytes, in the totals of one direction. -/
def countFrames (r : Registers) (totals : Totals UInt32) (frames bytes : UInt32) : Registers :=
  (((r.bump totals.packets frames).bump totals.goodPackets frames).bump totals.bytes bytes).bump
    totals.goodBytes bytes

/-- The value that a register reads. -/
def read (r : Registers) (offset : UInt32) : UInt32 :=
  (r.visible.get? offset).getD 0

/-- How often the latch register at an offset was written. -/
def latchCount (r : Registers) (offset : UInt32) : UInt64 :=
  (r.latches.get? offset).getD 0

/-- Whether an offset is the latch register of some block. -/
def isLatch (offset : UInt32) : Bool :=
  firstBlock ≤ offset && (offset - firstBlock) % blockStride == latchPlace

/-- Count a latch by the register at an offset. -/
def countLatch (r : Registers) (latch : UInt32) : Registers :=
  { r with latches := r.latches.set latch (r.latchCount latch + 1) }

/-- Make the running counters of a block readable. -/
def reveal (r : Registers) (block : Block) : Registers :=
  { r with
    visible := r.accumulators.entries.foldl
      (fun visible e => if block.contains e.1 then visible.set e.1 e.2 else visible)
      r.visible }

/-- Make the running counters of the block of a latch register readable. The latch counts before
the ends of the block are computed, and so it does where they do not fit. -/
def latchBlock (r : Registers) (latch : UInt32) : Except Overflow Unit × Registers :=
  let r := r.countLatch latch
  match Block.ofLatch latch with
  | .ok block => (.ok (), r.reveal block)
  | .error e => (.error e, r)

/-- Write a register. -/
def write (r : Registers) (offset value : UInt32) : Except Overflow Unit × Registers :=
  if value = latchValue ∧ isLatch offset then r.latchBlock offset
  else (.ok (), { r with visible := r.visible.set offset value })

end Registers

end EtherRelay.Hardware
