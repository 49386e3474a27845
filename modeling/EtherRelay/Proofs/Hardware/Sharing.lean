import EtherRelay.Proofs.Hardware.Latching
import Mathlib.Data.List.Forall2
import Mathlib.Data.List.Nodup

/-!
# Readers that share a block

A reader takes a snapshot in many steps: it latches its block, and then reads one register after
another. On a card several readers do so at once, and counting goes on between any two of their
steps. A call keeps the registers as they were at each instant since its latch.

Each value that a call reads is that of its counter at some instant of the call. As long as no
other reader latches the same block in the meantime, all of them belong to the instant of the
latch. After such a latch, though, the remaining registers show a later instant.
-/

namespace EtherRelay.Hardware

namespace Snapshot

variable (r : Registers) (layout : Layout) (extended : Bool)

/-- The snapshot whose values were read in order. -/
def assemble (layout : Layout) (extended : Bool) (values : List UInt32) : Snapshot where
  tx := ⟨values.getD 0 0, values.getD 1 0, values.getD 2 0, values.getD 3 0⟩
  rx := ⟨values.getD 4 0, values.getD 5 0, values.getD 6 0, values.getD 7 0⟩
  extended := if extended then (layout.extended.map Prod.fst).zip (values.drop 8) else []

/-- The snapshot of the running counters themselves. -/
def ofTotals : Snapshot := ofRegisters { r with visible := r.accumulators } layout extended

/-- A snapshot reads some register. -/
theorem reads_eq_cons : ∃ offset left, reads layout extended = offset :: left := ⟨_, _, rfl⟩

theorem assemble_read :
    assemble layout extended ((reads layout extended).map r.read) =
      ofRegisters r layout extended := by
  cases extended
  · rfl
  · have hzip : (layout.extended.map Prod.fst).zip
        ((layout.extended.map Prod.snd).map r.read) =
        layout.extended.map fun e => (e.1, r.read e.2) := by
      rw [List.map_map, List.zip_map']
      rfl
    rw [assemble, ofRegisters, if_pos rfl, if_pos rfl]
    exact congrArg (Snapshot.mk _ _) hzip

/-- A snapshot is a latch and then the reads one by one. -/
theorem take_eq_assemble :
    take r layout extended =
      (assemble layout extended
        ((reads layout extended).map (r.write layout.latch latchValue).2.read),
        (r.write layout.latch latchValue).2) := by
  rw [assemble_read]
  rfl

theorem assemble_total :
    assemble layout extended ((reads layout extended).map r.total) =
      ofTotals r layout extended :=
  assemble_read { r with visible := r.accumulators } layout extended

end Snapshot

/-! ## Cards -/

/-- A snapshot that is being taken. -/
structure Call where
  /-- The registers that were not read yet. -/
  left : List UInt32
  values : List UInt32 := []
  /-- The registers at each instant since the latch, oldest first. -/
  instants : List Registers
  /-- Whether another reader has latched the block since. -/
  shared : Bool := false

/-- One that takes snapshots of the block with the given number. -/
structure Reader where
  index : UInt8
  extended : Bool
  call : Option Call := none

/-- A snapshot that was taken, and what it was taken from. -/
structure Taken where
  index : UInt8
  extended : Bool
  values : List UInt32
  instants : List Registers
  shared : Bool

def Taken.snapshot (t : Taken) : Snapshot :=
  .assemble (.ofIndex t.index) t.extended t.values

/-- The registers of a card with those who read them. -/
structure Card where
  registers : Registers := {}
  readers : List Reader
  taken : List Taken := []

/-- An access that nothing can interrupt. -/
inductive Access where
  /-- Add to a running counter. -/
  | count (offset delta : UInt32)
  /-- The next access of the reader at this position. -/
  | reader (position : Nat)

namespace Reader

/-- A call that is under way lives through another instant. -/
def observe (registers : Registers) (d : Reader) : Reader :=
  { d with call := d.call.map fun c => { c with instants := c.instants ++ [registers] } }

/-- A call that is under way shares its block with another latch. -/
def share (index : UInt8) (d : Reader) : Reader :=
  if d.index = index then { d with call := d.call.map fun c => { c with shared := true } } else d

theorem index_share (index : UInt8) (d : Reader) : (d.share index).index = d.index := by
  rw [share]
  split <;> rfl

theorem extended_share (index : UInt8) (d : Reader) : (d.share index).extended = d.extended := by
  rw [share]
  split <;> rfl

theorem call_share {index : UInt8} {d : Reader} {c : Call} (h : (d.share index).call = some c) :
    ∃ c', d.call = some c' ∧ (if d.index = index then { c' with shared := true } else c') = c := by
  rw [share] at h
  split at h
  · next hsame =>
    obtain ⟨c', hc', hshared⟩ := Option.map_eq_some_iff.mp h
    exact ⟨c', hc', (if_pos hsame).trans hshared⟩
  · next hother => exact ⟨c, h, if_neg hother⟩

/-- Begin a call at the instant of its latch. -/
def begin (registers : Registers) (d : Reader) : Reader :=
  let call : Call :=
    { left := Snapshot.reads (.ofIndex d.index) d.extended, instants := [registers] }
  { d with call := some call }

end Reader

namespace Card

/-- A card that counted nothing, with readers of the given blocks. -/
def start (readers : List (UInt8 × Bool)) : Card where
  readers := readers.map fun (index, extended) => { index, extended }

/-- A call begins: its block is latched, also for those that were reading it. -/
def latch (s : Card) (position : Nat) (d : Reader) : Card :=
  let registers := (s.registers.write (Layout.ofIndex d.index).latch latchValue).2
  { s with
    registers
    readers := (s.readers.map (·.share d.index)).set position (d.begin registers) }

/-- A call reads a register and goes on with those left. -/
def next (s : Card) (position : Nat) (d : Reader) (c : Call) (offset : UInt32)
    (left : List UInt32) : Card :=
  let call := { c with left, values := c.values ++ [s.registers.read offset] }
  { s with readers := s.readers.set position { d with call := some call } }

/-- A call reads its last register. -/
def finish (s : Card) (position : Nat) (d : Reader) (c : Call) (offset : UInt32) : Card :=
  let taken : Taken :=
    { index := d.index
      extended := d.extended
      values := c.values ++ [s.registers.read offset]
      instants := c.instants
      shared := c.shared }
  { s with
    readers := s.readers.set position { d with call := none }
    taken := s.taken ++ [taken] }

/-- Make one access. -/
def step (s : Card) : Access → Card
  | .count offset delta =>
    let registers := s.registers.bump offset delta
    { s with registers, readers := s.readers.map (·.observe registers) }
  | .reader position =>
    match s.readers[position]? with
    | none => s
    | some d =>
      match d.call with
      | none => s.latch position d
      | some c =>
        match c.left with
        | [] => s
        | [offset] => s.finish position d c offset
        | offset :: left => s.next position d c offset left

/-- Make accesses in order. -/
def run (s : Card) (accesses : List Access) : Card := accesses.foldl step s

theorem run_cons (s : Card) (access : Access) (accesses : List Access) :
    s.run (access :: accesses) = (s.step access).run accesses := rfl

/-- The accesses that count frames, and their bytes, in the totals of one direction. -/
def frames (totals : Totals UInt32) (n bytes : UInt32) : List Access :=
  [.count totals.packets n, .count totals.goodPackets n, .count totals.bytes bytes,
    .count totals.goodBytes bytes]

section Alone

variable {s : Card} {position : Nat} {d : Reader}

theorem step_idle (hd : s.readers[position]? = some d) (hidle : d.call = none) :
    s.step (.reader position) = s.latch position d := by
  simp only [step, hd, hidle]

/-- A call that nothing interrupts reads all registers that are left as they are now. -/
theorem run_reads {c : Call} {offset : UInt32} {left : List UInt32}
    (hd : s.readers[position]? = some d) (hcall : d.call = some c)
    (hleft : c.left = offset :: left) :
    s.run (List.replicate c.left.length (.reader position)) =
      { s with
        readers := s.readers.set position { d with call := none }
        taken := s.taken ++
          [{ index := d.index
             extended := d.extended
             values := c.values ++ c.left.map s.registers.read
             instants := c.instants
             shared := c.shared }] } := by
  -- Each read but the last one leaves the same reader with a shorter call on a new card.
  rw [hleft]
  induction left generalizing s d c offset with
  | nil => simp only [List.length_singleton, List.replicate_one, run, List.foldl, step, hd, hcall,
      hleft, finish, List.map_singleton]
  | cons place left ih =>
      have hstep : s.step (.reader position) = s.next position d c offset (place :: left) := by
        simp only [step, hd, hcall, hleft]
      have hnext : (s.next position d c offset (place :: left)).readers[position]? = some
          { d with call := some { c with
              left := place :: left, values := c.values ++ [s.registers.read offset] } } :=
        List.getElem?_set_self (List.getElem?_eq_some_iff.mp hd).1
      have hrest := ih hnext rfl rfl
      rw [List.length_cons, List.replicate_succ, run_cons, hstep]
      refine hrest.trans ?_
      simp only [next, List.set_set, List.map_cons, List.append_assoc, List.singleton_append]

/-- A call that nothing interrupts takes the snapshot of the registers. -/
theorem run_alone (hd : s.readers[position]? = some d) (hidle : d.call = none) :
    ∃ t, (s.run (List.replicate (Snapshot.reads (.ofIndex d.index) d.extended).length.succ
        (.reader position))).taken = s.taken ++ [t] ∧
      t.snapshot = (Snapshot.take s.registers (.ofIndex d.index) d.extended).1 := by
  have hplace : position < (s.readers.map (·.share d.index)).length := by
    rw [List.length_map]
    exact (List.getElem?_eq_some_iff.mp hd).1
  have hbegun : (s.latch position d).readers[position]? = some
      (d.begin (s.registers.write (Layout.ofIndex d.index).latch latchValue).2) :=
    List.getElem?_set_self hplace
  obtain ⟨offset, left, hleft⟩ := Snapshot.reads_eq_cons (.ofIndex d.index) d.extended
  have hreads := run_reads hbegun rfl hleft
  have htaken : (s.latch position d).taken = s.taken := by
    rw [latch]
  have hregisters : (s.latch position d).registers =
      (s.registers.write (Layout.ofIndex d.index).latch latchValue).2 := by
    rw [latch]
  rw [List.replicate_succ, run_cons, step_idle hd hidle, hreads, htaken, hregisters]
  refine ⟨_, rfl, ?_⟩
  rw [Snapshot.take_eq_assemble]
  rfl

end Alone

/-! ## What calls see -/

/-- Each value is that of its counter at some instant, and all of them belong to the first
instant unless the block was latched again. -/
structure Saw (offsets values : List UInt32) (instants : List Registers) (shared : Bool) :
    Prop where
  total_eq : List.Forall₂ (fun offset value => ∃ r ∈ instants, value = r.total offset) offsets
    values
  first : shared = false → ∃ r, instants.head? = some r ∧ values = offsets.map r.total

/-- A call of a reader of a block, in registers as they are now. -/
structure Follows (registers : Registers) (index : UInt8) (extended : Bool) (c : Call) :
    Prop where
  saw : ∃ offsets, Snapshot.reads (.ofIndex index) extended = offsets ++ c.left ∧
    Saw offsets c.values c.instants c.shared
  /-- The registers show the running counters at some instant of the call. -/
  visible : ∃ r ∈ c.instants, (c.shared = false → c.instants.head? = some r) ∧
    ∀ offset ∈ Snapshot.reads (.ofIndex index) extended, registers.read offset = r.total offset
  current : ∃ r ∈ c.instants, r.accumulators = registers.accumulators

/-- The registers show latched counters alone, and every call sees them as it should. -/
structure Kept (s : Card) : Prop where
  latched : s.registers.Latched
  follows : ∀ d ∈ s.readers, ∀ c, d.call = some c → Follows s.registers d.index d.extended c
  taken : ∀ t ∈ s.taken, Saw (Snapshot.reads (.ofIndex t.index) t.extended) t.values t.instants
    t.shared

section Calls

variable {registers : Registers} {index : UInt8} {extended : Bool} {c : Call}
variable {offsets values : List UInt32} {instants : List Registers} {shared : Bool}

theorem Saw.observe (h : Saw offsets values instants shared) (r : Registers) :
    Saw offsets values (instants ++ [r]) shared where
  total_eq := h.total_eq.imp fun _ _ ⟨r', hmem, hvalue⟩ =>
    ⟨r', List.mem_append_left _ hmem, hvalue⟩
  first hshared := by
    obtain ⟨r', hhead, hvalues⟩ := h.first hshared
    exact ⟨r', by rw [List.head?_append, hhead]; rfl, hvalues⟩

/-- The next value, as the registers show it. -/
theorem Saw.read {r : Registers} {offset value : UInt32}
    (h : Saw offsets values instants shared) (hmem : r ∈ instants)
    (hhead : shared = false → instants.head? = some r) (hvalue : value = r.total offset) :
    Saw (offsets ++ [offset]) (values ++ [value]) instants shared where
  total_eq := List.rel_append h.total_eq (.cons ⟨r, hmem, hvalue⟩ .nil)
  first hshared := by
    obtain ⟨r', hhead', hvalues⟩ := h.first hshared
    have hsame : r' = r := Option.some.inj (hhead'.symm.trans (hhead hshared))
    refine ⟨r', hhead', ?_⟩
    rw [hvalues, hvalue, hsame, List.map_append]
    rfl

/-- Counting shows in no register. -/
theorem Follows.count (h : Follows registers index extended c) (offset delta : UInt32) :
    Follows (registers.bump offset delta) index extended
      { c with instants := c.instants ++ [registers.bump offset delta] } := by
  obtain ⟨offsets, hreads, hsaw⟩ := h.saw
  obtain ⟨r, hmem, hhead, hread⟩ := h.visible
  refine ⟨⟨offsets, hreads, hsaw.observe _⟩, ⟨r, List.mem_append_left _ hmem, ?_, hread⟩, ?_⟩
  · intro hshared
    rw [List.head?_append, hhead hshared]
    rfl
  · exact ⟨_, List.mem_append_right _ (List.mem_singleton_self _), rfl⟩

/-- After a latch the registers of the block show the running counters. -/
theorem read_write_latch (hl : registers.Latched) (other : UInt8) {offset : UInt32}
    (h : offset ∈ Snapshot.reads (.ofIndex index) extended) :
    (registers.write (Layout.ofIndex other).latch latchValue).2.read offset =
      if index = other then registers.total offset else registers.read offset := by
  rw [Layout.write_latch, (hl.countLatch _).read_reveal,
    Layout.contains_block (Layout.within_reads h)]
  simp only [decide_eq_true_eq]
  rfl

/-- The latch of another reader moves a call on to the present instant if it hits its block. -/
theorem Follows.latch (hl : registers.Latched) (h : Follows registers index extended c)
    (other : UInt8) :
    Follows (registers.write (Layout.ofIndex other).latch latchValue).2 index extended
      (if index = other then { c with shared := true } else c) := by
  obtain ⟨offsets, hreads, hsaw⟩ := h.saw
  obtain ⟨now, hnow, haccumulators⟩ := h.current
  have hcurrent : ∃ r ∈ c.instants, r.accumulators =
      (registers.write (Layout.ofIndex other).latch latchValue).2.accumulators := by
    rw [Layout.write_latch]
    exact ⟨now, hnow, haccumulators⟩
  split
  · next hsame =>
    -- All registers of the block now show the present totals, which are those of `now`.
    refine ⟨⟨offsets, hreads, hsaw.total_eq, fun hshared => ?_⟩,
      ⟨now, hnow, fun hshared => ?_, ?_⟩, hcurrent⟩
    · cases hshared
    · cases hshared
    · intro offset hoffset
      rw [read_write_latch hl other hoffset, if_pos hsame, Registers.total, ← haccumulators]
      rfl
  · next hother =>
    obtain ⟨r, hmem, hhead, hread⟩ := h.visible
    refine ⟨⟨offsets, hreads, hsaw⟩, ⟨r, hmem, hhead, ?_⟩, hcurrent⟩
    intro offset hoffset
    rw [read_write_latch hl other hoffset, if_neg hother, hread offset hoffset]

theorem Follows.begin (hl : registers.Latched) :
    Follows (registers.write (Layout.ofIndex index).latch latchValue).2 index extended
      { left := Snapshot.reads (.ofIndex index) extended
        instants := [(registers.write (Layout.ofIndex index).latch latchValue).2] } := by
  refine ⟨⟨[], rfl, .nil, fun _ => ⟨_, rfl, rfl⟩⟩,
    ⟨_, List.mem_singleton_self _, fun _ => rfl, ?_⟩, _, List.mem_singleton_self _, rfl⟩
  intro offset hoffset
  rw [read_write_latch hl index hoffset, if_pos rfl, Layout.write_latch]
  rfl

/-- The next register of a call shows its counter at an instant of the call. -/
theorem Follows.read (h : Follows registers index extended c) {offset : UInt32}
    {left : List UInt32} (hleft : c.left = offset :: left) :
    ∃ offsets, Snapshot.reads (.ofIndex index) extended = offsets ++ left ∧
      Saw offsets (c.values ++ [registers.read offset]) c.instants c.shared := by
  obtain ⟨offsets, hreads, hsaw⟩ := h.saw
  obtain ⟨r, hmem, hhead, hread⟩ := h.visible
  rw [hleft] at hreads
  have hoffset : offset ∈ Snapshot.reads (.ofIndex index) extended := by
    rw [hreads]
    exact List.mem_append_right _ List.mem_cons_self
  refine ⟨offsets ++ [offset], ?_, hsaw.read hmem hhead (hread offset hoffset)⟩
  rw [hreads, List.append_assoc]
  rfl

end Calls

/-! ## Runs -/

variable {s : Card}

/-- What holds of a card holds after the next access of a reader if it holds after a latch and
after each kind of read. -/
theorem step_reader {motive : Card → Prop} {position : Nat} (same : motive s)
    (latch : ∀ d, s.readers[position]? = some d → d.call = none → motive (s.latch position d))
    (next : ∀ d c offset left, s.readers[position]? = some d → d.call = some c →
      c.left = offset :: left → motive (s.next position d c offset left))
    (finish : ∀ d c offset, s.readers[position]? = some d → d.call = some c →
      c.left = [offset] → motive (s.finish position d c offset)) :
    motive (s.step (.reader position)) := by
  cases hd : s.readers[position]? with
  | none => simpa only [step, hd] using same
  | some d =>
      cases hcall : d.call with
      | none => simpa only [step, hd, hcall] using latch d hd hcall
      | some c =>
          cases hleft : c.left with
          | nil => simpa only [step, hd, hcall, hleft] using same
          | cons offset left =>
              cases left with
              | nil => simpa only [step, hd, hcall, hleft] using finish d c offset hd hcall hleft
              | cons place left =>
                  simpa only [step, hd, hcall, hleft] using
                    next d c offset (place :: left) hd hcall hleft

theorem Kept.count (h : s.Kept) (offset delta : UInt32) : (s.step (.count offset delta)).Kept where
  latched := h.latched.bump offset delta
  follows := by
    intro d hd c hc
    obtain ⟨d, hmem, rfl⟩ := List.mem_map.mp hd
    obtain ⟨c, hc', rfl⟩ := Option.map_eq_some_iff.mp hc
    exact (h.follows d hmem c hc').count offset delta
  taken := h.taken

theorem Kept.latch (h : s.Kept) (position : Nat) (d : Reader) : (s.latch position d).Kept := by
  rw [Card.latch]
  refine ⟨?_, ?_, h.taken⟩
  · rw [Layout.write_latch]
    exact (h.latched.countLatch _).reveal _
  · intro e he c hc
    dsimp only at he ⊢
    rcases List.mem_or_eq_of_mem_set he with he | rfl
    · obtain ⟨e, hmem, rfl⟩ := List.mem_map.mp he
      obtain ⟨c, hc', rfl⟩ := Reader.call_share hc
      rw [Reader.index_share, Reader.extended_share]
      exact (h.follows e hmem c hc').latch h.latched d.index
    · obtain rfl := Option.some.inj hc
      exact Follows.begin h.latched

section Reads

variable {position : Nat} {d : Reader} {c : Call} {offset : UInt32}

theorem Kept.next (h : s.Kept) (hd : s.readers[position]? = some d) (hcall : d.call = some c)
    {left : List UInt32} (hleft : c.left = offset :: left) :
    (s.next position d c offset left).Kept where
  latched := h.latched
  follows := by
    intro e he c' hc'
    rcases List.mem_or_eq_of_mem_set he with he | rfl
    · exact h.follows e he c' hc'
    · obtain rfl := Option.some.inj hc'
      have hfollows := h.follows d (List.mem_of_getElem? hd) c hcall
      exact ⟨hfollows.read hleft, hfollows.visible, hfollows.current⟩
  taken := h.taken

theorem Kept.finish (h : s.Kept) (hd : s.readers[position]? = some d) (hcall : d.call = some c)
    (hleft : c.left = [offset]) : (s.finish position d c offset).Kept where
  latched := h.latched
  follows := by
    intro e he c' hc'
    rcases List.mem_or_eq_of_mem_set he with he | rfl
    · exact h.follows e he c' hc'
    · cases hc'
  taken := by
    refine List.forall_mem_append.mpr ⟨h.taken, List.forall_mem_singleton.mpr ?_⟩
    obtain ⟨offsets, hreads, hsaw⟩ :=
      (h.follows d (List.mem_of_getElem? hd) c hcall).read hleft
    rw [List.append_nil] at hreads
    rw [← hreads] at hsaw
    exact hsaw

end Reads

/-- Every access leaves the calls with what they should see. -/
theorem Kept.step (h : s.Kept) (access : Access) : (s.step access).Kept := by
  cases access with
  | count offset delta => exact h.count offset delta
  | reader position =>
      exact step_reader h (fun d _ _ => h.latch position d)
        (fun d c offset left hd hcall hleft => h.next hd hcall hleft)
        (fun d c offset hd hcall hleft => h.finish hd hcall hleft)

theorem Kept.run (h : s.Kept) (accesses : List Access) : (s.run accesses).Kept := by
  induction accesses generalizing s with
  | nil => exact h
  | cons access accesses ih => exact ih (h.step access)

theorem kept_start (readers : List (UInt8 × Bool)) : (start readers).Kept where
  latched := Registers.latched_empty
  follows := by
    intro d hd c hc
    obtain ⟨_, _, rfl⟩ := List.mem_map.mp hd
    cases hc
  taken := List.forall_mem_nil _

/-! ## Readers of different blocks -/

/-- No block has two readers, and no call was shared so far. -/
structure Apart (s : Card) : Prop where
  nodup : (s.readers.map Reader.index).Nodup
  calls : ∀ d ∈ s.readers, ∀ c, d.call = some c → c.shared = false
  taken : ∀ t ∈ s.taken, t.shared = false

theorem Apart.count (h : s.Apart) (offset delta : UInt32) :
    (s.step (.count offset delta)).Apart where
  nodup := by
    rw [step, List.map_map]
    exact h.nodup
  calls := by
    intro d hd c hc
    obtain ⟨d, hmem, rfl⟩ := List.mem_map.mp hd
    obtain ⟨c, hc', rfl⟩ := Option.map_eq_some_iff.mp hc
    exact h.calls d hmem c hc'
  taken := h.taken

/-- The next reader at a position reads the same block as the one it takes the place of. -/
theorem nodup_set {readers : List Reader} (h : (readers.map Reader.index).Nodup) {position : Nat}
    {d e : Reader} (hd : readers[position]? = some d) (hindex : e.index = d.index) :
    ((readers.set position e).map Reader.index).Nodup := by
  obtain ⟨hlt, rfl⟩ := List.getElem?_eq_some_iff.mp hd
  have hplace : position < (readers.map Reader.index).length := by
    rw [List.length_map]
    exact hlt
  have hkept : (readers.map Reader.index).set position e.index = readers.map Reader.index := by
    rw [hindex, ← List.getElem_map Reader.index (h := hplace), List.set_getElem_self]
  rw [List.map_set, hkept]
  exact h

/-- The calls under way are of other readers, so a latch of this one's block shares none. -/
theorem Apart.latch (h : s.Apart) {position : Nat} {d : Reader}
    (hd : s.readers[position]? = some d) (hidle : d.call = none) :
    (s.latch position d).Apart := by
  have hshared : (s.readers.map (·.share d.index))[position]? = some (d.share d.index) := by
    rw [List.getElem?_map, hd]
    rfl
  have hindices : (s.readers.map (·.share d.index)).map Reader.index =
      s.readers.map Reader.index := by
    rw [List.map_map]
    exact List.map_congr_left fun e _ => Reader.index_share d.index e
  rw [Card.latch]
  refine ⟨?_, ?_, h.taken⟩
  · exact nodup_set (hindices ▸ h.nodup) hshared (Reader.index_share d.index d).symm
  · intro e he c hc
    rcases List.mem_or_eq_of_mem_set he with he | rfl
    · obtain ⟨e, hmem, rfl⟩ := List.mem_map.mp he
      obtain ⟨c', hc', rfl⟩ := Reader.call_share hc
      -- Only `d` itself reads its block, and `d` has no call that could be shared.
      have hother : e.index ≠ d.index := by
        intro hsame
        have heq : e = d :=
          List.inj_on_of_nodup_map h.nodup hmem (List.mem_of_getElem? hd) hsame
        rw [heq, hidle] at hc'
        cases hc'
      rw [if_neg hother]
      exact h.calls e hmem c' hc'
    · obtain rfl := Option.some.inj hc
      rfl

section Reads

variable {position : Nat} {d : Reader} {c : Call} {offset : UInt32}

theorem Apart.next (h : s.Apart) (hd : s.readers[position]? = some d) (hcall : d.call = some c)
    (left : List UInt32) : (s.next position d c offset left).Apart where
  nodup := nodup_set h.nodup hd rfl
  calls := by
    intro e he c' hc'
    rcases List.mem_or_eq_of_mem_set he with he | rfl
    · exact h.calls e he c' hc'
    · obtain rfl := Option.some.inj hc'
      exact h.calls d (List.mem_of_getElem? hd) c hcall
  taken := h.taken

theorem Apart.finish (h : s.Apart) (hd : s.readers[position]? = some d)
    (hcall : d.call = some c) : (s.finish position d c offset).Apart where
  nodup := nodup_set h.nodup hd rfl
  calls := by
    intro e he c' hc'
    rcases List.mem_or_eq_of_mem_set he with he | rfl
    · exact h.calls e he c' hc'
    · cases hc'
  taken := by
    have hshared := h.calls d (List.mem_of_getElem? hd) c hcall
    exact List.forall_mem_append.mpr ⟨h.taken, List.forall_mem_singleton.mpr hshared⟩

end Reads

theorem Apart.step (h : s.Apart) (access : Access) : (s.step access).Apart := by
  cases access with
  | count offset delta => exact h.count offset delta
  | reader position =>
      exact step_reader h (fun d hd hidle => h.latch hd hidle)
        (fun d c offset left hd hcall _ => h.next hd hcall left)
        (fun d c offset hd hcall _ => h.finish hd hcall)

theorem Apart.run (h : s.Apart) (accesses : List Access) : (s.run accesses).Apart := by
  induction accesses generalizing s with
  | nil => exact h
  | cons access accesses ih => exact ih (h.step access)

theorem apart_start {readers : List (UInt8 × Bool)} (h : (readers.map Prod.fst).Nodup) :
    (start readers).Apart where
  nodup := by
    rw [start, List.map_map]
    exact h
  calls := by
    intro d hd c hc
    obtain ⟨_, _, rfl⟩ := List.mem_map.mp hd
    cases hc
  taken := List.forall_mem_nil _

/-! ## Snapshots -/

/-- What can be said of a snapshot that was taken. -/
structure Consistent (t : Taken) : Prop where
  /-- Each value is that of its counter at some instant of the call. -/
  values : List.Forall₂ (fun offset value => ∃ r ∈ t.instants, value = r.total offset)
    (Snapshot.reads (.ofIndex t.index) t.extended) t.values
  /-- Unless another reader latched the block during the call, the snapshot shows all counters
  at one instant. -/
  snapshot : t.shared = false →
    ∃ r ∈ t.instants, t.snapshot = Snapshot.ofTotals r (.ofIndex t.index) t.extended

theorem Saw.consistent {t : Taken} (h : Saw (Snapshot.reads (.ofIndex t.index) t.extended)
    t.values t.instants t.shared) : Consistent t where
  values := h.total_eq
  snapshot hshared := by
    obtain ⟨r, hhead, hvalues⟩ := h.first hshared
    refine ⟨r, List.mem_of_mem_head? hhead, ?_⟩
    rw [Taken.snapshot, hvalues, Snapshot.assemble_total]

/-- Whatever happens on a card, each value of a snapshot is that of its counter at some instant
of the call. All values are those of one instant unless another reader latched the block during
the call, which cannot happen as long as no block has two readers. -/
theorem run_consistent (readers : List (UInt8 × Bool)) (accesses : List Access) :
    ∀ t ∈ ((start readers).run accesses).taken,
      Consistent t ∧ ((readers.map Prod.fst).Nodup → t.shared = false) := by
  intro t ht
  refine ⟨(((kept_start readers).run accesses).taken t ht).consistent, ?_⟩
  intro hdistinct
  exact ((apart_start hdistinct).run accesses).taken t ht

/-- Two readers take turns: the first one has read a single register when a frame is sent on the
second block, and then waits while the other one takes a snapshot. -/
def tornRun : List Access :=
  [.reader 0, .reader 0] ++ frames (Layout.ofIndex 1).tx 1 64 ++ List.replicate 9 (.reader 1) ++
    List.replicate 7 (.reader 0)

/-- Readers of different blocks do not tear each other's snapshots. -/
theorem run_consistent_twoBlocks :
    ∃ t ∈ ((start [(1, false), (2, false)]).run tornRun).taken,
      Consistent t ∧ t.shared = false := by
  have htaken : ((start [(1, false), (2, false)]).run tornRun).taken ≠ [] := by
    decide +kernel
  obtain ⟨t, ht⟩ := List.exists_mem_of_ne_nil _ htaken
  obtain ⟨hconsistent, hshared⟩ := run_consistent [(1, false), (2, false)] tornRun t ht
  exact ⟨t, ht, hconsistent, hshared (by decide)⟩

/-- With both readers on the second block, the other latch tears the first reader's snapshot: it
shows the counters as they were at no instant of the call. -/
theorem exists_torn :
    ∃ t ∈ ((start [(1, false), (1, false)]).run tornRun).taken,
      ∀ r ∈ t.instants, t.snapshot ≠ Snapshot.ofTotals r (.ofIndex t.index) t.extended := by
  decide +kernel

end Card

end EtherRelay.Hardware
