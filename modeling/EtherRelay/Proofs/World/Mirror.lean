import EtherRelay.Proofs.Hardware.Counting
import EtherRelay.Proofs.World.Conservation

/-!
# Counters that are kept twice

An interface counts its frames and bytes in words of its own, and in the totals of a counter block
as well. The words have different widths, every burst is cut to either of them apart, and a missing
queue counts nothing at all. Several interfaces may share one block.

The main statement says that every snapshot of the block shows the sums of what its interfaces
counted, as far as the smaller words go, and nothing in the breakdown.
-/

namespace EtherRelay

open Hardware

variable {β σ : Type}

/-- One direction of the traffic of an interface. -/
inductive Direction where
  | receive
  | transmit
  deriving Repr, DecidableEq

namespace Direction

/-- The counter of the frames. -/
def packets : Direction → InterfaceCounters → UInt64
  | receive => InterfaceCounters.rxPackets
  | transmit => InterfaceCounters.txPackets

/-- The counter of the bytes. -/
def bytes : Direction → InterfaceCounters → UInt64
  | receive => InterfaceCounters.rxBytes
  | transmit => InterfaceCounters.txBytes

/-- The registers that count the same. -/
def totals : Direction → Layout → Totals UInt32
  | receive => Layout.rx
  | transmit => Layout.tx

variable {d d' : Direction} {layout : Layout} {index : UInt8} {offset : UInt32}

theorem mem_totals (h : offset ∈ (d.totals layout).toList) : offset ∈ layout.totals := by
  cases d with
  | receive => exact List.mem_append_right _ h
  | transmit => exact List.mem_append_left _ h

theorem nodup_totals (d : Direction) (index : UInt8) :
    (d.totals (.ofIndex index)).toList.Nodup := by
  obtain ⟨htx, hrx, _⟩ := List.nodup_append.mp (Layout.nodup_totals index)
  cases d with
  | receive => exact hrx
  | transmit => exact htx

/-- The two directions are counted apart. -/
theorem notMem_totals (hne : d' ≠ d) (h : offset ∈ (d'.totals (.ofIndex index)).toList) :
    offset ∉ (d.totals (.ofIndex index)).toList := by
  obtain ⟨_, _, hapart⟩ := List.nodup_append.mp (Layout.nodup_totals index)
  intro hmem
  cases d with
  | receive =>
      cases d' with
      | receive => exact hne rfl
      | transmit => exact hapart offset h offset hmem rfl
  | transmit =>
      cases d' with
      | receive => exact hapart offset hmem offset h rfl
      | transmit => exact hne rfl

/-- What an interface counts in one direction shows in that direction of its own block alone. -/
theorem map_total_countFrames (hlayout : layout = .ofIndex index ∨ layout.Avoids index)
    (d d' : Direction) (r : Registers) (frames bytes : Nat) :
    (d'.totals (.ofIndex index)).map
        (r.countFrames (d.totals layout) (UInt32.ofNat frames) (UInt32.ofNat bytes)).total =
      ((d'.totals (.ofIndex index)).map r.total).plus
        (if layout = .ofIndex index then UInt32.ofNat (if d' = d then frames else 0) else 0)
        (if layout = .ofIndex index then UInt32.ofNat (if d' = d then bytes else 0) else 0) := by
  rcases hlayout with rfl | havoids
  · rw [if_pos rfl, if_pos rfl]
    by_cases hd : d' = d
    · rw [if_pos hd, if_pos hd, hd]
      exact r.map_total_countFrames (d.nodup_totals index) _ _
    · have hzero : UInt32.ofNat 0 = 0 := rfl
      rw [if_neg hd, if_neg hd, hzero, Totals.plus_zero]
      exact Totals.map_congr fun offset hoffset =>
        r.total_countFrames_of_notMem (notMem_totals hd hoffset) _ _
  · rw [if_neg havoids.ne, if_neg havoids.ne, Totals.plus_zero]
    refine Totals.map_congr fun offset hoffset =>
      r.total_countFrames_of_notMem (fun hmem => ?_) _ _
    exact havoids offset (mem_totals hmem) (Layout.within_totals (mem_totals hoffset))

end Direction

namespace World

/-- The sum of a counter over all interfaces that are mirrored to a block, as far as a register
shows it. -/
def counted (w : World β σ) (index : UInt8) (counter : InterfaceCounters → UInt64) : UInt32 :=
  UInt32.ofNat (w.interfaces.map fun i =>
    if i.hardware = some (.ofIndex index) then (counter i.counters).toNat else 0).sum

/-- What the interfaces of a block have counted in one direction. -/
def mirrored (w : World β σ) (index : UInt8) (d : Direction) : Totals UInt32 where
  packets := w.counted index d.packets
  goodPackets := w.counted index d.packets
  bytes := w.counted index d.bytes
  goodBytes := w.counted index d.bytes

end World

namespace Mirror

/-- A call on an interface or on the registers. -/
inductive Call (β : Type) where
  | inject (interface : Nat) (queue : QueueId) (burst : List β)
  | receive (interface : Nat) (queue : QueueId) (max : Nat)
  | transmit (interface : Nat) (queue : QueueId) (burst : List β)
  | setTxLimit (interface : Nat) (queue : QueueId) (limit : Option Nat)
  | takeTransmitted (interface : Nat) (queue : QueueId)
  /-- Take a snapshot of a numbered block. -/
  | snapshot (index : UInt8) (extended : Bool)
  /-- Use the registers in any other way. -/
  | operate (o : Registers.Operation)

/-- What is done to the registers directly does not reach the block. -/
def Call.Spares (index : UInt8) : Call β → Prop
  | .operate o => ∀ c ∈ o.changes, c.Allowed ∧ ¬ Layout.Within index c.place
  | _ => True

variable [FrameBuffer β]

/-- Make one call. -/
def step (w : World β σ) : Call β → World β σ
  | .inject interface queue burst => (w.inject interface queue burst).2
  | .receive interface queue max => (w.receive interface queue max).2
  | .transmit interface queue burst => (w.transmit interface queue burst).2.2
  | .setTxLimit interface queue limit =>
    w.modifyInterface interface (·.setTxLimit queue limit)
  | .takeTransmitted interface queue => (w.takeTransmitted interface queue).2
  | .snapshot index extended => (w.snapshot (.ofIndex index) extended).2
  | .operate o => { w with registers := w.registers.perform o }

/-- Make calls in order. -/
def run (w : World β σ) (calls : List (Call β)) : World β σ := calls.foldl step w

end Mirror

/-! ## The invariant -/

namespace World

variable {w w' : World β σ} {index : UInt8}

/-- The running counters of a block are those of its interfaces. -/
structure Mirrors (index : UInt8) (w : World β σ) : Prop where
  /-- Every other interface counts elsewhere. -/
  hardware_eq : ∀ i ∈ w.interfaces, ∀ layout, i.hardware = some layout →
    layout = .ofIndex index ∨ layout.Avoids index
  shows : ∃ changes, w.registers.Shows changes ∧ ∀ c ∈ changes, c.Counts index
  total_eq : ∀ d : Direction, (d.totals (.ofIndex index)).map w.registers.total =
    w.mirrored index d

/-- An interface that counted `n` more counts in its block, if it has one. -/
theorem counted_set {k : Nat} {i i' : Interface β} (hi : w.interfaces[k]? = some i)
    (hset : w'.interfaces = w.interfaces.set k i') (hhardware : i'.hardware = i.hardware)
    {counter : InterfaceCounters → UInt64} {n : Nat}
    (hcounter : counter i'.counters = counter i.counters + UInt64.ofNat n) :
    w'.counted index counter = w.counted index counter +
      if i.hardware = some (.ofIndex index) then UInt32.ofNat n else 0 := by
  have hsum := sum_map_set hi (fun i =>
    if i.hardware = some (.ofIndex index) then (counter i.counters).toNat else 0) i'
  rw [counted, counted, hset, ← UInt32.toNat_inj]
  rw [hhardware, hcounter, UInt64.toNat_add, UInt64.toNat_ofNat'] at hsum
  by_cases hblock : i.hardware = some (.ofIndex index)
  · rw [if_pos hblock, if_pos hblock] at hsum
    rw [if_pos hblock, UInt32.toNat_add, UInt32.toNat_ofNat', UInt32.toNat_ofNat',
      UInt32.toNat_ofNat']
    omega
  · rw [if_neg hblock, if_neg hblock, Nat.add_zero, Nat.add_zero] at hsum
    rw [if_neg hblock, hsum, UInt32.add_zero]

theorem mirrored_set {k : Nat} {i i' : Interface β} (hi : w.interfaces[k]? = some i)
    (hset : w'.interfaces = w.interfaces.set k i') (hhardware : i'.hardware = i.hardware)
    {d : Direction} {frames bytes : Nat}
    (hpackets : d.packets i'.counters = d.packets i.counters + UInt64.ofNat frames)
    (hbytes : d.bytes i'.counters = d.bytes i.counters + UInt64.ofNat bytes) :
    w'.mirrored index d = (w.mirrored index d).plus
      (if i.hardware = some (.ofIndex index) then UInt32.ofNat frames else 0)
      (if i.hardware = some (.ofIndex index) then UInt32.ofNat bytes else 0) := by
  rw [mirrored, counted_set hi hset hhardware hpackets, counted_set hi hset hhardware hbytes]
  rfl

namespace Mirrors

/-- The counters of one interface may grow as long as the registers keep up. -/
theorem set (h : w.Mirrors index) {k : Nat} {i i' : Interface β}
    (hi : w.interfaces[k]? = some i) (hset : w'.interfaces = w.interfaces.set k i')
    (hhardware : i'.hardware = i.hardware) (frames bytes : Direction → Nat)
    (hpackets : ∀ d : Direction,
      d.packets i'.counters = d.packets i.counters + UInt64.ofNat (frames d))
    (hbytes : ∀ d : Direction, d.bytes i'.counters = d.bytes i.counters + UInt64.ofNat (bytes d))
    (hshows : ∃ changes, w'.registers.Shows changes ∧ ∀ c ∈ changes, c.Counts index)
    (htotal : ∀ d : Direction, (d.totals (.ofIndex index)).map w'.registers.total =
      ((d.totals (.ofIndex index)).map w.registers.total).plus
        (if i.hardware = some (.ofIndex index) then UInt32.ofNat (frames d) else 0)
        (if i.hardware = some (.ofIndex index) then UInt32.ofNat (bytes d) else 0)) :
    w'.Mirrors index where
  hardware_eq := by
    intro j hj layout hlayout
    rw [hset] at hj
    rcases List.mem_or_eq_of_mem_set hj with hj | rfl
    · exact h.hardware_eq j hj layout hlayout
    · exact h.hardware_eq i (List.mem_of_getElem? hi) layout (hhardware ▸ hlayout)
  shows := hshows
  total_eq d := by
    rw [htotal, h.total_eq, mirrored_set hi hset hhardware (hpackets d) (hbytes d)]

/-- What does not count leaves the registers alone. -/
theorem keep (h : w.Mirrors index) {k : Nat} {i i' : Interface β}
    (hi : w.interfaces[k]? = some i) (hset : w'.interfaces = w.interfaces.set k i')
    (hhardware : i'.hardware = i.hardware)
    (hpackets : ∀ d : Direction, d.packets i'.counters = d.packets i.counters)
    (hbytes : ∀ d : Direction, d.bytes i'.counters = d.bytes i.counters)
    (hregisters : w'.registers = w.registers) : w'.Mirrors index := by
  refine h.set hi hset hhardware (fun _ => 0) (fun _ => 0) ?_ ?_ ?_ ?_
  · intro d
    rw [hpackets]
    exact (UInt64.add_zero _).symm
  · intro d
    rw [hbytes]
    exact (UInt64.add_zero _).symm
  · rw [hregisters]
    exact h.shows
  · intro d
    have hzero : UInt32.ofNat 0 = 0 := rfl
    rw [hregisters, hzero, ite_self, Totals.plus_zero]

theorem shows_perform (h : w.Mirrors index) {o : Registers.Operation}
    (ho : ∀ c ∈ o.changes, c.Allowed ∧ c.Counts index) :
    ∃ changes, (w.registers.perform o).Shows changes ∧ ∀ c ∈ changes, c.Counts index := by
  obtain ⟨changes, hshows, hcounts⟩ := h.shows
  refine ⟨_, hshows.perform fun c hc => (ho c hc).1, ?_⟩
  exact List.forall_mem_append.mpr ⟨fun c hc => (ho c hc).2, hcounts⟩

/-- An interface counts the same frames and bytes in its own words and in the registers. -/
theorem count (h : w.Mirrors index) {k : Nat} {i i' : Interface β}
    (hi : w.interfaces[k]? = some i) (hset : w'.interfaces = w.interfaces.set k i')
    (hhardware : i'.hardware = i.hardware) {d : Direction} {frames bytes : Nat}
    (hpackets : d.packets i'.counters = d.packets i.counters + UInt64.ofNat frames)
    (hbytes : d.bytes i'.counters = d.bytes i.counters + UInt64.ofNat bytes)
    (hother : ∀ d' ≠ d, d'.packets i'.counters = d'.packets i.counters ∧
      d'.bytes i'.counters = d'.bytes i.counters)
    (hregisters : w'.registers = match i.hardware with
      | none => w.registers
      | some layout => w.registers.countFrames (d.totals layout) (UInt32.ofNat frames)
        (UInt32.ofNat bytes)) :
    w'.Mirrors index := by
  refine h.set hi hset hhardware (fun d' => if d' = d then frames else 0)
    (fun d' => if d' = d then bytes else 0) ?_ ?_ ?_ ?_
  · intro d'
    by_cases hd : d' = d
    · rw [if_pos hd, hd]
      exact hpackets
    · rw [if_neg hd, (hother d' hd).1]
      exact (UInt64.add_zero _).symm
  · intro d'
    by_cases hd : d' = d
    · rw [if_pos hd, hd]
      exact hbytes
    · rw [if_neg hd, (hother d' hd).2]
      exact (UInt64.add_zero _).symm
  · cases hlayout : i.hardware with
    | none =>
        rw [hregisters, hlayout]
        exact h.shows
    | some layout =>
        rw [hregisters, hlayout]
        refine h.shows_perform (o := .countFrames _ _ _) fun c hc => ?_
        obtain ⟨offset, hoffset, delta, rfl⟩ := Registers.changes_countFrames hc
        refine ⟨trivial, fun hwithin => ?_⟩
        have hmem := Direction.mem_totals hoffset
        rcases h.hardware_eq i (List.mem_of_getElem? hi) layout hlayout with rfl | havoids
        · exact hmem
        · exact absurd hwithin (havoids offset hmem)
  · intro d'
    cases hlayout : i.hardware with
    | none =>
        rw [hregisters, hlayout]
        simp only [reduceCtorEq, if_false, Totals.plus_zero]
    | some layout =>
        rw [hregisters, hlayout]
        have hcounted := Direction.map_total_countFrames
          (h.hardware_eq i (List.mem_of_getElem? hi) layout hlayout) d d' w.registers frames bytes
        simpa only [Option.some.injEq] using hcounted

/-- Whatever spares the totals of the block and puts nothing elsewhere in it may be done to the
registers. -/
theorem perform (h : w.Mirrors index) {o : Registers.Operation}
    (ho : ∀ c ∈ o.changes, c.Allowed ∧ c.Counts index)
    (hspares : ∀ offset ∈ (Layout.ofIndex index).totals, ∀ c ∈ o.changes, c.Spares offset) :
    { w with registers := w.registers.perform o }.Mirrors index where
  hardware_eq := h.hardware_eq
  shows := h.shows_perform ho
  total_eq d := by
    obtain ⟨changes, hshows, _⟩ := h.shows
    refine Eq.trans (Totals.map_congr fun offset hoffset => ?_) (h.total_eq d)
    rw [(hshows.perform fun c hc => (ho c hc).1).total_eq, hshows.total_eq,
      Registers.bumps_append_of_spares (hspares offset (Direction.mem_totals hoffset))]

theorem snapshot (h : w.Mirrors index) (other : UInt8) (extended : Bool) :
    (w.snapshot (.ofIndex other) extended).2.Mirrors index := by
  rw [World.snapshot]
  refine h.perform (o := .latchAndRead other extended) ?_ ?_
  · refine List.forall_mem_singleton.mpr ⟨fun _ => ⟨other, rfl⟩, .inl ?_⟩
    exact Registers.isLatching_latch other
  · intro offset hoffset
    exact List.forall_mem_singleton.mpr (.inl (Registers.isLatching_latch other))

theorem operate (h : w.Mirrors index) {o : Registers.Operation}
    (ho : ∀ c ∈ o.changes, c.Allowed ∧ ¬ Layout.Within index c.place) :
    { w with registers := w.registers.perform o }.Mirrors index := by
  refine h.perform (fun c hc => ?_) fun offset hoffset c hc => ?_
  · obtain ⟨hallowed, houtside⟩ := ho c hc
    refine ⟨hallowed, ?_⟩
    cases c with
    | bump place delta => exact fun hwithin => absurd hwithin houtside
    | write place value => exact .inr houtside
  · have hplace : c.place ≠ offset := by
      rintro rfl
      exact (ho c hc).2 (Layout.within_totals hoffset)
    cases c with
    | bump place delta => exact hplace
    | write place value => exact .inr hplace

section

variable [FrameBuffer β] (k : Nat) (queue : QueueId) (burst : List β)

theorem inject (h : w.Mirrors index) : (w.inject k queue burst).2.Mirrors index := by
  cases hi : w.interfaces[k]? with
  | none =>
      rw [World.inject, hi]
      exact ⟨h.hardware_eq, h.shows, h.total_eq⟩
  | some i =>
      cases hw : i.rxQueues[queue.toNat]? with
      | none =>
          simp only [World.inject, hi, Interface.inject, hw]
          exact h.keep hi rfl rfl (fun d => by cases d <;> rfl) (fun d => by cases d <;> rfl) rfl
      | some waiting =>
          simp only [World.inject, hi, Interface.inject, hw]
          refine h.count hi rfl rfl (d := .receive) rfl rfl (fun d hd => ?_) rfl
          cases d with
          | receive => exact absurd rfl hd
          | transmit => exact ⟨rfl, rfl⟩

theorem transmit (h : w.Mirrors index) : (w.transmit k queue burst).2.2.Mirrors index := by
  cases hi : w.interfaces[k]? with
  | none =>
      rw [World.transmit, hi]
      exact h
  | some i =>
      cases ht : i.txQueues[queue.toNat]? with
      | none =>
          simp only [World.transmit, hi, Interface.transmit, ht]
          exact h.keep hi rfl rfl (fun d => by cases d <;> rfl) (fun d => by cases d <;> rfl) rfl
      | some tx =>
          simp only [World.transmit, hi, Interface.transmit, ht]
          refine h.count hi rfl rfl (d := .transmit) rfl rfl (fun d hd => ?_) rfl
          cases d with
          | receive => exact ⟨rfl, rfl⟩
          | transmit => exact absurd rfl hd

end

theorem receive (h : w.Mirrors index) (k : Nat) (queue : QueueId) (max : Nat) :
    (w.receive k queue max).2.Mirrors index := by
  rw [World.receive]
  cases hi : w.interfaces[k]? with
  | none => exact h
  | some i => exact h.keep hi rfl rfl (fun _ => rfl) (fun _ => rfl) rfl

theorem takeTransmitted (h : w.Mirrors index) (k : Nat) (queue : QueueId) :
    (w.takeTransmitted k queue).2.Mirrors index := by
  rw [World.takeTransmitted]
  cases hi : w.interfaces[k]? with
  | none => exact h
  | some i => exact h.keep hi rfl rfl (fun _ => rfl) (fun _ => rfl) rfl

theorem setTxLimit (h : w.Mirrors index) (k : Nat) (queue : QueueId) (limit : Option Nat) :
    (w.modifyInterface k (·.setTxLimit queue limit)).Mirrors index := by
  rw [World.modifyInterface, List.modify_eq_set_getElem?]
  cases hi : w.interfaces[k]? with
  | none => exact h
  | some i => exact h.keep hi rfl rfl (fun _ => rfl) (fun _ => rfl) rfl

/-- Every call counts the same in both places, or nothing in either. -/
theorem step [FrameBuffer β] (h : w.Mirrors index) (c : Mirror.Call β) (hc : c.Spares index) :
    (Mirror.step w c).Mirrors index := by
  cases c with
  | inject k queue burst => exact h.inject k queue burst
  | receive k queue max => exact h.receive k queue max
  | transmit k queue burst => exact h.transmit k queue burst
  | setTxLimit k queue limit => exact h.setTxLimit k queue limit
  | takeTransmitted k queue => exact h.takeTransmitted k queue
  | snapshot other extended => exact h.snapshot other extended
  | operate o => exact h.operate hc

theorem run [FrameBuffer β] (h : w.Mirrors index) {calls : List (Mirror.Call β)}
    (hcalls : ∀ c ∈ calls, c.Spares index) : (Mirror.run w calls).Mirrors index := by
  induction calls generalizing w with
  | nil => exact h
  | cons c calls ih =>
      obtain ⟨hc, hcalls⟩ := List.forall_mem_cons.mp hcalls
      exact ih (h.step c hc) hcalls

/-- A snapshot shows what the interfaces of the block counted. -/
theorem snapshot_eq (h : w.Mirrors index) (extended : Bool) :
    (w.snapshot (.ofIndex index) extended).1 =
      { tx := w.mirrored index .transmit
        rx := w.mirrored index .receive
        extended := if extended then breakdownNames.map (·, 0) else [] } := by
  obtain ⟨changes, hshows, hcounts⟩ := h.shows
  rw [World.snapshot, ← h.total_eq .transmit, ← h.total_eq .receive]
  exact hshows.take_eq hcounts extended

end Mirrors

theorem mirrors_fresh (hregisters : w.registers = {})
    (hcounters : ∀ i ∈ w.interfaces, i.hardware = some (.ofIndex index) → i.counters = {})
    (hlayouts : ∀ i ∈ w.interfaces, ∀ layout, i.hardware = some layout →
      layout = .ofIndex index ∨ layout.Avoids index) : w.Mirrors index where
  hardware_eq := hlayouts
  shows := ⟨[], hregisters ▸ Registers.shows_empty, fun _ hc => nomatch hc⟩
  total_eq d := by
    have hcounted : ∀ counter : InterfaceCounters → UInt64, counter {} = 0 →
        w.counted index counter = 0 := by
      intro counter hzero
      have hsum : ∀ n ∈ w.interfaces.map fun i =>
          if i.hardware = some (.ofIndex index) then (counter i.counters).toNat else 0,
          n = 0 := by
        intro n hn
        obtain ⟨i, hi, rfl⟩ := List.mem_map.mp hn
        split
        · next hblock => rw [hcounters i hi hblock, hzero]; rfl
        · rfl
      rw [counted, List.sum_eq_zero_iff_forall_eq_nat.mpr hsum]
      rfl
    have hpackets := hcounted d.packets (by cases d <;> rfl)
    have hbytes := hcounted d.bytes (by cases d <;> rfl)
    rw [mirrored, hpackets, hbytes, hregisters]
    rfl

end World

namespace Mirror

/-- Registers and interfaces count the same. In every run from fresh registers and fresh
interfaces, whatever queues are named and however much the interfaces accept, a snapshot of a block
shows the sums of what the interfaces mirrored to it have counted, as far as its words go, and
nothing in the breakdown. Other interfaces may count anywhere else. -/
theorem run_mirrors [FrameBuffer β] (w : World β σ) (index : UInt8) (hregisters : w.registers = {})
    (hcounters : ∀ i ∈ w.interfaces, i.hardware = some (.ofIndex index) → i.counters = {})
    (hlayouts : ∀ i ∈ w.interfaces, ∀ layout, i.hardware = some layout →
      layout = .ofIndex index ∨ layout.Avoids index)
    (calls : List (Call β)) (hcalls : ∀ c ∈ calls, c.Spares index) (extended : Bool) :
    ((run w calls).snapshot (.ofIndex index) extended).1 =
      { tx := (run w calls).mirrored index .transmit
        rx := (run w calls).mirrored index .receive
        extended := if extended then breakdownNames.map (·, 0) else [] } :=
  ((World.mirrors_fresh hregisters hcounters hlayouts).run hcalls).snapshot_eq extended

/-- Two interfaces that are mirrored to the second block, and one that is mirrored to the first. -/
def threePorts : World Buffer Unit where
  interfaces :=
    [{ Interface.create ⟨0, "left"⟩ 1 1 with hardware := some (.ofIndex 1) },
      { Interface.create ⟨1, "right"⟩ 1 1 with hardware := some (.ofIndex 1) },
      { Interface.create ⟨2, "other"⟩ 1 1 with hardware := some (.ofIndex 0) }]
  sink := ()
  clock := { hz := Clock.monotonicHz }
  pool := .create 16

/-- Bursts arrive at all interfaces, one of them at a queue that does not exist; a part of a burst
is transmitted between two snapshots, and the first block is latched meanwhile. -/
def mixedCalls : List (Call Buffer) :=
  let frame := Buffer.ofFrame [1, 2, 3]
  [.inject 0 0 [frame, frame], .inject 1 0 [frame], .inject 1 7 [frame], .inject 2 0 [frame],
    .snapshot 1 false, .receive 0 0 1, .setTxLimit 1 0 (some 1), .transmit 1 0 [frame, frame],
    .operate (.latchAndRead 0 true)]

theorem run_mirrors_threePorts :
    ((run threePorts mixedCalls).snapshot (.ofIndex 1) true).1 =
      { tx := ⟨1, 1, 3, 3⟩, rx := ⟨3, 3, 9, 9⟩, extended := breakdownNames.map (·, 0) } := by
  have hlayouts : ∀ i ∈ threePorts.interfaces, ∀ layout, i.hardware = some layout →
      layout = .ofIndex 1 ∨ layout.Avoids 1 := by
    simp only [threePorts, List.forall_mem_cons, Option.some.injEq]
    refine ⟨?_, ?_, ?_, fun _ h => nomatch h⟩
    · rintro layout rfl
      exact .inl rfl
    · rintro layout rfl
      exact .inl rfl
    · rintro layout rfl
      exact .inr (Layout.avoids_ofIndex (by decide))
  have hcounters : ∀ i ∈ threePorts.interfaces, i.hardware = some (.ofIndex 1) →
      i.counters = {} := by
    simp only [threePorts, List.forall_mem_cons]
    exact ⟨fun _ => rfl, fun _ => rfl, fun _ => rfl, fun _ h => nomatch h⟩
  have hlatch : ¬ Layout.Within 1 (Layout.ofIndex 0).latch := by
    intro h
    obtain ⟨hle, _⟩ := Layout.toNat_within h
    revert hle
    decide
  have hcalls : ∀ c ∈ mixedCalls, c.Spares 1 := by
    simp only [mixedCalls, List.forall_mem_cons]
    refine ⟨trivial, trivial, trivial, trivial, trivial, trivial, trivial, trivial, ?_,
      fun _ h => nomatch h⟩
    exact List.forall_mem_singleton.mpr ⟨fun _ => ⟨0, rfl⟩, hlatch⟩
  exact (run_mirrors threePorts 1 rfl hcounters hlayouts mixedCalls hcalls true).trans
    (by decide)

end Mirror

end EtherRelay
