import EtherRelay.Hardware.Snapshot

/-!
# Latching a block

A latch makes all running counters of its block readable at once. In registers that only ever
counted and latched, it follows that each register of the block reads what its counter had come
to at the last latch of the block, and that the latches of other blocks leave it alone.
-/

namespace EtherRelay.Hardware

/-! ## Tables -/

namespace Table

variable {α : Type}

/-- No offset is kept twice. -/
def Distinct (t : Table α) : Prop := (t.entries.map Prod.fst).Nodup

theorem mem_keys_insert {offset place : UInt32} {value : α} {entries : List (UInt32 × α)} :
    place ∈ (insert offset value entries).map Prod.fst ↔
      place = offset ∨ place ∈ entries.map Prod.fst := by
  induction entries with
  | nil => simp [insert]
  | cons e rest ih =>
      rw [insert]
      split
      · next he => simp [he]
      · simp only [List.map_cons, List.mem_cons, ih]
        exact or_left_comm

theorem Distinct.set {t : Table α} (h : t.Distinct) (offset : UInt32) (value : α) :
    (t.set offset value).Distinct := by
  obtain ⟨entries⟩ := t
  rw [Distinct] at h ⊢
  simp only [Table.set] at h ⊢
  induction entries with
  | nil => simp [insert]
  | cons e rest ih =>
      obtain ⟨hfirst, hrest⟩ := List.nodup_cons.mp h
      rw [insert]
      split
      · next he =>
        rw [he] at hfirst
        exact List.nodup_cons.mpr ⟨hfirst, hrest⟩
      · next he =>
        refine List.nodup_cons.mpr ⟨?_, ih hrest⟩
        rw [mem_keys_insert]
        exact not_or.mpr ⟨he, hfirst⟩

theorem get?_cons (e : UInt32 × α) (rest : List (UInt32 × α)) (place : UInt32) :
    (⟨e :: rest⟩ : Table α).get? place =
      if e.1 = place then some e.2 else (⟨rest⟩ : Table α).get? place := by
  rw [get?, get?]
  by_cases h : e.1 = place <;> simp [h]

theorem get?_eq_none_of_notMem {entries : List (UInt32 × α)} {place : UInt32}
    (h : place ∉ entries.map Prod.fst) : (⟨entries⟩ : Table α).get? place = none := by
  induction entries with
  | nil => rfl
  | cons e rest ih =>
      obtain ⟨hfirst, hrest⟩ := not_or.mp (mt List.mem_cons.mpr h)
      rw [get?_cons, if_neg (Ne.symm hfirst), ih hrest]

/-- Copying those entries of a table whose offsets satisfy `p`. -/
theorem get?_foldl_set {entries : List (UInt32 × α)} (h : (entries.map Prod.fst).Nodup)
    (p : UInt32 → Bool) (t : Table α) (place : UInt32) :
    (entries.foldl (fun t e => if p e.1 then t.set e.1 e.2 else t) t).get? place =
      if p place then ((⟨entries⟩ : Table α).get? place).or (t.get? place)
      else t.get? place := by
  induction entries generalizing t with
  | nil => simp [get?]
  | cons e rest ih =>
      obtain ⟨hfirst, hrest⟩ := List.nodup_cons.mp h
      rw [List.foldl_cons, ih hrest, get?_cons]
      by_cases he : e.1 = place
      · -- No later entry has this offset, so the copy of the first one is the last word.
        rw [he] at hfirst
        rw [get?_eq_none_of_notMem hfirst, he]
        by_cases hp : p place <;> simp [hp, get?_set]
      · have hkept : (if p e.1 then t.set e.1 e.2 else t).get? place = t.get? place := by
          split
          · rw [get?_set, if_neg he]
          · rfl
        rw [hkept, if_neg he]

end Table

/-! ## Registers -/

namespace Registers

variable {r : Registers}

/-- What a running counter has come to. -/
def total (r : Registers) (offset : UInt32) : UInt32 :=
  (r.accumulators.get? offset).getD 0

/-- Nothing but running counters was made readable. -/
structure Latched (r : Registers) : Prop where
  distinct : r.accumulators.Distinct
  visible_eq : ∀ offset, r.accumulators.get? offset = none → r.visible.get? offset = none

theorem latched_empty : ({} : Registers).Latched := ⟨List.nodup_nil, fun _ _ => rfl⟩

theorem Latched.bump (h : r.Latched) (offset delta : UInt32) : (r.bump offset delta).Latched where
  distinct := h.distinct.set _ _
  visible_eq place hnone := by
    rw [Registers.bump, Table.get?_set] at hnone
    split at hnone
    · cases hnone
    · exact h.visible_eq place hnone

theorem get?_reveal (h : r.accumulators.Distinct) (block : Block) (offset : UInt32) :
    (r.reveal block).visible.get? offset =
      if block.contains offset then (r.accumulators.get? offset).or (r.visible.get? offset)
      else r.visible.get? offset :=
  Table.get?_foldl_set h _ _ _

/-- Whatever is readable of a register is its running counter, so a latch that shows no counter
finds nothing there. -/
theorem Latched.get?_reveal (h : r.Latched) (block : Block) (offset : UInt32) :
    (r.reveal block).visible.get? offset =
      if block.contains offset then r.accumulators.get? offset else r.visible.get? offset := by
  rw [Registers.get?_reveal h.distinct]
  split
  · cases hvalue : r.accumulators.get? offset with
    | none => rw [Option.none_or, h.visible_eq offset hvalue]
    | some value => rfl
  · rfl

theorem Latched.countLatch (h : r.Latched) (latch : UInt32) : (r.countLatch latch).Latched where
  distinct := h.distinct
  visible_eq := h.visible_eq

theorem Latched.reveal (h : r.Latched) (block : Block) : (r.reveal block).Latched where
  distinct := h.distinct
  visible_eq offset hnone := by
    rw [h.get?_reveal]
    split
    · exact hnone
    · exact h.visible_eq offset hnone

/-- A latch shows the totals of its block, and leaves all other registers as they are. -/
theorem Latched.read_reveal (h : r.Latched) (block : Block) (offset : UInt32) :
    (r.reveal block).read offset =
      if block.contains offset then r.total offset else r.read offset := by
  rw [read, h.get?_reveal]
  split <;> rfl

end Registers

/-! ## Blocks -/

namespace Layout

/-- The offset lies in the block with the given number. -/
def Within (index : UInt8) (offset : UInt32) : Prop :=
  ∃ place : UInt32, place.toNat < 0x4000 ∧ offset = base index + place

theorem toNat_within {index : UInt8} {offset : UInt32} (h : Within index offset) :
    (base index).toNat ≤ offset.toNat ∧ offset.toNat < (base index).toNat + 0x4000 := by
  obtain ⟨place, hplace, rfl⟩ := h
  have hindex := index.toNat_lt
  rw [UInt32.toNat_add, toNat_base]
  omega

theorem toNat_latch (index : UInt8) :
    (ofIndex index).latch.toNat = 0x82B0 + 0x4000 * index.toNat :=
  toNat_base_add_latchPlace index

theorem isLatch_latch (index : UInt8) : Registers.isLatch (ofIndex index).latch = true := by
  have hlatch := toNat_latch index
  have hfirst : firstBlock.toNat = 0x8000 := rfl
  have hstride : blockStride.toNat = 0x4000 := rfl
  have hplace : latchPlace.toNat = 0x02B0 := rfl
  have hle : firstBlock ≤ (ofIndex index).latch := by
    rw [UInt32.le_iff_toNat_le, hlatch, hfirst]
    omega
  rw [Registers.isLatch, decide_eq_true hle, Bool.true_and, beq_iff_eq, ← UInt32.toNat_inj,
    UInt32.toNat_mod, UInt32.toNat_sub_of_le _ _ hle, hlatch, hfirst, hstride, hplace]
  omega

/-- The block with the given number. -/
def block (index : UInt8) : Block := ⟨base index, base index + blockStride⟩

/-- A numbered block ends far below the last offset. -/
theorem toNat_stop (index : UInt8) :
    (base index).toNat + blockStride.toNat < UInt32.size ∧
      (block index).stop.toNat = 0xC000 + 0x4000 * index.toNat := by
  have hindex := index.toNat_lt
  have hbase := toNat_base index
  have hstride : blockStride.toNat = 0x4000 := rfl
  have hsize : UInt32.size = 0x100000000 := rfl
  have hfits : (base index).toNat + blockStride.toNat < UInt32.size := by omega
  refine ⟨hfits, ?_⟩
  rw [block, toNat_add_of_lt hfits]
  omega

theorem ofLatch_latch (index : UInt8) :
    Block.ofLatch (ofIndex index).latch = .ok (block index) := by
  have hlatch := toNat_latch index
  have hplace : latchPlace.toNat = 0x02B0 := rfl
  have hle : latchPlace ≤ (ofIndex index).latch := by
    rw [UInt32.le_iff_toNat_le]
    omega
  have hstart : (ofIndex index).latch - latchPlace = base index := UInt32.add_sub_cancel _ _
  rw [Block.ofLatch_eq hle, hstart, checkedAdd_of_lt (toNat_stop index).1]
  rfl

/-- A block holds the registers whose offsets begin like that of its latch register. -/
theorem contains_block_eq (index : UInt8) (offset : UInt32) :
    (block index).contains offset =
      decide ((ofIndex index).latch / blockStride = offset / blockStride) := by
  have hbase := toNat_base index
  have hlatch := toNat_latch index
  have hstop := (toNat_stop index).2
  have hstride : blockStride.toNat = 0x4000 := rfl
  have hstart : (block index).start = base index := rfl
  rw [Block.contains, ← Bool.decide_and, decide_eq_decide, UInt32.le_iff_toNat_le,
    UInt32.lt_iff_toNat_lt, hstart, hbase, hstop, ← UInt32.toNat_inj, UInt32.toNat_div,
    UInt32.toNat_div, hlatch, hstride]
  omega

/-- The latch register of a block begins like all its offsets. -/
theorem latch_div {index : UInt8} {offset : UInt32} (h : Within index offset) :
    (ofIndex index).latch / blockStride = offset / blockStride := by
  have hwithin := toNat_within h
  have hlatch := toNat_latch index
  have hstride : blockStride.toNat = 0x4000 := rfl
  rw [toNat_base] at hwithin
  rw [← UInt32.toNat_inj, UInt32.toNat_div, UInt32.toNat_div, hlatch, hstride]
  omega

/-- The registers that latch together are those of one block. -/
theorem contains_block {index other : UInt8} {offset : UInt32} (h : Within index offset) :
    (block other).contains offset = decide (index = other) := by
  have hindex := toNat_latch index
  have hother := toNat_latch other
  have hstride : blockStride.toNat = 0x4000 := rfl
  rw [contains_block_eq, ← latch_div h, decide_eq_decide, ← UInt32.toNat_inj, UInt32.toNat_div,
    UInt32.toNat_div, hindex, hother, hstride, ← UInt8.toNat_inj]
  omega

/-- The latch of a numbered block succeeds. -/
theorem write_latch (r : Registers) (index : UInt8) :
    r.write (ofIndex index).latch latchValue =
      (.ok (), (r.countLatch (ofIndex index).latch).reveal (block index)) := by
  rw [Registers.write, if_pos ⟨rfl, isLatch_latch index⟩, Registers.latchBlock, ofLatch_latch]

/-- The places of the counters in their block, in the order in which a snapshot reads them. -/
def counterPlaces (extended : Bool) : List UInt32 :=
  txPlaces.toList ++ rxPlaces.toList ++
    if extended then breakdownNames.zipIdx.map fun e => breakdownPlace + 8 * UInt32.ofNat e.2
    else []

theorem reads_ofIndex (index : UInt8) (extended : Bool) :
    Snapshot.reads (ofIndex index) extended = (counterPlaces extended).map (base index + ·) := by
  cases extended
  · rfl
  · rw [Snapshot.reads, counterPlaces, if_pos rfl, if_pos rfl, List.map_append, ofIndex,
      List.map_map, List.map_map]
    rfl

theorem counterPlaces_lt (extended : Bool) :
    ∀ place ∈ counterPlaces extended, place.toNat < 0x4000 := by
  have hall : (counterPlaces extended).all (fun place => place.toNat < 0x4000) = true := by
    cases extended <;> decide
  simpa only [List.all_eq_true, decide_eq_true_eq] using hall

/-- A snapshot stays in its block. -/
theorem within_reads {index : UInt8} {extended : Bool} {offset : UInt32}
    (h : offset ∈ Snapshot.reads (ofIndex index) extended) : Within index offset := by
  rw [reads_ofIndex] at h
  obtain ⟨place, hplace, rfl⟩ := List.mem_map.mp h
  exact ⟨place, counterPlaces_lt extended place hplace, rfl⟩

end Layout

end EtherRelay.Hardware
