import EtherRelay.Proofs.Hardware.Latching

/-!
# How far a latch reaches

There is a latch register in every block of the address space, far beyond the blocks that have a
number. The ends of its block are computed in 32 bits, and the topmost block ends at `2 ^ 32`.

The main statement holds for all of them and for whatever the registers contain: a latch makes the
running counters of its block readable and does nothing else, save that the latch of the topmost
block fails, since the end of this block is no offset. It is counted all the same.
-/

namespace EtherRelay.Hardware.Registers

/-- The register lies in the block of the latch register. The block is given in plain numbers, which
do not wrap. -/
def Shares (latch offset : UInt32) : Prop :=
  latch.toNat - 0x2B0 ≤ offset.toNat ∧ offset.toNat < latch.toNat - 0x2B0 + 0x4000

/-- What a latch does to registers: it shows the running counters that it reaches, shows nothing
else, changes no running counter and counts itself. -/
structure Reveals (reach : UInt32 → Prop) (latch : UInt32) (r r' : Registers) : Prop where
  read_of_reach : ∀ offset value, reach offset → r.accumulators.get? offset = some value →
    r'.read offset = value
  read_of_not : ∀ offset, ¬(reach offset ∧ (r.accumulators.get? offset).isSome) →
    r'.read offset = r.read offset
  accumulators_eq : r'.accumulators = r.accumulators
  latchCount_self : r'.latchCount latch = r.latchCount latch + 1
  latchCount_other : ∀ offset, offset ≠ latch → r'.latchCount offset = r.latchCount offset

variable {latch : UInt32}

/-! ## The ends of a block -/

/-- Latch registers stand at the same place of every block, up to the end of the address space. -/
theorem isLatch_iff :
    isLatch latch = true ↔ ∃ block : Nat, latch.toNat = 0x82B0 + 0x4000 * block := by
  have hfirst : firstBlock.toNat = 0x8000 := rfl
  have hstride : blockStride.toNat = 0x4000 := rfl
  have hplace : latchPlace.toNat = 0x02B0 := rfl
  have hmod (hle : firstBlock ≤ latch) :
      (latch - firstBlock) % blockStride = latchPlace ↔
        (latch.toNat - 0x8000) % 0x4000 = 0x02B0 := by
    rw [← UInt32.toNat_inj, UInt32.toNat_mod, UInt32.toNat_sub_of_le _ _ hle, hfirst, hstride,
      hplace]
  rw [isLatch, Bool.and_eq_true, decide_eq_true_eq, beq_iff_eq]
  constructor
  · rintro ⟨hle, hmod'⟩
    have hle' : 0x8000 ≤ latch.toNat := UInt32.le_iff_toNat_le.mp hle
    have hplace' := (hmod hle).mp hmod'
    exact ⟨(latch.toNat - 0x8000) / 0x4000, by omega⟩
  · rintro ⟨block, hblock⟩
    have hle : firstBlock ≤ latch := by
      rw [UInt32.le_iff_toNat_le]
      omega
    exact ⟨hle, (hmod hle).mpr (by omega)⟩

theorem latchPlace_le (h : isLatch latch = true) : latchPlace ≤ latch := by
  obtain ⟨block, hblock⟩ := isLatch_iff.mp h
  have hplace : latchPlace.toNat = 0x02B0 := rfl
  rw [UInt32.le_iff_toNat_le]
  omega

theorem toNat_start (h : isLatch latch = true) :
    (latch - latchPlace).toNat = latch.toNat - 0x2B0 :=
  UInt32.toNat_sub_of_le _ _ (latchPlace_le h)

/-- Every block but the topmost one ends below the end of the address space. -/
theorem end_lt_iff (h : isLatch latch = true) :
    latch.toNat - 0x2B0 + 0x4000 < UInt32.size ↔ latch ≠ lastLatch := by
  obtain ⟨block, hblock⟩ := isLatch_iff.mp h
  have hlt := latch.toNat_lt
  have hlast : lastLatch.toNat = 0xFFFFC2B0 := rfl
  have hsize : UInt32.size = 0x100000000 := rfl
  rw [ne_eq, ← UInt32.toNat_inj, hlast, hsize]
  omega

/-- The ends of a block are computed without overflow. -/
theorem ofLatch_of_ne (h : isLatch latch = true) (hne : latch ≠ lastLatch) :
    ∃ block, Block.ofLatch latch = .ok block ∧ block.start.toNat = latch.toNat - 0x2B0 ∧
      block.stop.toNat = latch.toNat - 0x2B0 + 0x4000 := by
  have hstart := toNat_start h
  have hend := (end_lt_iff h).mpr hne
  have hstride : blockStride.toNat = 0x4000 := rfl
  have hfits : (latch - latchPlace).toNat + blockStride.toNat < UInt32.size := by
    rw [hstart, hstride]
    exact hend
  refine ⟨⟨latch - latchPlace, latch - latchPlace + blockStride⟩, ?_, hstart, ?_⟩
  · rw [Block.ofLatch_eq (latchPlace_le h), checkedAdd_of_lt hfits]
    rfl
  · rw [toNat_add_of_lt hfits, hstart, hstride]

/-- The end of the topmost block overflows. -/
theorem ofLatch_lastLatch : Block.ofLatch lastLatch = .error .add := by
  have hstart : (lastLatch - latchPlace).toNat = 0xFFFFC000 := by decide
  have hstride : blockStride.toNat = 0x4000 := rfl
  have hsize : UInt32.size = 0x100000000 := rfl
  have hover : UInt32.size ≤ (lastLatch - latchPlace).toNat + blockStride.toNat := by omega
  rw [Block.ofLatch_eq (by decide), checkedAdd_of_le hover]
  rfl

/-! ## The reach of a latch -/

theorem contains_iff {block : Block} (hstart : block.start.toNat = latch.toNat - 0x2B0)
    (hstop : block.stop.toNat = latch.toNat - 0x2B0 + 0x4000) (offset : UInt32) :
    block.contains offset = true ↔ Shares latch offset := by
  rw [Block.contains, Bool.and_eq_true, decide_eq_true_eq, decide_eq_true_eq,
    UInt32.le_iff_toNat_le, UInt32.lt_iff_toNat_lt, hstart, hstop, Shares]

variable {r : Registers}

/-- A counted latch that reaches no register. -/
theorem countLatch_reveals (r : Registers) (latch : UInt32) :
    Reveals (fun _ => False) latch r (r.countLatch latch) where
  read_of_reach _ _ hreach _ := hreach.elim
  read_of_not _ _ := rfl
  accumulators_eq := rfl
  latchCount_self := by
    rw [latchCount, countLatch, Table.get?_set, if_pos rfl]
    rfl
  latchCount_other offset hne := by
    rw [latchCount, countLatch, Table.get?_set, if_neg hne.symm]
    rfl

/-- A counted latch that reaches a block copies the running counters of this block, and keeps what
was readable otherwise. -/
theorem reveal_reveals (h : r.accumulators.Distinct) (latch : UInt32) (block : Block) :
    Reveals (fun offset => block.contains offset = true) latch r
      ((r.countLatch latch).reveal block) where
  read_of_reach offset value hreach hvalue := by
    have hshown := get?_reveal (r := r.countLatch latch) h block offset
    have hcounter : (r.countLatch latch).accumulators.get? offset = some value := hvalue
    rw [read, hshown, if_pos hreach, hcounter]
    rfl
  read_of_not offset hnot := by
    rw [read, get?_reveal (r := r.countLatch latch) h, read]
    split
    · next hreach =>
      have hnone : (r.countLatch latch).accumulators.get? offset = none :=
        Option.not_isSome_iff_eq_none.mp fun hsome => hnot ⟨hreach, hsome⟩
      rw [hnone]
      rfl
    · rfl
  accumulators_eq := rfl
  latchCount_self := (countLatch_reveals r latch).latchCount_self
  latchCount_other := (countLatch_reveals r latch).latchCount_other

/-- What a latch reaches may be described in any way. -/
theorem Reveals.congr {reach reach' : UInt32 → Prop} {r' : Registers}
    (h : Reveals reach latch r r') (hiff : ∀ offset, reach offset ↔ reach' offset) :
    Reveals reach' latch r r' := by
  have heq : reach = reach' := funext fun offset => propext (hiff offset)
  exact heq ▸ h

/-- A write fails only as a latch of the topmost block. -/
theorem write_fst (r : Registers) (offset value : UInt32) :
    (r.write offset value).1 =
      if value = latchValue ∧ offset = lastLatch then .error .add else .ok () := by
  have hlast : isLatch lastLatch = true := by decide
  rw [write]
  by_cases hlatch : value = latchValue ∧ isLatch offset = true
  · rw [if_pos hlatch, latchBlock]
    by_cases htop : offset = lastLatch
    · rw [htop, ofLatch_lastLatch, if_pos ⟨hlatch.1, rfl⟩]
    · obtain ⟨block, hblock, _⟩ := ofLatch_of_ne hlatch.2 htop
      rw [hblock, if_neg fun hboth => htop hboth.2]
  · have htop : ¬(value = latchValue ∧ offset = lastLatch) := by
      rintro ⟨hvalue, rfl⟩
      exact hlatch ⟨hvalue, hlast⟩
    rw [if_neg hlatch, if_neg htop]

/-- A snapshot always gets its latch. -/
theorem write_layout_fst (r : Registers) (layout : Layout) :
    (r.write layout.latch latchValue).1 = .ok () := by
  rw [write_fst, if_neg fun hboth => layout.latch_ne hboth.2]

/-- Whatever the registers contain, a latch by any latch register below the topmost one computes
the ends of its block without overflow, succeeds, shows the running counters of this block and does
nothing else. The end of the topmost block overflows, and a latch there fails: it shows nothing, but
it counts. -/
theorem write_reveals (hdistinct : r.accumulators.Distinct) (hlatch : isLatch latch = true) :
    (latch ≠ lastLatch →
      (∃ block, Block.ofLatch latch = .ok block ∧
        block.start.toNat = latch.toNat - latchPlace.toNat ∧
        block.stop.toNat = latch.toNat - latchPlace.toNat + blockStride.toNat) ∧
      (r.write latch latchValue).1 = .ok () ∧
      Reveals (Shares latch) latch r (r.write latch latchValue).2) ∧
    (latch = lastLatch →
      Block.ofLatch latch = .error .add ∧
      (r.write latch latchValue).1 = .error .add ∧
      Reveals (fun _ => False) latch r (r.write latch latchValue).2) := by
  have hwrite : r.write latch latchValue = r.latchBlock latch := if_pos ⟨rfl, hlatch⟩
  constructor
  · intro hne
    obtain ⟨block, hblock, hstart, hstop⟩ := ofLatch_of_ne hlatch hne
    have hreveals := (reveal_reveals hdistinct latch block).congr (contains_iff hstart hstop)
    refine ⟨⟨block, hblock, hstart, hstop⟩, ?_, ?_⟩
    · rw [write_fst, if_neg fun hboth => hne hboth.2]
    · rw [hwrite, latchBlock, hblock]
      exact hreveals
  · rintro rfl
    refine ⟨ofLatch_lastLatch, ?_, ?_⟩
    · rw [write_fst, if_pos ⟨rfl, rfl⟩]
    · rw [hwrite, latchBlock, ofLatch_lastLatch]
      exact countLatch_reveals r lastLatch

/-- Registers with a value in the last block but one and one in the topmost block. -/
def nearTheEnd : Registers :=
  ((({} : Registers).bump 0xFFFF8500 3).bump 0xFFFFC500 7).write 0xFFFF8508 9 |>.2

/-- The latch of the last block but one shows the counter in its block and leaves the register
beside it and the counter in the topmost block alone. -/
theorem write_reveals_nearTheEnd :
    nearTheEnd.accumulators.Distinct ∧ isLatch 0xFFFF82B0 = true ∧
    (nearTheEnd.write 0xFFFF82B0 latchValue).1 = .ok () ∧
    Reveals (Shares 0xFFFF82B0) 0xFFFF82B0 nearTheEnd
      (nearTheEnd.write 0xFFFF82B0 latchValue).2 := by
  have hdistinct : nearTheEnd.accumulators.Distinct := by
    rw [Table.Distinct]
    decide
  have hlatch : isLatch 0xFFFF82B0 = true := by decide
  obtain ⟨hbelow, _⟩ := write_reveals hdistinct hlatch
  obtain ⟨_, hok, hreveals⟩ := hbelow (by decide)
  exact ⟨hdistinct, hlatch, hok, hreveals⟩

/-- The running counter lies in the block of a latch register, but writing the latch value there
fails with an overflow and does not show it. -/
theorem exists_not_revealed :
    let r := ({} : Registers).bump 0xFFFFC500 7
    isLatch 0xFFFFC2B0 = true ∧ Shares 0xFFFFC2B0 0xFFFFC500 ∧
    r.accumulators.get? 0xFFFFC500 = some 7 ∧
    Block.ofLatch 0xFFFFC2B0 = .error .add ∧
    (r.write 0xFFFFC2B0 latchValue).1 = .error .add ∧
    (r.write 0xFFFFC2B0 latchValue).2.read 0xFFFFC500 = 0 := by
  refine ⟨by decide, ⟨by decide, by decide⟩, by decide, rfl, rfl, by decide⟩

end EtherRelay.Hardware.Registers
