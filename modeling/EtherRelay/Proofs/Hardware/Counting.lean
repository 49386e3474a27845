import EtherRelay.Proofs.Hardware.History

/-!
# Blocks in which only frames are counted

Frames are counted in the totals of a block, four registers for each direction. If nothing else is
bumped or written there, a snapshot shows these totals, and no breakdown.

Frames that are counted in two parts leave the same registers as frames that are counted at once:
a register that is in use keeps its place in its table, so the order of counting does not show.
-/

namespace EtherRelay.Hardware

/-- Count frames in the totals. -/
def Totals.plus (t : Totals UInt32) (frames bytes : UInt32) : Totals UInt32 :=
  ⟨t.packets + frames, t.goodPackets + frames, t.bytes + bytes, t.goodBytes + bytes⟩

theorem Totals.plus_zero (t : Totals UInt32) : t.plus 0 0 = t := by
  simp only [plus, UInt32.add_zero]

namespace Layout

/-- The registers of the totals. -/
def totals (layout : Layout) : List UInt32 := layout.tx.toList ++ layout.rx.toList

/-- None of the totals is in the block with this number. -/
def Avoids (layout : Layout) (index : UInt8) : Prop :=
  ∀ offset ∈ layout.totals, ¬ Within index offset

theorem totals_ofIndex (index : UInt8) :
    (ofIndex index).totals = (txPlaces.toList ++ rxPlaces.toList).map (base index + ·) := rfl

theorem base_add_inj {index : UInt8} {place place' : UInt32} :
    base index + place = base index + place' ↔ place = place' :=
  UInt32.add_right_inj _

theorem nodup_totals (index : UInt8) : (ofIndex index).totals.Nodup := by
  rw [totals_ofIndex]
  exact (by decide : (txPlaces.toList ++ rxPlaces.toList).Nodup).map
    fun _ _ => base_add_inj.mp

theorem within_totals {index : UInt8} {offset : UInt32} (h : offset ∈ (ofIndex index).totals) :
    Within index offset := by
  have hreads : offset ∈ Snapshot.reads (ofIndex index) false := List.mem_append_left _ h
  exact within_reads hreads

theorem Avoids.ne {layout : Layout} {index : UInt8} (h : layout.Avoids index) :
    layout ≠ ofIndex index := by
  rintro rfl
  have hmem : (ofIndex index).tx.packets ∈ (ofIndex index).totals := List.mem_cons_self
  exact h _ hmem (within_totals hmem)

/-- Blocks with different numbers have no register in common. -/
theorem avoids_ofIndex {index other : UInt8} (h : other ≠ index) :
    (ofIndex other).Avoids index := by
  intro offset hoffset hwithin
  have hin : (block other).contains offset = true :=
    (contains_block (within_totals hoffset)).trans (decide_eq_true rfl)
  rw [contains_block hwithin, decide_eq_true_iff] at hin
  exact h hin.symm

/-- The breakdown has registers of its own. -/
theorem breakdown_notMem_totals {index : UInt8} {e : String × UInt32}
    (h : e ∈ (ofIndex index).extended) : e.2 ∉ (ofIndex index).totals := by
  obtain ⟨n, hn, rfl⟩ := List.mem_map.mp h
  have hplaces : ∀ n ∈ breakdownNames.zipIdx,
      breakdownPlace + 8 * UInt32.ofNat n.2 ∉ txPlaces.toList ++ rxPlaces.toList := by decide
  rw [totals_ofIndex, List.mem_map]
  rintro ⟨place, hplace, hsame⟩
  exact hplaces n hn (base_add_inj.mp hsame ▸ hplace)

theorem within_breakdown {index : UInt8} {e : String × UInt32}
    (h : e ∈ (ofIndex index).extended) : Within index e.2 := by
  have hreads : e.2 ∈ Snapshot.reads (ofIndex index) true :=
    List.mem_append_right _ (List.mem_map_of_mem h)
  exact within_reads hreads

end Layout

namespace Registers

variable (r : Registers)

theorem total_bump (place delta offset : UInt32) :
    (r.bump place delta).total offset = r.total offset + if place = offset then delta else 0 := by
  rw [total, bump, Table.get?_set]
  split
  · next h => rw [h]; rfl
  · exact (UInt32.add_zero _).symm

theorem total_countFrames_of_notMem {t : Totals UInt32} {offset : UInt32} (h : offset ∉ t.toList)
    (frames bytes : UInt32) : (r.countFrames t frames bytes).total offset = r.total offset := by
  simp only [Totals.toList, List.mem_cons, List.not_mem_nil, or_false, not_or] at h
  obtain ⟨h₁, h₂, h₃, h₄⟩ := h
  simp only [countFrames, total_bump, Ne.symm h₁, Ne.symm h₂, Ne.symm h₃, Ne.symm h₄, if_false,
    UInt32.add_zero]

/-- Frames are counted in four registers at once, each of them by itself. -/
theorem map_total_countFrames {t : Totals UInt32} (h : t.toList.Nodup) (frames bytes : UInt32) :
    t.map (r.countFrames t frames bytes).total = (t.map r.total).plus frames bytes := by
  simp only [Totals.toList, List.nodup_cons, List.mem_cons, List.not_mem_nil, or_false,
    not_or] at h
  obtain ⟨⟨h₁, h₂, h₃⟩, ⟨h₄, h₅⟩, h₆, _⟩ := h
  simp only [Totals.map, Totals.plus, countFrames, total_bump, h₁, h₂, h₃, h₄, h₅, h₆,
    Ne.symm h₁, Ne.symm h₂, Ne.symm h₃, Ne.symm h₄, Ne.symm h₅, Ne.symm h₆, if_true, if_false,
    UInt32.add_zero]

/-- The change leaves a block as it is, but for its totals and its latch. -/
def Change.Counts (index : UInt8) : Change → Prop
  | .bump place _ => Layout.Within index place → place ∈ (Layout.ofIndex index).totals
  | .write place value => isLatching place value = true ∨ ¬ Layout.Within index place

/-- Frames are counted by bumps alone. -/
theorem changes_countFrames {t : Totals UInt32} {frames bytes : UInt32} {c : Change}
    (h : c ∈ (Operation.countFrames t frames bytes).changes) :
    ∃ offset ∈ t.toList, ∃ delta, c = .bump offset delta := by
  simp only [Operation.changes, List.mem_cons, List.not_mem_nil, or_false] at h
  simp only [Totals.toList, List.exists_mem_cons_iff, List.not_mem_nil, false_and, exists_false,
    or_false]
  rcases h with rfl | rfl | rfl | rfl
  · exact .inr (.inr (.inr ⟨_, rfl⟩))
  · exact .inr (.inr (.inl ⟨_, rfl⟩))
  · exact .inr (.inl ⟨_, rfl⟩)
  · exact .inl ⟨_, rfl⟩

variable {r} {changes : List Change} {index : UInt8} {offset : UInt32}

/-- A register that nothing was written to shows nothing before it is bumped. -/
theorem lastValue_eq_zero (hcounts : ∀ c ∈ changes, c.Counts index)
    (hwithin : Layout.Within index offset) (hbumps : bumps offset changes = []) :
    lastValue offset changes = 0 := by
  induction changes with
  | nil => rfl
  | cons c changes ih =>
      obtain ⟨hc, hchanges⟩ := List.forall_mem_cons.mp hcounts
      cases c with
      | bump place delta =>
          rw [bumps_bump] at hbumps
          split at hbumps
          · cases hbumps
          · exact ih hchanges hbumps
      | write place value =>
          rw [bumps_write] at hbumps
          rw [lastValue]
          split
          · rw [if_neg fun hboth => hboth.2 hbumps]
            exact ih hchanges hbumps
          · next hplain =>
            have hplace : place ≠ offset := fun hsame =>
              (hc.resolve_left hplain) (hsame ▸ hwithin)
            rw [if_neg hplace]
            exact ih hchanges hbumps

/-- A register outside the totals is never bumped. -/
theorem bumps_eq_nil (hcounts : ∀ c ∈ changes, c.Counts index)
    (hwithin : Layout.Within index offset) (hoffset : offset ∉ (Layout.ofIndex index).totals) :
    bumps offset changes = [] := by
  induction changes with
  | nil => rfl
  | cons c changes ih =>
      obtain ⟨hc, hchanges⟩ := List.forall_mem_cons.mp hcounts
      cases c with
      | bump place delta =>
          rw [bumps_bump, if_neg, ih hchanges]
          rintro rfl
          exact hoffset (hc hwithin)
      | write place value => exact ih hchanges

/-- After a latch, a block of which only the totals are counted shows its running counters. -/
theorem Shows.read_latchAndRead (h : r.Shows changes) (hcounts : ∀ c ∈ changes, c.Counts index)
    (hwithin : Layout.Within index offset) (extended : Bool) :
    (r.perform (.latchAndRead index extended)).read offset = r.total offset := by
  rw [(h.latchAndRead index extended).read_eq, h.total_eq, lastValue,
    if_pos (isLatching_latch index)]
  split
  · rfl
  · next hnot =>
    have hbumps : bumps offset changes = [] :=
      not_not.mp fun hbumps => hnot ⟨Layout.latch_div hwithin, hbumps⟩
    rw [lastValue_eq_zero hcounts hwithin hbumps, hbumps, List.sum_nil]

end Registers

theorem Totals.map_congr {t : Totals UInt32} {f g : UInt32 → UInt32}
    (h : ∀ offset ∈ t.toList, f offset = g offset) : t.map f = t.map g := by
  obtain ⟨packets, goodPackets, bytes, goodBytes⟩ := t
  simp only [toList, List.forall_mem_cons] at h
  obtain ⟨h₁, h₂, h₃, h₄, _⟩ := h
  simp only [map, h₁, h₂, h₃, h₄]

/-- A snapshot of a block of which only the totals are counted shows these, and no breakdown. -/
theorem Registers.Shows.take_eq {r : Registers} {changes : List Change} {index : UInt8}
    (h : r.Shows changes) (hcounts : ∀ c ∈ changes, c.Counts index) (extended : Bool) :
    (Snapshot.take r (.ofIndex index) extended).1 =
      { tx := (Layout.ofIndex index).tx.map r.total
        rx := (Layout.ofIndex index).rx.map r.total
        extended := if extended then breakdownNames.map (·, 0) else [] } := by
  have hread : ∀ offset, Layout.Within index offset →
      (r.write (Layout.ofIndex index).latch latchValue).2.read offset = r.total offset := by
    intro offset hwithin
    have hlatched := h.read_latchAndRead hcounts hwithin extended
    rw [perform_latchAndRead] at hlatched
    exact hlatched
  have htotals : ∀ offset ∈ (Layout.ofIndex index).totals,
      (r.write (Layout.ofIndex index).latch latchValue).2.read offset = r.total offset :=
    fun offset hoffset => hread offset (Layout.within_totals hoffset)
  have hbreakdown : (Layout.ofIndex index).extended.map
      (fun e => (e.1, (r.write (Layout.ofIndex index).latch latchValue).2.read e.2)) =
      breakdownNames.map (·, 0) := by
    have hzero : ∀ e ∈ (Layout.ofIndex index).extended,
        (e.1, (r.write (Layout.ofIndex index).latch latchValue).2.read e.2) = (e.1, 0) := by
      intro e he
      have hwithin := Layout.within_breakdown he
      have hnone := bumps_eq_nil hcounts hwithin (Layout.breakdown_notMem_totals he)
      rw [hread _ hwithin, h.total_eq, hnone, List.sum_nil]
    have hnames : (Layout.ofIndex index).extended.map Prod.fst = breakdownNames := by
      rw [Layout.ofIndex, List.map_map]
      exact List.zipIdx_map_fst 0 breakdownNames
    rw [List.map_congr_left hzero, ← hnames, List.map_map]
    rfl
  simp only [Snapshot.take, Snapshot.ofRegisters, Snapshot.mk.injEq]
  refine ⟨?_, ?_, ?_⟩
  · exact Totals.map_congr fun offset hoffset =>
      htotals offset (List.mem_append_left _ hoffset)
  · exact Totals.map_congr fun offset hoffset =>
      htotals offset (List.mem_append_right _ hoffset)
  · rw [hbreakdown]

/-! ## Counting in parts -/

namespace Table

variable {α : Type} {offset place : UInt32} {entries : List (UInt32 × α)}

theorem insert_insert (offset : UInt32) (value value' : α) (entries : List (UInt32 × α)) :
    insert offset value' (insert offset value entries) = insert offset value' entries := by
  induction entries with
  | nil => simp [insert]
  | cons e rest ih =>
    by_cases h : e.1 = offset
    · simp [insert, h]
    · simp [insert, h, ih]

/-- An offset that is in use keeps its place. -/
theorem insert_comm (hne : offset ≠ place) (hmem : place ∈ entries.map Prod.fst)
    (value value' : α) :
    insert place value' (insert offset value entries) =
      insert offset value (insert place value' entries) := by
  induction entries with
  | nil => nomatch hmem
  | cons e rest ih =>
    by_cases ho : e.1 = offset
    · have hp : e.1 ≠ place := fun h => hne (ho.symm.trans h)
      simp [insert, ho, hne]
    · by_cases hp : e.1 = place
      · simp [insert, hp, hne.symm]
      · rcases List.mem_cons.mp hmem with rfl | hrest
        · exact absurd rfl hp
        · simp [insert, ho, hp, ih hrest]

theorem mem_insert (offset : UInt32) (value : α) (entries : List (UInt32 × α)) :
    offset ∈ (insert offset value entries).map Prod.fst := by
  induction entries with
  | nil => exact List.mem_singleton_self _
  | cons e rest ih =>
    rw [insert]
    split
    · exact List.mem_cons_self
    · exact List.mem_cons_of_mem _ ih

theorem mem_insert_of_mem (h : place ∈ entries.map Prod.fst) (offset : UInt32) (value : α) :
    place ∈ (insert offset value entries).map Prod.fst := by
  induction entries with
  | nil => nomatch h
  | cons e rest ih =>
    rw [insert]
    split
    · next he =>
      rcases List.mem_cons.mp h with rfl | hrest
      · exact he ▸ List.mem_cons_self
      · exact List.mem_cons_of_mem _ hrest
    · rcases List.mem_cons.mp h with rfl | hrest
      · exact List.mem_cons_self
      · exact List.mem_cons_of_mem _ (ih hrest)

end Table

namespace Registers

/-- Whether a running counter is in use. -/
def Runs (r : Registers) (offset : UInt32) : Prop :=
  offset ∈ r.accumulators.entries.map Prod.fst

variable (r : Registers) {offset place : UInt32}

theorem runs_bump (offset delta : UInt32) : (r.bump offset delta).Runs offset :=
  Table.mem_insert _ _ _

variable {r} in
theorem Runs.bump (h : r.Runs place) (offset delta : UInt32) : (r.bump offset delta).Runs place :=
  Table.mem_insert_of_mem h _ _

theorem bump_bump (offset a b : UInt32) :
    (r.bump offset a).bump offset b = r.bump offset (a + b) := by
  have hread : (r.bump offset a).accumulators.get? offset =
      some ((r.accumulators.get? offset).getD 0 + a) := by
    rw [bump, Table.get?_set, if_pos rfl]
  rw [bump, hread, bump, bump, Option.getD_some, UInt32.add_assoc]
  simp only [Table.set, Table.insert_insert]

variable {r} in
/-- Counters that are in use can be counted in any order. -/
theorem Runs.bump_comm (h : r.Runs place) (offset a b : UInt32) :
    (r.bump offset a).bump place b = (r.bump place b).bump offset a := by
  by_cases hne : offset = place
  · rw [hne, bump_bump, bump_bump, UInt32.add_comm]
  · simp only [Registers.bump, Table.get?_set, if_neg hne, if_neg (Ne.symm hne)]
    simp only [Table.set, Table.insert_comm hne h]

/-- Count in several registers, one after the other. -/
def bumpAll (r : Registers) (counts : List (UInt32 × UInt32)) : Registers :=
  counts.foldl (fun r c => r.bump c.1 c.2) r

variable {r} in
theorem Runs.bumpAll_bump (h : r.Runs place) (delta : UInt32) (counts : List (UInt32 × UInt32)) :
    (r.bumpAll counts).bump place delta = (r.bump place delta).bumpAll counts := by
  induction counts generalizing r with
  | nil => rfl
  | cons c counts ih =>
    show ((r.bump c.1 c.2).bumpAll counts).bump place delta = _
    rw [ih (h.bump c.1 c.2), h.bump_comm]
    rfl

/-- Counting in the same registers twice is counting the sums. -/
theorem bumpAll_bumpAll (counts : List (UInt32 × UInt32 × UInt32)) :
    (r.bumpAll (counts.map fun c => (c.1, c.2.1))).bumpAll (counts.map fun c => (c.1, c.2.2)) =
      r.bumpAll (counts.map fun c => (c.1, c.2.1 + c.2.2)) := by
  induction counts generalizing r with
  | nil => rfl
  | cons c counts ih =>
    obtain ⟨offset, a, b⟩ := c
    show (((r.bump offset a).bumpAll _).bump offset b).bumpAll _ = (r.bump offset (a + b)).bumpAll _
    rw [(r.runs_bump offset a).bumpAll_bump, bump_bump, ih]

/-- Frames that are counted in two parts. -/
theorem countFrames_countFrames (t : Totals UInt32) (frames frames' bytes bytes' : UInt32) :
    (r.countFrames t frames bytes).countFrames t frames' bytes' =
      r.countFrames t (frames + frames') (bytes + bytes') :=
  r.bumpAll_bumpAll [(t.packets, frames, frames'), (t.goodPackets, frames, frames'),
    (t.bytes, bytes, bytes'), (t.goodBytes, bytes, bytes')]

end Registers
end EtherRelay.Hardware
