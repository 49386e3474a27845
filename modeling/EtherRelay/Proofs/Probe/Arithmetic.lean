import EtherRelay.Proofs.Probe.Latency
import EtherRelay.Workbench.Traffic
import Mathlib.Algebra.Order.Ring.Abs
import Mathlib.Data.Prod.Lex
import Mathlib.Tactic.NormNum.Basic

/-!
# Latencies as integers

The latency of a pair of hops and the sign that decides whether the pair goes backwards are
computed apart: one by wrapping words of 64 bits, the other by signed words of 128 bits. Both
describe the same integer, `Hop.elapsedNs`. The wide computation never leaves its range, so its
sign is the sign of that integer, and the latency is that integer modulo `2 ^ 64`.

While every tick counter stays below one sync period, as it does in generated probes, a pair goes
backwards exactly if its counters do, compared as a pair with the sync counter first.
-/

namespace EtherRelay

namespace Probe

/-- How many ticks make one step of the sync counter. -/
def ticksPerSync : Nat := syncPeriodNs / tickPeriodNs

theorem ticksPerSync_eq : ticksPerSync = 250 := rfl

/-! ## One pair of hops -/

namespace Hop

variable {newer older : Hop}

/-- The counters of a hop, compared by the sync counter first. -/
def time (hop : Hop) : ℕ ×ₗ ℕ := toLex (hop.sync.toNat, hop.tick.toNat)

/-- The hop with a constant added to each counter. -/
def shift (sync tick : UInt64) (hop : Hop) : Hop := ⟨hop.sync + sync, hop.tick + tick⟩

/-- No operation of the signed computation leaves the range of its words. -/
structure Fits (newer older : Hop) : Prop where
  sync_sub : (widen newer.sync).ssubOverflow (widen older.sync) = false
  sync_mul :
    (widen newer.sync - widen older.sync).smulOverflow (BitVec.ofNat 128 syncPeriodNs) = false
  tick_sub : (widen newer.tick).ssubOverflow (widen older.tick) = false
  tick_mul :
    (widen newer.tick - widen older.tick).smulOverflow (BitVec.ofNat 128 tickPeriodNs) = false
  add :
    ((widen newer.sync - widen older.sync) * BitVec.ofNat 128 syncPeriodNs).saddOverflow
      ((widen newer.tick - widen older.tick) * BitVec.ofNat 128 tickPeriodNs) = false

@[simp] theorem toInt_widen (counter : UInt64) : (widen counter).toInt = counter.toNat := by
  have hlt := counter.toNat_lt
  have hnat : (widen counter).toNat = counter.toNat := by
    rw [widen, BitVec.toNat_setWidth, UInt64.toNat_toBitVec]
    omega
  rw [BitVec.toInt_eq_toNat_of_lt (by omega), hnat]

theorem toInt_period {period : Nat} (h : period ≤ syncPeriodNs) :
    (BitVec.ofNat 128 period).toInt = period := by
  have hsmall : period ≤ 1000 := h
  have hnat : (BitVec.ofNat 128 period).toNat = period := by
    rw [BitVec.toNat_ofNat]
    omega
  rw [BitVec.toInt_eq_toNat_of_lt (by omega), hnat]

/-- The difference of two widened counters is exact. -/
theorem widen_sub (a b : UInt64) :
    (widen a).ssubOverflow (widen b) = false ∧
      (widen a - widen b).toInt = a.toNat - b.toNat := by
  have ha := a.toNat_lt
  have hb := b.toNat_lt
  have hfits : (widen a).ssubOverflow (widen b) = false := by
    simp only [BitVec.ssubOverflow, toInt_widen, Bool.or_eq_false_iff, decide_eq_false_iff_not]
    omega
  refine ⟨hfits, ?_⟩
  rw [BitVec.toInt_sub_of_not_ssubOverflow (by simp [hfits]), toInt_widen, toInt_widen]

/-- So is its multiple by either of the two periods, which is small enough for a sum. -/
theorem widen_sub_mul (a b : UInt64) {period : Nat} (h : period ≤ syncPeriodNs) :
    (widen a - widen b).smulOverflow (BitVec.ofNat 128 period) = false ∧
      ((widen a - widen b) * BitVec.ofNat 128 period).toInt =
        ((a.toNat : ℤ) - b.toNat) * period ∧
      |((a.toNat : ℤ) - b.toNat) * period| ≤ 2 ^ 64 * 1000 := by
  have hsub := (widen_sub a b).2
  have hbound : |((a.toNat : ℤ) - b.toNat) * period| ≤ 2 ^ 64 * 1000 := by
    have ha := a.toNat_lt
    have hb := b.toNat_lt
    have hdiff : |(a.toNat : ℤ) - b.toNat| ≤ 2 ^ 64 := abs_le.mpr ⟨by omega, by omega⟩
    have hperiod : |(period : ℤ)| ≤ 1000 := by
      rw [Nat.abs_cast]
      exact_mod_cast h
    rw [abs_mul]
    exact mul_le_mul hdiff hperiod (abs_nonneg _) (by norm_num)
  have hfits : (widen a - widen b).smulOverflow (BitVec.ofNat 128 period) = false := by
    have hrange := abs_le.mp hbound
    simp only [BitVec.smulOverflow, hsub, toInt_period h, Bool.or_eq_false_iff,
      decide_eq_false_iff_not]
    omega
  refine ⟨hfits, ?_, hbound⟩
  rw [BitVec.toInt_mul_of_not_smulOverflow (by simp [hfits]), hsub, toInt_period h]

/-- The signed computation is exact. -/
theorem fits (newer older : Hop) :
    Fits newer older ∧ (signedNs newer older).toInt = elapsedNs newer older := by
  have hsync := widen_sub_mul newer.sync older.sync (le_refl syncPeriodNs)
  have htick := widen_sub_mul newer.tick older.tick (show tickPeriodNs ≤ syncPeriodNs by decide)
  have hadd : ((widen newer.sync - widen older.sync) * BitVec.ofNat 128 syncPeriodNs).saddOverflow
      ((widen newer.tick - widen older.tick) * BitVec.ofNat 128 tickPeriodNs) = false := by
    have hs := abs_le.mp hsync.2.2
    have ht := abs_le.mp htick.2.2
    simp only [BitVec.saddOverflow, hsync.2.1, htick.2.1, Bool.or_eq_false_iff,
      decide_eq_false_iff_not]
    omega
  refine ⟨⟨(widen_sub _ _).1, hsync.1, (widen_sub _ _).1, htick.1, hadd⟩, ?_⟩
  rw [signedNs, BitVec.toInt_add_of_not_saddOverflow (by simp [hadd]), hsync.2.1, htick.2.1,
    elapsedNs]

/-- The sign in the wide words is the sign of the exact difference. -/
theorem slt_signedNs (newer older : Hop) :
    (signedNs newer older).slt 0 = decide (elapsedNs newer older < 0) := by
  rw [BitVec.slt, (fits newer older).2]
  rfl

/-- With ticks below one sync period no sync step is made up for by ticks. -/
theorem elapsedNs_neg_iff (hnewer : newer.tick.toNat < ticksPerSync)
    (holder : older.tick.toNat < ticksPerSync) :
    elapsedNs newer older < 0 ↔ newer.time < older.time := by
  rw [ticksPerSync_eq] at hnewer holder
  rw [time, time, Prod.Lex.toLex_lt_toLex]
  simp only [elapsedNs, syncPeriodNs, tickPeriodNs]
  omega

/-- A constant added to both counters of a kind cancels. -/
theorem latencyNs_shift (sync tick : UInt64) (newer older : Hop) :
    latencyNs (newer.shift sync tick) (older.shift sync tick) = latencyNs newer older := by
  have hcancel (a b c : UInt64) : a + c - (b + c) = a - b := by
    grind
  simp only [latencyNs, shift, hcancel]

/-- A latency is the difference as far as 64 bits can tell. -/
structure Tells (newer older : Hop) (ns : UInt64) : Prop where
  modulo : (ns.toNat : ℤ) = elapsedNs newer older % 2 ^ 64
  exact : 0 ≤ elapsedNs newer older → elapsedNs newer older < 2 ^ 64 →
    (ns.toNat : ℤ) = elapsedNs newer older

theorem tells_latencyNs (newer older : Hop) : Tells newer older (latencyNs newer older) := by
  have hmod : ((latencyNs newer older).toNat : ℤ) = elapsedNs newer older % 2 ^ 64 := by
    rw [toNat_latencyNs]
    exact Int.toNat_of_nonneg (Int.emod_nonneg _ (by decide))
  constructor
  case modulo => exact hmod
  case exact =>
    intro hnonneg hlt
    rw [hmod, Int.emod_eq_of_lt hnonneg hlt]

end Hop

/-! ## A whole probe -/

/-- The latencies, the most recent one first. -/
def Latency.values (report : Latency) : List UInt64 := [report.first, report.second]

namespace Stamps

/-- The pairs of neighbouring hops, the newer hop first. -/
def pairs (stamps : Stamps) : List (Hop × Hop) := stamps.hops.zip stamps.hops.tail

/-- The stamps with one constant added to all sync counters and one to all tick counters. -/
def shift (sync tick : UInt64) (stamps : Stamps) : Stamps :=
  ⟨stamps.hop₀.shift sync tick, stamps.hop₁.shift sync tick, stamps.hop₂.shift sync tick⟩

/-- Every tick counter is below one sync period. -/
def TicksBelowSync (stamps : Stamps) : Prop :=
  ∀ hop ∈ stamps.hops, hop.tick.toNat < ticksPerSync

/-- A report tells what the exact differences of the pairs are. -/
structure Measures (stamps : Stamps) (report : Latency) : Prop where
  /-- Every latency is the difference of its pair modulo `2 ^ 64`. -/
  latencies : List.Forall₂ (fun pair ns => Hop.Tells pair.1 pair.2 ns) stamps.pairs report.values
  /-- The wide computation stays in its range and comes to the same difference. -/
  wide : ∀ pair ∈ stamps.pairs, Hop.Fits pair.1 pair.2 ∧
    (Hop.signedNs pair.1 pair.2).toInt = Hop.elapsedNs pair.1 pair.2
  /-- The pairs with a negative difference are counted. -/
  reordered : report.reordered =
    stamps.pairs.countP fun pair => decide (Hop.elapsedNs pair.1 pair.2 < 0)
  /-- With small ticks these are the pairs whose counters go backwards. -/
  backwards : stamps.TicksBelowSync →
    (∀ pair ∈ stamps.pairs, Hop.elapsedNs pair.1 pair.2 < 0 ↔ pair.1.time < pair.2.time) ∧
      report.reordered = stamps.pairs.countP fun pair => decide (pair.1.time < pair.2.time)
  /-- Only differences of counters matter. -/
  shifted : ∀ sync tick, (stamps.shift sync tick).latency.values = report.values

theorem mem_pairs {stamps : Stamps} {pair : Hop × Hop} (h : pair ∈ stamps.pairs) :
    pair.1 ∈ stamps.hops ∧ pair.2 ∈ stamps.hops := by
  obtain ⟨hnewer, holder⟩ := List.of_mem_zip (a := pair.1) (b := pair.2) h
  exact ⟨hnewer, List.mem_of_mem_tail holder⟩

theorem reordered_latency (stamps : Stamps) :
    stamps.latency.reordered =
      stamps.pairs.countP fun pair => decide (Hop.elapsedNs pair.1 pair.2 < 0) := by
  simp only [latency, pairs, hops, Hop.slt_signedNs, List.tail_cons, List.zip_cons_cons,
    List.zip_nil_right, List.countP_cons, List.countP_nil]
  omega

theorem TicksBelowSync.neg_iff {stamps : Stamps} (h : stamps.TicksBelowSync) :
    ∀ pair ∈ stamps.pairs, Hop.elapsedNs pair.1 pair.2 < 0 ↔ pair.1.time < pair.2.time := by
  intro pair hpair
  obtain ⟨hnewer, holder⟩ := mem_pairs hpair
  exact Hop.elapsedNs_neg_iff (h _ hnewer) (h _ holder)

end Stamps

end Probe

namespace Workbench.Generator

/-- What is left of a time behind its last full sync period is less than such a period. -/
theorem tick_hopAt_lt (ns : UInt64) : (hopAt ns).tick.toNat < Probe.ticksPerSync := by
  have hperiod : (UInt64.ofNat Probe.syncPeriodNs).toNat = 1000 := by decide
  have htick : (UInt64.ofNat Probe.tickPeriodNs).toNat = 4 := by decide
  rw [hopAt, UInt64.toNat_div, UInt64.toNat_mod, hperiod, htick, Probe.ticksPerSync_eq]
  omega

theorem stamps_ticksBelowSync {ρ : Type} [RandomSource ρ] (g : Generator ρ) (nowNs : Nat) :
    (g.stamps nowNs).1.TicksBelowSync := by
  intro hop hmem
  simp only [stamps, Probe.Stamps.hops, List.mem_cons, List.not_mem_nil, or_false] at hmem
  rcases hmem with rfl | rfl | rfl <;> exact tick_hopAt_lt _

end Workbench.Generator

namespace Probe

/-- Reports of all stamps tell the exact differences, and generated stamps have small ticks. -/
theorem latency_measures :
    (∀ stamps : Stamps, stamps.Measures stamps.latency) ∧
      ∀ (ρ : Type) [Workbench.RandomSource ρ] (g : Workbench.Generator ρ) (nowNs : Nat),
        (g.stamps nowNs).1.TicksBelowSync := by
  refine ⟨fun stamps => ?_, fun _ _ g nowNs => g.stamps_ticksBelowSync nowNs⟩
  constructor
  case latencies => exact .cons (Hop.tells_latencyNs _ _) (.cons (Hop.tells_latencyNs _ _) .nil)
  case wide => exact fun pair _ => Hop.fits pair.1 pair.2
  case reordered => exact stamps.reordered_latency
  case backwards =>
    intro hticks
    refine ⟨hticks.neg_iff, ?_⟩
    rw [stamps.reordered_latency]
    apply List.countP_congr
    intro pair hpair
    simp only [decide_eq_true_eq]
    exact hticks.neg_iff pair hpair
  case shifted =>
    intro sync tick
    simp only [Latency.values, Stamps.latency, Stamps.shift, Hop.latencyNs_shift]

example : (⟨⟨95, 0⟩, ⟨98, 0⟩, ⟨90, 0⟩⟩ : Stamps).latency = ⟨0 - 3000, 8000, 1⟩ := by decide

end Probe

end EtherRelay
