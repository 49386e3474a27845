import EtherRelay.Proofs.Probe.Arithmetic
import EtherRelay.Proofs.Probe.RoundTrip

/-!
# Probes carry the latencies that were drawn for them

A generated probe is stamped with the times at which it would have passed its hops: some time for
the oldest hop, and behind it one random latency after the other. A time is split into full sync
periods and the full ticks behind them, so what is below a tick is lost at every hop. Since a sync
period holds a whole number of ticks, nothing else is lost, however the time lies in both periods:
the counters of a hop show `Generator.shownNs`, and the difference of two hops is off by less than
a tick.

The main statement follows the two latencies from the draw through the frame into the report of
whoever reads it.
-/

namespace EtherRelay.Workbench

/-! ## Draws -/

/-- The number lies between the two bounds, whichever of them is the lower one. -/
def Within (bounds : UInt64 × UInt64) (n : UInt64) : Prop :=
  bounds.1 ≤ n ∧ n ≤ bounds.2 ∨ bounds.2 ≤ n ∧ n ≤ bounds.1

instance (bounds : UInt64 × UInt64) (n : UInt64) : Decidable (Within bounds n) :=
  inferInstanceAs (Decidable (_ ∨ _))

/-- A random number from an interval lies in it, the interval of all words included. -/
theorem Random.between_mem (r : Random) {low high : UInt64} (h : low ≤ high) :
    low ≤ (r.between low high).1 ∧ (r.between low high).1 ≤ high := by
  have hle : low.toNat ≤ high.toNat := h
  have hspread : (high - low).toNat = high.toNat - low.toNat := UInt64.toNat_sub_of_le _ _ h
  have hhigh := high.toNat_lt
  rw [between]
  split
  · next hall =>
    have hall : (high - low).toNat = UInt64.size - 1 := by
      rw [hall]
      decide
    have hword := r.next.1.toNat_lt
    rw [hspread, UInt64.size] at hall
    constructor
    · show low.toNat ≤ r.next.1.toNat
      omega
    · show r.next.1.toNat ≤ high.toNat
      omega
  · have hoffset := below_lt (Nat.succ_pos (high - low).toNat) 1000 r
    -- a draw can be repeated very often, so nothing may unfold it
    generalize below ((high - low).toNat + 1) 1000 r = drawn at hoffset ⊢
    obtain ⟨offset, random⟩ := drawn
    have hsum : (low + UInt64.ofNat offset).toNat = low.toNat + offset := by
      rw [UInt64.toNat_add, UInt64.toNat_ofNat']
      omega
    constructor
    · show low.toNat ≤ (low + UInt64.ofNat offset).toNat
      omega
    · show (low + UInt64.ofNat offset).toNat ≤ high.toNat
      omega

namespace Generator

variable {ρ : Type} [RandomSource ρ]

/-- The latencies that are drawn for the next probe: first the one from the oldest hop to the middle
one, then the one from there to the most recent one. -/
def draws (g : Generator ρ) : UInt64 × UInt64 :=
  let (first, random) := RandomSource.between g.random g.latencyNs.1 g.latencyNs.2
  (first, (RandomSource.between random g.latencyNs.1 g.latencyNs.2).1)

/-- The stamps of a probe that leaves the oldest hop at a time. -/
def stampsAt (oldest : UInt64) (latencies : UInt64 × UInt64) : Probe.Stamps :=
  let middle := oldest + latencies.1
  ⟨hopAt (middle + latencies.2), hopAt middle, hopAt oldest⟩

theorem stamps_eq_stampsAt (g : Generator ρ) (nowNs : Nat) :
    (g.stamps nowNs).1 = stampsAt (UInt64.ofNat (nowNs - g.originNs)) g.draws := rfl

/-- A generator puts the bounds of its plan in order. -/
theorem latencyNs_create (seed : UInt64) (interface : Nat) (queues : QueueSet)
    (plan : TrafficPlan) (originNs : Nat) :
    (create seed interface queues plan originNs : Generator ρ).latencyNs =
      if plan.hopLatencyNs.1 ≤ plan.hopLatencyNs.2 then plan.hopLatencyNs
      else (plan.hopLatencyNs.2, plan.hopLatencyNs.1) := by
  show (if plan.hopLatencyNs.1 ≤ plan.hopLatencyNs.2 then plan.hopLatencyNs.1
      else plan.hopLatencyNs.2,
    if plan.hopLatencyNs.1 ≤ plan.hopLatencyNs.2 then plan.hopLatencyNs.2
      else plan.hopLatencyNs.1) = _
  split <;> rfl

/-- Both draws are taken from the range of the plan. -/
theorem draws_within {g : Generator Random} {plan : TrafficPlan} {seed : UInt64} {interface : Nat}
    {queues : QueueSet} {originNs : Nat}
    (h : g.latencyNs =
      (create seed interface queues plan originNs : Generator Random).latencyNs) :
    Within plan.hopLatencyNs g.draws.1 ∧ Within plan.hopLatencyNs g.draws.2 := by
  have hdraw : ∀ r : Random, Within plan.hopLatencyNs
      (RandomSource.between r g.latencyNs.1 g.latencyNs.2).1 := by
    intro r
    rw [h, latencyNs_create]
    split
    · next hle => exact .inl (r.between_mem hle)
    · next hlt =>
      have hle : plan.hopLatencyNs.2.toNat ≤ plan.hopLatencyNs.1.toNat :=
        Nat.le_of_not_le hlt
      exact .inr (r.between_mem hle)
  exact ⟨hdraw _, hdraw _⟩

/-! ## What the counters show of a time -/

/-- A time as the counters of a hop show it: without what is below a tick. -/
def shownNs (ns : UInt64) : Nat := Probe.tickPeriodNs * (ns.toNat / Probe.tickPeriodNs)

/-- Less than a tick is lost. -/
theorem shownNs_bounds (ns : UInt64) : shownNs ns ≤ ns.toNat ∧ ns.toNat ≤ shownNs ns + 3 := by
  simp only [shownNs, Probe.tickPeriodNs]
  omega

theorem shownNs_mono {earlier later : UInt64} (h : earlier ≤ later) :
    shownNs earlier ≤ shownNs later :=
  Nat.mul_le_mul_left _ (Nat.div_le_div_right h)

/-- The counters together show the time: the sync periods are whole numbers of ticks. -/
theorem elapsedNs_hopAt (later earlier : UInt64) :
    Probe.Hop.elapsedNs (hopAt later) (hopAt earlier) = shownNs later - shownNs earlier := by
  have hsync : ∀ ns : UInt64, (hopAt ns).sync.toNat = ns.toNat / 1000 := by
    intro ns
    exact UInt64.toNat_div _ _
  have htick : ∀ ns : UInt64, (hopAt ns).tick.toNat = ns.toNat % 1000 / 4 := by
    intro ns
    exact (UInt64.toNat_div _ _).trans (congrArg (· / 4) (UInt64.toNat_mod _ _))
  simp only [Probe.Hop.elapsedNs, shownNs, hsync, htick, Probe.syncPeriodNs, Probe.tickPeriodNs]
  omega

/-- The report shows the difference of the shown times. -/
theorem toNat_latencyNs_hopAt {later earlier : UInt64} (h : earlier ≤ later) :
    (Probe.Hop.latencyNs (hopAt later) (hopAt earlier)).toNat =
      shownNs later - shownNs earlier := by
  have hmono := shownNs_mono h
  have hlater := (shownNs_bounds later).1
  have hword := later.toNat_lt
  have helapsed := elapsedNs_hopAt later earlier
  have hexact := (Probe.Hop.tells_latencyNs (hopAt later) (hopAt earlier)).exact
    (by omega) (by omega)
  omega

/-- Two numbers of nanoseconds that less than a tick lies between. -/
def Near (shown drawn : UInt64) : Prop :=
  shown.toNat ≤ drawn.toNat + 3 ∧ drawn.toNat ≤ shown.toNat + 3

instance (shown drawn : UInt64) : Decidable (Near shown drawn) :=
  inferInstanceAs (Decidable (_ ∧ _))

/-- A latency that does not carry its hop beyond the last word is shown up to less than a tick. -/
theorem near_latencyNs {earlier latency : UInt64}
    (h : earlier.toNat + latency.toNat < UInt64.size) :
    Near (Probe.Hop.latencyNs (hopAt (earlier + latency)) (hopAt earlier)) latency := by
  have hsum : (earlier + latency).toNat = earlier.toNat + latency.toNat :=
    (UInt64.toNat_add _ _).trans (Nat.mod_eq_of_lt h)
  have hle : earlier ≤ earlier + latency := by
    show earlier.toNat ≤ (earlier + latency).toNat
    omega
  have hshown := toNat_latencyNs_hopAt hle
  have hearlier := shownNs_bounds earlier
  have hlater := shownNs_bounds (earlier + latency)
  constructor <;> omega

/-! ## Whole probes -/

/-- A probe with these stamps tells whoever reads it the two latencies. -/
structure Carries (stamps : Probe.Stamps) (latencies : UInt64 × UInt64) : Prop where
  ticks_lt : ∀ hop ∈ stamps.hops, hop.tick.toNat < 250
  decode_frame : Probe.Stamps.decode stamps.frame = .ok stamps
  /-- The pair of the older hops is the second one of the report. -/
  near_first : Near stamps.latency.second latencies.1
  near_second : Near stamps.latency.first latencies.2
  reordered_eq : stamps.latency.reordered = 0

theorem stampsAt_carries {oldest : UInt64} {latencies : UInt64 × UInt64}
    (h : oldest.toNat + latencies.1.toNat + latencies.2.toNat < UInt64.size) :
    Carries (stampsAt oldest latencies) latencies := by
  have hfirst : oldest.toNat + latencies.1.toNat < UInt64.size := by omega
  have hmiddle : (oldest + latencies.1).toNat = oldest.toNat + latencies.1.toNat :=
    (UInt64.toNat_add _ _).trans (Nat.mod_eq_of_lt hfirst)
  have hsecond : (oldest + latencies.1).toNat + latencies.2.toNat < UInt64.size := by
    rw [hmiddle]
    exact h
  have hnewest : (oldest + latencies.1 + latencies.2).toNat =
      (oldest + latencies.1).toNat + latencies.2.toNat :=
    (UInt64.toNat_add _ _).trans (Nat.mod_eq_of_lt hsecond)
  constructor
  case ticks_lt =>
    intro hop hmem
    simp only [stampsAt, Probe.Stamps.hops, List.mem_cons, List.not_mem_nil, or_false] at hmem
    rcases hmem with rfl | rfl | rfl <;> exact tick_hopAt_lt _
  case decode_frame => exact Probe.Stamps.decode_frame _
  case near_first => exact near_latencyNs hfirst
  case near_second => exact near_latencyNs hsecond
  case reordered_eq =>
    have hforward : ∀ later earlier : UInt64, earlier ≤ later →
        ¬ Probe.Hop.elapsedNs (hopAt later) (hopAt earlier) < 0 := by
      intro later earlier hle
      have hmono := shownNs_mono hle
      rw [elapsedNs_hopAt]
      omega
    rw [Probe.Stamps.reordered_latency]
    apply List.countP_eq_zero.mpr
    intro pair hmem
    simp only [stampsAt, Probe.Stamps.pairs, Probe.Stamps.hops, List.tail_cons,
      List.zip_cons_cons, List.zip_nil_right, List.mem_cons, List.not_mem_nil, or_false] at hmem
    rw [decide_eq_true_eq]
    rcases hmem with rfl | rfl
    · apply hforward
      show (oldest + latencies.1).toNat ≤ (oldest + latencies.1 + latencies.2).toNat
      omega
    · apply hforward
      show oldest.toNat ≤ (oldest + latencies.1).toNat
      omega

/-- A generated probe carries the latencies that were drawn for it, and the draws keep to the range
of the plan. Whatever numbers are drawn, and at whatever time the probe is made, its record survives
being written to a frame and read back, all its ticks are below one sync period, both latencies of
the report are less than a tick away from the drawn ones, and no pair goes backwards, as long as the
time at the most recent hop fits into a word. -/
theorem stamps_carry (plan : TrafficPlan) :
    (∀ (ρ : Type) [RandomSource ρ] (g : Generator ρ) (nowNs : Nat),
      nowNs - g.originNs + g.draws.1.toNat + g.draws.2.toNat < UInt64.size →
        Carries (g.stamps nowNs).1 g.draws) ∧
    ∀ (seed : UInt64) (interface : Nat) (queues : QueueSet) (originNs : Nat) (g : Generator Random),
      g.latencyNs = (create seed interface queues plan originNs : Generator Random).latencyNs →
        Within plan.hopLatencyNs g.draws.1 ∧ Within plan.hopLatencyNs g.draws.2 := by
  constructor
  · intro ρ _ g nowNs hfits
    have horigin : (UInt64.ofNat (nowNs - g.originNs)).toNat = nowNs - g.originNs :=
      UInt64.toNat_ofNat_of_lt (by omega)
    rw [stamps_eq_stampsAt]
    apply stampsAt_carries
    rw [horigin]
    exact hfits
  · intro seed interface queues originNs g hlatency
    exact draws_within hlatency

/-- A plan with the bounds the wrong way round. -/
def reversedPlan : TrafficPlan := { hopLatencyNs := (1000, 997) }

/-- A generator for this plan. -/
def reversed : Generator Random := create 7 0 (.single 0) reversedPlan 0

/-- The statement at the last moment at which no draw can carry a hop beyond the last word. -/
theorem stamps_carry_reversed :
    reversed.latencyNs = (997, 1000) ∧
      UInt64.size - 2001 - reversed.originNs + reversed.draws.1.toNat + reversed.draws.2.toNat <
        UInt64.size ∧
      Carries (reversed.stamps (UInt64.size - 2001)).1 reversed.draws ∧
      994 ≤ (reversed.stamps (UInt64.size - 2001)).1.latency.second.toNat ∧
      (reversed.stamps (UInt64.size - 2001)).1.latency.second.toNat ≤ 1003 := by
  obtain ⟨hcarries, hwithin⟩ := stamps_carry reversedPlan
  obtain ⟨hfirst, hsecond⟩ := hwithin 7 0 (.single 0) 0 reversed rfl
  have hrange : ∀ n, Within reversedPlan.hopLatencyNs n → 997 ≤ n.toNat ∧ n.toNat ≤ 1000 := by
    rintro n (⟨hlow, hhigh⟩ | ⟨hlow, hhigh⟩)
    · have hlow : 1000 ≤ n.toNat := hlow
      have hhigh : n.toNat ≤ 997 := hhigh
      omega
    · exact ⟨hlow, hhigh⟩
  obtain ⟨hlow, hhigh⟩ := hrange _ hfirst
  have hsecondHigh := (hrange _ hsecond).2
  have horigin : reversed.originNs = 0 := rfl
  have hfits : UInt64.size - 2001 - reversed.originNs + reversed.draws.1.toNat +
      reversed.draws.2.toNat < UInt64.size := by
    rw [horigin, UInt64.size]
    omega
  have hcarried := hcarries Random reversed (UInt64.size - 2001) hfits
  obtain ⟨hshown, hdrawn⟩ := hcarried.near_first
  refine ⟨rfl, hfits, hcarried, ?_, ?_⟩ <;> omega

end Generator

end EtherRelay.Workbench
