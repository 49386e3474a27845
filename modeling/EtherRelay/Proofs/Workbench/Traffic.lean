import EtherRelay.Proofs.Buffer.Contents
import EtherRelay.Proofs.Probe.RoundTrip
import EtherRelay.Proofs.World.Arrivals
import EtherRelay.Proofs.World.Traffic
import EtherRelay.Workbench.Traffic

/-!
# Generated traffic is accounted for

Every frame that a generator makes is a probe by its place in the run alone, and looks like one
just if it was made as one, whatever bytes the random numbers put into the others. A made frame
then gets no buffer, or no room in the receive queue, or waits in that queue; the statistics count
what became of it.

`Tally` is an account of a run that does not wrap. A call adds to it, and the statistics and the
counters of the interface show it modulo `2 ^ 64`. A queue holds what is left of its first frames
and behind them generated ones, in the order in which they were made.
-/

namespace EtherRelay.Workbench

/-! ## Frames -/

/-- Whether the `k`-th frame of a run is a probe. Frames are counted in a word. -/
def Due (every : UInt64) (k : Nat) : Prop := every ≠ 0 ∧ every.toNat ∣ k % UInt64.size

instance (every : UInt64) (k : Nat) : Decidable (Due every k) :=
  inferInstanceAs (Decidable (_ ∧ _))

/-- While the frames of a run can be counted in a word, every so many of them one is a probe. -/
theorem due_iff {every : UInt64} {k : Nat} (h : k < UInt64.size) :
    Due every k ↔ every ≠ 0 ∧ every.toNat ∣ k := by
  rw [Due, Nat.mod_eq_of_lt h]

/-- A made frame looks like what it was made as. -/
structure Made.Sound (m : Made) : Prop where
  isProbe_frame : Probe.isProbe m.frame = m.isProbe
  decode_frame : m.isProbe = true → ∃ stamps, Probe.Stamps.decode m.frame = .ok stamps
  length_pos : 0 < m.frame.length

namespace Generator

variable {ρ : Type} [RandomSource ρ] {g : Generator ρ} {n : Nat}

/-- No content makes a probe of a data frame, since the type stands in front of it. -/
theorem sound_data (content : Bytes) : Made.Sound ⟨false, header ++ content⟩ where
  isProbe_frame := rfl
  decode_frame h := nomatch h
  length_pos := Nat.succ_pos _

theorem sound_probe (stamps : Probe.Stamps) : Made.Sound ⟨true, stamps.frame⟩ where
  isProbe_frame := Probe.Stamps.isProbe_frame stamps
  decode_frame _ := ⟨stamps, Probe.Stamps.decode_frame stamps⟩
  length_pos := by
    rw [Probe.Stamps.length_frame]
    decide

/-- Stamping a probe moves only the random numbers on. The draws are set apart because nothing may
unfold them: a draw can be repeated very often. -/
theorem stamps_spec (g : Generator ρ) (nowNs : Nat) :
    ∃ stamps random, g.stamps nowNs = (stamps, { g with random }) := by
  rw [stamps]
  generalize RandomSource.between g.random g.latencyNs.1 g.latencyNs.2 = first
  obtain ⟨first, random⟩ := first
  generalize hsecond : RandomSource.between random g.latencyNs.1 g.latencyNs.2 = second
  obtain ⟨second, random'⟩ := second
  simp only [hsecond]
  exact ⟨_, random', rfl⟩

/-- What is made next depends on the place in the run, and only the place and the random numbers
move on. -/
theorem makeFrame_spec (h : g.generated = UInt64.ofNat n) (nowNs : Nat) :
    ((g.makeFrame nowNs).1.isProbe = true ↔ Due g.probeEvery (n + 1)) ∧
      (g.makeFrame nowNs).1.Sound ∧
      ∃ random, (g.makeFrame nowNs).2 = { g with random, generated := UInt64.ofNat (n + 1) } := by
  have hnext : g.generated + 1 = UInt64.ofNat (n + 1) := by
    rw [h, UInt64.ofNat_add]
    rfl
  have hplace : (UInt64.ofNat (n + 1)).toNat = (n + 1) % UInt64.size := UInt64.toNat_ofNat'
  have hdue : (g.probeEvery ≠ 0 ∧ UInt64.ofNat (n + 1) % g.probeEvery = 0) ↔
      Due g.probeEvery (n + 1) := by
    rw [Due, ← hplace, Nat.dvd_iff_mod_eq_zero, ← UInt64.toNat_mod, ← UInt64.toNat_inj,
      UInt64.toNat_zero]
  by_cases hprobe : g.probeEvery ≠ 0 ∧ UInt64.ofNat (n + 1) % g.probeEvery = 0
  · obtain ⟨stamps, random, hstamps⟩ :=
      stamps_spec { g with generated := UInt64.ofNat (n + 1) } nowNs
    simp only [makeFrame, hnext, if_pos hprobe, hstamps]
    exact ⟨iff_of_true trivial (hdue.mp hprobe), sound_probe stamps, random, rfl⟩
  · simp only [makeFrame, hnext, if_neg hprobe]
    exact ⟨iff_of_false Bool.false_ne_true (mt hdue.mpr hprobe), sound_data _, _, rfl⟩

/-- The probes of a run stand where they are due. -/
def Cadenced (every : UInt64) (start : Nat) (made : List Made) : Prop :=
  ∀ k (h : k < made.length), made[k].isProbe = true ↔ Due every (start + k + 1)

theorem Cadenced.append {every : UInt64} {start : Nat} {made made' : List Made}
    (h : Cadenced every start made) (h' : Cadenced every (start + made.length) made') :
    Cadenced every start (made ++ made') := by
  intro k hk
  rw [List.length_append] at hk
  rcases Nat.lt_or_ge k made.length with hlt | hge
  · rw [List.getElem_append_left hlt]
    exact h k hlt
  · have hrest : k - made.length < made'.length := by omega
    have hplace : start + made.length + (k - made.length) = start + k := by omega
    rw [List.getElem_append_right hge, h' _ hrest, hplace]

theorem makeFrames_spec (h : g.generated = UInt64.ofNat n) (nowNs count : Nat) :
    (makeFrames nowNs count g).1.length = count ∧
      Cadenced g.probeEvery n (makeFrames nowNs count g).1 ∧
      (∀ m ∈ (makeFrames nowNs count g).1, m.Sound) ∧
      ∃ random, (makeFrames nowNs count g).2 =
        { g with random, generated := UInt64.ofNat (n + count) } := by
  induction count generalizing g n with
  | zero =>
    refine ⟨rfl, fun k hk => absurd hk (Nat.not_lt_zero k), fun m hm => ?_, g.random, ?_⟩
    · exact absurd hm List.not_mem_nil
    · rw [Nat.add_zero, ← h]
      rfl
  | succ count ih =>
    obtain ⟨hprobe, hsound, random, hg⟩ := makeFrame_spec h nowNs
    obtain ⟨hlength, hcadenced, hsounds, random', hg'⟩ :=
      ih (g := (g.makeFrame nowNs).2) (n := n + 1) (by rw [hg])
    have hevery : (g.makeFrame nowNs).2.probeEvery = g.probeEvery := by rw [hg]
    have hfirst : Cadenced g.probeEvery n [(g.makeFrame nowNs).1] := by
      intro k hk
      obtain rfl : k = 0 := by
        rw [List.length_singleton] at hk
        omega
      exact hprobe
    rw [hevery] at hcadenced
    rw [makeFrames]
    refine ⟨congrArg (· + 1) hlength, hfirst.append hcadenced, ?_, random', ?_⟩
    · exact List.forall_mem_cons.mpr ⟨hsound, hsounds⟩
    · rw [hg', hg, Nat.add_right_comm, Nat.add_assoc]

end Generator

/-! ## Buffers -/

/-- What is appended to an empty buffer is all that the buffer holds. -/
theorem data_append? {b b' : Buffer} {frame : Bytes} (hempty : b.length = 0)
    (hpos : 0 < frame.length) (h : b.append? frame = some b') : b'.data = frame := by
  have hroom := (Buffer.append?_eq_some.mp h).1
  rw [Buffer.tailroom] at hroom
  rw [Buffer.data_append? (by omega) h, Buffer.data, hempty, List.take_zero, List.nil_append]

/-- A buffer that was lent for a frame holds just this frame. -/
theorem data_allocFrame {p : Pool} {frame : Bytes} {b : Buffer}
    (h : (p.allocFrame frame).1 = some b) (hpos : 0 < frame.length) : b.data = frame := by
  rw [Pool.allocFrame, Pool.alloc, Pool.takeStorage] at h
  cases hfree : p.free with
  | nil =>
    simp only [hfree] at h
    cases h
  | cons storage rest =>
    simp only [hfree] at h
    split at h
    · next b' happend =>
      obtain rfl := Option.some.inj h
      exact data_append? rfl hpos happend
    · cases h

/-- What became of the frames of a run, without a limit to the counts. -/
structure Tally where
  dataFrames : Nat := 0
  probes : Nat := 0
  rxOverflows : Nat := 0
  poolExhausted : Nat := 0

namespace Tally

/-- The statistics that show a tally. -/
def stats (t : Tally) : TrafficStats where
  dataFrames := UInt64.ofNat t.dataFrames
  probes := UInt64.ofNat t.probes
  rxOverflows := UInt64.ofNat t.rxOverflows
  poolExhausted := UInt64.ofNat t.poolExhausted

/-- Count a frame that got a buffer, or one that did not. -/
def count (t : Tally) (isProbe buffered : Bool) : Tally :=
  if !buffered then { t with poolExhausted := t.poolExhausted + 1 }
  else if isProbe then { t with probes := t.probes + 1 }
  else { t with dataFrames := t.dataFrames + 1 }

/-- The frames that got a buffer. -/
def buffered (t : Tally) : Nat := t.dataFrames + t.probes

theorem count_stats (t : Tally) (isProbe buffered : Bool) :
    t.stats.count isProbe buffered = (t.count isProbe buffered).stats := by
  have hone : ∀ n, UInt64.ofNat n + 1 = UInt64.ofNat (n + 1) := by
    intro n
    rw [UInt64.ofNat_add]
    rfl
  cases buffered <;> cases isProbe <;>
    simp only [stats, count, TrafficStats.count, hone, Bool.not_true, Bool.not_false,
      Bool.false_eq_true, if_true, if_false]

end Tally

/-- Between the tallies `t` and `t'` these frames were made, and got these buffers in the order in
which they were made. -/
structure Filled (t t' : Tally) (made : List Made) (buffers : List Buffer) : Prop where
  order : ∃ kept : List Made, kept.Sublist made ∧ buffers.map Buffer.data = kept.map Made.frame
  buffered : t'.buffered = t.buffered + buffers.length
  total : t'.buffered + t'.poolExhausted = t.buffered + t.poolExhausted + made.length
  rxOverflows : t'.rxOverflows = t.rxOverflows

theorem Filled.nil (t : Tally) : Filled t t [] [] :=
  ⟨⟨[], List.Sublist.refl [], rfl⟩, rfl, rfl, rfl⟩

theorem Filled.cons_none {t t' : Tally} {m : Made} {made : List Made} {buffers : List Buffer}
    (h : Filled (t.count m.isProbe false) t' made buffers) : Filled t t' (m :: made) buffers := by
  obtain ⟨⟨kept, hkept, horder⟩, hbuffered, htotal, hoverflows⟩ := h
  refine ⟨⟨kept, hkept.cons m, horder⟩, hbuffered, ?_, hoverflows⟩
  rw [htotal, List.length_cons]
  simp only [Tally.count, Tally.buffered, Bool.not_false, if_true]
  omega

theorem Filled.cons_some {t t' : Tally} {m : Made} {made : List Made} {b : Buffer}
    {buffers : List Buffer} (h : Filled (t.count m.isProbe true) t' made buffers)
    (hb : b.data = m.frame) : Filled t t' (m :: made) (b :: buffers) := by
  obtain ⟨⟨kept, hkept, horder⟩, hbuffered, htotal, hoverflows⟩ := h
  have hone : (t.count m.isProbe true).buffered = t.buffered + 1 := by
    cases hprobe : m.isProbe <;> simp only [Tally.count, Tally.buffered, Bool.not_true,
      Bool.false_eq_true, if_true, if_false] <;> omega
  have hsame : (t.count m.isProbe true).poolExhausted = t.poolExhausted ∧
      (t.count m.isProbe true).rxOverflows = t.rxOverflows := by
    cases m.isProbe <;> exact ⟨rfl, rfl⟩
  refine ⟨⟨m :: kept, hkept.cons_cons m, ?_⟩, ?_, ?_, hoverflows.trans hsame.2⟩
  · rw [List.map_cons, List.map_cons, hb, horder]
  · rw [hbuffered, hone, List.length_cons]
    omega
  · rw [htotal, hone, hsame.1, List.length_cons]
    omega

theorem Generator.fill_spec (t : Tally) (pool : Pool) {made : List Made}
    (h : ∀ m ∈ made, m.Sound) :
    ∃ t' : Tally, (fill pool t.stats made).2.2 = t'.stats ∧
      Filled t t' made (fill pool t.stats made).1 := by
  induction made generalizing t pool with
  | nil => exact ⟨t, rfl, .nil t⟩
  | cons m made ih =>
    obtain ⟨hm, hmade⟩ := List.forall_mem_cons.mp h
    obtain ⟨buffer, pool', halloc⟩ : ∃ buffer pool', pool.allocFrame m.frame = (buffer, pool') :=
      ⟨_, _, rfl⟩
    obtain ⟨t', hstats, hfilled⟩ := ih (t.count m.isProbe buffer.isSome) pool' hmade
    simp only [fill, halloc, t.count_stats]
    refine ⟨t', hstats, ?_⟩
    cases buffer with
    | none => exact hfilled.cons_none
    | some b => exact hfilled.cons_some (data_allocFrame (by rw [halloc]) hm.length_pos)

/-- Count buffered frames that the receive queue had no room for. -/
def Tally.miss (t : Tally) (n : Nat) : Tally := { t with rxOverflows := t.rxOverflows + n }

theorem Tally.miss_stats (t : Tally) (n : Nat) :
    { t.stats with rxOverflows := t.stats.rxOverflows + UInt64.ofNat n } = (t.miss n).stats := by
  simp only [stats, miss, UInt64.ofNat_add]

/-- A call makes the next frames of the run, puts them into buffers, and lets these arrive. -/
theorem Generator.injectBurst_spec {ρ : Type} [RandomSource ρ] {σ : Type} {g : Generator ρ}
    {n : Nat} {t : Tally}
    (hgenerated : g.generated = UInt64.ofNat n) (hstats : g.stats = t.stats)
    (w : World Buffer σ) :
    ∃ buffers queue pool t' accepted after,
      Filled t t' (makeFrames w.wallNs g.burst g).1 buffers ∧
      { w with pool }.inject g.interface queue buffers = (accepted, after) ∧
      ∃ random rotation, g.injectBurst w =
        ({ g with
            random, rotation, generated := UInt64.ofNat (n + g.burst)
            stats := (t'.miss (buffers.length - accepted)).stats }, after) := by
  obtain ⟨-, -, hsound, random, hg⟩ := makeFrames_spec hgenerated w.wallNs g.burst
  obtain ⟨made, g', hmade⟩ : ∃ made g', makeFrames w.wallNs g.burst g = (made, g') := ⟨_, _, rfl⟩
  rw [hmade] at hsound hg ⊢
  obtain ⟨t', htally, hfilled⟩ := fill_spec t w.pool hsound
  obtain ⟨buffers, pool, stats, hfill⟩ : ∃ buffers pool stats,
      fill w.pool t.stats made = (buffers, pool, stats) := ⟨_, _, _, rfl⟩
  rw [hfill] at htally hfilled
  obtain ⟨accepted, after, harrive⟩ : ∃ accepted after, { w with pool }.inject g.interface
      (g.rotation.pick g.queues).1 buffers = (accepted, after) := ⟨_, _, rfl⟩
  refine ⟨buffers, (g.rotation.pick g.queues).1, pool, t', accepted, after, hfilled, harrive,
    random, (g.rotation.pick g.queues).2, ?_⟩
  obtain rfl : g' = { g with random, generated := UInt64.ofNat (n + g.burst) } := hg
  obtain rfl : stats = t'.stats := htally
  rw [← Tally.miss_stats]
  simp only [injectBurst, hmade, hstats, hfill, harrive]

/-! ## Arrivals -/

/-- An interface counts the frames of a burst that it takes, and those that it misses. -/
theorem counters_inject (i : Interface Buffer) (registers : Hardware.Registers) (queue : QueueId)
    (burst : List Buffer) :
    let o := i.inject registers queue burst
    o.accepted ≤ burst.length ∧
      o.interface.counters.rxPackets = i.counters.rxPackets + UInt64.ofNat o.accepted ∧
      o.interface.counters.rxErrors =
        i.counters.rxErrors + UInt64.ofNat (burst.length - o.accepted) := by
  intro o
  obtain ⟨-, hpackets, -, herrors⟩ := i.counters_inject_eq registers queue burst
  have hsplit : o.accepted + o.refused.length = burst.length :=
    i.accepted_add_refused registers queue burst
  have hrefused : o.refused.length = burst.length - o.accepted := by omega
  refine ⟨by omega, hpackets, ?_⟩
  rw [herrors, hrefused]

variable {σ : Type} {w : World Buffer σ} {index : Nat}

/-- What an interface of the world counts when a burst arrives. -/
theorem interfaceCounters_inject (hindex : index < w.interfaces.length) (queue : QueueId)
    (burst : List Buffer) :
    let r := w.inject index queue burst
    r.1 ≤ burst.length ∧ r.2.interfaces.length = w.interfaces.length ∧
      (r.2.interfaceCounters index).rxPackets =
        (w.interfaceCounters index).rxPackets + UInt64.ofNat r.1 ∧
      (r.2.interfaceCounters index).rxErrors =
        (w.interfaceCounters index).rxErrors + UInt64.ofNat (burst.length - r.1) := by
  intro r
  obtain ⟨i, hi⟩ : ∃ i, w.interfaces[index]? = some i := ⟨_, List.getElem?_eq_getElem hindex⟩
  obtain ⟨hle, hpackets, herrors⟩ := counters_inject i w.registers queue burst
  have hset : r.2.interfaces =
      w.interfaces.set index (i.inject w.registers queue burst).interface := by
    simp only [r, World.inject, hi, World.release]
  have haccepted : r.1 = (i.inject w.registers queue burst).accepted := by
    simp only [r, World.inject, hi]
  rw [World.interfaceCounters, World.interfaceCounters, hset, List.getElem?_set_self hindex, hi,
    haccepted]
  exact ⟨hle, List.length_set, hpackets, herrors⟩

/-- Receiving counts nothing and takes no interface away. -/
theorem interfaceCounters_receive (w : World Buffer σ) (j k : Nat) (queue : QueueId) (max : Nat) :
    (w.receive k queue max).2.interfaceCounters j = w.interfaceCounters j ∧
      (w.receive k queue max).2.interfaces.length = w.interfaces.length := by
  rw [World.receive]
  split
  · exact ⟨rfl, rfl⟩
  · next i hi =>
    constructor
    · rw [World.interfaceCounters, World.view_set hi, World.interfaceCounters]
      split
      · next hj =>
        rw [hj, hi]
        rfl
      · rfl
    · exact List.length_set

/-- A queue that held `first` holds what is left of it, and behind that generated frames in the
order in which they were made. -/
def Ordered (first : List Buffer) (made : List Made) (waiting : List Buffer) : Prop :=
  ∃ left arrived : List Buffer, ∃ origins : List Made, waiting = left ++ arrived ∧
    left <:+ first ∧ origins.Sublist made ∧ arrived.map Buffer.data = origins.map Made.frame

section

variable {first waiting : List Buffer} {made made' : List Made}

theorem Ordered.refl (first : List Buffer) : Ordered first [] first :=
  ⟨first, [], [], (List.append_nil first).symm, List.suffix_refl first, List.Sublist.refl [], rfl⟩

theorem Ordered.drop (h : Ordered first made waiting) (n : Nat) :
    Ordered first made (waiting.drop n) := by
  obtain ⟨left, arrived, origins, rfl, hleft, horigins, hframes⟩ := h
  refine ⟨left.drop n, arrived.drop (n - left.length), origins.drop (n - left.length),
    List.drop_append, (List.drop_suffix n left).trans hleft,
    (List.drop_sublist _ origins).trans horigins, ?_⟩
  rw [List.map_drop, List.map_drop, hframes]

theorem Ordered.append (h : Ordered first made waiting) {buffers : List Buffer}
    {kept : List Made} (hkept : kept.Sublist made')
    (hframes : buffers.map Buffer.data = kept.map Made.frame) (n : Nat) :
    Ordered first (made ++ made') (waiting ++ buffers.take n) := by
  obtain ⟨left, arrived, origins, rfl, hleft, horigins, hold⟩ := h
  refine ⟨left, arrived ++ buffers.take n, origins ++ kept.take n, List.append_assoc _ _ _, hleft,
    horigins.append ((List.take_sublist n kept).trans hkept), ?_⟩
  rw [List.map_append, List.map_append, List.map_take, List.map_take, hold, hframes]

/-- Frames that are made later do not disturb a queue that they do not enter. -/
theorem Ordered.weaken (h : Ordered first made waiting) (made' : List Made) :
    Ordered first (made ++ made') waiting := by
  obtain ⟨left, arrived, origins, hwaiting, hleft, horigins, hframes⟩ := h
  exact ⟨left, arrived, origins, hwaiting, hleft,
    horigins.trans (List.sublist_append_left made made'), hframes⟩

end

/-- A buffer holds a made frame, which looks like what it was made as. -/
structure Carries (b : Buffer) (m : Made) : Prop where
  data_eq : b.data = m.frame
  isProbe_data : Probe.isProbe b.data = true ↔ m.isProbe = true
  decode_data : m.isProbe = true → ∃ stamps, Probe.Stamps.decode b.data = .ok stamps

theorem forall₂_carries {arrived : List Buffer} {origins : List Made}
    (h : arrived.map Buffer.data = origins.map Made.frame) (hsound : ∀ m ∈ origins, m.Sound) :
    List.Forall₂ Carries arrived origins := by
  induction origins generalizing arrived with
  | nil =>
    obtain rfl := List.map_eq_nil_iff.mp h
    exact .nil
  | cons m origins ih =>
    obtain ⟨hm, horigins⟩ := List.forall_mem_cons.mp hsound
    obtain ⟨b, arrived, rfl, hb, harrived⟩ := List.map_eq_cons_iff.mp h
    refine .cons ⟨hb, ?_, ?_⟩ (ih harrived horigins)
    · rw [hb, hm.isProbe_frame]
    · rw [hb]
      exact hm.decode_frame

/-! ## Runs -/

/-- A generator at work. -/
structure Feed (ρ σ : Type) where
  generator : Generator ρ
  world : World Buffer σ
  /-- The frames made so far, first to last. -/
  made : List Made := []

/-- What happens while a generator is at work. Others take frames from receive queues, give
buffers back to the pool or take some, and time goes by. -/
inductive Move where
  | inject
  | receive (index : Nat) (queue : QueueId) (max : Nat)
  | usePool (pool : Pool)
  | wait (ns : Nat)

/-- Whether the generator is called. -/
def Move.isInject : Move → Bool
  | .inject => true
  | _ => false

namespace Feed

variable {ρ : Type} [RandomSource ρ]

/-- The frames of the next burst. -/
def burst (s : Feed ρ σ) : List Made :=
  (Generator.makeFrames s.world.wallNs s.generator.burst s.generator).1

def step (s : Feed ρ σ) : Move → Feed ρ σ
  | .inject =>
    let (generator, world) := s.generator.injectBurst s.world
    { generator, world, made := s.made ++ s.burst }
  | .receive index queue max => { s with world := (s.world.receive index queue max).2 }
  | .usePool pool => { s with world := { s.world with pool } }
  | .wait ns => { s with world := { s.world with wallNs := s.world.wallNs + ns } }

def run (s : Feed ρ σ) (moves : List Move) : Feed ρ σ := moves.foldl step s

/-- The frames of `s` are accounted for, in a run that began with the world `w`: the generator still
works for the same interface and by the same plan, every frame was made at its place, and the tally
of what became of the frames shows in the statistics and in the counters of the interface. -/
structure Accounts (plan : TrafficPlan) (index : Nat) (w : World Buffer σ) (s : Feed ρ σ)
    (t : Tally) : Prop where
  interface_eq : s.generator.interface = index
  burst_eq : s.generator.burst = max plan.burst 1
  probeEvery_eq : s.generator.probeEvery = plan.probeEvery
  generated_eq : s.generator.generated = UInt64.ofNat s.made.length
  cadenced : Generator.Cadenced plan.probeEvery 0 s.made
  sound : ∀ m ∈ s.made, m.Sound
  stats_eq : s.generator.stats = t.stats
  total : t.buffered + t.poolExhausted = s.made.length
  overflows_le : t.rxOverflows ≤ t.buffered
  present : index < s.world.interfaces.length
  rxPackets_eq : (s.world.interfaceCounters index).rxPackets =
    (w.interfaceCounters index).rxPackets + UInt64.ofNat (t.buffered - t.rxOverflows)
  rxErrors_eq : (s.world.interfaceCounters index).rxErrors =
    (w.interfaceCounters index).rxErrors + UInt64.ofNat t.rxOverflows
  ordered : ∀ queue, Ordered (w.pending index queue) s.made (s.world.pending index queue)

variable {plan : TrafficPlan} {s : Feed ρ σ} {t : Tally}

/-- A call adds to the tally. -/
theorem Accounts.inject (h : Accounts plan index w s t) :
    ∃ t', Accounts plan index w (s.step .inject) t' := by
  obtain rfl := h.interface_eq
  obtain ⟨hlength, hcadenced, hsound, -⟩ :=
    Generator.makeFrames_spec h.generated_eq s.world.wallNs s.generator.burst
  obtain ⟨buffers, queue, pool, t', accepted, after, hfilled, harrive, random, rotation, hcall⟩ :=
    Generator.injectBurst_spec h.generated_eq h.stats_eq s.world
  obtain ⟨hle, hpresent, hpackets, herrors⟩ :=
    interfaceCounters_inject (w := { s.world with pool }) h.present queue buffers
  obtain ⟨⟨kept, hkept, hframes⟩, hbuffered, htotal, hoverflows⟩ := hfilled
  have hbefore := h.overflows_le
  have hpending : ∀ queue', after.pending s.generator.interface queue' =
      if queue' = queue then
        s.world.pending s.generator.interface queue ++ buffers.take accepted
      else s.world.pending s.generator.interface queue' := by
    intro queue'
    have hinject := World.pending_inject { s.world with pool } s.generator.interface queue
      s.generator.interface queue' buffers
    rw [harrive] at hinject
    simp only [true_and] at hinject
    exact hinject
  have hstep : s.step .inject =
      { generator := (s.generator.injectBurst s.world).1
        world := (s.generator.injectBurst s.world).2
        made := s.made ++ s.burst } := rfl
  rw [harrive] at hle hpresent hpackets herrors
  rw [hstep, hcall]
  refine ⟨t'.miss (buffers.length - accepted), rfl, h.burst_eq, h.probeEvery_eq, ?_, ?_, ?_, rfl,
    ?_, ?_, ?_, ?_, ?_, ?_⟩
  · rw [List.length_append]
    exact congrArg (fun n => UInt64.ofNat (s.made.length + n)) hlength.symm
  · refine h.cadenced.append ?_
    rw [Nat.zero_add, ← h.probeEvery_eq]
    exact hcadenced
  · exact List.forall_mem_append.mpr ⟨h.sound, hsound⟩
  · rw [List.length_append, ← h.total]
    exact htotal
  · show t'.rxOverflows + (buffers.length - accepted) ≤ t'.buffered
    omega
  · exact hpresent.symm ▸ h.present
  · have hsum : t'.buffered - (t'.rxOverflows + (buffers.length - accepted)) =
        t.buffered - t.rxOverflows + accepted := by
      have hle' : accepted ≤ buffers.length := hle
      omega
    refine hpackets.trans ?_
    show _ = _ + UInt64.ofNat (t'.buffered - (t'.rxOverflows + (buffers.length - accepted)))
    rw [hsum, UInt64.ofNat_add, ← UInt64.add_assoc, ← h.rxPackets_eq]
    rfl
  · refine herrors.trans ?_
    show _ = _ + UInt64.ofNat (t'.rxOverflows + (buffers.length - accepted))
    rw [hoverflows, UInt64.ofNat_add, ← UInt64.add_assoc, ← h.rxErrors_eq]
    rfl
  · intro queue'
    show Ordered _ _ (after.pending s.generator.interface queue')
    rw [hpending]
    split
    · next hqueue =>
      rw [hqueue]
      exact (h.ordered queue).append hkept hframes accepted
    · exact (h.ordered queue').weaken s.burst

/-- Whatever happens next, the frames stay accounted for. -/
theorem Accounts.step (h : Accounts plan index w s t) (m : Move) :
    ∃ t', Accounts plan index w (s.step m) t' := by
  cases m with
  | inject => exact h.inject
  | receive k queue max =>
    obtain ⟨hcounters, hlength⟩ := interfaceCounters_receive s.world index k queue max
    refine ⟨t, { h with present := ?_, rxPackets_eq := ?_, rxErrors_eq := ?_, ordered := ?_ }⟩
    · exact hlength.symm ▸ h.present
    · exact hcounters.symm ▸ h.rxPackets_eq
    · exact hcounters.symm ▸ h.rxErrors_eq
    · intro queue'
      show Ordered _ _ ((s.world.receive k queue max).2.pending index queue')
      rw [World.pending_receive]
      split
      · next hat =>
        rw [← hat.1, ← hat.2]
        exact (h.ordered queue').drop max
      · exact h.ordered queue'
  | usePool pool => exact ⟨t, { h with }⟩
  | wait ns => exact ⟨t, { h with }⟩

theorem Accounts.run (h : Accounts plan index w s t) (moves : List Move) :
    ∃ t', Accounts plan index w (s.run moves) t' := by
  induction moves generalizing s t with
  | nil => exact ⟨t, h⟩
  | cons m moves ih =>
    obtain ⟨t', h'⟩ := h.step m
    exact ih h'

/-- Each call makes one burst. -/
theorem Accounts.length_made_run (h : Accounts plan index w s t) (moves : List Move) :
    (s.run moves).made.length =
      s.made.length + moves.countP Move.isInject * max plan.burst 1 := by
  have hstep : ∀ {s : Feed ρ σ} {t : Tally}, Accounts plan index w s t → ∀ m,
      (s.step m).made.length = s.made.length + if m.isInject then max plan.burst 1 else 0 := by
    intro s t h m
    cases m with
    | inject =>
      obtain ⟨hlength, -⟩ :=
        Generator.makeFrames_spec h.generated_eq s.world.wallNs s.generator.burst
      have hburst : s.burst.length = max plan.burst 1 := hlength.trans h.burst_eq
      show (s.made ++ s.burst).length = s.made.length + max plan.burst 1
      rw [List.length_append, hburst]
    | receive k queue max => rfl
    | usePool pool => rfl
    | wait ns => rfl
  induction moves generalizing s t with
  | nil => rw [List.countP_nil, Nat.zero_mul]; rfl
  | cons m moves ih =>
    obtain ⟨t', h'⟩ := h.step m
    have hrest := ih h'
    rw [hstep h m] at hrest
    refine hrest.trans ?_
    rw [List.countP_cons, Nat.add_mul, Nat.add_assoc]
    cases m.isInject
    · simp
    · simp
      omega

/-- A generator that has not been called yet. -/
def start (seed : UInt64) (index : Nat) (queues : QueueSet) (plan : TrafficPlan) (nowNs : Nat)
    (w : World Buffer σ) : Feed ρ σ where
  generator := .create seed index queues plan nowNs
  world := w

theorem accounts_start (seed : UInt64) (queues : QueueSet) (plan : TrafficPlan) (nowNs : Nat)
    (hindex : index < w.interfaces.length) :
    Accounts plan index w (start seed index queues plan nowNs w : Feed ρ σ) {} where
  interface_eq := rfl
  burst_eq := rfl
  probeEvery_eq := rfl
  generated_eq := rfl
  cadenced k hk := absurd hk (Nat.not_lt_zero k)
  sound _ hm := absurd hm List.not_mem_nil
  stats_eq := rfl
  total := rfl
  overflows_le := Nat.le_refl 0
  present := hindex
  rxPackets_eq := (UInt64.add_zero _).symm
  rxErrors_eq := (UInt64.add_zero _).symm
  ordered _ := .refl _

/-- The statistics of a generator tell what became of every frame. After any moves, with any source
of random numbers and any pool, every frame of every burst got a buffer or did not, and the
interface counted those that did, as received or as missed. A frame is a probe if its place in the
run is a multiple of the distance between probes, whether or not earlier frames got a buffer. Each
queue holds generated frames in the order in which they were made, and a frame that waits looks
like a probe just if it was made as one, and is decoded then. -/
theorem run_accounts (ρ : Type) [RandomSource ρ] (seed : UInt64) (queues : QueueSet)
    (plan : TrafficPlan) (nowNs : Nat) (hindex : index < w.interfaces.length) (moves : List Move) :
    let s := (start seed index queues plan nowNs w : Feed ρ σ).run moves
    let stats := s.generator.stats
    let total := moves.countP Move.isInject * max plan.burst 1
    let before := w.interfaceCounters index
    let after := s.world.interfaceCounters index
    s.made.length = total ∧
      stats.dataFrames + stats.probes + stats.poolExhausted = UInt64.ofNat total ∧
      after.rxErrors = before.rxErrors + stats.rxOverflows ∧
      after.rxPackets + after.rxErrors =
        before.rxPackets + before.rxErrors + (stats.dataFrames + stats.probes) ∧
      (total < UInt64.size →
        stats.dataFrames.toNat + stats.probes.toNat + stats.poolExhausted.toNat = total) ∧
      (∀ k (hk : k < s.made.length), k + 1 < UInt64.size →
        (s.made[k].isProbe = true ↔
          plan.probeEvery ≠ 0 ∧ plan.probeEvery.toNat ∣ k + 1)) ∧
      ∀ queue, ∃ left arrived : List Buffer, ∃ origins : List Made,
        s.world.pending index queue = left ++ arrived ∧ left <:+ w.pending index queue ∧
        origins.Sublist s.made ∧
        List.Forall₂ Carries arrived origins := by
  intro s stats total before after
  have hstart : Accounts plan index w (start seed index queues plan nowNs w : Feed ρ σ) {} :=
    accounts_start seed queues plan nowNs hindex
  have hlength : s.made.length = total := (hstart.length_made_run moves).trans (Nat.zero_add _)
  obtain ⟨t, h⟩ := hstart.run moves
  have hstats : stats = t.stats := h.stats_eq
  have htotal : t.dataFrames + t.probes + t.poolExhausted = total := h.total.trans hlength
  refine ⟨hlength, ?_, ?_, ?_, ?_, ?_, ?_⟩
  · rw [hstats, ← htotal, UInt64.ofNat_add, UInt64.ofNat_add]
    rfl
  · rw [hstats]
    exact h.rxErrors_eq
  · have hsum : UInt64.ofNat (t.buffered - t.rxOverflows) + UInt64.ofNat t.rxOverflows =
        stats.dataFrames + stats.probes := by
      have hcount : t.buffered - t.rxOverflows + t.rxOverflows = t.dataFrames + t.probes :=
        Nat.sub_add_cancel h.overflows_le
      rw [← UInt64.ofNat_add, hcount, UInt64.ofNat_add, hstats]
      rfl
    have hpackets : after.rxPackets =
        before.rxPackets + UInt64.ofNat (t.buffered - t.rxOverflows) := h.rxPackets_eq
    have herrors : after.rxErrors = before.rxErrors + UInt64.ofNat t.rxOverflows := h.rxErrors_eq
    rw [← hsum, hpackets, herrors]
    ac_rfl
  · intro hsmall
    have hword : ∀ n, n ≤ total → (UInt64.ofNat n).toNat = n :=
      fun n hn => UInt64.toNat_ofNat_of_lt (Nat.lt_of_le_of_lt hn hsmall)
    rw [hstats]
    show (UInt64.ofNat t.dataFrames).toNat + (UInt64.ofNat t.probes).toNat +
      (UInt64.ofNat t.poolExhausted).toNat = total
    rw [hword _ (by omega), hword _ (by omega), hword _ (by omega), htotal]
  · intro k hk hsmall
    rw [h.cadenced k hk, Nat.zero_add, due_iff hsmall]
  · intro queue
    obtain ⟨left, arrived, origins, hwaiting, hleft, horigins, hframes⟩ := h.ordered queue
    refine ⟨left, arrived, origins, hwaiting, hleft, horigins, ?_⟩
    exact forall₂_carries hframes fun m hm => h.sound m (horigins.subset hm)

/-- An interface with room for two frames. -/
def narrowPort : World Buffer Unit where
  interfaces := [.create ⟨0, "eth0"⟩ 1 1 2]
  sink := ()
  clock := { hz := Clock.monotonicHz }
  pool := .create 4

/-- Bursts of three frames, every other one a probe. -/
def shortPlan : TrafficPlan := { burst := 3, probeEvery := 2 }

/-- A frame is received between two bursts, and the second burst finds too few buffers. -/
def shortMoves : List Move := [.inject, .receive 0 0 1, .inject]

/-- The run of these moves. -/
def shortRun : Feed Random Unit := (start 7 0 (.single 0) shortPlan 0 narrowPort).run shortMoves

theorem run_accounts_narrowPort :
    0 < narrowPort.interfaces.length ∧ shortRun.made.length = 6 ∧
      shortRun.generator.stats.dataFrames.toNat + shortRun.generator.stats.probes.toNat +
        shortRun.generator.stats.poolExhausted.toNat = 6 ∧
      ∀ k (hk : k < shortRun.made.length), shortRun.made[k].isProbe = true ↔ 2 ∣ k + 1 := by
  have hindex : 0 < narrowPort.interfaces.length := by decide
  have htotal : shortMoves.countP Move.isInject * max shortPlan.burst 1 = 6 := by decide
  have hsmall : 6 < UInt64.size := by decide
  obtain ⟨hlength, -, -, -, hcounts, hprobes, -⟩ :=
    run_accounts Random 7 (.single 0) shortPlan 0 hindex shortMoves
  rw [htotal] at hlength hcounts
  unfold shortRun
  refine ⟨hindex, hlength, hcounts hsmall, fun k hk => ?_⟩
  have hplace : k + 1 < UInt64.size := by
    rw [hlength] at hk
    omega
  exact (hprobes k hk hplace).trans (and_iff_right (by decide))

end Feed

end EtherRelay.Workbench
