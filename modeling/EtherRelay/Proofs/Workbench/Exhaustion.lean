import EtherRelay.Proofs.Buffer.Contents
import EtherRelay.Proofs.Workbench.Traffic
import EtherRelay.Proofs.World.Conservation

/-!
# What the generator counts as an exhausted pool

A generated frame gets no buffer for one of two reasons: all buffers of the pool are in use, or the
frame is longer than the room of a buffer. The generator cannot tell them apart and counts both as
an exhausted pool, while the pool counts the first one only.

A `Circulation` is a generator, the only one to take buffers from its pool, together with those who
receive its frames and give the buffers back. Beside it stands every demand for a buffer, with the
number of buffers in use at that moment. The main statement gives both counts in terms of these
demands: they differ by the demands that found a buffer too small, so they agree where all frames
fit, and `poolExhausted_ne_exhausted` shows a run where they do not.
-/

namespace EtherRelay

/-! ## What the pool counts -/

namespace Pool

variable {p : Pool} {headroom dataRoom : Nat}

@[simp] theorem exhausted_release (p : Pool) (b : Buffer) :
    (p.release b).exhausted = p.exhausted := by
  rw [release]
  split
  · exact congrArg PoolStats.exhausted (stats_giveBack p.countFreed b.storage)
  · rfl

@[simp] theorem exhausted_releaseAll (p : Pool) (buffers : List Buffer) :
    (p.releaseAll buffers).exhausted = p.exhausted := by
  induction buffers generalizing p with
  | nil => rfl
  | cons b buffers ih => exact (ih (p.release b)).trans (p.exhausted_release b)

/-- Only an empty stock counts as exhausted. -/
theorem exhausted_allocFrame (p : Pool) (frame : Bytes) :
    (p.allocFrame frame).2.exhausted = if p.free = [] then p.exhausted + 1 else p.exhausted := by
  cases hfree : p.free with
  | nil =>
    simp only [allocFrame, alloc, takeStorage, hfree, if_true]
    rfl
  | cons storage rest =>
    rw [if_neg (List.cons_ne_nil storage rest)]
    simp only [allocFrame, alloc, takeStorage, hfree]
    split
    · rfl
    · exact exhausted_release _ _

namespace Stocks

/-- What comes back has the rooms of the pool, unless it belongs to nobody. -/
theorem releaseAll (h : p.Stocks headroom dataRoom) {buffers : List Buffer}
    (hfits : ∀ b ∈ buffers, b.pooled = true → b.Fits headroom dataRoom) :
    (p.releaseAll buffers).Stocks headroom dataRoom := by
  induction buffers generalizing p with
  | nil => exact h
  | cons b buffers ih =>
    obtain ⟨hb, hbuffers⟩ := List.forall_mem_cons.mp hfits
    refine ih ?_ hbuffers
    by_cases hpooled : b.pooled = true
    · exact h.release (hb hpooled)
    · show (p.release b).Stocks headroom dataRoom
      rw [Pool.release, if_neg hpooled]
      exact h

end Stocks

end Pool

namespace World

variable {σ : Type} {w : World Buffer σ} {capacity headroom dataRoom n : Nat}

/-- A burst that arrives gives back a part of itself. -/
theorem pool_inject (w : World Buffer σ) (index : Nat) (queue : QueueId) (burst : List Buffer) :
    ∃ refused, (∀ b ∈ refused, b ∈ burst) ∧
      (w.inject index queue burst).2.pool = w.pool.releaseAll refused := by
  rw [World.inject]
  split
  · exact ⟨burst, fun _ hb => hb, rfl⟩
  · next i hi =>
    refine ⟨(i.inject w.registers queue burst).refused, ?_, rfl⟩
    intro b hb
    cases hqueue : i.rxQueues[queue.toNat]? with
    | none =>
      rw [(i.inject_missing w.registers queue burst hqueue).2.1] at hb
      exact hb
    | some waiting =>
      rw [(i.inject_existing w.registers queue burst hqueue).2.1] at hb
      exact List.mem_of_mem_drop hb

theorem pool_receive (w : World Buffer σ) (index : Nat) (queue : QueueId) (max : Nat) :
    (w.receive index queue max).2.pool = w.pool := by
  rw [World.receive]
  split <;> rfl

/-- The pool has storages of its own rooms in stock, `n` of its buffers are outside the interfaces,
and those that wait in queues can come back. -/
structure Stocked (w : World Buffer σ) (capacity headroom dataRoom n : Nat) : Prop where
  lends : w.Lends capacity n
  stocks : w.pool.Stocks headroom dataRoom
  fits : ∀ index queue, ∀ b ∈ w.pending index queue, b.pooled = true → b.Fits headroom dataRoom

namespace Stocked

theorem release {buffers : List Buffer}
    (h : w.Stocked capacity headroom dataRoom (n + pooledIn buffers))
    (hfits : ∀ b ∈ buffers, b.pooled = true → b.Fits headroom dataRoom) :
    (w.release buffers).Stocked capacity headroom dataRoom n where
  lends := h.lends.release
  stocks := h.stocks.releaseAll hfits
  fits := h.fits

theorem receive (h : w.Stocked capacity headroom dataRoom n) (index : Nat) (queue : QueueId)
    (max : Nat) :
    (w.receive index queue max).2.Stocked capacity headroom dataRoom
        (n + pooledIn (w.receive index queue max).1) ∧
      ∀ b ∈ (w.receive index queue max).1, b.pooled = true → b.Fits headroom dataRoom := by
  constructor
  · constructor
    case lends => exact h.lends.receive index queue max
    case stocks =>
      rw [pool_receive]
      exact h.stocks
    case fits =>
      intro j queue' b hb
      rw [pending_receive] at hb
      split at hb
      · exact h.fits index queue b (List.mem_of_mem_drop hb)
      · exact h.fits j queue' b hb
  · intro b hb
    rw [receive_fst] at hb
    exact h.fits index queue b (List.mem_of_mem_take hb)

theorem inject {burst : List Buffer}
    (h : w.Stocked capacity headroom dataRoom (n + pooledIn burst))
    (hfits : ∀ b ∈ burst, b.Fits headroom dataRoom) (index : Nat) (queue : QueueId) :
    (w.inject index queue burst).2.Stocked capacity headroom dataRoom n ∧
      (w.inject index queue burst).2.pool.exhausted = w.pool.exhausted := by
  obtain ⟨refused, hrefused, hpool⟩ := w.pool_inject index queue burst
  constructor
  · constructor
    case lends => exact h.lends.inject index queue
    case stocks =>
      rw [hpool]
      exact h.stocks.releaseAll fun b hb _ => hfits b (hrefused b hb)
    case fits =>
      intro j queue' b hb hpooled
      rw [pending_inject] at hb
      split at hb
      · cases List.mem_append.mp hb with
        | inl hb => exact h.fits index queue b hb hpooled
        | inr hb => exact hfits b (List.mem_of_mem_take hb)
      · exact h.fits j queue' b hb hpooled
  · rw [hpool, Pool.exhausted_releaseAll]

/-- Only the interfaces and the pool matter. -/
theorem wait (h : w.Stocked capacity headroom dataRoom n) (ns : Nat) :
    Stocked { w with wallNs := w.wallNs + ns } capacity headroom dataRoom n :=
  ⟨h.lends.elsewhere rfl rfl, h.stocks, h.fits⟩

/-- A new pool, and interfaces that hold no buffer of a pool. -/
theorem start {capacity : UInt64} (hpool : w.pool = .create capacity.toNat headroom dataRoom)
    (hwaiting : w.waiting = 0) (hretained : w.retained = 0) :
    w.Stocked capacity.toNat headroom dataRoom 0 where
  lends := by
    rw [World.Lends, hpool, hwaiting, hretained]
    exact Pool.create_lends capacity headroom dataRoom
  stocks := by
    rw [hpool]
    exact Pool.create_stocks capacity.toNat headroom dataRoom
  fits := by
    intro index queue b hb hpooled
    rw [pending] at hb
    cases hi : w.interfaces[index]? with
    | none =>
      rw [hi] at hb
      cases hb
    | some i =>
      rw [hi] at hb
      have hb : b ∈ i.pending queue := hb
      have hsome : i ∈ w.interfaces := List.mem_of_getElem? hi
      have hinterface : i.waiting = 0 :=
        List.sum_eq_zero_iff_forall_eq_nat.mp hwaiting _ (List.mem_map_of_mem hsome)
      cases hqueue : i.rxQueues[queue.toNat]? with
      | none =>
        rw [i.pending_eq_nil hqueue] at hb
        cases hb
      | some buffers =>
        rw [i.pending_eq hqueue] at hb
        have hmem : buffers ∈ i.rxQueues := List.mem_of_getElem? hqueue
        have hnone : pooledIn buffers = 0 :=
          List.sum_eq_zero_iff_forall_eq_nat.mp hinterface _ (List.mem_map_of_mem hmem)
        exact absurd hpooled (List.countP_eq_zero.mp hnone b hb)

end Stocked

end World

namespace Workbench

/-- As many random bytes come as were asked for. -/
def RandomSource.Fills (ρ : Type) [RandomSource ρ] : Prop :=
  ∀ (r : ρ) (n : Nat), (RandomSource.bytes r n).1.length = n

/-! ## Demands -/

/-- A frame for which a buffer was asked, and how many buffers were in use then. -/
structure Demand where
  made : Made
  inUse : UInt64

namespace Demand

/-- All of the pool was in use. -/
def Starved (capacity : Nat) (d : Demand) : Prop := d.inUse.toNat = capacity

/-- There was a buffer, and the frame did not fit into it. -/
def Oversized (capacity dataRoom : Nat) (d : Demand) : Prop :=
  d.inUse.toNat ≠ capacity ∧ dataRoom < d.made.frame.length

instance (capacity : Nat) (d : Demand) : Decidable (d.Starved capacity) :=
  inferInstanceAs (Decidable (_ = _))

instance (capacity dataRoom : Nat) (d : Demand) : Decidable (d.Oversized capacity dataRoom) :=
  inferInstanceAs (Decidable (_ ∧ _))

end Demand

/-- How many demands found the pool exhausted. -/
def starved (capacity : Nat) (demands : List Demand) : Nat :=
  demands.countP fun d => d.Starved capacity

/-- How many demands found a buffer that was too small. -/
def oversized (capacity dataRoom : Nat) (demands : List Demand) : Nat :=
  demands.countP fun d => d.Oversized capacity dataRoom

theorem starved_append (capacity : Nat) (asked asked' : List Demand) :
    starved capacity (asked ++ asked') = starved capacity asked + starved capacity asked' :=
  List.countP_append

theorem oversized_append (capacity dataRoom : Nat) (asked asked' : List Demand) :
    oversized capacity dataRoom (asked ++ asked') =
      oversized capacity dataRoom asked + oversized capacity dataRoom asked' :=
  List.countP_append

theorem starved_singleton (capacity : Nat) (d : Demand) :
    starved capacity [d] = if d.Starved capacity then 1 else 0 := by
  simp [starved, List.countP_singleton]

theorem oversized_singleton (capacity dataRoom : Nat) (d : Demand) :
    oversized capacity dataRoom [d] = if d.Oversized capacity dataRoom then 1 else 0 := by
  simp [oversized, List.countP_singleton]

/-- The length of a frame that is made by the plan. -/
def TrafficPlan.frameLength (plan : TrafficPlan) (isProbe : Bool) : Nat :=
  if isProbe then Probe.frameLength else max plan.frameSize Generator.minFrameLength

namespace Generator

/-- The demands of frames that ask for a buffer one after the other. -/
def demands (pool : Pool) : List Made → List Demand
  | [] => []
  | made :: rest => ⟨made, pool.inUse⟩ :: demands (pool.allocFrame made.frame).2 rest

/-- Each of these frames asked for a buffer. -/
theorem map_made_demands (pool : Pool) (made : List Made) :
    (demands pool made).map Demand.made = made := by
  induction made generalizing pool with
  | nil => rfl
  | cons m made ih => rw [demands, List.map_cons, ih]

/-- What became of the demands of some frames: these buffers were lent, and each count grew by what
it counts. -/
structure Supplies (capacity headroom dataRoom n : Nat) (p p' : Pool) (stats stats' : TrafficStats)
    (asked : List Demand) (buffers : List Buffer) : Prop where
  lends : p'.Lends capacity (n + pooledIn buffers)
  stocks : p'.Stocks headroom dataRoom
  fits : ∀ b ∈ buffers, b.Fits headroom dataRoom
  poolExhausted_eq : stats'.poolExhausted = stats.poolExhausted +
    UInt64.ofNat (starved capacity asked + oversized capacity dataRoom asked)
  exhausted_eq : p'.exhausted = p.exhausted + UInt64.ofNat (starved capacity asked)

variable {capacity headroom dataRoom n : Nat} {p : Pool}

/-- The first of several demands, and then the others. -/
theorem Supplies.cons {p₁ p' : Pool} {stats stats₁ stats' : TrafficStats} {d : Demand}
    {asked : List Demand} {b? : Option Buffer} {buffers : List Buffer}
    (hfits : ∀ b ∈ b?, b.Fits headroom dataRoom)
    (hpoolExhausted : stats₁.poolExhausted = stats.poolExhausted +
      UInt64.ofNat (starved capacity [d] + oversized capacity dataRoom [d]))
    (hexhausted : p₁.exhausted = p.exhausted + UInt64.ofNat (starved capacity [d]))
    (h : Supplies capacity headroom dataRoom (n + pooledIn b?.toList) p₁ p' stats₁ stats' asked
      buffers) :
    Supplies capacity headroom dataRoom n p p' stats stats' (d :: asked)
      (b?.toList ++ buffers) := by
  rw [← List.singleton_append]
  constructor
  case lends =>
    rw [pooledIn_append, ← Nat.add_assoc]
    exact h.lends
  case stocks => exact h.stocks
  case fits =>
    intro b hb
    cases List.mem_append.mp hb with
    | inl hb => exact hfits b (Option.mem_toList.mp hb)
    | inr hb => exact h.fits b hb
  case poolExhausted_eq =>
    rw [h.poolExhausted_eq, hpoolExhausted, starved_append, oversized_append, UInt64.add_assoc,
      ← UInt64.ofNat_add, Nat.add_add_add_comm]
  case exhausted_eq =>
    rw [h.exhausted_eq, hexhausted, starved_append, UInt64.add_assoc, ← UInt64.ofNat_add]

/-- A frame is refused, and counted as such, just if its demand is starved or oversized; the pool
counts the starved ones. -/
theorem allocFrame_supplies (hlends : p.Lends capacity n) (hstocks : p.Stocks headroom dataRoom)
    (stats : TrafficStats) (m : Made) :
    let d : Demand := ⟨m, p.inUse⟩
    let answer := p.allocFrame m.frame
    answer.2.Stocks headroom dataRoom ∧
      (∀ b ∈ answer.1, b.Fits headroom dataRoom) ∧
      (stats.count m.isProbe answer.1.isSome).poolExhausted = stats.poolExhausted +
        UInt64.ofNat (starved capacity [d] + oversized capacity dataRoom [d]) ∧
      answer.2.exhausted = p.exhausted + UInt64.ofNat (starved capacity [d]) := by
  intro d answer
  have hempty : p.free = [] ↔ d.Starved capacity := by
    have hlength := hlends.length_free
    show _ ↔ p.inUse.toNat = capacity
    rw [hlends.inUse_eq, ← List.length_eq_zero_iff]
    omega
  have hexhausted := p.exhausted_allocFrame m.frame
  have halloc := hstocks.allocsFrame m.frame
  have hbuffered : (stats.count m.isProbe true).poolExhausted = stats.poolExhausted := by
    cases m.isProbe <;> rfl
  change answer.2.exhausted = _ at hexhausted
  change Pool.AllocsFrame p headroom dataRoom m.frame answer at halloc
  clear_value answer
  rw [starved_singleton, oversized_singleton]
  cases halloc with
  | exhausted hfree hp =>
    have hstarved : d.Starved capacity := hempty.mp hfree
    have hfits : ¬ d.Oversized capacity dataRoom := fun h => h.1 hstarved
    rw [if_pos hstarved, if_neg hfits]
    refine ⟨hp, ?_, rfl, rfl⟩
    intro b hb
    cases hb
  | lent hfree hshort hb hp =>
    have hstarved : ¬ d.Starved capacity := fun h => hfree (hempty.mpr h)
    have hfits : ¬ d.Oversized capacity dataRoom := fun h => Nat.not_lt.mpr hshort h.2
    rw [if_neg hfree] at hexhausted
    rw [if_neg hstarved, if_neg hfits]
    refine ⟨hp, ?_, ?_, ?_⟩
    · intro b hmem
      obtain rfl := Option.mem_some.mp hmem
      exact hb.toFits
    · exact hbuffered.trans (UInt64.add_zero _).symm
    · exact hexhausted.trans (UInt64.add_zero _).symm
  | returned hfree hlong hstats hp =>
    have hstarved : ¬ d.Starved capacity := fun h => hfree (hempty.mpr h)
    have hoversized : d.Oversized capacity dataRoom := ⟨hstarved, hlong⟩
    rw [if_neg hfree] at hexhausted
    rw [if_neg hstarved, if_pos hoversized]
    refine ⟨hp, ?_, rfl, ?_⟩
    · intro b hb
      cases hb
    · exact hexhausted.trans (UInt64.add_zero _).symm

theorem fill_supplies (hlends : p.Lends capacity n) (hstocks : p.Stocks headroom dataRoom)
    (stats : TrafficStats) (made : List Made) :
    Supplies capacity headroom dataRoom n p (fill p stats made).2.1 stats (fill p stats made).2.2
      (demands p made) (fill p stats made).1 := by
  induction made generalizing p n stats with
  | nil =>
    refine ⟨hlends, hstocks, fun b hb => absurd hb List.not_mem_nil, ?_, ?_⟩
    · exact (UInt64.add_zero _).symm
    · exact (UInt64.add_zero _).symm
  | cons m made ih =>
    have hlent := hlends.allocFrame m.frame
    obtain ⟨hstocked, hfits, hpoolExhausted, hexhausted⟩ :=
      allocFrame_supplies hlends hstocks stats m
    have hrest := ih hlent hstocked (stats.count m.isProbe (p.allocFrame m.frame).1.isSome)
    exact hrest.cons hfits hpoolExhausted hexhausted

/-! ## The lengths of frames -/

/-- The frame is as long as the plan says, and it is a probe only if the plan asks for probes. -/
def Planned (plan : TrafficPlan) (m : Made) : Prop :=
  m.frame.length = plan.frameLength m.isProbe ∧ (m.isProbe = true → plan.probeEvery ≠ 0)

/-- The generator works by the plan. -/
structure Follows {ρ : Type} (plan : TrafficPlan) (g : Generator ρ) : Prop where
  burst_eq : g.burst = max plan.burst 1
  probeEvery_eq : g.probeEvery = plan.probeEvery
  contentLength_eq : g.contentLength = max plan.frameSize minFrameLength - header.length

variable {ρ : Type} [RandomSource ρ] {plan : TrafficPlan} {g : Generator ρ}

theorem makeFrame_planned (hfills : RandomSource.Fills ρ) (h : Follows plan g) (nowNs : Nat) :
    Planned plan (g.makeFrame nowNs).1 ∧ Follows plan (g.makeFrame nowNs).2 ∧
      (g.makeFrame nowNs).2.stats = g.stats := by
  rw [makeFrame]
  split
  · next hprobe =>
    obtain ⟨stamps, random, hstamps⟩ := stamps_spec { g with generated := g.generated + 1 } nowNs
    simp only [hstamps]
    refine ⟨⟨Probe.Stamps.length_frame stamps, ?_⟩,
      ⟨h.burst_eq, h.probeEvery_eq, h.contentLength_eq⟩, trivial⟩
    intro _
    rw [← h.probeEvery_eq]
    exact hprobe.1
  · refine ⟨⟨?_, fun hprobe => absurd hprobe Bool.false_ne_true⟩,
      ⟨h.burst_eq, h.probeEvery_eq, h.contentLength_eq⟩, rfl⟩
    have hheader : header.length = 14 := rfl
    have hleast : minFrameLength = 60 := rfl
    show (header ++ (RandomSource.bytes g.random g.contentLength).1).length =
      max plan.frameSize minFrameLength
    rw [List.length_append, hfills, h.contentLength_eq]
    omega

theorem makeFrames_planned (hfills : RandomSource.Fills ρ) (h : Follows plan g)
    (nowNs count : Nat) :
    (makeFrames nowNs count g).1.length = count ∧
      (∀ m ∈ (makeFrames nowNs count g).1, Planned plan m) ∧
      Follows plan (makeFrames nowNs count g).2 ∧ (makeFrames nowNs count g).2.stats = g.stats := by
  induction count generalizing g with
  | zero => exact ⟨rfl, fun m hm => absurd hm List.not_mem_nil, h, rfl⟩
  | succ count ih =>
    obtain ⟨hfirst, hnext, hstats⟩ := makeFrame_planned hfills h nowNs
    obtain ⟨hlength, hrest, hlast, hkept⟩ := ih hnext
    refine ⟨?_, ?_, hlast, hkept.trans hstats⟩
    · exact congrArg (· + 1) hlength
    · exact List.forall_mem_cons.mpr ⟨hfirst, hrest⟩

end Generator

theorem Random.fills : RandomSource.Fills Random := by
  intro r n
  have hwords : ∀ words : List UInt64,
      (words.flatMap fun w => Wire.littleEndian 8 w.toNat).length = 8 * words.length := by
    intro words
    induction words with
    | nil => rfl
    | cons w words ih =>
      rw [List.flatMap_cons, List.length_append, ih, Wire.length_littleEndian, List.length_cons]
      omega
  show (((words ((n + 7) / 8) r).1.flatMap fun w => Wire.littleEndian 8 w.toNat).take n).length = n
  rw [List.length_take, hwords, length_words]
  omega

/-! ## Runs -/

/-- A generator, those who received frames of it, and all that was asked of the pool so far. -/
structure Circulation (ρ σ : Type) where
  generator : Generator ρ
  world : World Buffer σ
  /-- The buffers that were received and not given back yet. -/
  held : List Buffer := []
  demands : List Demand := []

namespace Circulation

/-- What happens while the generator is at work. The buffer to give back goes by its position among
those that are held. -/
inductive Move where
  | inject
  | receive (index : Nat) (queue : QueueId) (max : Nat)
  | giveBack (position : Nat)
  | wait (ns : Nat)

/-- Whether the generator is called. -/
def Move.isInject : Move → Bool
  | .inject => true
  | _ => false

variable {ρ : Type} [RandomSource ρ] {σ : Type}

/-- The demands of the next burst. -/
def burst (s : Circulation ρ σ) : List Demand :=
  Generator.demands s.world.pool
    (Generator.makeFrames s.world.wallNs s.generator.burst s.generator).1

def step (s : Circulation ρ σ) : Move → Circulation ρ σ
  | .inject =>
    let (generator, world) := s.generator.injectBurst s.world
    { s with generator, world, demands := s.demands ++ s.burst }
  | .receive index queue max =>
    let (frames, world) := s.world.receive index queue max
    { s with world, held := s.held ++ frames }
  | .giveBack position =>
    match s.held[position]? with
    | none => s
    | some b => { s with world := s.world.release [b], held := s.held.eraseIdx position }
  | .wait ns => { s with world := { s.world with wallNs := s.world.wallNs + ns } }

def run (s : Circulation ρ σ) (moves : List Move) : Circulation ρ σ := moves.foldl step s

/-- Every buffer of the pool is in stock, waits in a queue or is held, and both counts tell of the
demands what they count. -/
structure Accounts (plan : TrafficPlan) (capacity headroom dataRoom : Nat)
    (s : Circulation ρ σ) : Prop where
  follows : Generator.Follows plan s.generator
  stocked : s.world.Stocked capacity headroom dataRoom (pooledIn s.held)
  held_fits : ∀ b ∈ s.held, b.pooled = true → b.Fits headroom dataRoom
  planned : ∀ d ∈ s.demands, Generator.Planned plan d.made
  poolExhausted_eq : s.generator.stats.poolExhausted =
    UInt64.ofNat (starved capacity s.demands + oversized capacity dataRoom s.demands)
  exhausted_eq : s.world.pool.exhausted = UInt64.ofNat (starved capacity s.demands)

namespace Accounts

variable {plan : TrafficPlan} {capacity headroom dataRoom : Nat} {s : Circulation ρ σ}

/-- The demands of a burst are added to both counts. -/
theorem inject (hfills : RandomSource.Fills ρ) (h : Accounts plan capacity headroom dataRoom s) :
    Accounts plan capacity headroom dataRoom (s.step .inject) ∧
      (s.step .inject).demands.length = s.demands.length + max plan.burst 1 := by
  obtain ⟨hlength, hplanned, hfollows, hstats⟩ :=
    Generator.makeFrames_planned hfills h.follows s.world.wallNs s.generator.burst
  obtain ⟨made, g, hmade⟩ : ∃ made g, Generator.makeFrames s.world.wallNs s.generator.burst
      s.generator = (made, g) := ⟨_, _, rfl⟩
  rw [hmade] at hlength hplanned hfollows hstats
  have hsupplies := Generator.fill_supplies h.stocked.lends h.stocked.stocks g.stats made
  obtain ⟨buffers, pool, stats, hfill⟩ : ∃ buffers pool stats,
      Generator.fill s.world.pool g.stats made = (buffers, pool, stats) := ⟨_, _, _, rfl⟩
  rw [hfill] at hsupplies
  obtain ⟨hlends, hstocks, hfits, hpoolExhausted, hexhausted⟩ := hsupplies
  have hstocked : World.Stocked { s.world with pool } capacity headroom dataRoom
      (pooledIn s.held + pooledIn buffers) := by
    refine ⟨?_, hstocks, h.stocked.fits⟩
    rw [World.Lends, ← Nat.add_assoc]
    exact hlends
  obtain ⟨hafter, hpool⟩ :=
    hstocked.inject hfits g.interface (g.rotation.pick g.queues).1
  have hmap := Generator.map_made_demands s.world.pool made
  have hdemands : (s.step .inject).demands =
      s.demands ++ Generator.demands s.world.pool made := by
    simp only [step, burst, hmade]
  refine ⟨?_, ?_⟩
  · constructor
    case follows =>
      simp only [step, Generator.injectBurst, hmade, hfill]
      exact ⟨hfollows.burst_eq, hfollows.probeEvery_eq, hfollows.contentLength_eq⟩
    case stocked =>
      simp only [step, Generator.injectBurst, hmade, hfill]
      exact hafter
    case held_fits => exact h.held_fits
    case planned =>
      intro d hd
      rw [hdemands] at hd
      cases List.mem_append.mp hd with
      | inl hd => exact h.planned d hd
      | inr hd =>
        apply hplanned
        rw [← hmap]
        exact List.mem_map_of_mem hd
    case poolExhausted_eq =>
      rw [hdemands]
      simp only [step, Generator.injectBurst, hmade, hfill]
      rw [hpoolExhausted, hstats, h.poolExhausted_eq, ← UInt64.ofNat_add, starved_append,
        oversized_append, Nat.add_add_add_comm]
    case exhausted_eq =>
      rw [hdemands]
      simp only [step, Generator.injectBurst, hmade, hfill]
      rw [hpool, hexhausted, h.exhausted_eq, ← UInt64.ofNat_add, starved_append]
  · have hburst : made.length = max plan.burst 1 := hlength.trans h.follows.burst_eq
    have hsame : (Generator.demands s.world.pool made).length = made.length := by
      rw [← List.length_map, hmap]
    rw [hdemands, List.length_append, hsame, hburst]

/-- Whatever happens next, the demands stay accounted for, and only a call of the generator adds to
them. -/
theorem step (hfills : RandomSource.Fills ρ) (h : Accounts plan capacity headroom dataRoom s)
    (m : Move) :
    Accounts plan capacity headroom dataRoom (s.step m) ∧
      (s.step m).demands.length =
        s.demands.length + if m.isInject then max plan.burst 1 else 0 := by
  cases m with
  | inject => exact h.inject hfills
  | receive index queue most =>
    obtain ⟨hstocked, hfits⟩ := h.stocked.receive index queue most
    refine ⟨{ h with stocked := ?_, held_fits := ?_, exhausted_eq := ?_ }, rfl⟩
    · show (s.world.receive index queue most).2.Stocked capacity headroom dataRoom
        (pooledIn (s.held ++ (s.world.receive index queue most).1))
      rw [pooledIn_append]
      exact hstocked
    · exact List.forall_mem_append.mpr ⟨h.held_fits, hfits⟩
    · show (s.world.receive index queue most).2.pool.exhausted = _
      rw [World.pool_receive]
      exact h.exhausted_eq
  | giveBack position =>
    rw [Circulation.step]
    split
    · exact ⟨h, rfl⟩
    · next b hb =>
      have hmem : b ∈ s.held := List.mem_of_getElem? hb
      obtain ⟨hposition, hget⟩ := List.getElem?_eq_some_iff.mp hb
      have hsplit : pooledIn s.held = pooledIn (s.held.eraseIdx position) + pooledIn [b] := by
        have hperm := List.getElem_cons_eraseIdx_perm hposition
        rw [hget] at hperm
        rw [← pooledIn_perm hperm, pooledIn_cons, Nat.add_comm]
      have hstocked := h.stocked
      rw [hsplit] at hstocked
      refine ⟨{ h with stocked := ?_, held_fits := ?_, exhausted_eq := ?_ }, rfl⟩
      · apply hstocked.release
        intro b' hb'
        rw [List.mem_singleton.mp hb']
        exact h.held_fits b hmem
      · intro b' hb'
        exact h.held_fits b' (List.mem_of_mem_eraseIdx hb')
      · exact (Pool.exhausted_releaseAll s.world.pool [b]).trans h.exhausted_eq
  | wait ns => exact ⟨{ h with stocked := h.stocked.wait ns }, rfl⟩

theorem run (hfills : RandomSource.Fills ρ) (h : Accounts plan capacity headroom dataRoom s)
    (moves : List Move) :
    Accounts plan capacity headroom dataRoom (s.run moves) ∧
      (s.run moves).demands.length =
        s.demands.length + moves.countP Move.isInject * max plan.burst 1 := by
  induction moves generalizing s with
  | nil =>
    refine ⟨h, ?_⟩
    rw [List.countP_nil, Nat.zero_mul]
    rfl
  | cons m moves ih =>
    obtain ⟨hnext, hlength⟩ := h.step hfills m
    obtain ⟨hlast, hlengths⟩ := ih hnext
    refine ⟨hlast, hlengths.trans ?_⟩
    rw [hlength, List.countP_cons, Nat.add_mul]
    cases m.isInject
    · simp
    · simp
      omega

omit [RandomSource ρ] in
/-- Where all frames of the plan fit into a buffer, none was too long. -/
theorem oversized_eq_zero (h : Accounts plan capacity headroom dataRoom s)
    (hdata : plan.frameLength false ≤ dataRoom)
    (hprobe : plan.probeEvery ≠ 0 → plan.frameLength true ≤ dataRoom) :
    oversized capacity dataRoom s.demands = 0 := by
  apply List.countP_eq_zero.mpr
  intro d hd hlong
  obtain ⟨hframe, hdue⟩ := h.planned d hd
  have hlong := (of_decide_eq_true hlong).2
  rw [hframe] at hlong
  cases hkind : d.made.isProbe with
  | false =>
    rw [hkind] at hlong
    exact absurd hdata (Nat.not_le.mpr hlong)
  | true =>
    rw [hkind] at hlong
    exact absurd (hprobe (hdue hkind)) (Nat.not_le.mpr hlong)

end Accounts

/-- A generator that has not been called yet, and nobody holds a buffer. -/
def start (seed : UInt64) (index : Nat) (queues : QueueSet) (plan : TrafficPlan) (nowNs : Nat)
    (w : World Buffer σ) : Circulation ρ σ where
  generator := .create seed index queues plan nowNs
  world := w

/-- What the generator counts as an exhausted pool, whatever its random numbers are. The pool of a
given geometry is new and nobody else takes buffers from it. After any calls of the generator, and
whatever became of the frames in between, each frame of each burst asked for a buffer once; the pool
counts the demands that found all of it in use, and the generator counts these and the ones that
found a buffer too small for the frame. Both counts agree if a buffer has room for a data frame of
the plan and, if there are to be probes, for a probe. -/
theorem run_exhaustion (hfills : RandomSource.Fills ρ) (seed : UInt64) (index : Nat)
    (queues : QueueSet) (plan : TrafficPlan) (nowNs : Nat) {capacity : UInt64}
    {headroom dataRoom : Nat} {w : World Buffer σ}
    (hpool : w.pool = .create capacity.toNat headroom dataRoom) (hwaiting : w.waiting = 0)
    (hretained : w.retained = 0) (moves : List Move) :
    let s := (start seed index queues plan nowNs w : Circulation ρ σ).run moves
    let pool := s.world.pool
    let poolExhausted := s.generator.stats.poolExhausted
    s.demands.length = moves.countP Move.isInject * max plan.burst 1 ∧
      (∀ d ∈ s.demands, d.made.frame.length = plan.frameLength d.made.isProbe) ∧
      pool.exhausted = UInt64.ofNat (starved capacity.toNat s.demands) ∧
      poolExhausted = pool.exhausted +
        UInt64.ofNat (oversized capacity.toNat dataRoom s.demands) ∧
      (plan.frameLength false ≤ dataRoom →
        (plan.probeEvery ≠ 0 → plan.frameLength true ≤ dataRoom) →
        poolExhausted = pool.exhausted) := by
  intro s pool poolExhausted
  have hstart : Accounts plan capacity.toNat headroom dataRoom
      (start seed index queues plan nowNs w : Circulation ρ σ) := by
    refine ⟨⟨rfl, rfl, rfl⟩, .start hpool hwaiting hretained, ?_, ?_, rfl, ?_⟩
    · intro b hb
      cases hb
    · intro d hd
      cases hd
    · show w.pool.exhausted = 0
      rw [hpool]
      rfl
  obtain ⟨h, hlength⟩ := hstart.run hfills moves
  have hcounts : poolExhausted =
      pool.exhausted + UInt64.ofNat (oversized capacity.toNat dataRoom s.demands) := by
    refine h.poolExhausted_eq.trans ?_
    rw [UInt64.ofNat_add]
    exact congrArg (· + _) h.exhausted_eq.symm
  refine ⟨hlength.trans (Nat.zero_add _), fun d hd => (h.planned d hd).1, h.exhausted_eq, hcounts,
    ?_⟩
  intro hdata hprobe
  rw [hcounts, h.oversized_eq_zero hdata hprobe]
  exact UInt64.add_zero _

/-- An interface with one receive queue, and a pool of two buffers of this many bytes. -/
def twoBuffers (dataRoom : Nat) : World Buffer Unit where
  interfaces := [.create ⟨0, "eth0"⟩ 1 1]
  sink := ()
  clock := { hz := Clock.monotonicHz }
  pool := .create 2 0 dataRoom

/-- Bursts of four frames, every other one a probe. -/
def mixedPlan : TrafficPlan := { burst := 4, probeEvery := 2 }

/-- The run of two bursts, between which one frame is received and given back. -/
def mixedRun : Circulation Random Unit :=
  (start 7 0 (.single 0) mixedPlan 0 (twoBuffers 64)).run
    [.inject, .receive 0 0 1, .giveBack 0, .inject]

/-- The statement where a buffer has room for data frames and not for probes: of the eight frames
three get a buffer, one probe finds a buffer that is too small, and the others find none. -/
theorem run_exhaustion_mixed :
    RandomSource.Fills Random ∧ (twoBuffers 64).pool = .create (2 : UInt64).toNat 0 64 ∧
      (twoBuffers 64).waiting = 0 ∧ (twoBuffers 64).retained = 0 ∧
      mixedRun.generator.stats.poolExhausted = mixedRun.world.pool.exhausted +
        UInt64.ofNat (oversized 2 64 mixedRun.demands) ∧
      mixedRun.world.pool.exhausted = 4 ∧ oversized 2 64 mixedRun.demands = 1 := by
  have hpool : (twoBuffers 64).pool = .create (2 : UInt64).toNat 0 64 := rfl
  obtain ⟨-, -, -, hcounts, -⟩ := run_exhaustion Random.fills 7 0 (.single 0) mixedPlan 0 hpool
    rfl rfl [.inject, .receive 0 0 1, .giveBack 0, .inject]
  refine ⟨Random.fills, hpool, rfl, rfl, hcounts, ?_, ?_⟩
  · decide +kernel
  · decide +kernel

/-- The run of one burst of one frame that is longer than a buffer. -/
def longFrameRun : Circulation Random Unit :=
  (start 7 0 (.single 0) { burst := 1, probeEvery := 0 } 0 (twoBuffers 16)).run [.inject]

/-- A pool that is counted as exhausted need not be: both its buffers are in stock. -/
theorem poolExhausted_ne_exhausted :
    longFrameRun.generator.stats.poolExhausted ≠ longFrameRun.world.pool.exhausted ∧
      longFrameRun.world.pool.free.length = 2 := by
  decide +kernel

end Circulation

end Workbench

end EtherRelay
