import EtherRelay.Proofs.Forwarding.Delivery
import EtherRelay.Proofs.Forwarding.Ledger
import EtherRelay.Proofs.Forwarding.Polling
import EtherRelay.Proofs.Ring.Draining
import Mathlib.Data.List.MinMax

/-!
# Emptying a pipeline

Once nothing arrives any more, a bounded number of polls empties a pipeline: first the source
queues that its receiver reads, then both rings. The bounds hold from every state that a pipeline
can get into, whatever else happens to the world in between.

The receive polls are counted by the turns of the receiver, and the other polls by the bursts that
are left in their rings.
-/

namespace EtherRelay

variable {β σ : Type}

/-- The queues of a set that a receiver with these settings reads. -/
def Settings.polled (s : Settings) (set : QueueSet) : List QueueId :=
  match s.rxQueuePolicy with
  | .fixed index => (set.get? index).toList
  | .roundRobin => set.queues

/-- The poll that takes items out of a ring. -/
def RingRole.consumer : RingRole → Poll
  | .relay => .transmit
  | .stats => .drain

/-- A pipeline and the world around it. -/
structure Scene (β σ : Type) where
  pipeline : Pipeline β
  world : World β σ

namespace Scene

/-- What can happen next: a stage is polled, the stages are asked to stop, or something else
changes the world. -/
inductive Move (β σ : Type) where
  | poll (poll : Poll)
  | requestStop
  | elsewhere (act : World β σ → World β σ)

namespace Move

/-- Whether the move polls this stage. -/
def polls (poll : Poll) : Move β σ → Bool
  | .poll p => p == poll
  | .requestStop | .elsewhere _ => false

/-- The move puts no frame in a receive queue of the interface. Others may read its queues. -/
def Quiet (interface : Nat) : Move β σ → Prop
  | .poll _ | .requestStop => True
  | .elsewhere act => ∀ w queue,
      ((act w).pending interface queue).length ≤ (w.pending interface queue).length

end Move

/-- How often the moves poll a stage. -/
def polls (poll : Poll) (moves : List (Move β σ)) : Nat := moves.countP (Move.polls poll)

/-- The bursts in which the frames of a source queue are received. -/
def waitingBursts (settings : Settings) (source : Binding) (w : World β σ) (queue : QueueId) :
    Nat :=
  (w.pending source.interface queue).length ⌈/⌉ settings.burstSize

/-- The receive polls that empty the polled queues: a poll for each burst that waits in the fixed
queue, or a round of polls for each burst that waits in the fullest queue. -/
def receivesNeeded (settings : Settings) (source : Binding) (w : World β σ) : Nat :=
  match settings.rxQueuePolicy with
  | .fixed index => ((source.queues.get? index).map (waitingBursts settings source w)).getD 0
  | .roundRobin => source.queues.length *
      (source.queues.queues.map (waitingBursts settings source w)).foldr max 0

theorem receivesNeeded_eq (settings : Settings) (source : Binding) (w : World β σ) :
    receivesNeeded settings source w = (settings.polled source.queues).length *
      ((settings.polled source.queues).map (waitingBursts settings source w)).foldr max 0 := by
  rw [receivesNeeded, Settings.polled]
  cases settings.rxQueuePolicy with
  | fixed index =>
      dsimp only
      cases source.queues.get? index with
      | none => rfl
      | some queue => simp
  | roundRobin => rfl

variable [FrameBuffer β] [Sink σ]

/-- Make one move. -/
def step (s : Scene β σ) : Move β σ → Scene β σ
  | .poll .receive =>
    let (_, pipeline, world) := s.pipeline.receive s.world
    { pipeline, world }
  | .poll .transmit =>
    let (_, pipeline, world) := s.pipeline.transmit s.world
    { pipeline, world }
  | .poll .drain =>
    let (_, pipeline, world) := s.pipeline.drain s.world
    { pipeline, world }
  | .poll .sample =>
    let (_, pipeline, world) := s.pipeline.sample s.world
    { pipeline, world }
  | .poll .publishSample =>
    let (_, pipeline, world) := s.pipeline.publishSample s.world
    { pipeline, world }
  | .requestStop => { s with pipeline := s.pipeline.requestStop }
  | .elsewhere act => { s with world := act s.world }

/-- Make moves in order. -/
def run (s : Scene β σ) (moves : List (Move β σ)) : Scene β σ := moves.foldl step s

/-- What becomes of a pipeline if nothing arrives from now on. -/
structure Drains (settings : Settings) (source : Binding) (s : Scene β σ) : Prop where
  /-- Enough receive polls empty the polled queues. -/
  pending_eq_nil : ∀ moves : List (Move β σ), (∀ m ∈ moves, m.Quiet source.interface) →
    receivesNeeded settings source s.world ≤ polls .receive moves →
    ∀ queue ∈ settings.polled source.queues,
      (s.run moves).world.pending source.interface queue = []
  /-- Once these are empty, either ring takes one burst more than its items fill. -/
  ring_length_eq_zero :
    (∀ queue ∈ settings.polled source.queues, s.world.pending source.interface queue = []) →
    ∀ moves : List (Move β σ), (∀ m ∈ moves, m.Quiet source.interface) → ∀ role : RingRole,
      (s.pipeline.lane.ring role).length ⌈/⌉ settings.burstSize + 1 ≤
        polls role.consumer moves →
      ((s.run moves).pipeline.lane.ring role).length = 0
  /-- With both rings empty, every received frame was forwarded, decoded or dropped. -/
  rxPackets_eq : (∀ role, (s.pipeline.lane.ring role).length = 0) →
    s.pipeline.lane.counters.rxPackets = s.pipeline.lane.counters.forwarded +
      s.pipeline.lane.counters.probesDecoded + s.pipeline.lane.counters.totalDrops
  /-- A transmit poll moves nothing only if the relay ring is empty. -/
  transmit_eq_zero : (s.pipeline.transmit s.world).1 = some 0 →
    (s.pipeline.lane.ring .relay).length = 0
  /-- A drain takes nothing only if the stats ring is empty. -/
  drain_eq_zero : (s.pipeline.drain s.world).1 = some 0 →
    (s.pipeline.lane.ring .stats).length = 0

end Scene

/-! ## The invariant -/

/-- A new receiver reads what the settings say. -/
theorem Receiver.create_polled {settings : Settings} {source : Binding} {r : Receiver}
    (h : create settings source = .ok r) :
    r.choice.polled r.queues = settings.polled source.queues := by
  simp only [create, bind, Except.bind, pure, Except.pure, throw, throwThe,
    MonadExceptOf.throw] at h
  rw [Settings.polled]
  grind [QueueChoice.polled]

/-- With nothing in hand and nothing queued, the counters tell what became of every frame. -/
theorem Lane.Accounts.rxPackets_eq_add {lane : Lane β} {burstSize received : Nat}
    (h : lane.Accounts burstSize 0 0 received) (hrelay : lane.relayRing.toList = [])
    (hstats : lane.statsRing.toList = []) :
    lane.counters.rxPackets = lane.counters.forwarded + lane.counters.probesDecoded +
      lane.counters.totalDrops := by
  obtain ⟨_, _, total, hshows, hbalanced⟩ := h
  rw [hrelay, hstats] at hbalanced
  obtain ⟨_, hreceived, hrelayed, hprobes, _⟩ := hbalanced
  have hsum : total .rxPackets = total .forwarded + total .probesDecoded +
      (total .relayOverflowDrops + total .probeOverflowDrops + total .txPartialDrops +
        total .malformedProbes) := by
    simp only [List.length_nil] at hrelayed hprobes
    omega
  have hword : ∀ k, UInt64.ofNat (total k) = lane.counters.get k := fun k => (hshows k).symm
  have hsum' := congrArg UInt64.ofNat hsum
  simp only [UInt64.ofNat_add, hword] at hsum'
  exact hsum'

namespace Scene

variable {settings : Settings} {source : Binding} {s : Scene β σ}

/-- The stages are there and follow the settings. -/
structure Keeps (settings : Settings) (source : Binding) (s : Scene β σ) : Prop where
  burstSize_pos : 0 < settings.burstSize
  receiver_eq : ∃ r, s.pipeline.receiver = some r ∧ r.interface = source.interface ∧
    r.burstSize = settings.burstSize ∧
    r.choice.polled r.queues = settings.polled source.queues
  transmitter_eq : ∃ t, s.pipeline.transmitter = some t ∧ t.burstSize = settings.burstSize
  monitor_eq : ∃ m, s.pipeline.monitor = some m ∧ m.burstSize = settings.burstSize
  accounts : ∃ received, s.pipeline.Accounts settings.burstSize received

theorem keeps_create {context : UInt16} {destination : Binding} {now : UInt64} {p : Pipeline β}
    (hvalid : settings.validate = .ok ())
    (hp : Pipeline.create context settings source destination settings.burstSize now = .ok p)
    (w : World β σ) : Keeps settings source ⟨p, w⟩ := by
  have haccounts := (Pipeline.create_fresh hp).accounts
  obtain ⟨lane, r, _, hr, rfl⟩ := Pipeline.create_eq hp
  obtain ⟨hinterface, _, hburst⟩ := Receiver.create_reads hr
  exact ⟨(Settings.validate_eq_ok hvalid).1,
    ⟨r, rfl, hinterface, hburst, Receiver.create_polled hr⟩, ⟨_, rfl, rfl⟩, ⟨_, rfl, rfl⟩,
    ⟨0, haccounts⟩⟩

theorem Keeps.ring_sound (h : s.Keeps settings source) (role : RingRole) :
    (s.pipeline.lane.ring role).Sound := by
  obtain ⟨_, haccounts⟩ := h.accounts
  cases role with
  | relay => exact haccounts.lane_accounts.relay_sound
  | stats => exact haccounts.lane_accounts.stats_sound

end Scene

/-! ## What the stages do to the rings -/

variable [FrameBuffer β] {lane : Lane β}

theorem Transmitter.ring_poll (t : Transmitter) (lane : Lane β) (w : World β σ)
    (role : RingRole) :
    (t.poll lane w).2.2.1.ring role =
      if role = .relay then (lane.relayRing.dequeueBurst t.burstSize).2 else lane.ring role := by
  rw [poll_eq]
  cases role <;> split <;> rfl

theorem Transmitter.poll_reads (t : Transmitter) (lane : Lane β) (w : World β σ) :
    (t.poll lane w).2.1.interface = t.interface ∧ (t.poll lane w).2.1.queues = t.queues ∧
      (t.poll lane w).2.1.burstSize = t.burstSize := by
  rw [poll_eq]
  split <;> exact ⟨rfl, rfl, rfl⟩

theorem Transmitter.poll_eq_zero (t : Transmitter) (h : lane.relayRing.Sound)
    (hburst : 0 < t.burstSize) (w : World β σ) :
    (t.poll lane w).1 = 0 ↔ lane.relayRing.toList = [] := by
  rw [← h.dequeueBurst_eq_nil hburst, poll_eq]
  split
  · next hnil => exact ⟨fun _ => hnil, fun _ => rfl⟩
  · exact List.length_eq_zero_iff

variable [Sink σ]

theorem Monitor.ring_drain (m : Monitor) (lane : Lane β) (w : World β σ) (role : RingRole) :
    (m.drain lane w).2.1.ring role =
      if role = .stats then (lane.statsRing.dequeueBurst m.burstSize).2 else lane.ring role := by
  obtain ⟨_, _, hcounts, _⟩ := m.drain_counts lane w
  cases role with
  | relay => exact hcounts.relayRing_eq
  | stats => exact hcounts.statsRing_eq

theorem Monitor.drain_eq_zero (m : Monitor) (h : lane.statsRing.Sound)
    (hburst : 0 < m.burstSize) (w : World β σ) :
    (m.drain lane w).1 = 0 ↔ lane.statsRing.toList = [] := by
  rw [← h.dequeueBurst_eq_nil hburst, ← List.length_eq_zero_iff]
  rfl

/-! ## Moves -/

namespace Scene

variable {settings : Settings} {source : Binding} {s : Scene β σ}

namespace Keeps

/-- Every move keeps the stages and what they follow. -/
theorem step (h : s.Keeps settings source) (m : Move β σ) :
    (s.step m).Keeps settings source := by
  obtain ⟨hpos, ⟨r, hr, hinterface, hburst, hpolled⟩, ⟨t, ht, htburst⟩, ⟨n, hn, hnburst⟩,
    received, haccounts⟩ := h
  cases m with
  | elsewhere act => exact ⟨hpos, ⟨r, hr, hinterface, hburst, hpolled⟩, ⟨t, ht, htburst⟩,
      ⟨n, hn, hnburst⟩, received, haccounts⟩
  | requestStop => exact ⟨hpos, ⟨r, hr, hinterface, hburst, hpolled⟩, ⟨t, ht, htburst⟩,
      ⟨n, hn, hnburst⟩, received, haccounts.lane_accounts, haccounts.receiver_burstSize,
      haccounts.transmitter_burstSize⟩
  | poll poll =>
      cases poll with
      | receive =>
          have hnext := haccounts.receive s.world
          simp only [Scene.step, Pipeline.receive, hr] at hnext ⊢
          have halike := r.poll_alike s.world s.pipeline.lane
          refine ⟨hpos, ⟨_, rfl, halike.interface_eq.trans hinterface,
            halike.burstSize_eq.trans hburst, ?_⟩, ⟨t, ht, htburst⟩, ⟨n, hn, hnburst⟩, _, hnext⟩
          rw [r.choice_poll, halike.queues_eq, QueueChoice.polled_next, hpolled]
      | transmit =>
          have hnext := haccounts.transmit s.world
          simp only [Scene.step, Pipeline.transmit, ht] at hnext ⊢
          exact ⟨hpos, ⟨r, hr, hinterface, hburst, hpolled⟩,
            ⟨_, rfl, (t.poll_reads _ _).2.2.trans htburst⟩, ⟨n, hn, hnburst⟩, _, hnext⟩
      | drain =>
          have hnext := haccounts.drain s.world
          simp only [Scene.step, Pipeline.drain, hn] at hnext ⊢
          exact ⟨hpos, ⟨r, hr, hinterface, hburst, hpolled⟩, ⟨t, ht, htburst⟩, ⟨n, rfl, hnburst⟩,
            _, hnext⟩
      | sample =>
          have hnext := haccounts.sample s.world
          simp only [Scene.step, Pipeline.sample, hn] at hnext ⊢
          exact ⟨hpos, ⟨r, hr, hinterface, hburst, hpolled⟩, ⟨t, ht, htburst⟩, ⟨_, rfl, hnburst⟩,
            _, hnext⟩
      | publishSample =>
          have hnext := haccounts.publishSample s.world
          simp only [Scene.step, Pipeline.publishSample, hn] at hnext ⊢
          exact ⟨hpos, ⟨r, hr, hinterface, hburst, hpolled⟩, ⟨t, ht, htburst⟩, ⟨_, rfl, hnburst⟩,
            _, hnext⟩

theorem run (h : s.Keeps settings source) (moves : List (Move β σ)) :
    (s.run moves).Keeps settings source := by
  induction moves generalizing s with
  | nil => exact h
  | cons m moves ih => exact ih (h.step m)

/-! ## Receive polls -/

/-- A receive poll takes a burst out of the queue whose turn it is, and the next queue follows. -/
theorem step_receive (h : s.Keeps settings source) {r : Receiver}
    (hr : s.pipeline.receiver = some r) :
    (∃ r', (s.step (.poll .receive)).pipeline.receiver = some r' ∧ r'.queues = r.queues ∧
      r'.choice = r.choice.next r.queues) ∧
    ∀ queue, (s.step (.poll .receive)).world.pending source.interface queue =
      if queue = r.choice.queue r.queues then
        (s.world.pending source.interface queue).drop settings.burstSize
      else s.world.pending source.interface queue := by
  obtain ⟨_, hr', hinterface, hburst, _⟩ := h.receiver_eq
  cases hr.symm.trans hr'
  simp only [Scene.step, Pipeline.receive, hr]
  refine ⟨⟨_, rfl, (r.poll_alike _ _).queues_eq, r.choice_poll _ _⟩, ?_⟩
  intro queue
  rw [r.pending_poll (h.ring_sound .relay) (h.ring_sound .stats), hinterface, hburst]
  simp only [true_and]

/-- Other quiet moves leave the receiver alone and put nothing in the source queues. -/
theorem step_other (h : s.Keeps settings source) {m : Move β σ}
    (hm : m.polls .receive = false) (hquiet : m.Quiet source.interface) :
    (s.step m).pipeline.receiver = s.pipeline.receiver ∧
    ∀ queue, ((s.step m).world.pending source.interface queue).length ≤
      (s.world.pending source.interface queue).length := by
  obtain ⟨t, ht, _⟩ := h.transmitter_eq
  obtain ⟨n, hn, _⟩ := h.monitor_eq
  cases m with
  | elsewhere act => exact ⟨rfl, hquiet s.world⟩
  | requestStop => exact ⟨rfl, fun _ => Nat.le_refl _⟩
  | poll poll =>
      cases poll with
      | receive => cases hm
      | transmit =>
          simp only [Scene.step, Pipeline.transmit, ht, t.pending_poll]
          exact ⟨trivial, fun _ => Nat.le_refl _⟩
      | drain =>
          obtain ⟨_, _, _, hfrees⟩ := n.drain_counts s.pipeline.lane s.world
          simp only [Scene.step, Pipeline.drain, hn, hfrees.pending_eq]
          exact ⟨trivial, fun _ => Nat.le_refl _⟩
      | sample =>
          have hfrees := n.sample_frees s.pipeline.lane s.world
          simp only [Scene.step, Pipeline.sample, hn, hfrees.pending_eq]
          exact ⟨trivial, fun _ => Nat.le_refl _⟩
      | publishSample =>
          obtain ⟨_, _, _, hfrees⟩ := n.publishSample_counts s.pipeline.lane s.world
          simp only [Scene.step, Pipeline.publishSample, hn, hfrees.pending_eq]
          exact ⟨trivial, fun _ => Nat.le_refl _⟩

/-- Each turn of a queue takes a burst out of it. -/
theorem length_pending_run (h : s.Keeps settings source) {r : Receiver}
    (hr : s.pipeline.receiver = some r) {moves : List (Move β σ)}
    (hquiet : ∀ m ∈ moves, m.Quiet source.interface) (queue : QueueId) :
    ((s.run moves).world.pending source.interface queue).length ≤
      (s.world.pending source.interface queue).length -
        settings.burstSize * (r.choice.turns r.queues (polls .receive moves)).count queue := by
  induction moves generalizing s r with
  | nil => exact Nat.le_refl _
  | cons m moves ih =>
      obtain ⟨hm, hmoves⟩ := List.forall_mem_cons.mp hquiet
      cases hreceive : m.polls .receive with
      | true =>
          obtain rfl : m = .poll .receive := by
            cases m with
            | poll poll => exact congrArg Move.poll (eq_of_beq hreceive)
            | requestStop => cases hreceive
            | elsewhere act => cases hreceive
          obtain ⟨⟨r', hr', hqueues, hchoice⟩, hpending⟩ := h.step_receive hr
          have hrest := ih (h.step (.poll .receive)) hr' hmoves
          rw [hqueues, hchoice, hpending queue] at hrest
          rw [polls, List.countP_cons_of_pos hreceive, QueueChoice.turns, List.count_cons,
            ← polls]
          refine hrest.trans ?_
          split
          · next hturn =>
            rw [hturn, beq_self_eq_true, if_pos rfl, List.length_drop, Nat.mul_add]
            omega
          · next hturn =>
            rw [if_neg (by simpa using Ne.symm hturn), Nat.add_zero]
      | false =>
          obtain ⟨hsame, hpending⟩ := h.step_other hreceive hm
          have hrest := ih (h.step m) (hsame.trans hr) hmoves
          rw [polls, List.countP_cons_of_neg (by simp [hreceive]), ← polls]
          exact hrest.trans (Nat.sub_le_sub_right (hpending queue) _)

/-- After enough receive polls the polled queues are empty. -/
theorem pending_run_eq_nil (h : s.Keeps settings source) {moves : List (Move β σ)}
    (hquiet : ∀ m ∈ moves, m.Quiet source.interface)
    (hpolls : receivesNeeded settings source s.world ≤ polls .receive moves) {queue : QueueId}
    (hqueue : queue ∈ settings.polled source.queues) :
    (s.run moves).world.pending source.interface queue = [] := by
  obtain ⟨r, hr, _, _, hpolled⟩ := h.receiver_eq
  have hlength := h.length_pending_run hr hquiet queue
  rw [receivesNeeded_eq] at hpolls
  let rounds := ((settings.polled source.queues).map
    (waitingBursts settings source s.world)).foldr max 0
  have hrounds : waitingBursts settings source s.world queue ≤ rounds :=
    List.le_max_of_le' 0 (List.mem_map_of_mem hqueue) (Nat.le_refl _)
  have hcount : rounds ≤
      (r.choice.turns r.queues (polls .receive moves)).count queue := by
    obtain ⟨more, hmore⟩ := Nat.exists_eq_add_of_le hpolls
    have hfirst := r.choice.le_count_turns (hpolled ▸ hqueue) rounds
    rw [hmore, QueueChoice.turns_add, List.count_append]
    rw [hpolled] at hfirst
    exact hfirst.trans (Nat.le_add_right _ _)
  have henough := (ceilDiv_le_iff_le_mul h.burstSize_pos).mp (hrounds.trans hcount)
  exact List.eq_nil_of_length_eq_zero (by omega)

/-- Polled queues that are empty stay so. -/
theorem pending_step_eq_nil (h : s.Keeps settings source) {m : Move β σ}
    (hquiet : m.Quiet source.interface)
    (hempty : ∀ queue ∈ settings.polled source.queues,
      s.world.pending source.interface queue = []) :
    ∀ queue ∈ settings.polled source.queues,
      (s.step m).world.pending source.interface queue = [] := by
  intro queue hqueue
  obtain ⟨r, hr, _⟩ := h.receiver_eq
  have hlength := h.length_pending_run hr (List.forall_mem_singleton.mpr hquiet) queue
  rw [hempty queue hqueue, List.length_nil, Nat.zero_sub] at hlength
  exact List.eq_nil_of_length_eq_zero (Nat.le_zero.mp hlength)

/-! ## Polls that take from a ring -/

/-- A receive poll that finds nothing leaves the rings alone. -/
theorem lane_step_receive (h : s.Keeps settings source)
    (hempty : ∀ queue ∈ settings.polled source.queues,
      s.world.pending source.interface queue = []) :
    (s.step (.poll .receive)).pipeline.lane = s.pipeline.lane := by
  obtain ⟨r, hr, hinterface, _, hpolled⟩ := h.receiver_eq
  have hnone := hempty _ (hpolled ▸ r.choice.queue_mem_polled)
  simp only [Scene.step, Pipeline.receive, hr]
  exact r.lane_poll_of_pending_eq_nil _ (hinterface ▸ hnone)

/-- The poll that takes from a ring takes one of the bursts that are left there, and no other move
touches the ring. -/
theorem burstsLeft_step (h : s.Keeps settings source)
    (hempty : ∀ queue ∈ settings.polled source.queues,
      s.world.pending source.interface queue = []) (m : Move β σ) (role : RingRole) :
    ((s.step m).pipeline.lane.ring role).burstsLeft settings.burstSize =
      (s.pipeline.lane.ring role).burstsLeft settings.burstSize -
        (m.polls role.consumer).toNat := by
  obtain ⟨t, ht, htburst⟩ := h.transmitter_eq
  obtain ⟨n, hn, hnburst⟩ := h.monitor_eq
  cases m with
  | elsewhere act => rfl
  | requestStop => rfl
  | poll poll =>
      cases poll with
      | receive =>
          rw [h.lane_step_receive hempty]
          cases role <;> rfl
      | transmit =>
          simp only [Scene.step, Pipeline.transmit, ht, t.ring_poll, htburst]
          cases role with
          | relay => exact (h.ring_sound .relay).burstsLeft_dequeueBurst h.burstSize_pos
          | stats => rfl
      | drain =>
          simp only [Scene.step, Pipeline.drain, hn, n.ring_drain, hnburst]
          cases role with
          | relay => rfl
          | stats => exact (h.ring_sound .stats).burstsLeft_dequeueBurst h.burstSize_pos
      | sample =>
          simp only [Scene.step, Pipeline.sample, hn]
          cases role <;> rfl
      | publishSample =>
          obtain ⟨_, _, hcounts, _⟩ := n.publishSample_counts s.pipeline.lane s.world
          simp only [Scene.step, Pipeline.publishSample, hn]
          cases role with
          | relay => exact congrArg (Ring.burstsLeft · _) hcounts.relayRing_eq
          | stats => exact congrArg (Ring.burstsLeft · _) hcounts.statsRing_eq

theorem burstsLeft_run (h : s.Keeps settings source)
    (hempty : ∀ queue ∈ settings.polled source.queues,
      s.world.pending source.interface queue = []) {moves : List (Move β σ)}
    (hquiet : ∀ m ∈ moves, m.Quiet source.interface) (role : RingRole) :
    ((s.run moves).pipeline.lane.ring role).burstsLeft settings.burstSize =
      (s.pipeline.lane.ring role).burstsLeft settings.burstSize -
        polls role.consumer moves := by
  induction moves generalizing s with
  | nil => rfl
  | cons m moves ih =>
      obtain ⟨hm, hmoves⟩ := List.forall_mem_cons.mp hquiet
      have hrest := ih (h.step m) (h.pending_step_eq_nil hm hempty) hmoves
      have hone : (if m.polls role.consumer then 1 else 0) = (m.polls role.consumer).toNat := by
        cases m.polls role.consumer <;> rfl
      rw [h.burstsLeft_step hempty, Nat.sub_sub] at hrest
      rw [polls, List.countP_cons, ← polls, hone, Nat.add_comm]
      exact hrest

/-- After enough polls that take from a ring it is empty. -/
theorem ring_length_run_eq_zero (h : s.Keeps settings source)
    (hempty : ∀ queue ∈ settings.polled source.queues,
      s.world.pending source.interface queue = []) {moves : List (Move β σ)}
    (hquiet : ∀ m ∈ moves, m.Quiet source.interface) {role : RingRole}
    (hpolls : (s.pipeline.lane.ring role).length ⌈/⌉ settings.burstSize + 1 ≤
      polls role.consumer moves) :
    ((s.run moves).pipeline.lane.ring role).length = 0 := by
  have hsound := (h.run moves).ring_sound role
  have hbursts := (h.ring_sound role).burstsLeft_le h.burstSize_pos
  have hleft := h.burstsLeft_run hempty hquiet role
  rw [Nat.sub_eq_zero_of_le (hbursts.trans hpolls),
    hsound.burstsLeft_eq_zero h.burstSize_pos] at hleft
  rw [hsound.length_eq, hleft, List.length_nil]

/-- Whatever holds between two moves is enough to drain the pipeline. -/
theorem drains (h : s.Keeps settings source) : s.Drains settings source := by
  have htoList : ∀ role, (s.pipeline.lane.ring role).length = 0 ↔
      (s.pipeline.lane.ring role).toList = [] := by
    intro role
    rw [(h.ring_sound role).length_eq, List.length_eq_zero_iff]
  refine
    { pending_eq_nil := fun _ hquiet hpolls _ hqueue => h.pending_run_eq_nil hquiet hpolls hqueue
      ring_length_eq_zero := fun hempty _ hquiet _ hpolls =>
        h.ring_length_run_eq_zero hempty hquiet hpolls
      rxPackets_eq := ?_
      transmit_eq_zero := ?_
      drain_eq_zero := ?_ }
  · intro hrings
    obtain ⟨_, haccounts⟩ := h.accounts
    exact haccounts.lane_accounts.rxPackets_eq_add ((htoList .relay).mp (hrings .relay))
      ((htoList .stats).mp (hrings .stats))
  · obtain ⟨t, ht, htburst⟩ := h.transmitter_eq
    simp only [Pipeline.transmit, ht, Option.some.injEq]
    rw [t.poll_eq_zero (h.ring_sound .relay) (htburst ▸ h.burstSize_pos), htoList]
    exact id
  · obtain ⟨n, hn, hnburst⟩ := h.monitor_eq
    simp only [Pipeline.drain, hn, Option.some.injEq]
    rw [n.drain_eq_zero (h.ring_sound .stats) (hnburst ▸ h.burstSize_pos), htoList]
    exact id

end Keeps

/-- Every pipeline drains from every state that it can get into. For all valid settings whose
receive policy fits the source queues there is a pipeline, and whatever moves follow in whatever
world, bounded numbers of polls empty its source queues and its rings if nothing more arrives. -/
theorem run_drains (context : UInt16) (settings : Settings) (source destination : Binding)
    (now : UInt64) (w : World β σ) (hvalid : settings.validate = .ok ())
    (hpolicy : settings.validateSourceQueues source.queues.length = .ok ()) :
    ∃ p, Pipeline.create context settings source destination settings.burstSize now = .ok p ∧
      ∀ moves : List (Move β σ), (Scene.run ⟨p, w⟩ moves).Drains settings source := by
  obtain ⟨p, hp⟩ : ∃ p : Pipeline β,
      Pipeline.create context settings source destination settings.burstSize now = .ok p :=
    Pipeline.create_eq_ok hvalid hpolicy
  exact ⟨p, hp, fun moves => ((keeps_create hvalid hp w).run moves).drains⟩

/-- The statement for a receiver that reads three queues in turn, one of them twice. -/
theorem run_drains_twoPorts :
    ∃ p, Pipeline.create 1 { rxQueuePolicy := .roundRobin }
        { interface := 0, queues := ⟨[0, 1, 0], by decide, by decide⟩ }
        { interface := 1, queues := .single 0 } 32 0 = .ok p ∧
      ∀ moves : List (Move Buffer NullSink),
        (Scene.run ⟨p, Delivery.twoPorts⟩ moves).Drains { rxQueuePolicy := .roundRobin }
          { interface := 0, queues := ⟨[0, 1, 0], by decide, by decide⟩ } :=
  run_drains 1 { rxQueuePolicy := .roundRobin }
    { interface := 0, queues := ⟨[0, 1, 0], by decide, by decide⟩ }
    { interface := 1, queues := .single 0 } 0 Delivery.twoPorts rfl rfl

end Scene

end EtherRelay
