import EtherRelay.Proofs.Counters.Writers
import EtherRelay.Proofs.Forwarding.Draining
import EtherRelay.Proofs.Forwarding.Images
import EtherRelay.Proofs.World.Traffic

/-!
# Bursts that are handed over one at a time

A handover is a run in which the transmitter is polled after each poll of the receiver, before the
next one, and the destination takes whole bursts. Then the relay ring never holds more than one
burst, which the consumer sees whole. A burst is lost only if it has more data frames than the ring
has room for altogether; every other one has been sent by the next receive poll.

What was received and what was sent is read off the interfaces, before and after each poll. Valid
settings may ask for a ring that is smaller than a burst, so the case of a lost burst does occur.
-/

namespace EtherRelay

variable {β σ : Type}

/-- The transmit queue exists and takes bursts of this size whole. -/
def World.AcceptsBursts (w : World β σ) (interface size : Nat) (queue : QueueId) : Prop :=
  ∃ i tx, w.interfaces[interface]? = some i ∧ i.txQueues[queue.toNat]? = some tx ∧
    ∀ limit, tx.limit = some limit → size ≤ limit

/-- A poll, by the worlds before and after it. -/
structure Polled (β σ : Type) where
  before : World β σ
  after : World β σ

namespace Polled

/-- The poll took this burst from the front of one of the source queues that are read, and left the
other queues of the source alone. -/
def Takes (settings : Settings) (source : Binding) (p : Polled β σ) (burst : List β) : Prop :=
  ∃ queue ∈ settings.polled source.queues, ∀ queue',
    p.before.pending source.interface queue' =
      (if queue' = queue then burst else []) ++ p.after.pending source.interface queue'

variable [FrameBuffer β]

/-- The poll put this burst whole onto one of the destination queues: the interface counts all of it
as transmitted, and has it behind the frames that it keeps for that queue, if it keeps any. Unless
the burst is empty, all interfaces are as after one call that transmits it there. -/
def Puts (destination : Binding) (p : Polled β σ) (burst : List β) : Prop :=
  ∃ queue ∈ destination.queues.queues,
    (p.before.retains destination.interface = true → ∀ queue',
      p.after.retainedOn destination.interface queue' =
        p.before.retainedOn destination.interface queue' ++
          if queue' = queue then burst else []) ∧
    p.after.txPackets destination.interface =
      p.before.txPackets destination.interface + UInt64.ofNat burst.length ∧
    p.after.interfaces =
      if burst = [] then p.before.interfaces
      else (p.before.transmit destination.interface queue burst).2.2.interfaces

end Polled

/-- A run of a pipeline, with the polls of its receiver and of its transmitter. -/
structure Handover (β σ : Type) extends Scene β σ where
  /-- Whether the receiver was polled and the transmitter was not polled since. -/
  owed : Bool := false
  receives : List (Polled β σ) := []
  transmits : List (Polled β σ) := []

namespace Handover

variable [FrameBuffer β]

/-- The data frames of the bursts that fit a ring. -/
def passed (capacity : Nat) (bursts : List (List β)) : List β :=
  ((bursts.map Lane.dataOf).filter (·.length ≤ capacity)).flatten

/-- The data frames of the bursts that do not fit. -/
def lost (capacity : Nat) (bursts : List (List β)) : List β :=
  ((bursts.map Lane.dataOf).filter (capacity < ·.length)).flatten

/-- One burst was taken from the source at each poll of the receiver, and one was put onto the
destination at each poll of the transmitter, where each frame of it counts as forwarded. -/
structure Observes (settings : Settings) (source destination : Binding) (h : Handover β σ)
    (received sent : List (List β)) : Prop where
  takes : List.Forall₂ (Polled.Takes settings source) h.receives received
  puts : List.Forall₂ (Polled.Puts destination) h.transmits sent
  forwarded_eq : h.pipeline.lane.counters.forwarded = UInt64.ofNat sent.flatten.length

/-- Nothing was lost, and all data frames were sent unless a transmit poll is owed. -/
structure DropsNothing (settings : Settings) (source destination : Binding)
    (h : Handover β σ) : Prop where
  relayOverflowDrops_eq : h.pipeline.lane.counters.relayOverflowDrops = 0
  txPartialDrops_eq : h.pipeline.lane.counters.txPartialDrops = 0
  sent_eq : ∃ received sent, h.Observes settings source destination received sent ∧
    (h.owed = false → sent.flatten = received.flatMap Lane.dataOf)

/-- Only bursts that never fit the ring were lost, and all others were sent unless a transmit poll
is owed. -/
structure HandsOver (settings : Settings) (source destination : Binding) (h : Handover β σ)
    (received sent : List (List β)) : Prop where
  observes : h.Observes settings source destination received sent
  relayOverflowDrops_eq : h.pipeline.lane.counters.relayOverflowDrops =
    UInt64.ofNat (lost settings.ringCapacity received).length
  txPartialDrops_eq : h.pipeline.lane.counters.txPartialDrops = 0
  sent_eq : h.owed = false → sent.flatten = passed settings.ringCapacity received
  /-- With room for a whole burst in the ring, nothing is lost. -/
  dropsNothing : settings.burstSize ≤ settings.ringCapacity →
    h.DropsNothing settings source destination

variable [Sink σ]

/-- Make one move, and keep the worlds before and after a poll. -/
def step (h : Handover β σ) : Scene.Move β σ → Handover β σ
  | .poll .receive =>
    let next := h.toScene.step (.poll .receive)
    { h with toScene := next, owed := true, receives := h.receives ++ [⟨h.world, next.world⟩] }
  | .poll .transmit =>
    let next := h.toScene.step (.poll .transmit)
    { h with toScene := next, owed := false, transmits := h.transmits ++ [⟨h.world, next.world⟩] }
  | m => { h with toScene := h.toScene.step m }

/-- Make moves in order. -/
def run (h : Handover β σ) (moves : List (Scene.Move β σ)) : Handover β σ := moves.foldl step h

/-- A receive poll comes when no transmit poll is owed, and a transmit poll when every destination
queue takes whole bursts. -/
def Allows (destination : Binding) (size : Nat) (h : Handover β σ) : Scene.Move β σ → Prop
  | .poll .receive => h.owed = false
  | .poll .transmit =>
    ∀ queue ∈ destination.queues.queues,
      h.world.AcceptsBursts destination.interface size queue
  | _ => True

/-- Every move is allowed when its turn comes. -/
def Uncontended (destination : Binding) (size : Nat) :
    Handover β σ → List (Scene.Move β σ) → Prop
  | _, [] => True
  | h, m :: moves => h.Allows destination size m ∧ Uncontended destination size (h.step m) moves

end Handover

/-! ## What the stages do to the relay ring -/

variable [FrameBuffer β]

/-- A queue that takes bursts of this size accepts every frame of one. -/
theorem World.AcceptsBursts.transmit_fst {w : World β σ} {interface size : Nat} {queue : QueueId}
    (h : w.AcceptsBursts interface size queue) {burst : List β} (hsize : burst.length ≤ size) :
    (w.transmit interface queue burst).1 = burst.length := by
  obtain ⟨i, tx, hi, htx, hlimit⟩ := h
  have haccepted := (i.transmit_existing w.registers queue burst w.wallNs htx).1
  have hall : min (tx.limit.getD burst.length) burst.length = burst.length := by
    cases hl : tx.limit with
    | none => exact Nat.min_self _
    | some limit => exact Nat.min_eq_right (hsize.trans (hlimit limit hl))
  rw [World.transmit, hi]
  exact haccepted.trans hall

namespace Receiver

variable (r : Receiver) (lane : Lane β) (w : World β σ)

theorem relayRing_admitProbe (probe : β) :
    (r.admitProbe lane w probe).2.1.relayRing = lane.relayRing := by
  rw [admitProbe]
  split
  · rfl
  · dsimp only
    split <;> rfl

theorem relayRing_admitProbes (probes : List β) :
    (r.admitProbes lane w probes).2.1.relayRing = lane.relayRing := by
  induction probes generalizing r lane w with
  | nil => rfl
  | cons probe probes ih => exact (ih _ _ _).trans (r.relayRing_admitProbe lane w probe)

theorem relayRing_admitData (data : List β) :
    (r.admitData lane w data).2.1.relayRing = (lane.relayRing.enqueueBulk data).2.2 := by
  rw [admitData]
  split
  · next hbulk => rw [hbulk]; rfl
  · next hbulk =>
    dsimp only
    split <;> rw [hbulk] <;> rfl

/-- A poll puts the data frames of its burst into the relay ring, or none of them. -/
theorem relayRing_poll :
    (r.poll lane w).2.2.1.relayRing = (lane.relayRing.enqueueBulk (Lane.dataOf
      (w.receive r.interface r.chooseQueue.1 r.burstSize).1)).2.2 := by
  rw [poll_eq]
  split
  · next hnil => rw [hnil]; rfl
  · refine (relayRing_admitData _ _ _ _).trans ?_
    exact congrArg (fun ring : Ring β => (ring.enqueueBulk _).2.2) (relayRing_admitProbes _ _ _ _)

/-- What the relay ring has no room for is counted. -/
theorem get_relayOverflowDrops_poll {lane : Lane β} (hrelay : lane.relayRing.Sound)
    (hstats : lane.statsRing.Sound) :
    (r.poll lane w).2.2.1.counters.get .relayOverflowDrops =
      lane.counters.get .relayOverflowDrops + UInt64.ofNat (lane.dataRefused
        (w.receive r.interface r.chooseQueue.1 r.burstSize).1).length := by
  rw [poll_eq]
  split
  · next hnil =>
    have hrefused : lane.dataRefused ([] : List β) = [] := by simp [Lane.dataRefused, Lane.dataOf]
    rw [hnil, hrefused]
    exact (UInt64.add_zero _).symm
  · refine (congrArg (Counters.get · .relayOverflowDrops)
      (distribute_distributes _ _ _ hrelay hstats).counters_eq).trans ?_
    simp [Counters.get_add]

/-- A poll takes a burst of the queue whose turn it is. -/
theorem poll_takes {lane : Lane β} (hrelay : lane.relayRing.Sound) (hstats : lane.statsRing.Sound)
    {settings : Settings} {source : Binding} (hinterface : r.interface = source.interface)
    (hpolled : r.choice.polled r.queues = settings.polled source.queues) :
    Polled.Takes settings source ⟨w, (r.poll lane w).2.2.2⟩
      (w.receive r.interface r.chooseQueue.1 r.burstSize).1 := by
  refine ⟨r.choice.queue r.queues, hpolled ▸ r.choice.queue_mem_polled, fun queue => ?_⟩
  dsimp only
  rw [← hinterface, r.pending_poll hrelay hstats, w.receive_fst, chooseQueue_eq]
  by_cases hturn : queue = r.choice.queue r.queues
  · rw [if_pos hturn, if_pos ⟨rfl, hturn⟩, hturn, List.take_append_drop]
  · rw [if_neg hturn, if_neg fun hboth => hturn hboth.2, List.nil_append]

end Receiver

namespace Transmitter

variable (t : Transmitter) (lane : Lane β) (w : World β σ)

/-- A poll counts nothing that is for another worker to count. -/
theorem get_poll {k : Counter} (h : k.writer ≠ .transmit) :
    (t.poll lane w).2.2.1.counters.get k = lane.counters.get k := by
  rw [poll_eq]
  split
  · rfl
  · exact t.get_send _ w _ h

/-- A burst that is accepted whole leaves nothing to drop. -/
theorem get_txPartialDrops_send {burst : List β}
    (h : (w.transmit t.interface (t.rotation.queue t.queues) burst).1 = burst.length) :
    (t.send lane w burst).2.1.counters.get .txPartialDrops =
      lane.counters.get .txPartialDrops := by
  have hzero : UInt64.ofNat 0 = 0 := rfl
  rw [send_eq, h, Nat.sub_self]
  refine (Counters.get_add_self _ 0 .txPartialDrops).trans ?_
  rw [hzero, UInt64.add_zero]
  exact (Lane.get_count_of_ne _ _ (by decide)).trans (Lane.get_count_of_ne _ _ (by decide))

theorem get_txPartialDrops_poll
    (h : (w.transmit t.interface (t.rotation.queue t.queues) (t.load lane).1).1 =
      (t.load lane).1.length) :
    (t.poll lane w).2.2.1.counters.get .txPartialDrops =
      lane.counters.get .txPartialDrops := by
  rw [poll_eq]
  split
  · rfl
  · exact t.get_txPartialDrops_send (t.load lane).2 w h

theorem get_forwarded_poll
    (h : (w.transmit t.interface (t.rotation.queue t.queues) (t.load lane).1).1 =
      (t.load lane).1.length) :
    (t.poll lane w).2.2.1.counters.get .forwarded =
      lane.counters.get .forwarded + UInt64.ofNat (t.load lane).1.length := by
  rw [poll_eq]
  split
  · next hnil =>
    rw [hnil]
    exact (UInt64.add_zero _).symm
  · rw [send_eq, h]
    refine (Lane.get_count_of_ne _ _ (by decide)).trans ?_
    refine (Counters.get_add_self _ _ .forwarded).trans ?_
    exact congrArg (· + _) (Lane.get_count_of_ne _ _ (by decide))

/-- A poll puts its burst onto the queue whose turn it is, if the interface accepts all of it. -/
theorem poll_puts {destination : Binding} (hinterface : t.interface = destination.interface)
    (hqueues : t.queues = destination.queues)
    (h : (w.transmit t.interface (t.rotation.queue t.queues) (t.load lane).1).1 =
      (t.load lane).1.length) :
    Polled.Puts destination ⟨w, (t.poll lane w).2.2.2⟩ (t.load lane).1 := by
  refine ⟨t.rotation.queue t.queues, hqueues ▸ List.get_mem _ _, ?_⟩
  rw [poll_eq]
  by_cases hnil : (t.load lane).1 = []
  · rw [if_pos hnil, if_pos hnil, hnil]
    refine ⟨fun _ queue => ?_, (UInt64.add_zero _).symm, rfl⟩
    rw [ite_self, List.append_nil]
  · rw [if_neg hnil, if_neg hnil, send_eq]
    refine ⟨?_, ?_, ?_⟩
    · intro hretains queue
      have hretained := w.retainedOn_transmit t.interface (t.rotation.queue t.queues)
        destination.interface queue (t.load lane).1
      refine hretained.trans ?_
      by_cases hturn : queue = t.rotation.queue t.queues
      · rw [if_pos ⟨hinterface.symm, hturn, hinterface ▸ hretains⟩, if_pos hturn, h,
          List.take_length, hinterface, hturn]
      · rw [if_neg fun hboth => hturn hboth.2.1, if_neg hturn, List.append_nil]
    · have hhauls := World.Hauls.transmit w t.interface t.interface (t.rotation.queue t.queues)
        (t.load lane).1
      have hcounted := hhauls.txPackets_eq destination.interface
      rw [if_pos hinterface.symm, h] at hcounted
      exact hcounted
    · rw [← hinterface]
      rfl

end Transmitter

omit [FrameBuffer β] in
/-- Publishing a sample counts nothing but a failure. -/
theorem Monitor.get_publishSample [Sink σ] (m : Monitor) (lane : Lane β) (w : World β σ)
    {k : Counter} (h : k.IsForwarding) :
    (m.publishSample lane w).2.2.1.counters.get k = lane.counters.get k := by
  have hfailures : k ≠ .publishFailures := fun hk => h (by simp [hk])
  exact get_publish lane (m.sample lane w).2.2 hfailures ((m.sample lane w).1.record lane.context)

omit [FrameBuffer β] in
/-- The relay ring of a new lane has all the room that the settings ask for. -/
theorem Lane.create_room {context : UInt16} {settings : Settings} {names : RingNames}
    {lane : Lane β} (h : (create context settings names).1 = .ok lane)
    (hword : settings.ringCapacity < UInt64.size) :
    lane.relayRing.room = settings.ringCapacity := by
  rw [create] at h
  simp only at h
  split at h
  · cases h
  · next relayRing hrelay =>
    split at h
    · cases h
    · cases h
      obtain ⟨_, _, hcapacity⟩ := Ring.create_sound hrelay
      rw [Ring.room_eq_capacity (hcapacity ▸ hword), hcapacity]

namespace Scene

variable [Sink σ] {s : Scene β σ}

/-- Moves that poll neither the receiver nor the transmitter leave both alone, with the relay ring
and all that they count. -/
theorem step_aside {m : Move β σ} (hreceive : m.polls .receive = false)
    (htransmit : m.polls .transmit = false) (hstats : s.pipeline.lane.statsRing.Sound) :
    (s.step m).pipeline.receiver = s.pipeline.receiver ∧
    (s.step m).pipeline.transmitter = s.pipeline.transmitter ∧
    (s.step m).pipeline.lane.relayRing = s.pipeline.lane.relayRing ∧
    (s.step m).pipeline.lane.statsRing.Sound ∧
    ∀ k : Counter, k.IsForwarding →
      (s.step m).pipeline.lane.counters.get k = s.pipeline.lane.counters.get k := by
  cases m with
  | requestStop => exact ⟨rfl, rfl, rfl, hstats, fun _ _ => rfl⟩
  | elsewhere act => exact ⟨rfl, rfl, rfl, hstats, fun _ _ => rfl⟩
  | poll poll =>
      cases hm : s.pipeline.monitor with
      | none =>
          cases poll with
          | receive => cases hreceive
          | transmit => cases htransmit
          | _ =>
              simp only [step, Pipeline.drain, Pipeline.sample, Pipeline.publishSample, hm]
              exact ⟨trivial, trivial, trivial, hstats, fun _ _ => trivial⟩
      | some n =>
          cases poll with
          | receive => cases hreceive
          | transmit => cases htransmit
          | drain =>
              obtain ⟨_, _, hcounts, _⟩ := n.drain_counts s.pipeline.lane s.world
              have hrelay : (n.drain s.pipeline.lane s.world).2.1.relayRing =
                  s.pipeline.lane.relayRing := hcounts.relayRing_eq
              have hsound : (n.drain s.pipeline.lane s.world).2.1.statsRing.Sound := by
                rw [hcounts.statsRing_eq]
                exact (n.load_takes hstats).sound
              simp only [step, Pipeline.drain, hm]
              exact ⟨trivial, trivial, hrelay, hsound,
                fun k hk => n.get_drain s.pipeline.lane s.world hk⟩
          | sample =>
              simp only [step, Pipeline.sample, hm]
              exact ⟨trivial, trivial, trivial, hstats, fun _ _ => trivial⟩
          | publishSample =>
              obtain ⟨_, _, hcounts, _⟩ := n.publishSample_counts s.pipeline.lane s.world
              simp only [step, Pipeline.publishSample, hm]
              exact ⟨trivial, trivial, hcounts.relayRing_eq, hcounts.statsRing_eq ▸ hstats,
                fun k hk => n.get_publishSample s.pipeline.lane s.world hk⟩

end Scene

/-! ## The invariant -/

namespace Handover

variable {settings : Settings} {source destination : Binding} {h : Handover β σ}
variable {received sent : List (List β)}

/-- The relay ring holds one burst at most, and the consumer sees all of it. -/
structure Kept (settings : Settings) (source destination : Binding) (h : Handover β σ)
    (received sent : List (List β)) : Prop where
  receiver_eq : ∃ r, h.pipeline.receiver = some r ∧ r.interface = source.interface ∧
    r.burstSize = settings.burstSize ∧ r.choice.polled r.queues = settings.polled source.queues
  transmitter_eq : ∃ t, h.pipeline.transmitter = some t ∧ t.interface = destination.interface ∧
    t.queues = destination.queues ∧ t.burstSize = settings.burstSize
  relay_sound : h.pipeline.lane.relayRing.Sound
  stats_sound : h.pipeline.lane.statsRing.Sound
  room_eq : h.pipeline.lane.relayRing.room = settings.ringCapacity
  visible_eq : h.pipeline.lane.relayRing.visible = h.pipeline.lane.relayRing.toList.length
  length_le : h.pipeline.lane.relayRing.toList.length ≤ settings.burstSize
  toList_eq_nil : h.owed = false → h.pipeline.lane.relayRing.toList = []
  observes : h.Observes settings source destination received sent
  sent_append : sent.flatten ++ h.pipeline.lane.relayRing.toList =
    passed settings.ringCapacity received
  received_le : ∀ burst ∈ received, burst.length ≤ settings.burstSize
  relayOverflowDrops_eq : h.pipeline.lane.counters.get .relayOverflowDrops =
    UInt64.ofNat (lost settings.ringCapacity received).length
  txPartialDrops_eq : h.pipeline.lane.counters.get .txPartialDrops = 0

/-- A pipeline before any move. -/
def start (p : Pipeline β) (w : World β σ) : Handover β σ where
  pipeline := p
  world := w

theorem kept_start {context : UInt16} {drainBurst : Nat} {now : UInt64} {p : Pipeline β}
    (hp : Pipeline.create context settings source destination drainBurst now = .ok p)
    (hword : settings.ringCapacity < UInt64.size) (w : World β σ) :
    (start p w).Kept settings source destination [] [] := by
  have hfresh := (Pipeline.create_fresh hp).lane_fresh
  obtain ⟨lane, r, hlane, hr, rfl⟩ := Pipeline.create_eq hp
  obtain ⟨hinterface, _, hburst⟩ := Receiver.create_reads hr
  have hsound := hfresh.sound .relay
  have hempty : lane.relayRing.toList = [] := hfresh.toList_eq .relay
  have hcounters : lane.counters = {} := hfresh.counters_eq
  refine
    { receiver_eq := ⟨r, rfl, hinterface, hburst, Receiver.create_polled hr⟩
      transmitter_eq := ⟨_, rfl, rfl, rfl, rfl⟩
      relay_sound := hsound
      stats_sound := hfresh.sound .stats
      room_eq := Lane.create_room hlane hword
      visible_eq := ?_
      length_le := ?_
      toList_eq_nil := fun _ => hempty
      observes := ⟨.nil, .nil, congrArg Counters.forwarded hcounters⟩
      sent_append := hempty
      received_le := fun _ hburst => nomatch hburst
      relayOverflowDrops_eq := ?_
      txPartialDrops_eq := ?_ }
  · exact (hsound.visible_eq_zero.mpr hempty).trans (congrArg List.length hempty).symm
  · exact (congrArg List.length hempty).trans_le (Nat.zero_le _)
  · exact congrArg (Counters.get · .relayOverflowDrops) hcounters
  · exact congrArg (Counters.get · .txPartialDrops) hcounters

theorem passed_append (capacity : Nat) (bursts : List (List β)) (burst : List β) :
    passed capacity (bursts ++ [burst]) =
      passed capacity bursts ++
        if (Lane.dataOf burst).length ≤ capacity then Lane.dataOf burst else [] := by
  rw [passed, List.map_append, List.filter_append, List.flatten_append, passed]
  split <;> simp [*]

theorem lost_append (capacity : Nat) (bursts : List (List β)) (burst : List β) :
    lost capacity (bursts ++ [burst]) =
      lost capacity bursts ++
        if (Lane.dataOf burst).length ≤ capacity then [] else Lane.dataOf burst := by
  rw [lost, List.map_append, List.filter_append, List.flatten_append, lost]
  split
  · next hfits => simp [hfits]
  · next hfits => simp [Nat.lt_of_not_le hfits]

/-- A ring with room for a whole burst has room for each. -/
theorem Kept.fits (hk : h.Kept settings source destination received sent)
    (hroom : settings.burstSize ≤ settings.ringCapacity) :
    lost settings.ringCapacity received = [] ∧
      passed settings.ringCapacity received = received.flatMap Lane.dataOf := by
  have hdata : ∀ data ∈ received.map Lane.dataOf, data.length ≤ settings.ringCapacity := by
    intro data hdata
    obtain ⟨burst, hburst, rfl⟩ := List.mem_map.mp hdata
    have hle : (Lane.dataOf burst).length ≤ burst.length := List.length_filter_le _ _
    exact hle.trans ((hk.received_le burst hburst).trans hroom)
  constructor
  · rw [lost, List.filter_eq_nil_iff.mpr (by simpa using hdata), List.flatten_nil]
  · rw [passed, List.filter_eq_self.mpr (by simpa using hdata), List.flatMap_def]

theorem Kept.handsOver (hk : h.Kept settings source destination received sent) :
    h.HandsOver settings source destination received sent := by
  have hsent : h.owed = false → sent.flatten = passed settings.ringCapacity received := by
    intro howed
    rw [← hk.sent_append, hk.toList_eq_nil howed, List.append_nil]
  refine ⟨hk.observes, hk.relayOverflowDrops_eq, hk.txPartialDrops_eq, hsent, ?_⟩
  intro hroom
  obtain ⟨hlost, hpassed⟩ := hk.fits hroom
  have hdrops := hk.relayOverflowDrops_eq
  rw [hlost] at hdrops
  exact ⟨hdrops, hk.txPartialDrops_eq, received, sent, hk.observes,
    fun howed => (hsent howed).trans hpassed⟩

variable [Sink σ]

theorem step_receive {r : Receiver} (hr : h.pipeline.receiver = some r) :
    h.step (.poll .receive) =
      { h with
        pipeline := { h.pipeline with
          receiver := some (r.poll h.pipeline.lane h.world).2.1
          lane := (r.poll h.pipeline.lane h.world).2.2.1 }
        world := (r.poll h.pipeline.lane h.world).2.2.2
        owed := true
        receives := h.receives ++ [⟨h.world, (r.poll h.pipeline.lane h.world).2.2.2⟩] } := by
  simp only [step, Scene.step, Pipeline.receive, hr]

theorem step_transmit {t : Transmitter} (ht : h.pipeline.transmitter = some t) :
    h.step (.poll .transmit) =
      { h with
        pipeline := { h.pipeline with
          transmitter := some (t.poll h.pipeline.lane h.world).2.1
          lane := (t.poll h.pipeline.lane h.world).2.2.1 }
        world := (t.poll h.pipeline.lane h.world).2.2.2
        owed := false
        transmits := h.transmits ++ [⟨h.world, (t.poll h.pipeline.lane h.world).2.2.2⟩] } := by
  simp only [step, Scene.step, Pipeline.transmit, ht]

theorem step_of_polls_eq_false {m : Scene.Move β σ} (hreceive : m.polls .receive = false)
    (htransmit : m.polls .transmit = false) :
    h.step m = { h with toScene := h.toScene.step m } := by
  cases m with
  | poll poll =>
      cases poll with
      | receive => cases hreceive
      | transmit => cases htransmit
      | _ => rfl
  | requestStop => rfl
  | elsewhere act => rfl

namespace Kept

/-- A received burst is put into an empty ring, or it has more data frames than fit there. -/
theorem receive (hk : h.Kept settings source destination received sent) (howed : h.owed = false) :
    ∃ burst, (h.step (.poll .receive)).Kept settings source destination (received ++ [burst])
      sent := by
  obtain ⟨r, hr, hinterface, hburst, hpolled⟩ := hk.receiver_eq
  have hempty := hk.toList_eq_nil howed
  have hpoll := r.poll_passes h.world hk.relay_sound hk.stats_sound
  have halike := r.poll_alike h.world h.pipeline.lane
  have hchoice := r.choice_poll h.pipeline.lane h.world
  have htakes := r.poll_takes h.world hk.relay_sound hk.stats_sound hinterface hpolled
  have hring := r.relayRing_poll h.pipeline.lane h.world
  have hdrops := r.get_relayOverflowDrops_poll h.world hk.relay_sound hk.stats_sound
  have htx := r.get_poll h.pipeline.lane h.world (k := .txPartialDrops) (by decide)
  have hforwarded := r.get_poll h.pipeline.lane h.world (k := .forwarded) (by decide)
  have hsize : (h.world.receive r.interface r.chooseQueue.1 r.burstSize).1.length ≤
      settings.burstSize := hburst ▸ h.world.length_receive_le _ _ _
  refine ⟨(h.world.receive r.interface r.chooseQueue.1 r.burstSize).1, ?_⟩
  rw [step_receive hr]
  generalize (h.world.receive r.interface r.chooseQueue.1 r.burstSize).1 = burst at *
  have hfree : h.pipeline.lane.relayRing.freeSlots = settings.ringCapacity := by
    rw [Ring.freeSlots, hempty, hk.room_eq, List.length_nil, Nat.sub_zero]
  have hlist := hpoll.relay_toList
  rw [hempty, List.nil_append, Lane.dataAdmitted, hfree] at hlist
  rw [Lane.dataRefused, hfree, hk.relayOverflowDrops_eq] at hdrops
  have hvisible := hk.relay_sound.visible_enqueueBulk hempty (hring ▸ hpoll.relay_sound)
  have hsent := hk.sent_append
  rw [hempty, List.append_nil] at hsent
  refine
    { receiver_eq := ⟨_, rfl, halike.interface_eq.trans hinterface,
        halike.burstSize_eq.trans hburst, ?_⟩
      transmitter_eq := hk.transmitter_eq
      relay_sound := hpoll.relay_sound
      stats_sound := hpoll.stats_sound
      room_eq := hpoll.relay_alike.room_eq.trans hk.room_eq
      visible_eq := ?_
      length_le := ?_
      toList_eq_nil := ?_
      observes := ⟨List.rel_append hk.observes.takes (.cons htakes .nil), hk.observes.puts,
        hforwarded.trans hk.observes.forwarded_eq⟩
      sent_append := ?_
      received_le := ?_
      relayOverflowDrops_eq := ?_
      txPartialDrops_eq := htx.trans hk.txPartialDrops_eq }
  · rw [hchoice, halike.queues_eq, QueueChoice.polled_next, hpolled]
  · rw [hring]
    exact hvisible
  · rw [hlist]
    have hdata : (Lane.dataOf burst).length ≤ burst.length := List.length_filter_le _ _
    split
    · exact hdata.trans hsize
    · exact Nat.zero_le _
  · intro hnot
    cases hnot
  · rw [hlist, hsent, passed_append]
  · intro b hb
    rcases List.mem_append.mp hb with hb | hb
    · exact hk.received_le b hb
    · rw [List.mem_singleton.mp hb]
      exact hsize
  · rw [hdrops, lost_append, List.length_append, UInt64.ofNat_add]

/-- All that is queued is sent. -/
theorem transmit (hk : h.Kept settings source destination received sent)
    (haccepts : ∀ queue ∈ destination.queues.queues,
      h.world.AcceptsBursts destination.interface settings.burstSize queue) :
    ∃ burst, (h.step (.poll .transmit)).Kept settings source destination received
      (sent ++ [burst]) := by
  obtain ⟨t, ht, hinterface, hqueues, hburst⟩ := hk.transmitter_eq
  obtain ⟨hitems, hsound, hrest⟩ := hk.relay_sound.dequeueBurst t.burstSize
  have hall : min h.pipeline.lane.relayRing.visible t.burstSize =
      h.pipeline.lane.relayRing.toList.length := by
    rw [hk.visible_eq, hburst, Nat.min_eq_left hk.length_le]
  have hload : (t.load h.pipeline.lane).1 = h.pipeline.lane.relayRing.toList := by
    rw [hall, List.take_length] at hitems
    exact hitems
  have hqueue : t.rotation.queue t.queues ∈ destination.queues.queues :=
    hqueues ▸ List.get_mem _ _
  have haccepted : (h.world.transmit t.interface (t.rotation.queue t.queues)
      (t.load h.pipeline.lane).1).1 = (t.load h.pipeline.lane).1.length := by
    rw [hinterface, hload]
    exact (haccepts _ hqueue).transmit_fst hk.length_le
  have hputs := t.poll_puts h.pipeline.lane h.world hinterface hqueues haccepted
  have hrelay : (t.poll h.pipeline.lane h.world).2.2.1.relayRing =
      (h.pipeline.lane.relayRing.dequeueBurst t.burstSize).2 := t.ring_poll _ _ .relay
  have hstats : (t.poll h.pipeline.lane h.world).2.2.1.statsRing =
      h.pipeline.lane.statsRing := t.ring_poll _ _ .stats
  have hdrops := t.get_poll h.pipeline.lane h.world (k := .relayOverflowDrops) (by decide)
  have htx := t.get_txPartialDrops_poll h.pipeline.lane h.world haccepted
  have hforwarded := t.get_forwarded_poll h.pipeline.lane h.world haccepted
  obtain ⟨hinterface', hqueues', hburst'⟩ := t.poll_reads h.pipeline.lane h.world
  refine ⟨h.pipeline.lane.relayRing.toList, ?_⟩
  rw [hload] at hputs hforwarded
  rw [step_transmit ht]
  generalize t.poll h.pipeline.lane h.world = polled at *
  have hnil : polled.2.2.1.relayRing.toList = [] := by
    rw [hrelay, hrest, hall, List.drop_length]
  have hnext : polled.2.2.1.relayRing.Sound := hrelay ▸ hsound
  have hflatten : (sent ++ [h.pipeline.lane.relayRing.toList]).flatten =
      sent.flatten ++ h.pipeline.lane.relayRing.toList := by
    rw [List.flatten_append, List.flatten_singleton]
  refine
    { receiver_eq := hk.receiver_eq
      transmitter_eq := ⟨_, rfl, hinterface'.trans hinterface, hqueues'.trans hqueues,
        hburst'.trans hburst⟩
      relay_sound := hnext
      stats_sound := hstats ▸ hk.stats_sound
      room_eq := ?_
      visible_eq := ?_
      length_le := ?_
      toList_eq_nil := fun _ => hnil
      observes := ⟨hk.observes.takes, List.rel_append hk.observes.puts (.cons hputs .nil), ?_⟩
      sent_append := ?_
      received_le := hk.received_le
      relayOverflowDrops_eq := hdrops.trans hk.relayOverflowDrops_eq
      txPartialDrops_eq := htx.trans hk.txPartialDrops_eq }
  · rw [← hk.room_eq, hrelay]
    exact (Ring.Alike.dequeueBurst _ _).room_eq
  · exact (hnext.visible_eq_zero.mpr hnil).trans (congrArg List.length hnil).symm
  · exact (congrArg List.length hnil).trans_le (Nat.zero_le _)
  · rw [hflatten, List.length_append, UInt64.ofNat_add, ← hk.observes.forwarded_eq]
    exact hforwarded
  · rw [hnil, List.append_nil, hflatten, hk.sent_append]

/-- Other moves leave the relay ring alone. -/
theorem aside (hk : h.Kept settings source destination received sent) {m : Scene.Move β σ}
    (hreceive : m.polls .receive = false) (htransmit : m.polls .transmit = false) :
    (h.step m).Kept settings source destination received sent := by
  obtain ⟨hr, ht, hring, hsound, hget⟩ := h.step_aside hreceive htransmit hk.stats_sound
  rw [step_of_polls_eq_false hreceive htransmit]
  exact
    { receiver_eq := hr ▸ hk.receiver_eq
      transmitter_eq := ht ▸ hk.transmitter_eq
      relay_sound := hring ▸ hk.relay_sound
      stats_sound := hsound
      room_eq := hring ▸ hk.room_eq
      visible_eq := hring ▸ hk.visible_eq
      length_le := hring ▸ hk.length_le
      toList_eq_nil := hring ▸ hk.toList_eq_nil
      observes := ⟨hk.observes.takes, hk.observes.puts,
        (hget .forwarded (by simp [Counter.IsForwarding])).trans hk.observes.forwarded_eq⟩
      sent_append := hring ▸ hk.sent_append
      received_le := hk.received_le
      relayOverflowDrops_eq :=
        (hget _ (by simp [Counter.IsForwarding])).trans hk.relayOverflowDrops_eq
      txPartialDrops_eq := (hget _ (by simp [Counter.IsForwarding])).trans hk.txPartialDrops_eq }

/-- Every allowed move keeps the relay ring to one burst. -/
theorem step (hk : h.Kept settings source destination received sent) {m : Scene.Move β σ}
    (hallows : h.Allows destination settings.burstSize m) :
    ∃ received' sent', (h.step m).Kept settings source destination received' sent' := by
  cases m with
  | requestStop => exact ⟨received, sent, hk.aside rfl rfl⟩
  | elsewhere act => exact ⟨received, sent, hk.aside rfl rfl⟩
  | poll poll =>
      cases poll with
      | receive =>
          obtain ⟨burst, hnext⟩ := hk.receive hallows
          exact ⟨_, sent, hnext⟩
      | transmit =>
          obtain ⟨burst, hnext⟩ := hk.transmit hallows
          exact ⟨received, _, hnext⟩
      | drain => exact ⟨received, sent, hk.aside rfl rfl⟩
      | sample => exact ⟨received, sent, hk.aside rfl rfl⟩
      | publishSample => exact ⟨received, sent, hk.aside rfl rfl⟩

theorem run (hk : h.Kept settings source destination received sent)
    {moves : List (Scene.Move β σ)}
    (huncontended : h.Uncontended destination settings.burstSize moves) :
    ∃ received' sent', (h.run moves).Kept settings source destination received' sent' := by
  induction moves generalizing h received sent with
  | nil => exact ⟨received, sent, hk⟩
  | cons m moves ih =>
      obtain ⟨_, _, hnext⟩ := hk.step huncontended.1
      exact ih hnext huncontended.2

end Kept

/-- Every uncontended run hands over all bursts that fit the relay ring. For all valid settings
whose receive policy fits the source queues there is a pipeline, and as long as the transmitter is
polled after each poll of the receiver and the destination takes whole bursts, nothing is lost but
bursts with more data frames than the ring has room for. All others are put onto the destination
queues, in order. -/
theorem run_handsOver (context : UInt16) (settings : Settings) (source destination : Binding)
    (drainBurst : Nat) (now : UInt64) (w : World β σ) (hvalid : settings.validate = .ok ())
    (hpolicy : settings.validateSourceQueues source.queues.length = .ok ())
    (hword : settings.ringCapacity < UInt64.size) :
    ∃ p, Pipeline.create context settings source destination drainBurst now = .ok p ∧
      ∀ moves : List (Scene.Move β σ),
        (start p w).Uncontended destination settings.burstSize moves →
        ∃ received sent,
          ((start p w).run moves).HandsOver settings source destination received sent := by
  obtain ⟨p, hp⟩ : ∃ p : Pipeline β,
      Pipeline.create context settings source destination drainBurst now = .ok p :=
    Pipeline.create_eq_ok hvalid hpolicy
  refine ⟨p, hp, ?_⟩
  intro moves huncontended
  obtain ⟨received, sent, hkept⟩ := (kept_start hp hword w).run huncontended
  exact ⟨received, sent, hkept.handsOver⟩

/-- The source end of the examples. -/
def left : Binding := { interface := 0, queues := .single 0 }

/-- The destination end of the examples. -/
def right : Binding := { interface := 1, queues := .single 0 }

/-- Valid settings with a ring that is smaller than a burst. -/
def tightRing : Settings := { burstSize := 2, ringCapacity := 1 }

/-- A burst of two frames arrives at the source and is received, and then a burst of one. -/
def pairAndOne : List (Scene.Move Buffer NullSink) :=
  [.elsewhere fun w => (w.inject 0 0 [.ofFrame [1], .ofFrame [2]]).2,
    .poll .receive, .poll .transmit,
    .elsewhere fun w => (w.inject 0 0 [.ofFrame [3]]).2,
    .poll .receive, .poll .transmit]

theorem uncontended_pairAndOne {p : Pipeline Buffer}
    (hp : Pipeline.create 1 tightRing left right 2 0 = .ok p) :
    (start p Delivery.twoPorts).Uncontended right 2 pairAndOne := by
  cases show Except.ok _ = Except.ok p from hp
  refine ⟨trivial, rfl, ?_, trivial, rfl, ?_, trivial⟩
  all_goals
    intro queue hqueue
    rw [List.mem_singleton.mp hqueue]
    exact ⟨_, _, rfl, rfl, fun _ hlimit => nomatch hlimit⟩

/-- The statement for a ring that has room for one frame: the destination gets the second burst. -/
theorem run_handsOver_tightRing :
    ∃ p, Pipeline.create 1 tightRing left right 2 0 = .ok p ∧
      (start p Delivery.twoPorts).Uncontended right 2 pairAndOne ∧
      (∃ received sent, ((start p Delivery.twoPorts).run pairAndOne).HandsOver tightRing left right
        received sent) ∧
      ((start p Delivery.twoPorts).run pairAndOne).world.retainedOn 1 0 = [.ofFrame [3]] := by
  obtain ⟨p, hp, hrun⟩ := run_handsOver 1 tightRing left right 2 0 Delivery.twoPorts rfl rfl
    (by decide)
  have huncontended := uncontended_pairAndOne hp
  refine ⟨p, hp, huncontended, hrun pairAndOne huncontended, ?_⟩
  cases show Except.ok _ = Except.ok p from hp
  rfl

/-- The first burst is lost there, although the settings are valid and nothing contends. -/
theorem not_dropsNothing_tightRing :
    tightRing.validate = .ok () ∧ tightRing.validateSourceQueues left.queues.length = .ok () ∧
    ∃ p, Pipeline.create 1 tightRing left right 2 0 = .ok p ∧
      (start p Delivery.twoPorts).Uncontended right 2 pairAndOne ∧
      ¬ ((start p Delivery.twoPorts).run pairAndOne).DropsNothing tightRing left right := by
  refine ⟨rfl, rfl, _, rfl, uncontended_pairAndOne rfl, ?_⟩
  intro hdrops
  exact absurd hdrops.relayOverflowDrops_eq (by decide)

end Handover

end EtherRelay
