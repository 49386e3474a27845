import EtherRelay.Proofs.Forwarding.Polling
import EtherRelay.Proofs.Ring.Lifetime

/-!
# Receivers and what they have in hand

A receiver works with two lists that it keeps from one poll to the next, and either of them would
be passed on twice if a poll left something in it. `Intake` follows a receiver with both lists
through any run of polls, each of which may meet the world in any state, while the consumers of its
two rings take what they like and leave when they like. The main statement says that in every such
state the next poll does what `Intake.Polls` lists: it takes one burst, admits its probes one by one
and its data whole or not at all, counts each frame once, and leaves both lists empty.
-/

namespace EtherRelay

/-- The capacity that the settings ask for. -/
def Settings.capacityOf (settings : Settings) : RingRole → Nat
  | .relay => settings.ringCapacity
  | .stats => settings.statsRingCapacity

variable {β σ : Type}

/-- The lane after something was done to one of its rings. -/
def Lane.modifyRing (lane : Lane β) (act : Ring β → Ring β) : RingRole → Lane β
  | .relay => { lane with relayRing := act lane.relayRing }
  | .stats => { lane with statsRing := act lane.statsRing }

/-- A receiver with what it has in hand, and its lane. -/
structure Intake (β : Type) where
  receiver : Receiver
  hands : Receiver.Hands β := {}
  lane : Lane β

namespace Intake

/-- What can happen next: the receiver is polled in a world of any kind, the consumer of a ring
takes a burst or gives up its half, or another stage counts. -/
inductive Move (β σ : Type) where
  | poll (w : World β σ)
  | take (role : RingRole) (max : Nat)
  | leave (role : RingRole)
  | count (n : Nat) (k : Counter)

/-- How many of the moves are polls. -/
def polls (moves : List (Move β σ)) : Nat :=
  moves.countP fun
    | .poll _ => true
    | _ => false

variable [FrameBuffer β]

/-- Poll the receiver. -/
def poll (s : Intake β) (w : World β σ) : Nat × Intake β × World β σ :=
  let (n, receiver, hands, lane, w) := s.receiver.pollInto s.hands s.lane w
  (n, { receiver, hands, lane }, w)

/-- Make one move. -/
def step (s : Intake β) : Move β σ → Intake β
  | .poll w => (s.poll w).2.1
  | .take role max =>
    { s with lane := s.lane.modifyRing (fun ring => (ring.dequeueBurst max).2) role }
  | .leave role => { s with lane := s.lane.modifyRing (fun ring => (ring.close .consumer).2) role }
  | .count n k => { s with lane := s.lane.count n k }

/-- Make moves in order. -/
def run (s : Intake β) (moves : List (Move β σ)) : Intake β := moves.foldl step s

section

variable (settings : Settings) (source : Binding) (s : Intake β) (w : World β σ)

/-- The queue that the next poll reads. -/
def queue : QueueId := s.receiver.choice.queue source.queues

/-- The frames that the next poll receives: the first ones of its queue, a burst at most. -/
def burst : List β := (w.pending source.interface (s.queue source)).take settings.burstSize

/-- The free slots of a ring. -/
def free (role : RingRole) : Nat := settings.capacityOf role - (s.lane.ring role).toList.length

/-- Those of the probes for which the stats ring has room. -/
def probesAdmitted : List β :=
  ((s.burst settings source w).filter Receiver.isProbe).take (s.free settings .stats)

def probesFreed : List β :=
  ((s.burst settings source w).filter Receiver.isProbe).drop (s.free settings .stats)

/-- All of the other frames, or none if the relay ring has no room for all of them. -/
def dataAdmitted : List β :=
  if (Lane.dataOf (s.burst settings source w)).length ≤ s.free settings .relay then
    Lane.dataOf (s.burst settings source w)
  else []

def dataFreed : List β :=
  if (Lane.dataOf (s.burst settings source w)).length ≤ s.free settings .relay then []
  else Lane.dataOf (s.burst settings source w)

/-- What the next poll does. -/
structure Polls : Prop where
  answer_eq : (s.poll w).1 = (s.burst settings source w).length
  stats_toList : (s.poll w).2.1.lane.statsRing.toList =
    s.lane.statsRing.toList ++ s.probesAdmitted settings source w
  relay_toList : (s.poll w).2.1.lane.relayRing.toList =
    s.lane.relayRing.toList ++ s.dataAdmitted settings source w
  /-- The frames are taken out of the queue, and those that no ring admits are freed. -/
  frees : (w.receive source.interface (s.queue source) settings.burstSize).2.Frees (s.poll w).2.2
    (s.probesFreed settings source w ++ s.dataFreed settings source w)
  counters_eq : (s.poll w).2.1.lane.counters =
    (((((s.lane.counters.add (if s.burst settings source w = [] then 0 else 1) .rxBursts).add
      (s.burst settings source w).length .rxPackets).add
      (s.probesAdmitted settings source w).length .probesEnqueued).add
      (s.probesFreed settings source w).length .probeOverflowDrops).add
      (s.dataAdmitted settings source w).length .relayed).add
      (s.dataFreed settings source w).length .relayOverflowDrops
  hands_eq : (s.poll w).2.1.hands = {}
  /-- A poll that receives nothing changes only whose turn it is. -/
  idle : s.burst settings source w = [] →
    s.poll w = (0,
      { s with
        receiver := { s.receiver with choice := s.receiver.choice.next source.queues } }, w)
  /-- It is the poll that knows of no lists. -/
  poll_eq : ((s.poll w).1, (s.poll w).2.1.receiver, (s.poll w).2.1.lane, (s.poll w).2.2) =
    s.receiver.poll s.lane w

end

end Intake

/-! ## Taking nothing -/

/-- An interface of which no frame is taken stays as it is. -/
theorem Interface.receive_of_nil {i : Interface β} {queue : QueueId} {max : Nat}
    (h : (i.receive queue max).1 = []) : (i.receive queue max).2 = i := by
  have hrest : (i.pending queue).drop max = i.pending queue := by
    rcases List.take_eq_nil_iff.mp h with hmax | hnone
    · rw [hmax, List.drop_zero]
    · rw [hnone, List.drop_nil]
  have hset : i.rxQueues.set queue.toNat (i.pending queue) = i.rxQueues := by
    cases hw : i.rxQueues[queue.toNat]? with
    | none => exact List.set_eq_of_length_le (List.getElem?_eq_none_iff.mp hw)
    | some waiting =>
      rw [i.pending_eq hw]
      obtain ⟨hlt, rfl⟩ := List.getElem?_eq_some_iff.mp hw
      exact List.set_getElem_self hlt
  rw [receive]
  simp only [hrest, hset]

theorem World.receive_of_nil {w : World β σ} {index : Nat} {queue : QueueId} {max : Nat}
    (h : (w.receive index queue max).1 = []) : (w.receive index queue max).2 = w := by
  rw [receive] at h ⊢
  split at h
  · rfl
  · next i hi =>
    obtain ⟨hlt, rfl⟩ := List.getElem?_eq_some_iff.mp hi
    simp only [Interface.receive_of_nil h, List.set_getElem_self]

variable [FrameBuffer β]

namespace Receiver

variable (r : Receiver) (lane : Lane β) (w : World β σ)

/-! ## A poll with nothing in hand -/

/-- Frame by frame, the probes of a burst are admitted in order and its data is gathered. -/
theorem sortBurst_eq (data burst : List β) :
    r.sortBurst data lane w burst =
      ((r.admitProbes lane w (burst.filter isProbe)).1, data ++ Lane.dataOf burst,
        (r.admitProbes lane w (burst.filter isProbe)).2) := by
  induction burst generalizing r lane w data with
  | nil => simp [sortBurst, admitProbes, Lane.dataOf]
  | cons frame burst ih =>
    have hstep : r.sortBurst data lane w (frame :: burst) =
        (r.sortFrame data lane w frame).1.sortBurst (r.sortFrame data lane w frame).2.1
          (r.sortFrame data lane w frame).2.2.1 (r.sortFrame data lane w frame).2.2.2 burst := rfl
    rw [hstep, ih]
    by_cases hprobe : isProbe frame
    · have hdata : Lane.dataOf (frame :: burst) = Lane.dataOf burst := by
        simp [Lane.dataOf, hprobe]
      rw [List.filter_cons_of_pos hprobe, hdata, sortFrame, if_pos hprobe]
      rfl
    · have hdata : Lane.dataOf (frame :: burst) = frame :: Lane.dataOf burst := by
        simp [Lane.dataOf, hprobe]
      rw [List.filter_cons_of_neg hprobe, hdata, sortFrame, if_neg hprobe, List.append_assoc]
      rfl

/-- Whether the ring takes the data or not, none of it stays in hand. -/
theorem handOver_eq (data : List β) :
    r.handOver data lane w =
      ((r.admitData lane w data).1, [], (r.admitData lane w data).2) := by
  cases data with
  | nil =>
    have hnone : (r.admitData lane w []).2 = (lane, w) := by
      simp [admitData, Ring.enqueueBulk, Lane.count]
    rw [hnone, handOver]
    rfl
  | cons frame data =>
    rw [handOver, if_neg (by simp), admitData]
    by_cases hover : (lane.relayRing.refreshTail (frame :: data).length).cachedFree <
        (frame :: data).length
    · simp only [Ring.enqueueBulk, if_pos hover]
      split <;> rfl
    · simp only [Ring.enqueueBulk, if_neg hover]

/-- A poll with nothing in hand is the poll that knows no lists, and leaves nothing in hand. -/
theorem pollInto_eq :
    r.pollInto {} lane w =
      ((r.poll lane w).1, (r.poll lane w).2.1, {}, (r.poll lane w).2.2) := by
  have halike := r.chooseQueue_alike
  rw [poll_eq, pollInto]
  simp only [halike.interface_eq, halike.burstSize_eq, List.nil_append, List.length_eq_zero_iff,
    sortBurst_eq, handOver_eq]
  split
  · next hnone =>
    simp only [hnone]
  · rfl

/-- The answer of a poll, and what it counts. -/
theorem poll_counts {lane : Lane β} (hrelay : lane.relayRing.Sound)
    (hstats : lane.statsRing.Sound) {burst : List β}
    (hburst : (w.receive r.interface r.chooseQueue.1 r.burstSize).1 = burst) :
    (r.poll lane w).1 = burst.length ∧
      (r.poll lane w).2.2.1.counters =
        (((((lane.counters.add (if burst = [] then 0 else 1) .rxBursts).add burst.length
          .rxPackets).add (lane.probesAdmitted burst).length .probesEnqueued).add
          (lane.probesRefused burst).length .probeOverflowDrops).add
          (lane.dataAdmitted burst).length .relayed).add
          (lane.dataRefused burst).length .relayOverflowDrops := by
  rw [poll_eq, hburst]
  split
  · next hnone =>
    subst hnone
    simp [Lane.probesAdmitted, Lane.probesRefused, Lane.dataAdmitted, Lane.dataRefused,
      Lane.dataOf]
  · exact ⟨rfl, (r.chooseQueue.2.distribute_distributes _ burst hrelay hstats).counters_eq⟩

end Receiver

/-- A ring with its other half left outlasts the loss of one, with all that is queued. -/
theorem Ring.Sound.close {α : Type} {ring : Ring α} (h : ring.Sound) (half : Ring.Half)
    (hother : ring.has half.other = true) :
    (ring.close half).2.Sound ∧ (ring.close half).2.capacity = ring.capacity ∧
      (ring.close half).2.has half.other = true ∧ (ring.close half).2.toList = ring.toList := by
  by_cases hhalf : ring.has half = true
  · rw [(Ring.close_of_has_other hhalf hother).1]
    exact ⟨h.without half, Ring.capacity_without, Ring.has_other_without.trans hother,
      Ring.toList_without⟩
  · have hgone : ring.close half = ([], ring) := by
      cases half with
      | producer => exact if_neg hhalf
      | consumer => exact if_neg hhalf
    rw [hgone]
    exact ⟨h, rfl, hother, rfl⟩

namespace Lane

variable (lane : Lane β) (act : Ring β → Ring β)

omit [FrameBuffer β]

theorem ring_modifyRing (role other : RingRole) :
    (lane.modifyRing act role).ring other =
      if other = role then act (lane.ring other) else lane.ring other := by
  cases role <;> cases other <;> rfl

theorem ring_count (n : Nat) (k : Counter) (role : RingRole) :
    (lane.count n k).ring role = lane.ring role := by
  cases role <;> rfl

end Lane

namespace Intake

variable {settings : Settings} {source : Binding} {choice : QueueChoice} {s : Intake β}

/-! ## What moves keep -/

/-- What is true of a receiver and its lane at all times. -/
structure Kept (settings : Settings) (source : Binding) (choice : QueueChoice) (s : Intake β) :
    Prop where
  interface_eq : s.receiver.interface = source.interface
  queues_eq : s.receiver.queues = source.queues
  burstSize_eq : s.receiver.burstSize = settings.burstSize
  choice_eq : s.receiver.choice = choice
  hands_eq : s.hands = {}
  sound : ∀ role, (s.lane.ring role).Sound
  room_eq : ∀ role, (s.lane.ring role).room = settings.capacityOf role
  isOpen : ∀ role, (s.lane.ring role).has .producer = true

/-- With nothing in hand a poll is the poll that knows of no lists. -/
theorem Kept.poll_eq (h : s.Kept settings source choice) (w : World β σ) :
    s.poll w = ((s.receiver.poll s.lane w).1,
      { receiver := (s.receiver.poll s.lane w).2.1, lane := (s.receiver.poll s.lane w).2.2.1 },
      (s.receiver.poll s.lane w).2.2.2) := by
  rw [poll, h.hands_eq, Receiver.pollInto_eq]

theorem Kept.poll (h : s.Kept settings source choice) (w : World β σ) :
    (s.poll w).2.1.Kept settings source (choice.next source.queues) := by
  have hpasses := s.receiver.poll_passes w (h.sound .relay) (h.sound .stats)
  have halike := s.receiver.poll_alike w s.lane
  have hrings : ∀ role, (s.lane.ring role).Alike ((s.receiver.poll s.lane w).2.2.1.ring role) ∧
      ((s.receiver.poll s.lane w).2.2.1.ring role).Sound := by
    intro role
    cases role with
    | relay => exact ⟨hpasses.relay_alike, hpasses.relay_sound⟩
    | stats => exact ⟨hpasses.stats_alike, hpasses.stats_sound⟩
  rw [h.poll_eq]
  constructor
  case interface_eq => exact halike.interface_eq.trans h.interface_eq
  case queues_eq => exact halike.queues_eq.trans h.queues_eq
  case burstSize_eq => exact halike.burstSize_eq.trans h.burstSize_eq
  case choice_eq =>
    show (s.receiver.poll s.lane w).2.1.choice = _
    rw [Receiver.choice_poll, h.choice_eq, h.queues_eq]
  case hands_eq => rfl
  case sound => exact fun role => (hrings role).2
  case room_eq => exact fun role => (hrings role).1.room_eq.trans (h.room_eq role)
  case isOpen => exact fun role => ((hrings role).1.has_eq .producer).trans (h.isOpen role)

omit [FrameBuffer β] in
/-- Whatever the consumers and the other stages do leaves the receiver what it works with. -/
theorem Kept.modifyRing (h : s.Kept settings source choice) {act : Ring β → Ring β}
    {role : RingRole} (hsound : (act (s.lane.ring role)).Sound)
    (hcapacity : (act (s.lane.ring role)).capacity = (s.lane.ring role).capacity)
    (hopen : (act (s.lane.ring role)).has .producer = true) :
    ({ s with lane := s.lane.modifyRing act role } : Intake β).Kept settings source choice := by
  refine { h with sound := ?sound, room_eq := ?room_eq, isOpen := ?isOpen }
  case sound =>
    intro other
    rw [Lane.ring_modifyRing]
    split
    · next ho => exact ho ▸ hsound
    · exact h.sound other
  case room_eq =>
    intro other
    rw [Lane.ring_modifyRing]
    split
    · next ho =>
      subst ho
      rw [Ring.room, hcapacity, ← Ring.room]
      exact h.room_eq other
    · exact h.room_eq other
  case isOpen =>
    intro other
    rw [Lane.ring_modifyRing]
    split
    · next ho => exact ho ▸ hopen
    · exact h.isOpen other

omit [FrameBuffer β] in
theorem Kept.count (h : s.Kept settings source choice) (n : Nat) (k : Counter) :
    ({ s with lane := s.lane.count n k } : Intake β).Kept settings source choice := by
  refine { h with sound := ?_, room_eq := ?_, isOpen := ?_ } <;> intro role <;>
    rw [Lane.ring_count]
  · exact h.sound role
  · exact h.room_eq role
  · exact h.isOpen role

/-- Each move keeps it all, and a poll is one turn ahead. -/
theorem Kept.step (h : s.Kept settings source choice) (move : Move β σ) :
    (s.step move).Kept settings source
      ((QueueChoice.next source.queues)^[polls [move]] choice) := by
  cases move with
  | poll w => exact h.poll w
  | take role max =>
    have halike := Ring.Alike.dequeueBurst (s.lane.ring role) max
    exact h.modifyRing ((h.sound role).dequeueBurst max).2.1 halike.capacity_eq
      ((halike.has_eq .producer).trans (h.isOpen role))
  | leave role =>
    obtain ⟨hsound, hcapacity, hopen, -⟩ := (h.sound role).close .consumer (h.isOpen role)
    exact h.modifyRing hsound hcapacity hopen
  | count n k => exact h.count n k

theorem Kept.run (h : s.Kept settings source choice) (moves : List (Move β σ)) :
    (s.run moves).Kept settings source
      ((QueueChoice.next source.queues)^[polls moves] choice) := by
  induction moves generalizing s choice with
  | nil => exact h
  | cons move moves ih =>
    have hrest := ih (h.step move)
    rw [← Function.iterate_add_apply] at hrest
    have hpolls : polls (move :: moves) = polls moves + polls [move] := by
      rw [polls, polls, polls, List.countP_cons, List.countP_cons, List.countP_nil, Nat.zero_add]
    rw [hpolls]
    exact hrest

/-! ## What a poll does -/

omit [FrameBuffer β] in
theorem Kept.free_eq (h : s.Kept settings source choice) (role : RingRole) :
    (s.lane.ring role).freeSlots = s.free settings role := by
  rw [Ring.freeSlots, h.room_eq, free]

omit [FrameBuffer β] in
/-- The poll receives from the queue of its turn. -/
theorem Kept.receive_eq (h : s.Kept settings source choice) (w : World β σ) :
    w.receive s.receiver.interface s.receiver.chooseQueue.1 s.receiver.burstSize =
      w.receive source.interface (s.queue source) settings.burstSize := by
  rw [Receiver.chooseQueue_eq, h.interface_eq, h.burstSize_eq, h.queues_eq, queue]

theorem Kept.idle (h : s.Kept settings source choice) {w : World β σ}
    (hnone : s.burst settings source w = []) :
    s.poll w = (0,
      { s with
        receiver := { s.receiver with choice := s.receiver.choice.next source.queues } }, w) := by
  rw [burst, ← World.receive_fst] at hnone
  rw [h.poll_eq, Receiver.poll_eq, h.receive_eq, if_pos hnone, World.receive_of_nil hnone,
    Receiver.chooseQueue_eq, ← h.hands_eq, ← h.queues_eq]

/-- In every state that moves lead to, the next poll does what it should. -/
theorem Kept.polls (h : s.Kept settings source choice) (w : World β σ) :
    s.Polls settings source w := by
  have hburst : (w.receive s.receiver.interface s.receiver.chooseQueue.1
      s.receiver.burstSize).1 = s.burst settings source w := by
    rw [h.receive_eq, World.receive_fst, burst]
  have hpasses := s.receiver.poll_passes w (h.sound .relay) (h.sound .stats)
  obtain ⟨hanswer, hcounters⟩ :=
    s.receiver.poll_counts w (h.sound .relay) (h.sound .stats) hburst
  have hrelay : s.lane.relayRing.freeSlots = s.free settings .relay := h.free_eq .relay
  have hstats : s.lane.statsRing.freeSlots = s.free settings .stats := h.free_eq .stats
  rw [hburst, h.receive_eq] at hpasses
  simp only [Lane.probesAdmitted, Lane.probesRefused, Lane.dataAdmitted, Lane.dataRefused,
    hrelay, hstats] at hcounters
  have hrelayed := hpasses.relay_toList
  have hprobes := hpasses.stats_toList
  have hfrees := hpasses.frees
  simp only [Lane.probesAdmitted, Lane.probesRefused, Lane.dataAdmitted, Lane.dataRefused,
    hrelay, hstats] at hrelayed hprobes hfrees
  constructor
  case idle => exact h.idle
  all_goals rw [h.poll_eq]
  case answer_eq => exact hanswer
  case stats_toList => exact hprobes
  case relay_toList => exact hrelayed
  case frees => exact hfrees
  case counters_eq => exact hcounters

/-! ## New receivers -/

omit [FrameBuffer β] in
/-- The rings of a new lane have the capacities that the settings ask for. -/
theorem capacity_create {context : UInt16} {names : RingNames} {lane : Lane β}
    (h : (Lane.create context settings names).1 = .ok lane) (role : RingRole) :
    (lane.ring role).capacity = settings.capacityOf role := by
  rw [Lane.create] at h
  simp only at h
  split at h
  · cases h
  · next relayRing hrelay =>
    split at h
    · cases h
    · next statsRing hstats =>
      cases h
      cases role with
      | relay => exact (Ring.create_sound hrelay).2.2
      | stats => exact (Ring.create_sound hstats).2.2

omit [FrameBuffer β] in
/-- Two powers of two make a lane, whatever else the settings say. -/
theorem create_eq_ok (context : UInt16) (names : RingNames)
    (h : ∀ role, isPowerOfTwo (settings.capacityOf role) = true) :
    ∃ lane : Lane β, (Lane.create context settings names).1 = .ok lane := by
  have hrelay : isPowerOfTwo settings.ringCapacity = true := h .relay
  have hstats : isPowerOfTwo settings.statsRingCapacity = true := h .stats
  simp only [Lane.create, Ring.create, if_pos hrelay, if_pos hstats]
  exact ⟨_, rfl⟩

omit [FrameBuffer β] in
theorem kept_start {context : UInt16} {names : RingNames} {lane : Lane β} {r : Receiver}
    (hlane : (Lane.create context settings names).1 = .ok lane)
    (hr : Receiver.create settings source = .ok r)
    (hword : ∀ role, settings.capacityOf role < UInt64.size) :
    ({ receiver := r, lane } : Intake β).Kept settings source r.choice := by
  have hfresh := Lane.create_fresh hlane
  obtain ⟨hinterface, hqueues, hburst⟩ := Receiver.create_reads hr
  constructor
  case interface_eq => exact hinterface
  case queues_eq => exact hqueues
  case burstSize_eq => exact hburst
  case choice_eq => rfl
  case hands_eq => rfl
  case sound => exact hfresh.sound
  case room_eq =>
    intro role
    have hcapacity := capacity_create hlane role
    rw [Ring.room_eq_capacity (hcapacity ▸ hword role), hcapacity]
  case isOpen => exact hfresh.producerOpen_eq

/-- Capacities that make rings and a receive policy that fits the source queues make a receiver of
which each poll, after any moves and in any world, does what it should. -/
theorem run_polls (context : UInt16) (settings : Settings) (names : RingNames) (source : Binding)
    (hcapacity : ∀ role, isPowerOfTwo (settings.capacityOf role) = true)
    (hword : ∀ role, settings.capacityOf role < UInt64.size)
    (hpolicy : settings.validateSourceQueues source.queues.length = .ok ()) :
    ∃ (lane : Lane β) (r : Receiver), (Lane.create context settings names).1 = .ok lane ∧
      Receiver.create settings source = .ok r ∧
      ∀ (moves : List (Move β σ)) (w : World β σ),
        (({ receiver := r, lane } : Intake β).run moves).Polls settings source w := by
  obtain ⟨lane, hlane⟩ : ∃ lane : Lane β, (Lane.create context settings names).1 = .ok lane :=
    create_eq_ok context names hcapacity
  obtain ⟨r, hr⟩ := Receiver.create_eq_ok hpolicy
  refine ⟨lane, r, hlane, hr, ?_⟩
  intro moves w
  exact ((kept_start hlane hr hword).run moves).polls w

/-- Settings with rings that are smaller than a burst. -/
def smallRings : Settings := { burstSize := 5, ringCapacity := 2, statsRingCapacity := 1 }

def firstPort : Binding := { interface := 0, queues := .single 0 }

/-- Two probes and three other frames wait at the first interface. -/
def mixedBurst : World Buffer NullSink where
  interfaces :=
    [{ Interface.create ⟨0, "left"⟩ 1 1 with
      rxQueues := [[.ofFrame Probe.Stamps.frameHeader, .ofFrame [1], .ofFrame [2],
        .ofFrame Probe.Stamps.frameHeader, .ofFrame [3]]] }]
  sink := {}
  clock := { hz := Clock.monotonicHz }
  pool := .create 4

/-- The statement where both rings overflow: the second poll of the same burst has one free slot for
a probe again, and none of the data fits. -/
theorem run_polls_mixedBurst :
    (∀ role, isPowerOfTwo (smallRings.capacityOf role) = true) ∧
    (∀ role, smallRings.capacityOf role < UInt64.size) ∧
    smallRings.validateSourceQueues firstPort.queues.length = .ok () ∧
    ∃ (lane : Lane Buffer) (r : Receiver), (Lane.create 1 smallRings {}).1 = .ok lane ∧
      Receiver.create smallRings firstPort = .ok r ∧
      let s := ({ receiver := r, lane } : Intake Buffer).run [.poll mixedBurst, .take .stats 1]
      s.Polls smallRings firstPort mixedBurst ∧ (s.poll mixedBurst).1 = 5 ∧
        (s.probesAdmitted smallRings firstPort mixedBurst).length = 1 ∧
        (s.probesFreed smallRings firstPort mixedBurst).length = 1 ∧
        (s.dataAdmitted smallRings firstPort mixedBurst).length = 0 ∧
        (s.dataFreed smallRings firstPort mixedBurst).length = 3 := by
  have hcapacity : ∀ role, isPowerOfTwo (smallRings.capacityOf role) = true := by
    intro role
    cases role <;> rfl
  have hword : ∀ role, smallRings.capacityOf role < UInt64.size := by
    intro role
    cases role <;> decide
  obtain ⟨lane, r, hlane, hr, hpolls⟩ := run_polls (β := Buffer) (σ := NullSink) 1 smallRings {}
    firstPort hcapacity hword rfl
  refine ⟨hcapacity, hword, rfl, lane, r, hlane, hr, hpolls _ _, ?_⟩
  cases show Except.ok _ = Except.ok lane from hlane
  cases show Except.ok _ = Except.ok r from hr
  decide

end Intake

end EtherRelay
