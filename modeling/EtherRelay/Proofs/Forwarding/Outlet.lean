import EtherRelay.Proofs.Forwarding.Intake
import EtherRelay.Proofs.Ring.Serving

/-!
# Whose turn it is at either end

The two stages that walk a queue set move on for different reasons: a receiver at each poll, a
transmitter only when it has something to send. `Outlet` follows a transmitter with its working
burst through any run of polls, while the producer of the relay ring offers what it likes and
leaves when it likes; each poll may meet the world in any state, so that limits change and queues
come and go in between. The main statement is about both ends and about rotations as such: it says
which queue each poll uses, and what becomes of a burst on a queue that takes only a part of it, or
does not exist.
-/

namespace EtherRelay

variable {β σ : Type}

/-- A transmit queue of an interface, if there is such a queue. -/
def World.txQueue? (w : World β σ) (index : Nat) (queue : QueueId) : Option (TxQueue β) :=
  w.interfaces[index]?.bind (·.txQueues[queue.toNat]?)

/-- How many frames a transmit queue accepts of a burst of `n`: as many as its limit allows, and
none if there is no such queue. -/
def World.admits (w : World β σ) (index : Nat) (queue : QueueId) (n : Nat) : Nat :=
  match w.txQueue? index queue with
  | none => 0
  | some tx => min (tx.limit.getD n) n

/-- The calls to transmit that an interface kept. -/
def World.callsOf (w : World β σ) (index : Nat) : List TransmitEvent :=
  (w.interfaces[index]?.map (·.transmitLog)).getD []

/-- The queue that the `k`-th receive poll reads. -/
def Settings.turn (settings : Settings) (source : Binding) (k : Nat) : Option QueueId :=
  match settings.rxQueuePolicy with
  | .fixed index => source.queues.get? index
  | .roundRobin => source.queues.get? (k % source.queues.length)

/-- The rotation after a pick from each of the sets, which may be of different sizes. -/
def Rotation.walk (r : Rotation) (sets : List QueueSet) : Rotation := sets.foldl advance r

/-- A transmitter with its working burst, and its lane. -/
structure Outlet (β : Type) where
  transmitter : Transmitter
  held : List β := []
  lane : Lane β

namespace Outlet

/-- What can happen next: the transmitter is polled in a world of any kind, the producer of the relay
ring offers one frame or a burst or gives up its half, another stage counts, or something becomes of
the stats ring. -/
inductive Move (β σ : Type) where
  | poll (w : World β σ)
  | offer (frame : β)
  | offerBurst (burst : List β)
  | leave
  | count (n : Nat) (k : Counter)
  | elsewhere (statsRing : Ring β)

variable [FrameBuffer β]

/-- Poll the transmitter. -/
def poll (s : Outlet β) (w : World β σ) : Nat × Outlet β × World β σ :=
  let (n, transmitter, held, lane, w) := s.transmitter.pollInto s.held s.lane w
  (n, { transmitter, held, lane }, w)

/-- Make one move. -/
def step (s : Outlet β) : Move β σ → Outlet β
  | .poll w => (s.poll w).2.1
  | .offer frame =>
    { s with lane := { s.lane with relayRing := (s.lane.relayRing.enqueue frame).2 } }
  | .offerBurst burst =>
    { s with lane := { s.lane with relayRing := (s.lane.relayRing.enqueueBulk burst).2.2 } }
  | .leave => { s with lane := { s.lane with relayRing := (s.lane.relayRing.close .producer).2 } }
  | .count n k => { s with lane := s.lane.count n k }
  | .elsewhere statsRing => { s with lane := { s.lane with statsRing } }

/-- Make moves in order. -/
def run (s : Outlet β) (moves : List (Move β σ)) : Outlet β := moves.foldl step s

/-- One if the move is a poll that takes frames out of the ring. -/
def sends (s : Outlet β) : Move β σ → Nat
  | .poll w => if (s.poll w).1 = 0 then 0 else 1
  | _ => 0

/-- How many of the moves are such polls. -/
def sendsOver (s : Outlet β) : List (Move β σ) → Nat
  | [] => 0
  | move :: moves => s.sends move + (s.step move).sendsOver moves

section

variable (settings : Settings) (destination : Binding) (s : Outlet β) (w : World β σ)

omit [FrameBuffer β] in
/-- The frames that the next poll takes out of the ring. -/
def burst : List β := (s.lane.relayRing.dequeueBurst settings.burstSize).1

/-- How many of them the queue of its turn accepts. -/
def accepted (queue : QueueId) : Nat :=
  w.admits destination.interface queue (s.burst settings).length

/-- The next poll makes one call to transmit, on this queue. -/
structure Sends (queue : QueueId) : Prop where
  /-- The whole burst is offered, and what is left of it is freed. -/
  world_eq : (s.poll w).2.2 =
    (w.transmit destination.interface queue (s.burst settings)).2.2.release
      ((s.burst settings).drop (s.accepted settings destination w queue))
  /-- The front of the burst is accepted and the others stay in order. -/
  transmit_eq :
    (w.transmit destination.interface queue (s.burst settings)).1 =
        s.accepted settings destination w queue ∧
      (w.transmit destination.interface queue (s.burst settings)).2.1 =
        (s.burst settings).drop (s.accepted settings destination w queue)
  /-- An interface that keeps what it transmits shows the accepted frames. -/
  retainedOn_eq : w.retains destination.interface = true →
    (s.poll w).2.2.retainedOn destination.interface queue =
      w.retainedOn destination.interface queue ++
        (s.burst settings).take (s.accepted settings destination w queue)
  /-- It shows the call as well, if there is such a queue. -/
  callsOf_eq : w.retains destination.interface = true →
    (w.txQueue? destination.interface queue).isSome = true →
    (s.poll w).2.2.callsOf destination.interface =
      w.callsOf destination.interface ++
        [⟨queue, (s.burst settings).length, s.accepted settings destination w queue⟩]
  counters_eq : (s.poll w).2.1.lane.counters =
    ((s.lane.counters.add 1 .txBursts).add (s.accepted settings destination w queue)
      .forwarded).add
      ((s.burst settings).length - s.accepted settings destination w queue) .txPartialDrops

/-- What the next poll does if `m` polls sent something before. -/
structure Polls (m : Nat) : Prop where
  answer_eq : (s.poll w).1 = (s.burst settings).length
  length_le : (s.burst settings).length ≤ settings.burstSize
  /-- The burst is the front of the ring. -/
  toList_eq : s.lane.relayRing.toList =
    s.burst settings ++ (s.poll w).2.1.lane.relayRing.toList
  held_eq : (s.poll w).2.1.held = []
  /-- With nothing to send no turn is taken and the world is left alone. -/
  idle : s.burst settings = [] →
    (s.poll w).2.2 = w ∧ (s.poll w).2.1.transmitter = s.transmitter ∧
      (s.poll w).2.1.lane.counters = s.lane.counters
  /-- Otherwise it is the turn of one queue. -/
  turn : s.burst settings ≠ [] →
    ∃ queue, destination.queues.get? (m % destination.queues.length) = some queue ∧
      s.Sends settings destination w queue

end

end Outlet

/-! ## Rotations -/

namespace Rotation

variable (set : QueueSet)

/-- Rounds that begin at the front of a set count modulo its length. -/
theorem advance_mod (k : Nat) : advance ⟨k % set.length⟩ set = ⟨(k + 1) % set.length⟩ := by
  rw [advance, Nat.mod_add_mod]

/-- The queue that a rotation picks is the one at its place in the set. -/
theorem get?_queue (r : Rotation) : set.get? (r.next % set.length) = some (r.queue set) := by
  have hlt : r.next % set.length < set.queues.length := Nat.mod_lt _ set.length_pos
  rw [QueueSet.get?, List.getElem?_eq_getElem hlt]
  rfl

theorem next_walk_lt (r : Rotation) (hr : r.next < maxQueues) (sets : List QueueSet) :
    (r.walk sets).next < maxQueues := by
  induction sets generalizing r with
  | nil => exact hr
  | cons first sets ih =>
    apply ih
    exact (Nat.mod_lt _ first.length_pos).trans_le first.length_le

end Rotation

theorem QueueChoice.iterate_next (set : QueueSet) (k : Nat) :
    (QueueChoice.next set)^[k] (.rotating {}) = .rotating ⟨k % set.length⟩ := by
  induction k with
  | zero =>
    rw [Nat.zero_mod]
    rfl
  | succ k ih =>
    rw [Function.iterate_succ_apply', ih, QueueChoice.next, Rotation.advance_mod]

/-! ## Transmitting -/

variable [FrameBuffer β]

/-- What an interface accepts of a burst. -/
theorem World.transmit_eq (w : World β σ) (index : Nat) (queue : QueueId) (burst : List β) :
    (w.transmit index queue burst).1 = w.admits index queue burst.length ∧
      (w.transmit index queue burst).2.1 = burst.drop (w.admits index queue burst.length) := by
  have haccepted : (w.transmit index queue burst).1 = w.admits index queue burst.length := by
    rw [World.transmit, World.admits, World.txQueue?]
    cases hi : w.interfaces[index]? with
    | none => rfl
    | some i =>
      cases ht : i.txQueues[queue.toNat]? with
      | none =>
        simp only [Option.bind_some, ht]
        exact (i.transmit_missing w.registers queue burst w.wallNs ht).1
      | some tx =>
        simp only [Option.bind_some, ht]
        exact (i.transmit_existing w.registers queue burst w.wallNs ht).1
  refine ⟨haccepted, ?_⟩
  rw [← haccepted]
  exact (w.left_transmit index queue burst).1

/-- An interface that keeps its calls keeps one more, if there is such a queue. -/
theorem World.callsOf_transmit (w : World β σ) {index : Nat} {queue : QueueId}
    (hretains : w.retains index = true) (hthere : (w.txQueue? index queue).isSome = true)
    (burst : List β) :
    (w.transmit index queue burst).2.2.callsOf index = w.callsOf index ++
      [⟨queue, burst.length, w.admits index queue burst.length⟩] := by
  rw [← (w.transmit_eq index queue burst).1, World.transmit, World.callsOf, World.callsOf]
  cases hi : w.interfaces[index]? with
  | none => simp [txQueue?, hi] at hthere
  | some i =>
    cases ht : i.txQueues[queue.toNat]? with
    | none => simp [txQueue?, hi, ht] at hthere
    | some tx =>
      rw [w.retains_eq hi] at hretains
      have hlog : (i.transmit w.registers w.wallNs queue burst).interface.transmitLog =
          i.transmitLog ++ [⟨queue, burst.length,
            (i.transmit w.registers w.wallNs queue burst).accepted⟩] := by
        simp only [Interface.transmit, ht, hretains, if_pos]
      dsimp only
      rw [release, view_set hi, if_pos rfl, hlog]
      rfl

namespace Transmitter

variable (t : Transmitter) {lane : Lane β}

/-- A poll with nothing in hand is the poll that knows of no burst, and leaves nothing in hand. -/
theorem pollInto_eq (h : lane.relayRing.Sound) (w : World β σ) :
    t.pollInto [] lane w =
      ((t.poll lane w).1, (t.poll lane w).2.1, [], (t.poll lane w).2.2) := by
  have hlength := h.length_dequeueBurst t.burstSize
  have hload : t.load lane = ((lane.relayRing.dequeueBurst t.burstSize).1,
      { lane with relayRing := (lane.relayRing.dequeueBurst t.burstSize).2 }) := rfl
  rw [poll_eq, hload, pollInto, Ring.dequeueInto_eq, ← hlength]
  simp only [List.length_eq_zero_iff, List.nil_append]
  split
  · next hnone => simp only [hnone]
  · rw [send]
    dsimp only
    split
    · next hleft =>
      rw [List.isEmpty_iff] at hleft
      simp only [hleft, List.length_nil, Lane.count, Counters.add_zero]
      rfl
    · rfl

end Transmitter

namespace Outlet

variable {settings : Settings} {destination : Binding} {m : Nat} {s : Outlet β}

/-! ## What moves keep -/

/-- What is true of a transmitter and its lane after `m` polls that sent something. -/
structure Kept (settings : Settings) (destination : Binding) (m : Nat) (s : Outlet β) : Prop where
  interface_eq : s.transmitter.interface = destination.interface
  queues_eq : s.transmitter.queues = destination.queues
  burstSize_eq : s.transmitter.burstSize = settings.burstSize
  rotation_eq : s.transmitter.rotation = ⟨m % destination.queues.length⟩
  held_eq : s.held = []
  sound : s.lane.relayRing.Sound
  isOpen : s.lane.relayRing.has .consumer = true

theorem Kept.poll_eq (h : s.Kept settings destination m) (w : World β σ) :
    s.poll w = ((s.transmitter.poll s.lane w).1,
      { transmitter := (s.transmitter.poll s.lane w).2.1
        lane := (s.transmitter.poll s.lane w).2.2.1 },
      (s.transmitter.poll s.lane w).2.2.2) := by
  rw [poll, h.held_eq, s.transmitter.pollInto_eq h.sound]

omit [FrameBuffer β] in
/-- What the transmitter takes is the burst. -/
theorem Kept.load_eq (h : s.Kept settings destination m) :
    s.transmitter.load s.lane = (s.burst settings,
      { s.lane with relayRing := (s.lane.relayRing.dequeueBurst settings.burstSize).2 }) := by
  rw [Transmitter.load, h.burstSize_eq, burst]

/-- A poll that takes nothing is no turn. -/
theorem Kept.poll_of_nil (h : s.Kept settings destination m) (w : World β σ)
    (hnone : s.burst settings = []) :
    s.poll w = (0,
      { s with
        lane := { s.lane with
          relayRing := (s.lane.relayRing.dequeueBurst settings.burstSize).2 } }, w) := by
  rw [h.poll_eq, Transmitter.poll_eq, h.load_eq, if_pos hnone, ← h.held_eq]

/-- Any other poll sends its burst on the queue whose turn it is. -/
theorem Kept.poll_of_ne_nil (h : s.Kept settings destination m) (w : World β σ)
    (hsome : s.burst settings ≠ []) :
    s.poll w = ((s.burst settings).length,
      { transmitter := { s.transmitter with
          rotation := ⟨(m + 1) % destination.queues.length⟩ }
        lane := { s.lane with
          relayRing := (s.lane.relayRing.dequeueBurst settings.burstSize).2
          counters := ((s.lane.counters.add 1 .txBursts).add (s.accepted settings destination w
            (s.transmitter.rotation.queue destination.queues)) .forwarded).add
            ((s.burst settings).length - s.accepted settings destination w
              (s.transmitter.rotation.queue destination.queues)) .txPartialDrops } },
      (w.transmit destination.interface (s.transmitter.rotation.queue destination.queues)
        (s.burst settings)).2.2.release ((s.burst settings).drop
          (s.accepted settings destination w
            (s.transmitter.rotation.queue destination.queues)))) := by
  have haccepted := (w.transmit_eq destination.interface
    (s.transmitter.rotation.queue destination.queues) (s.burst settings)).1
  have hadvance : s.transmitter.rotation.advance destination.queues =
      ⟨(m + 1) % destination.queues.length⟩ := by
    rw [h.rotation_eq, Rotation.advance_mod]
  rw [h.poll_eq, Transmitter.poll_eq, h.load_eq, if_neg hsome, Transmitter.send_eq]
  simp only [h.interface_eq, h.queues_eq, haccepted, hadvance]
  rfl

theorem Kept.poll (h : s.Kept settings destination m) (w : World β σ) :
    (s.poll w).2.1.Kept settings destination (m + s.sends (.poll w)) := by
  have halike := Ring.Alike.dequeueBurst s.lane.relayRing settings.burstSize
  have hsound := (h.sound.dequeueBurst settings.burstSize).2.1
  have hopen := (halike.has_eq .consumer).trans h.isOpen
  by_cases hnone : s.burst settings = []
  · rw [sends, h.poll_of_nil w hnone]
    exact { h with sound := hsound, isOpen := hopen }
  · have hsent : (s.burst settings).length ≠ 0 := fun hzero =>
      hnone (List.length_eq_zero_iff.mp hzero)
    rw [sends, h.poll_of_ne_nil w hnone, if_neg hsent]
    exact { h with rotation_eq := rfl, held_eq := rfl, sound := hsound, isOpen := hopen }

omit [FrameBuffer β] in
/-- What the producer does leaves the transmitter what it works with. -/
theorem Kept.withRing (h : s.Kept settings destination m) {ring : Ring β} (hsound : ring.Sound)
    (hopen : ring.has .consumer = true) :
    ({ s with lane := { s.lane with relayRing := ring } } : Outlet β).Kept settings
      destination m :=
  { h with sound := hsound, isOpen := hopen }

/-- Each move keeps it all, and a poll that sends something is one turn. -/
theorem Kept.step (h : s.Kept settings destination m) (move : Move β σ) :
    (s.step move).Kept settings destination (m + s.sends move) := by
  cases move with
  | poll w => exact h.poll w
  | offer frame =>
    have halike := Ring.Alike.enqueue s.lane.relayRing frame
    apply h.withRing
    case hsound =>
      by_cases hlt : s.lane.relayRing.toList.length < s.lane.relayRing.room
      · exact (h.sound.enqueue_of_lt hlt frame).2.1
      · exact (h.sound.enqueue_of_full (Nat.le_of_not_lt hlt) frame).2.1
    case hopen => exact (halike.has_eq .consumer).trans h.isOpen
  | offerBurst burst =>
    have halike := Ring.Alike.enqueueBulk s.lane.relayRing burst
    apply h.withRing
    case hsound =>
      by_cases hle : s.lane.relayRing.toList.length + burst.length ≤ s.lane.relayRing.room
      · exact (h.sound.enqueueBulk_of_le hle).2.2.1
      · exact (h.sound.enqueueBulk_of_lt (Nat.lt_of_not_le hle)).2.2.1
    case hopen => exact (halike.has_eq .consumer).trans h.isOpen
  | leave =>
    obtain ⟨hsound, -, hopen, -⟩ := h.sound.close .producer h.isOpen
    exact h.withRing hsound hopen
  | count n k => exact { h with }
  | elsewhere statsRing => exact { h with }

theorem Kept.run (h : s.Kept settings destination m) (moves : List (Move β σ)) :
    (s.run moves).Kept settings destination (m + s.sendsOver moves) := by
  induction moves generalizing s m with
  | nil => exact h
  | cons move moves ih =>
    have hrest := ih (h.step move)
    rwa [Nat.add_assoc] at hrest

/-! ## What a poll does -/

/-- A poll that takes something makes one call. -/
theorem Kept.sends_of_ne_nil (h : s.Kept settings destination m) (w : World β σ)
    (hsome : s.burst settings ≠ []) :
    s.Sends settings destination w (s.transmitter.rotation.queue destination.queues) := by
  have htransmit := w.transmit_eq destination.interface
    (s.transmitter.rotation.queue destination.queues) (s.burst settings)
  constructor
  case transmit_eq => exact htransmit
  all_goals rw [h.poll_of_ne_nil w hsome]
  case retainedOn_eq =>
    intro hretains
    rw [accepted, ← htransmit.1]
    have hkept := w.retainedOn_transmit destination.interface
      (s.transmitter.rotation.queue destination.queues) destination.interface
      (s.transmitter.rotation.queue destination.queues) (s.burst settings)
    rwa [if_pos ⟨rfl, rfl, hretains⟩] at hkept
  case callsOf_eq =>
    intro hretains hthere
    exact w.callsOf_transmit hretains hthere (s.burst settings)

theorem Kept.polls (h : s.Kept settings destination m) (w : World β σ) :
    s.Polls settings destination w m := by
  obtain ⟨hburst, -, hrest⟩ := h.sound.dequeueBurst settings.burstSize
  have hlist : s.lane.relayRing.toList = s.burst settings ++
      (s.lane.relayRing.dequeueBurst settings.burstSize).2.toList := by
    rw [burst, hburst, hrest, List.take_append_drop]
  have hlength : (s.burst settings).length ≤ settings.burstSize :=
    Ring.length_dequeueBurst_le _ _
  by_cases hnone : s.burst settings = []
  · have hpoll := h.poll_of_nil w hnone
    constructor
    case length_le => exact hlength
    case turn => exact fun hsome => absurd hnone hsome
    all_goals rw [hpoll]
    case answer_eq => rw [hnone, List.length_nil]
    case toList_eq => exact hlist
    case held_eq => exact h.held_eq
    case idle => exact fun _ => ⟨rfl, rfl, rfl⟩
  · have hpoll := h.poll_of_ne_nil w hnone
    constructor
    case length_le => exact hlength
    case idle => exact fun hnil => absurd hnil hnone
    case answer_eq => rw [hpoll]
    case toList_eq =>
      rw [hpoll]
      exact hlist
    case held_eq => rw [hpoll]
    case turn =>
      intro _
      refine ⟨s.transmitter.rotation.queue destination.queues, ?_, h.sends_of_ne_nil w hnone⟩
      have hplace := Rotation.get?_queue destination.queues s.transmitter.rotation
      rwa [h.rotation_eq, Nat.mod_mod, ← h.rotation_eq] at hplace

omit [FrameBuffer β] in
theorem kept_start {context : UInt16} {names : RingNames} {lane : Lane β}
    (hlane : (Lane.create context settings names).1 = .ok lane) :
    ({ transmitter := .create settings destination, lane } : Outlet β).Kept settings
      destination 0 := by
  have hfresh := Lane.create_fresh hlane
  constructor
  case interface_eq => rfl
  case queues_eq => rfl
  case burstSize_eq => rfl
  case rotation_eq =>
    rw [Nat.zero_mod]
    rfl
  case held_eq => rfl
  case sound => exact hfresh.sound .relay
  case isOpen => exact hfresh.consumerOpen_eq .relay

end Outlet

/-! ## Receiving -/

namespace Intake

/-- The next poll takes the front of this queue and of no other one. -/
structure ReadsFrom (settings : Settings) (source : Binding) (s : Intake β) (w : World β σ)
    (queue : QueueId) : Prop where
  answer_eq : (s.poll w).1 =
    min settings.burstSize (w.pending source.interface queue).length
  pending_eq : ∀ index queue', (s.poll w).2.2.pending index queue' =
    if index = source.interface ∧ queue' = queue then
      (w.pending source.interface queue).drop settings.burstSize
    else w.pending index queue'

variable {settings : Settings} {source : Binding} {s : Intake β} {w : World β σ}

theorem Polls.readsFrom (h : s.Polls settings source w) :
    s.ReadsFrom settings source w (s.queue source) where
  answer_eq := by rw [h.answer_eq, burst, List.length_take]
  pending_eq index queue' := by
    rw [h.frees.pending_eq, w.pending_receive]

end Intake

namespace Receiver

variable {settings : Settings} {source : Binding} {r : Receiver}

omit [FrameBuffer β] in
/-- A new receiver stays with one queue of its set or begins at the front of it. -/
theorem create_choice (h : create settings source = .ok r) :
    match settings.rxQueuePolicy with
    | .fixed index => ∃ queue, source.queues.get? index = some queue ∧ r.choice = .fixed queue
    | .roundRobin => r.choice = .rotating {} := by
  simp only [create, bind, Except.bind, pure, Except.pure, throw, throwThe,
    MonadExceptOf.throw] at h
  grind

omit [FrameBuffer β] in
/-- The turns of a new receiver follow its policy. -/
theorem turn_eq (h : create settings source = .ok r) (k : Nat) :
    settings.turn source k =
      some (((QueueChoice.next source.queues)^[k] r.choice).queue source.queues) := by
  have hchoice := create_choice h
  rw [Settings.turn]
  cases hp : settings.rxQueuePolicy with
  | fixed index =>
    rw [hp] at hchoice
    obtain ⟨queue, hqueue, hfixed⟩ := hchoice
    have hstays : (QueueChoice.next source.queues)^[k] (.fixed queue) = .fixed queue :=
      Function.iterate_fixed rfl k
    rw [hfixed, hstays]
    exact hqueue
  | roundRobin =>
    rw [hp] at hchoice
    have hplace := Rotation.get?_queue source.queues ⟨k % source.queues.length⟩
    rw [Nat.mod_mod] at hplace
    rw [show r.choice = .rotating {} from hchoice, QueueChoice.iterate_next]
    exact hplace

end Receiver

/-! ## Both ends -/

omit [FrameBuffer β] in
/-- A rotation may be moved from set to set: the place that it names is always there. -/
theorem Rotation.get?_walk (sets : List QueueSet) (set : QueueSet) :
    (walk {} sets).next < maxQueues ∧
      set.get? ((walk {} sets).next % set.length) = some ((walk {} sets).pick set).1 :=
  ⟨next_walk_lt {} (by decide) sets, get?_queue set (walk {} sets)⟩

/-- With capacities that make rings and a receive policy that fits the source queues, the two
stages of a lane take their turns as they should after any moves, and no rotation ever leaves
its set. -/
theorem stages_take_turns (context : UInt16) (settings : Settings) (names : RingNames)
    (source destination : Binding)
    (hcapacity : ∀ role, isPowerOfTwo (settings.capacityOf role) = true)
    (hword : ∀ role, settings.capacityOf role < UInt64.size)
    (hpolicy : settings.validateSourceQueues source.queues.length = .ok ()) :
    (∃ (lane : Lane β) (r : Receiver), (Lane.create context settings names).1 = .ok lane ∧
      Receiver.create settings source = .ok r ∧
      (∀ (moves : List (Outlet.Move β σ)) (w : World β σ),
        let s : Outlet β := { transmitter := .create settings destination, lane }
        (s.run moves).Polls settings destination w (s.sendsOver moves)) ∧
      ∀ (moves : List (Intake.Move β σ)) (w : World β σ),
        ∃ queue, settings.turn source (Intake.polls moves) = some queue ∧
          (({ receiver := r, lane } : Intake β).run moves).ReadsFrom settings source w queue) ∧
    ∀ (sets : List QueueSet) (set : QueueSet), (Rotation.walk {} sets).next < maxQueues ∧
      set.get? ((Rotation.walk {} sets).next % set.length) =
        some ((Rotation.walk {} sets).pick set).1 := by
  refine ⟨?_, fun sets set => Rotation.get?_walk sets set⟩
  obtain ⟨lane, hlane⟩ : ∃ lane : Lane β, (Lane.create context settings names).1 = .ok lane :=
    Intake.create_eq_ok context names hcapacity
  obtain ⟨r, hr⟩ := Receiver.create_eq_ok hpolicy
  refine ⟨lane, r, hlane, hr, ?_, ?_⟩
  · intro moves w
    have hstart : ({ transmitter := .create settings destination, lane } : Outlet β).Kept settings
        destination 0 := Outlet.kept_start hlane
    have hkept := hstart.run moves
    rw [Nat.zero_add] at hkept
    exact hkept.polls w
  · intro moves w
    have hkept := (Intake.kept_start hlane hr hword).run moves
    refine ⟨_, ?_, (hkept.polls w).readsFrom⟩
    rw [Receiver.turn_eq hr, Intake.queue, hkept.choice_eq]

namespace Turns

/-- Small rings, and a receiver that goes round its queues. -/
def settings : Settings := { Intake.smallRings with rxQueuePolicy := .roundRobin }

def source : Binding := { interface := 0, queues := ⟨[0, 1], by decide, by decide⟩ }

/-- A queue that does not exist, named twice, and one that takes one frame at a time. -/
def destination : Binding := { interface := 1, queues := ⟨[2, 0, 2], by decide, by decide⟩ }

def world : World Buffer NullSink where
  interfaces :=
    [.create ⟨0, "left"⟩ 2 0,
      { Interface.create ⟨1, "right"⟩ 0 1 with txQueues := [{ limit := some 1 }] }]
  sink := {}
  clock := { hz := Clock.monotonicHz }
  pool := .create 4

def start (lane : Lane Buffer) : Outlet Buffer :=
  { transmitter := .create settings destination, lane }

/-- A burst is lost on the missing queue, a poll finds nothing, and another burst is queued. -/
def moves : List (Outlet.Move Buffer NullSink) :=
  [.offerBurst [.ofFrame [1], .ofFrame [2]], .poll world, .poll world,
    .offerBurst [.ofFrame [3], .ofFrame [4]]]

end Turns

open Turns in
/-- The statement where the second burst meets a limit and the third receive poll begins a new
round. -/
theorem stages_take_turns_missingQueue :
    (∀ role, isPowerOfTwo (settings.capacityOf role) = true) ∧
    (∀ role, settings.capacityOf role < UInt64.size) ∧
    settings.validateSourceQueues source.queues.length = .ok () ∧
    ∃ (lane : Lane Buffer) (r : Receiver), (Lane.create 1 settings {}).1 = .ok lane ∧
      Receiver.create settings source = .ok r ∧
      (start lane).sendsOver moves = 1 ∧
      ((start lane).run moves).Polls settings destination world 1 ∧
      (((start lane).run moves).burst settings).length = 2 ∧
      ((start lane).run moves).accepted settings destination world 0 = 1 ∧
      ∃ queue, settings.turn source 2 = some queue ∧
        (({ receiver := r, lane } : Intake Buffer).run [.poll world, .poll world]).ReadsFrom
          settings source world queue := by
  have hcapacity : ∀ role, isPowerOfTwo (settings.capacityOf role) = true := by
    intro role
    cases role <;> rfl
  have hword : ∀ role, settings.capacityOf role < UInt64.size := by
    intro role
    cases role <;> decide
  obtain ⟨⟨lane, r, hlane, hr, hsends, hreads⟩, -⟩ := stages_take_turns (β := Buffer)
    (σ := NullSink) 1 settings {} source destination hcapacity hword rfl
  refine ⟨hcapacity, hword, rfl, lane, r, hlane, hr, ?_⟩
  have hpolls := hsends moves world
  have hthird := hreads [.poll world, .poll world] world
  cases show Except.ok _ = Except.ok lane from hlane
  exact ⟨by decide, hpolls, by decide, by decide, hthird⟩

end EtherRelay
