import EtherRelay.Proofs.Forwarding.Stages
import Mathlib.Data.List.Perm.Subperm

/-!
# Frames on their way through a pipeline

A delivery runs any sequence of calls on a pipeline and on the interfaces around it, and keeps
the frames that came by at each point of the way: offered to the source, waiting in one of its
receive queues, received, accepted by the destination, and taken out of it again. Beside each
frame stands the queue that it came by.

The main statement says that nothing is sent that was not received in that order, that no frame
is sent more often than it was offered, and that probes are never sent. The invariant behind it
follows the sent frames together with those in the relay ring.
-/

namespace EtherRelay

variable {β σ : Type}

namespace Delivery

/-- Frames with the queue that they came by. -/
def tag (queue : QueueId) (frames : List β) : List (QueueId × β) := frames.map (queue, ·)

/-- The frames that came by a queue, in order. -/
def on (queue : QueueId) (frames : List (QueueId × β)) : List β :=
  (frames.filter fun f => f.1 == queue).map Prod.snd

@[simp] theorem map_snd_tag (queue : QueueId) (frames : List β) :
    (tag queue frames).map Prod.snd = frames := by
  simp [tag, Function.comp_def]

@[simp] theorem on_append (queue : QueueId) (frames frames' : List (QueueId × β)) :
    on queue (frames ++ frames') = on queue frames ++ on queue frames' := by
  simp [on]

theorem on_tag (queue queue' : QueueId) (frames : List β) :
    on queue' (tag queue frames) = if queue' = queue then frames else [] := by
  by_cases hq : queue' = queue
  · subst hq
    simp [on, tag, List.filter_map, Function.comp_def]
  · simp [on, tag, List.filter_map, Function.comp_def, hq, Ne.symm hq]

theorem on_sublist {frames frames' : List (QueueId × β)} (h : frames.Sublist frames')
    (queue : QueueId) : (on queue frames).Sublist (on queue frames') :=
  (h.filter _).map _

/-- Frames are among others, as often at most, if they are for each queue. -/
theorem subperm_of_on {frames frames' : List (QueueId × β)}
    (h : ∀ queue, (on queue frames).Sublist (on queue frames')) : frames.Subperm frames' := by
  classical
  have hcount : ∀ (f : QueueId × β) l, l.count f = (on f.1 l).count f.2 := by
    intro f l
    rw [on, List.count, List.count, List.countP_map, List.countP_filter]
    apply List.countP_congr
    rintro ⟨queue, b⟩ _
    simp [Prod.ext_iff, and_comm]
  rw [List.subperm_ext_iff]
  intro f _
  rw [hcount, hcount]
  exact (h f.1).count_le f.2

/-- A call on a pipeline or on an interface around it. -/
inductive Call (β : Type) where
  | inject (interface : Nat) (queue : QueueId) (burst : List β)
  | receive
  | transmit
  | drain
  | setTxLimit (interface : Nat) (queue : QueueId) (limit : Option Nat)
  | takeTransmitted (interface : Nat) (queue : QueueId)

end Delivery

/-- A pipeline in its world, with the frames that came by so far. -/
structure Delivery (β σ : Type) where
  /-- The position of the interface that the pipeline receives from. -/
  source : Nat
  /-- The position of the interface that the pipeline transmits on. -/
  destination : Nat
  pipeline : Pipeline β
  world : World β σ
  /-- The frames that were offered to the source. -/
  injected : List β := []
  /-- The frames that the source accepted. -/
  arrived : List (QueueId × β) := []
  received : List (QueueId × β) := []
  /-- The frames that the destination accepted from the pipeline. -/
  sent : List (QueueId × β) := []
  /-- The frames that were taken out of the destination. -/
  taken : List (QueueId × β) := []

namespace Delivery

/-- A pipeline before any call. -/
def start (source destination : Binding) (pipeline : Pipeline β) (world : World β σ) :
    Delivery β σ where
  source := source.interface
  destination := destination.interface
  pipeline := pipeline
  world := world

variable [FrameBuffer β]

/-- The frames that the next poll of a receiver takes. -/
def polled (r : Receiver) (w : World β σ) : List (QueueId × β) :=
  tag r.chooseQueue.1 (w.receive r.interface r.chooseQueue.1 r.burstSize).1

/-- The frames that the interface accepts at the next poll of a transmitter. -/
def accepted (t : Transmitter) (lane : Lane β) (w : World β σ) : List (QueueId × β) :=
  let queue := t.rotation.queue t.queues
  let burst := (t.load lane).1
  tag queue (burst.take (w.transmit t.interface queue burst).1)

/-- Whether a frame is not a probe. -/
def isData (f : QueueId × β) : Bool := !Receiver.isProbe f.2

/-- What can be said of the frames that came by. -/
structure Delivers (d : Delivery β σ) : Prop where
  /-- No frame is sent more often than it was offered to the source. -/
  sent_subperm : (d.sent.map Prod.snd).Subperm d.injected
  sent_isData : ∀ f ∈ d.sent, isData f = true
  /-- The sent frames are some of the received data frames, in order. Those that came from one
  queue are in the order in which they were injected there. -/
  sent_sublist : ∃ passed : List (QueueId × β), passed.map Prod.snd = d.sent.map Prod.snd ∧
    passed.Sublist (d.received.filter isData) ∧
    ∀ queue, (on queue passed).Sublist (on queue d.arrived)
  /-- What arrived on a queue was received or waits there. -/
  received_append : ∀ queue,
    on queue d.received ++ d.world.pending d.source queue = on queue d.arrived
  arrived_sublist : (d.arrived.map Prod.snd).Sublist d.injected
  /-- What was sent on a queue can be found there, or was taken out. -/
  taken_append : d.world.retains d.destination = true → ∀ queue,
    on queue d.taken ++ d.world.retainedOn d.destination queue = on queue d.sent

/-! ## The invariant -/

/-- Sent frames and those in the relay ring are received data frames, in order. -/
structure Kept (d : Delivery β σ) : Prop where
  receiver_eq : ∃ r, d.pipeline.receiver = some r ∧ r.interface = d.source
  transmitter_eq : ∃ t, d.pipeline.transmitter = some t ∧ t.interface = d.destination
  relay_sound : d.pipeline.lane.relayRing.Sound
  stats_sound : d.pipeline.lane.statsRing.Sound
  passed_sublist : ∃ passed queued : List (QueueId × β),
    passed.map Prod.snd = d.sent.map Prod.snd ∧
    queued.map Prod.snd = d.pipeline.lane.relayRing.toList ∧
    (passed ++ queued).Sublist (d.received.filter isData)
  received_append : ∀ queue,
    on queue d.received ++ d.world.pending d.source queue = on queue d.arrived
  arrived_sublist : (d.arrived.map Prod.snd).Sublist d.injected
  taken_append : d.world.retains d.destination = true → ∀ queue,
    on queue d.taken ++ d.world.retainedOn d.destination queue = on queue d.sent

variable {d : Delivery β σ}

/-- The data frames of a burst, with the queue that they came by. -/
theorem filter_tag (queue : QueueId) (burst : List β) :
    (tag queue burst).filter isData = tag queue (Lane.dataOf burst) := by
  rw [tag, tag, List.filter_map, Lane.dataOf]
  rfl

/-- Frames that leave the relay ring in order may be sent, all of them or only the first. -/
theorem Kept.send (h : d.Kept) {t : Transmitter} {lane : Lane β} {w : World β σ}
    {queue : QueueId} {burst : List β} (n : Nat) (hdestination : t.interface = d.destination)
    (hrelay : lane.relayRing.Sound) (hstats : lane.statsRing.Sound)
    (hlist : d.pipeline.lane.relayRing.toList = burst ++ lane.relayRing.toList)
    (hpending : ∀ q, w.pending d.source q = d.world.pending d.source q)
    (hretains : w.retains d.destination = d.world.retains d.destination)
    (hretained : d.world.retains d.destination = true → ∀ q,
      w.retainedOn d.destination q =
        d.world.retainedOn d.destination q ++ on q (tag queue (burst.take n))) :
    Kept { d with
      pipeline := { d.pipeline with transmitter := some t, lane }
      world := w
      sent := d.sent ++ tag queue (burst.take n) } := by
  obtain ⟨passed, queued, hpassed, hqueued, hsub⟩ := h.passed_sublist
  rw [hlist] at hqueued
  obtain ⟨front, rest, rfl, hfront, hrest⟩ := List.map_eq_append_iff.mp hqueued
  refine
    { h with
      transmitter_eq := ⟨t, rfl, hdestination⟩
      relay_sound := hrelay
      stats_sound := hstats
      passed_sublist := ⟨passed ++ front.take n, rest, ?_, hrest, ?_⟩
      received_append := ?_
      taken_append := ?_ }
  · rw [List.map_append, List.map_append, map_snd_tag, hpassed, List.map_take, hfront]
  · have hshort : (passed ++ front.take n ++ rest).Sublist (passed ++ (front ++ rest)) := by
      rw [List.append_assoc]
      exact (List.Sublist.refl _).append ((List.take_sublist n front).append (.refl rest))
    exact hshort.trans hsub
  · intro q
    rw [hpending, h.received_append]
  · intro hret q
    have hkeeps : d.world.retains d.destination = true := hretains ▸ hret
    rw [hretained hkeeps, on_append, ← List.append_assoc, h.taken_append hkeeps]

theorem Kept.delivers (h : d.Kept) : d.Delivers := by
  obtain ⟨passed, queued, hpassed, hqueued, hsub⟩ := h.passed_sublist
  have hsent : passed.Sublist (d.received.filter isData) :=
    (List.sublist_append_left _ _).trans hsub
  have hreceived : ∀ queue, (on queue d.received).Sublist (on queue d.arrived) := by
    intro queue
    rw [← h.received_append]
    exact List.sublist_append_left _ _
  have horder : ∀ queue, (on queue passed).Sublist (on queue d.arrived) := by
    intro queue
    exact (on_sublist (hsent.trans List.filter_sublist) queue).trans (hreceived queue)
  refine
    { sent_subperm := ?_
      sent_isData := ?_
      sent_sublist := ⟨passed, hpassed, hsent, horder⟩
      received_append := h.received_append
      arrived_sublist := h.arrived_sublist
      taken_append := h.taken_append }
  · obtain ⟨part, hperm, hpart⟩ := subperm_of_on horder
    rw [← hpassed]
    exact ⟨part.map Prod.snd, hperm.map _, (hpart.map _).trans h.arrived_sublist⟩
  · intro f hf
    have hmem : f.2 ∈ passed.map Prod.snd := hpassed ▸ List.mem_map_of_mem hf
    obtain ⟨g, hg, hgf⟩ := List.mem_map.mp hmem
    have hdata := (List.mem_filter.mp (hsent.subset hg)).2
    rw [isData, ← hgf]
    exact hdata

/-- A pipeline that did nothing yet, between interfaces that hold nothing yet. -/
theorem kept_fresh {settings : Settings} {source destination : Binding} {p : Pipeline β}
    {w : World β σ} (h : p.Fresh settings source destination)
    (hpending : ∀ queue, w.pending source.interface queue = [])
    (hretained : ∀ queue, w.retainedOn destination.interface queue = []) :
    (start source destination p w).Kept := by
  obtain ⟨r, hr, hsource, _⟩ := h.receiver_eq
  refine ⟨⟨r, hr, hsource⟩, ⟨_, h.transmitter_eq, rfl⟩, h.lane_fresh.sound .relay,
    h.lane_fresh.sound .stats, ⟨[], [], rfl, ?_, .refl _⟩, ?_, .refl _, ?_⟩
  · exact (h.lane_fresh.toList_eq .relay).symm
  · exact hpending
  · exact fun _ => hretained

/-! ## Calls -/

variable [Sink σ]

/-- Make one call. -/
def step (d : Delivery β σ) : Call β → Delivery β σ
  | .inject interface queue burst =>
    let (n, world) := d.world.inject interface queue burst
    if interface = d.source then
      { d with
        world
        injected := d.injected ++ burst
        arrived := d.arrived ++ tag queue (burst.take n) }
    else { d with world }
  | .receive =>
    let (_, pipeline, world) := d.pipeline.receive d.world
    { d with
      pipeline
      world
      received := d.received ++ (d.pipeline.receiver.map (polled · d.world)).getD [] }
  | .transmit =>
    let (_, pipeline, world) := d.pipeline.transmit d.world
    { d with
      pipeline
      world
      sent := d.sent ++
        (d.pipeline.transmitter.map (accepted · d.pipeline.lane d.world)).getD [] }
  | .drain =>
    let (_, pipeline, world) := d.pipeline.drain d.world
    { d with pipeline, world }
  | .setTxLimit interface queue limit =>
    { d with world := d.world.modifyInterface interface (·.setTxLimit queue limit) }
  | .takeTransmitted interface queue =>
    let (frames, world) := d.world.takeTransmitted interface queue
    if interface = d.destination then { d with world, taken := d.taken ++ tag queue frames }
    else { d with world }

/-- Make calls in order. -/
def run (d : Delivery β σ) (calls : List (Call β)) : Delivery β σ := calls.foldl step d

theorem kept_inject (h : d.Kept) (interface : Nat) (queue : QueueId) (burst : List β) :
    (d.step (.inject interface queue burst)).Kept := by
  have hpending := fun q => d.world.pending_inject interface queue d.source q burst
  have hretained := fun q => d.world.retainedOn_inject interface queue d.destination q burst
  have hretains := d.world.retains_inject interface queue d.destination burst
  have htaken : (d.world.inject interface queue burst).2.retains d.destination = true → ∀ q,
      on q d.taken ++ (d.world.inject interface queue burst).2.retainedOn d.destination q =
        on q d.sent := by
    intro hr q
    rw [hretained, h.taken_append (hretains ▸ hr)]
  rw [step]
  dsimp only
  split
  · next hsource =>
    refine { h with received_append := ?_, arrived_sublist := ?_, taken_append := htaken }
    · intro q
      dsimp only
      rw [hpending, on_append, on_tag]
      by_cases hq : q = queue
      · rw [if_pos ⟨hsource.symm, hq⟩, if_pos hq, ← h.received_append, hq, hsource,
          List.append_assoc]
      · rw [if_neg (fun hboth => hq hboth.2), if_neg hq, List.append_nil, h.received_append]
    · dsimp only
      rw [List.map_append, map_snd_tag]
      exact h.arrived_sublist.append (List.take_sublist _ _)
  · next hsource =>
    refine { h with received_append := ?_, taken_append := htaken }
    intro q
    dsimp only
    rw [hpending, if_neg (fun hboth => hsource hboth.1.symm), h.received_append]

theorem kept_receive (h : d.Kept) : (d.step .receive).Kept := by
  obtain ⟨r, hr, hsource⟩ := h.receiver_eq
  obtain ⟨passed, queued, hpassed, hqueued, hsub⟩ := h.passed_sublist
  have hpoll := r.poll_passes d.world h.relay_sound h.stats_sound
  have hpending := fun q => d.world.pending_receive r.interface r.chooseQueue.1 d.source q
    r.burstSize
  have hretained := fun q => d.world.retainedOn_receive r.interface r.chooseQueue.1
    d.destination q r.burstSize
  have hretains := d.world.retains_receive r.interface r.chooseQueue.1 d.destination r.burstSize
  have hfst := d.world.receive_fst r.interface r.chooseQueue.1 r.burstSize
  have hinterfaces := hpoll.frees.interfaces_eq
  have hstep : d.step .receive =
      { d with
        pipeline := { d.pipeline with
          receiver := some (r.poll d.pipeline.lane d.world).2.1
          lane := (r.poll d.pipeline.lane d.world).2.2.1 }
        world := (r.poll d.pipeline.lane d.world).2.2.2
        received := d.received ++ polled r d.world } := by
    simp only [step, Pipeline.receive, hr, Option.map_some, Option.getD_some]
  rw [hstep]
  refine
    { h with
      receiver_eq := ⟨_, rfl, (r.poll_alike d.world _).interface_eq.trans hsource⟩
      relay_sound := hpoll.relay_sound
      stats_sound := hpoll.stats_sound
      passed_sublist := ?_
      received_append := ?_
      taken_append := ?_ }
  · have hnew : ((d.pipeline.lane).dataAdmitted
        (d.world.receive r.interface r.chooseQueue.1 r.burstSize).1).Sublist _ :=
      Lane.dataAdmitted_sublist _ _
    refine ⟨passed, queued ++ tag r.chooseQueue.1 (d.pipeline.lane.dataAdmitted
      (d.world.receive r.interface r.chooseQueue.1 r.burstSize).1), hpassed, ?_, ?_⟩
    · rw [List.map_append, hqueued, map_snd_tag, hpoll.relay_toList]
    · rw [List.filter_append, polled, filter_tag, ← List.append_assoc]
      exact hsub.append (hnew.map _)
  · intro q
    have hw : (r.poll d.pipeline.lane d.world).2.2.2.pending d.source q =
        (d.world.receive r.interface r.chooseQueue.1 r.burstSize).2.pending d.source q := by
      rw [World.pending, hinterfaces, World.pending]
    dsimp only
    rw [hw, hpending, on_append, polled, on_tag, hfst]
    by_cases hq : q = r.chooseQueue.1
    · rw [if_pos hq, if_pos ⟨hsource.symm, hq⟩, List.append_assoc, List.take_append_drop,
        ← h.received_append, hq, hsource]
    · rw [if_neg hq, if_neg (fun hboth => hq hboth.2), List.append_nil, h.received_append]
  · intro hret q
    have hw : (r.poll d.pipeline.lane d.world).2.2.2.retainedOn d.destination q =
        d.world.retainedOn d.destination q := by
      rw [World.retainedOn, hinterfaces, ← hretained q, World.retainedOn]
    have hkeeps : d.world.retains d.destination = true := by
      rw [← hret, ← hretains, World.retains, World.retains, hinterfaces]
    dsimp only
    rw [hw, h.taken_append hkeeps]

theorem kept_transmit (h : d.Kept) : (d.step .transmit).Kept := by
  obtain ⟨t, ht, hdestination⟩ := h.transmitter_eq
  have htakes := t.load_takes h.relay_sound
  have hstats : (t.load d.pipeline.lane).2.statsRing.Sound := h.stats_sound
  have hstep : d.step .transmit =
      { d with
        pipeline := { d.pipeline with
          transmitter := some (t.poll d.pipeline.lane d.world).2.1
          lane := (t.poll d.pipeline.lane d.world).2.2.1 }
        world := (t.poll d.pipeline.lane d.world).2.2.2
        sent := d.sent ++ accepted t d.pipeline.lane d.world } := by
    simp only [step, Pipeline.transmit, ht, Option.map_some, Option.getD_some]
  rw [hstep, accepted, t.poll_eq]
  split
  · next hnil =>
    refine h.send _ hdestination htakes.sound hstats htakes.toList_eq (fun q => rfl) rfl ?_
    intro _ q
    rw [hnil, List.take_nil, on_tag, ite_self, List.append_nil]
  · rw [t.send_eq]
    refine h.send _ hdestination htakes.sound hstats htakes.toList_eq ?_ ?_ ?_
    · intro q
      exact d.world.pending_transmit t.interface (t.rotation.queue t.queues) d.source q _
    · exact d.world.retains_transmit t.interface (t.rotation.queue t.queues) d.destination _
    · intro hret q
      have hretained := d.world.retainedOn_transmit t.interface (t.rotation.queue t.queues)
        d.destination q (t.load d.pipeline.lane).1
      rw [on_tag]
      refine hretained.trans ?_
      by_cases hq : q = t.rotation.queue t.queues
      · rw [if_pos ⟨hdestination.symm, hq, hdestination ▸ hret⟩, if_pos hq, hdestination, hq]
      · rw [if_neg (fun hboth => hq hboth.2.1), if_neg hq, List.append_nil]

theorem kept_drain (h : d.Kept) : (d.step .drain).Kept := by
  rw [step, Pipeline.drain]
  cases hm : d.pipeline.monitor with
  | none => exact h
  | some m =>
      obtain ⟨_, _, hcounts, hfrees⟩ := m.drain_counts d.pipeline.lane d.world
      have htakes := m.load_takes h.stats_sound
      have hrelay : (m.drain d.pipeline.lane d.world).2.1.relayRing =
          d.pipeline.lane.relayRing :=
        hcounts.relayRing_eq.trans (htakes.ring_eq .relay (by decide))
      have hpending : ∀ q, (m.drain d.pipeline.lane d.world).2.2.pending d.source q =
          d.world.pending d.source q := by
        intro q
        rw [World.pending, hfrees.interfaces_eq, World.pending]
      have hretained : ∀ q, (m.drain d.pipeline.lane d.world).2.2.retainedOn d.destination q =
          d.world.retainedOn d.destination q := by
        intro q
        rw [World.retainedOn, hfrees.interfaces_eq, World.retainedOn]
      have hretains : (m.drain d.pipeline.lane d.world).2.2.retains d.destination =
          d.world.retains d.destination := by
        rw [World.retains, hfrees.interfaces_eq, World.retains]
      refine
        { h with
          relay_sound := hrelay ▸ h.relay_sound
          stats_sound := hcounts.statsRing_eq ▸ htakes.sound
          passed_sublist := ?_
          received_append := ?_
          taken_append := ?_ }
      · dsimp only
        rw [hrelay]
        exact h.passed_sublist
      · intro q
        dsimp only
        rw [hpending, h.received_append]
      · intro hret q
        dsimp only
        rw [hretained, h.taken_append (hretains ▸ hret)]

theorem kept_setTxLimit (h : d.Kept) (interface : Nat) (queue : QueueId) (limit : Option Nat) :
    (d.step (.setTxLimit interface queue limit)).Kept := by
  have hretains : (d.world.modifyInterface interface (·.setTxLimit queue limit)).retains
      d.destination = d.world.retains d.destination :=
    d.world.retains_modify _ _ fun _ => rfl
  refine { h with received_append := ?_, taken_append := ?_ }
  · intro q
    have hpending : (d.world.modifyInterface interface (·.setTxLimit queue limit)).pending
        d.source q = d.world.pending d.source q := d.world.pending_modify _ _ _ fun _ => rfl
    dsimp only [step]
    rw [hpending, h.received_append]
  · intro hret q
    dsimp only [step]
    rw [World.retainedOn_setTxLimit, h.taken_append (hretains ▸ hret)]

theorem kept_takeTransmitted (h : d.Kept) (interface : Nat) (queue : QueueId) :
    (d.step (.takeTransmitted interface queue)).Kept := by
  have hpending := fun q => d.world.pending_takeTransmitted interface queue d.source q
  have hretained := fun q => d.world.retainedOn_takeTransmitted interface queue d.destination q
  have hretains := d.world.retains_takeTransmitted interface queue d.destination
  have hreceived : ∀ q, on q d.received ++
      (d.world.takeTransmitted interface queue).2.pending d.source q = on q d.arrived := by
    intro q
    rw [hpending, h.received_append]
  rw [step]
  dsimp only
  split
  · next hdestination =>
    refine { h with received_append := hreceived, taken_append := ?_ }
    intro hret q
    have hkeeps : d.world.retains d.destination = true := hretains ▸ hret
    dsimp only
    rw [hretained, on_append, on_tag, World.takeTransmitted_fst, ← h.taken_append hkeeps]
    by_cases hq : q = queue
    · rw [if_pos hq, if_pos ⟨hdestination.symm, hq⟩, List.append_nil, hq, hdestination]
    · rw [if_neg hq, if_neg (fun hboth => hq hboth.2), List.append_nil]
  · next hdestination =>
    refine { h with received_append := hreceived, taken_append := ?_ }
    intro hret q
    have hkeeps : d.world.retains d.destination = true := hretains ▸ hret
    dsimp only
    rw [hretained, if_neg (fun hboth => hdestination hboth.1.symm), h.taken_append hkeeps]

/-- Every call keeps the sent frames in the order of the received ones. -/
theorem kept_step (h : d.Kept) (call : Call β) : (d.step call).Kept := by
  cases call with
  | inject interface queue burst => exact kept_inject h interface queue burst
  | receive => exact kept_receive h
  | transmit => exact kept_transmit h
  | drain => exact kept_drain h
  | setTxLimit interface queue limit => exact kept_setTxLimit h interface queue limit
  | takeTransmitted interface queue => exact kept_takeTransmitted h interface queue

theorem kept_run (h : d.Kept) (calls : List (Call β)) : (d.run calls).Kept := by
  induction calls generalizing d with
  | nil => exact h
  | cons call calls ih => exact ih (kept_step h call)

/-- Every delivery keeps the order and sends no frame twice. For all valid settings whose receive
policy fits the source queues there is a pipeline, and whatever calls follow, it sends a part of
the data frames that it received, in the order in which it received them. -/
theorem run_delivers (context : UInt16) (settings : Settings) (source destination : Binding)
    (drainBurst : Nat) (now : UInt64) (w : World β σ) (hvalid : settings.validate = .ok ())
    (hpolicy : settings.validateSourceQueues source.queues.length = .ok ())
    (hpending : ∀ queue, w.pending source.interface queue = [])
    (hretained : ∀ queue, w.retainedOn destination.interface queue = []) :
    ∃ p, Pipeline.create context settings source destination drainBurst now = .ok p ∧
      ∀ calls : List (Call β), ((start source destination p w).run calls).Delivers := by
  obtain ⟨p, hp⟩ : ∃ p : Pipeline β,
      Pipeline.create context settings source destination drainBurst now = .ok p :=
    Pipeline.create_eq_ok hvalid hpolicy
  refine ⟨p, hp, ?_⟩
  intro calls
  exact (kept_run (kept_fresh (Pipeline.create_fresh hp) hpending hretained) calls).delivers

/-- Two new interfaces, the second with two transmit queues. -/
def twoPorts : World Buffer NullSink where
  interfaces := [.create ⟨0, "left"⟩ 1 1, .create ⟨1, "right"⟩ 1 2]
  sink := {}
  clock := { hz := Clock.monotonicHz }
  pool := .create 16

/-- The statement at the default settings, between two new interfaces. -/
theorem run_delivers_twoPorts :
    ∃ p, Pipeline.create 1 {} { interface := 0, queues := .single 0 }
        { interface := 1, queues := ⟨[0, 1], by decide, by decide⟩ } 32 0 = .ok p ∧
      ∀ calls : List (Call Buffer),
        ((start { interface := 0, queues := .single 0 }
          { interface := 1, queues := ⟨[0, 1], by decide, by decide⟩ } p twoPorts).run
            calls).Delivers := by
  refine run_delivers 1 {} _ _ 32 0 twoPorts rfl rfl ?_ ?_
  · exact Interface.pending_create ⟨0, "left"⟩ 1 1 Interface.defaultRxDepth
  · exact Interface.retainedOn_create ⟨1, "right"⟩ 1 2 Interface.defaultRxDepth

end Delivery

end EtherRelay
