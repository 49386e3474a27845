import EtherRelay.Proofs.Forwarding.Delivery
import EtherRelay.Proofs.Forwarding.Images

/-!
# Deliveries that differ in what the frames hold

Two deliveries make the same calls, but inject other frames. As long as the frames that are
injected in the same place are both probes or both not, nothing that a context decides differs:
what is counted, how full the rings are, and what is transmitted when, on which queue and to what
extent. The frames that are sent come from the same places in both.

Behind it is one delivery of pairs, `Twins`. Each of the two deliveries is the image of that one,
and what is known of the frames that one delivery sends holds of the pairs. Frames may be of any
type here, so they can be told apart even if they hold the same bytes.
-/

namespace EtherRelay

variable {α β σ τ : Type}

/-- Frames that a forwarding context cannot tell apart. -/
structure Twins (β : Type) [FrameBuffer β] where
  first : β
  second : β
  isProbe_eq : Receiver.isProbe second = Receiver.isProbe first

namespace Twins

variable [FrameBuffer β]

/-- A pair counts as its first frame. -/
instance : FrameBuffer (Twins β) where
  frame twins := FrameBuffer.frame twins.first
  release twins := FrameBuffer.release twins.first

/-- The same frame twice. -/
def same (b : β) : Twins β := ⟨b, b, rfl⟩

theorem isProbe_first (twins : Twins β) : Receiver.isProbe twins.first = Receiver.isProbe twins :=
  rfl

theorem isProbe_second (twins : Twins β) : Receiver.isProbe twins.second = Receiver.isProbe twins :=
  twins.isProbe_eq

/-- Bursts whose frames are alike one by one are the two sides of a burst of pairs. -/
theorem exists_map_eq {burst burst' : List β}
    (h : List.Forall₂ (fun b b' => Receiver.isProbe b' = Receiver.isProbe b) burst burst') :
    ∃ twins : List (Twins β), twins.map first = burst ∧ twins.map second = burst' := by
  induction h with
  | nil => exact ⟨[], rfl, rfl⟩
  | @cons b b' burst burst' hb _ ih =>
      obtain ⟨twins, rfl, rfl⟩ := ih
      exact ⟨⟨b, b', hb⟩ :: twins, rfl, rfl⟩

end Twins

/-! ## Places in a list -/

/-- The items of a sublist stand at distinct places of the list. -/
theorem exists_places_of_sublist {γ : Type} {part xs : List γ} (h : part.Sublist xs) :
    ∃ places : List Nat, places.Nodup ∧
      List.Forall₂ (fun place x => xs[place]? = some x) places part := by
  induction h with
  | slnil => exact ⟨[], List.nodup_nil, .nil⟩
  | cons y _ ih =>
      obtain ⟨places, hnodup, hplaces⟩ := ih
      refine ⟨places.map (· + 1), hnodup.map (add_left_injective 1), ?_⟩
      rw [List.forall₂_map_left_iff]
      exact hplaces.imp fun _ _ hx => List.getElem?_cons_succ.trans hx
  | cons_cons y _ ih =>
      obtain ⟨places, hnodup, hplaces⟩ := ih
      refine ⟨0 :: places.map (· + 1), ?_, .cons List.getElem?_cons_zero ?_⟩
      · rw [List.nodup_cons]
        exact ⟨by simp, hnodup.map (add_left_injective 1)⟩
      · rw [List.forall₂_map_left_iff]
        exact hplaces.imp fun _ _ hx => List.getElem?_cons_succ.trans hx

/-- So they do if their order is another one. -/
theorem exists_places_of_subperm {γ : Type} {part xs : List γ} (h : part.Subperm xs) :
    ∃ places : List Nat, places.Nodup ∧ places.map (xs[·]?) = part.map some := by
  obtain ⟨sorted, hperm, hsub⟩ := h
  obtain ⟨places, hnodup, hplaces⟩ := exists_places_of_sublist hsub
  have hcomp : Relation.Comp (List.Forall₂ fun place x => xs[place]? = some x) List.Perm
      places part := ⟨sorted, hplaces, hperm⟩
  rw [List.forall₂_comp_perm_eq_perm_comp_forall₂] at hcomp
  obtain ⟨places', hperm', hplaces'⟩ := hcomp
  refine ⟨places', hperm'.nodup_iff.mp hnodup, ?_⟩
  rw [← List.forall₂_eq_eq_eq, List.forall₂_map_left_iff, List.forall₂_map_right_iff]
  exact hplaces'

namespace Delivery

/-! ## Calls -/

/-- The call with the frames that it injects replaced by their images. -/
def Call.map (f : α → β) : Call α → Call β
  | .inject interface queue burst => .inject interface queue (burst.map f)
  | .receive => .receive
  | .transmit => .transmit
  | .drain => .drain
  | .setTxLimit interface queue limit => .setTxLimit interface queue limit
  | .takeTransmitted interface queue => .takeTransmitted interface queue

/-- Two calls are the same but for the content of the frames that they inject: frames in the same
place are both probes or both not. -/
inductive Call.Alike [FrameBuffer β] : Call β → Call β → Prop where
  | inject (interface : Nat) (queue : QueueId) {burst burst' : List β}
    (frames : List.Forall₂ (fun b b' => Receiver.isProbe b' = Receiver.isProbe b) burst burst') :
    Call.Alike (.inject interface queue burst) (.inject interface queue burst')
  | receive : Call.Alike .receive .receive
  | transmit : Call.Alike .transmit .transmit
  | drain : Call.Alike .drain .drain
  | setTxLimit (interface : Nat) (queue : QueueId) (limit : Option Nat) :
    Call.Alike (.setTxLimit interface queue limit) (.setTxLimit interface queue limit)
  | takeTransmitted (interface : Nat) (queue : QueueId) :
    Call.Alike (.takeTransmitted interface queue) (.takeTransmitted interface queue)

theorem Call.Alike.exists_map_eq [FrameBuffer β] {call call' : Call β} (h : call.Alike call') :
    ∃ twins : Call (Twins β), twins.map Twins.first = call ∧ twins.map Twins.second = call' := by
  cases h with
  | inject interface queue frames =>
      obtain ⟨twins, rfl, rfl⟩ := Twins.exists_map_eq frames
      exact ⟨.inject interface queue twins, rfl, rfl⟩
  | receive => exact ⟨.receive, rfl, rfl⟩
  | transmit => exact ⟨.transmit, rfl, rfl⟩
  | drain => exact ⟨.drain, rfl, rfl⟩
  | setTxLimit interface queue limit => exact ⟨.setTxLimit interface queue limit, rfl, rfl⟩
  | takeTransmitted interface queue => exact ⟨.takeTransmitted interface queue, rfl, rfl⟩

theorem exists_calls_map_eq [FrameBuffer β] {calls calls' : List (Call β)}
    (h : List.Forall₂ Call.Alike calls calls') :
    ∃ twins : List (Call (Twins β)),
      twins.map (Call.map Twins.first) = calls ∧ twins.map (Call.map Twins.second) = calls' := by
  induction h with
  | nil => exact ⟨[], rfl, rfl⟩
  | cons hcall _ ih =>
      obtain ⟨call, rfl, rfl⟩ := hcall.exists_map_eq
      obtain ⟨twins, rfl, rfl⟩ := ih
      exact ⟨call :: twins, rfl, rfl⟩

/-! ## What is transmitted when -/

section

variable [FrameBuffer β] [Sink σ]

/-- The call to transmit that a transmitter makes at its next poll, if there is anything to send. -/
def offer (t : Transmitter) (lane : Lane β) (w : World β σ) : List TransmitEvent :=
  let queue := t.rotation.queue t.queues
  let burst := (t.load lane).1
  if burst = [] then [] else [⟨queue, burst.length, (w.transmit t.interface queue burst).1⟩]

/-- The call to transmit that a call on the pipeline makes. -/
def offers (d : Delivery β σ) : Call β → List TransmitEvent
  | .transmit => (d.pipeline.transmitter.map (offer · d.pipeline.lane d.world)).getD []
  | _ => []

/-- The calls to transmit that the pipeline makes, in order. -/
def trace (d : Delivery β σ) : List (Call β) → List TransmitEvent
  | [] => []
  | call :: calls => d.offers call ++ (d.step call).trace calls

end

/-! ## One delivery as the image of another -/

/-- The delivery `d'` is the image of `d`: it made the same decisions about other frames. -/
structure Carries (f : α → β) (d : Delivery α σ) (d' : Delivery β τ) : Prop where
  source_eq : d'.source = d.source
  destination_eq : d'.destination = d.destination
  receiver_eq : d'.pipeline.receiver = d.pipeline.receiver
  transmitter_eq : d'.pipeline.transmitter = d.pipeline.transmitter
  monitor_eq : d'.pipeline.monitor = d.pipeline.monitor
  lane : d.pipeline.lane.Carries f Counter.IsForwarding d'.pipeline.lane
  world : d.world.Carries f (fun _ => True) d'.world
  injected_eq : d'.injected = d.injected.map f
  sent_eq : d'.sent = d.sent.map (Prod.map id f)

theorem map_tag (f : α → β) (queue : QueueId) (frames : List α) :
    (tag queue frames).map (Prod.map id f) = tag queue (frames.map f) := by
  simp [tag, Function.comp_def]

section

variable [FrameBuffer α] [FrameBuffer β] {f : α → β} {d : Delivery α σ} {d' : Delivery β τ}

theorem accepted_carries (t : Transmitter) {lane : Lane α} {lane' : Lane β} {w : World α σ}
    {w' : World β τ} (hl : lane.Carries f Counter.IsForwarding lane')
    (hw : w.Carries f (fun _ => True) w') :
    accepted t lane' w' = (accepted t lane w).map (Prod.map id f) ∧
      offer t lane' w' = offer t lane w := by
  obtain ⟨hburst, _⟩ := t.load_carries hl
  obtain ⟨haccepted, _, _⟩ :=
    hw.transmit t.interface trivial (t.rotation.queue t.queues) (t.load lane).1
  constructor
  · rw [accepted, accepted, map_tag, hburst, haccepted, List.map_take]
  · rw [offer, offer, hburst]
    simp only [haccepted, List.map_eq_nil_iff, List.length_map]

theorem Carries.offers_eq (h : d.Carries f d') (call : Call α) :
    d'.offers (call.map f) = d.offers call := by
  cases call with
  | transmit =>
      rw [Call.map, offers, offers, h.transmitter_eq]
      cases d.pipeline.transmitter with
      | none => rfl
      | some t => exact (accepted_carries t h.lane h.world).2
  | inject interface queue burst => rfl
  | receive => rfl
  | drain => rfl
  | setTxLimit interface queue limit => rfl
  | takeTransmitted interface queue => rfl

variable [Sink σ] [Sink τ] (hf : ∀ b, Receiver.isProbe (f b) = Receiver.isProbe b)
include hf

/-- A call on both deliveries decides alike. -/
theorem step_carries (h : d.Carries f d') (call : Call α) :
    (d.step call).Carries f (d'.step (call.map f)) := by
  cases call with
  | inject interface queue burst =>
      obtain ⟨haccepted, hworld⟩ := h.world.inject interface trivial queue burst
      simp only [Call.map, step, h.source_eq]
      split
      · refine { h with source_eq := rfl, world := hworld, injected_eq := ?_ }
        rw [h.injected_eq, List.map_append]
      · exact { h with source_eq := rfl, world := hworld }
  | receive =>
      simp only [Call.map, step, Pipeline.receive, h.receiver_eq]
      cases d.pipeline.receiver with
      | none => exact { h with sent_eq := h.sent_eq }
      | some r =>
          obtain ⟨_, hpoll⟩ := r.poll_carries hf h.lane h.world trivial
          exact
            { h with
              receiver_eq := congrArg some hpoll.answer_eq
              lane := hpoll.lane
              world := hpoll.world }
  | transmit =>
      simp only [Call.map, step, Pipeline.transmit, h.transmitter_eq]
      cases d.pipeline.transmitter with
      | none => exact { h with sent_eq := by simp [h.sent_eq] }
      | some t =>
          obtain ⟨_, hpoll⟩ := t.poll_carries h.lane h.world trivial
          refine
            { h with
              transmitter_eq := congrArg some hpoll.answer_eq
              lane := hpoll.lane
              world := hpoll.world
              sent_eq := ?_ }
          rw [Option.map_some, Option.getD_some, Option.map_some, Option.getD_some, h.sent_eq,
            List.map_append, (accepted_carries t h.lane h.world).1]
  | drain =>
      simp only [Call.map, step, Pipeline.drain, h.monitor_eq]
      cases d.pipeline.monitor with
      | none => exact { h with sent_eq := h.sent_eq }
      | some m =>
          obtain ⟨hlane, hworld⟩ := m.drain_carries h.lane h.world
          exact { h with monitor_eq := rfl, lane := hlane, world := hworld }
  | setTxLimit interface queue limit =>
      exact
        { h with world := h.world.modifyInterface interface fun hi => hi.setTxLimit queue limit }
  | takeTransmitted interface queue =>
      obtain ⟨_, hworld⟩ := h.world.takeTransmitted interface trivial queue
      simp only [Call.map, step, h.destination_eq]
      split
      · exact { h with destination_eq := rfl, world := hworld }
      · exact { h with destination_eq := rfl, world := hworld }

theorem run_carries (h : d.Carries f d') (calls : List (Call α)) :
    (d.run calls).Carries f (d'.run (calls.map (Call.map f))) ∧
      d'.trace (calls.map (Call.map f)) = d.trace calls := by
  induction calls generalizing d d' with
  | nil => exact ⟨h, rfl⟩
  | cons call calls ih =>
      obtain ⟨hrun, htrace⟩ := ih (step_carries hf h call)
      exact ⟨hrun, congrArg₂ (· ++ ·) (h.offers_eq call) htrace⟩

end

/-! ## Two deliveries -/

/-- Nothing that a delivery decides differs from another one, beside what its frames hold. -/
structure Indistinct (d d' : Delivery β σ) : Prop where
  get_eq : ∀ k : Counter, k.IsForwarding →
    d'.pipeline.lane.counters.get k = d.pipeline.lane.counters.get k
  length_relayRing_eq : d'.pipeline.lane.relayRing.length = d.pipeline.lane.relayRing.length
  length_statsRing_eq : d'.pipeline.lane.statsRing.length = d.pipeline.lane.statsRing.length
  /-- The calls to transmit, as each interface logged them. -/
  transmitLog_eq : ∀ index : Nat, d'.world.interfaces[index]?.map Interface.transmitLog =
    d.world.interfaces[index]?.map Interface.transmitLog
  /-- The frames were sent on the same queues. -/
  queues_eq : d'.sent.map Prod.fst = d.sent.map Prod.fst
  /-- The sent frames of both were injected at the same places, one by one. -/
  places_eq : ∃ places : List Nat, places.Nodup ∧
    places.map (d.injected[·]?) = (d.sent.map Prod.snd).map some ∧
    places.map (d'.injected[·]?) = (d'.sent.map Prod.snd).map some

/-- Two images of one delivery, if that sends no frame more often than it was injected. -/
theorem Carries.indistinct {f f' : α → β} {d : Delivery α σ} {d₁ d₂ : Delivery β σ}
    (h₁ : d.Carries f d₁) (h₂ : d.Carries f' d₂)
    (hsent : (d.sent.map Prod.snd).Subperm d.injected) : d₁.Indistinct d₂ := by
  have himages {f : α → β} {d' : Delivery β σ} (h : d.Carries f d') {places : List Nat}
      (hplaces : places.map (d.injected[·]?) = (d.sent.map Prod.snd).map some) :
      places.map (d'.injected[·]?) = (d'.sent.map Prod.snd).map some := by
    have hmap := congrArg (List.map (Option.map f)) hplaces
    simp only [List.map_map] at hmap
    simp only [h.injected_eq, h.sent_eq, List.getElem?_map, List.map_map]
    exact hmap
  refine
    { get_eq := ?_
      length_relayRing_eq := ?_
      length_statsRing_eq := ?_
      transmitLog_eq := ?_
      queues_eq := ?_
      places_eq := ?_ }
  · intro k hk
    rw [h₂.lane.get_eq k hk, h₁.lane.get_eq k hk]
  · rw [h₂.lane.relayRing_eq, h₁.lane.relayRing_eq, Ring.length_map, Ring.length_map]
  · rw [h₂.lane.statsRing_eq, h₁.lane.statsRing_eq, Ring.length_map, Ring.length_map]
  · intro index
    rw [h₂.world.transmitLog_eq trivial, h₁.world.transmitLog_eq trivial]
  · rw [h₂.sent_eq, h₁.sent_eq, List.map_map, List.map_map]
    rfl
  · obtain ⟨places, hnodup, hplaces⟩ := exists_places_of_subperm hsent
    exact ⟨places, hnodup, himages h₁ hplaces, himages h₂ hplaces⟩

/-- Pipelines for the same settings are images of each other. -/
theorem start_carries [FrameBuffer α] [FrameBuffer β] {f : α → β} {context : UInt16}
    {settings : Settings} {source destination : Binding} {drainBurst : Nat} {now : UInt64}
    {p : Pipeline α} {p' : Pipeline β} {w : World α σ} {w' : World β τ}
    (h : Pipeline.create context settings source destination drainBurst now = .ok p)
    (h' : Pipeline.create context settings source destination drainBurst now = .ok p')
    (hw : w.Carries f (fun _ => True) w') :
    (start source destination p w).Carries f (start source destination p' w') := by
  obtain ⟨hlane, hreceiver, htransmitter, hmonitor⟩ := Pipeline.carries_of_create h h'
  exact ⟨rfl, rfl, hreceiver, htransmitter, hmonitor, hlane, hw, rfl, rfl⟩

variable [FrameBuffer β] [Sink σ]

/-- What a context decides does not depend on what the frames hold. For all valid settings whose
receive policy fits the source queues there is a pipeline. Any two lists of calls that differ in the
content of the injected frames alone lead it through deliveries that cannot be told apart after any
number of calls. -/
theorem run_indistinct (context : UInt16) (settings : Settings) (source destination : Binding)
    (drainBurst : Nat) (now : UInt64) (w : World β σ) (hvalid : settings.validate = .ok ())
    (hpolicy : settings.validateSourceQueues source.queues.length = .ok ())
    (hpending : ∀ queue, w.pending source.interface queue = [])
    (hretained : ∀ queue, w.retainedOn destination.interface queue = []) :
    ∃ p, Pipeline.create context settings source destination drainBurst now = .ok p ∧
      ∀ calls calls' : List (Call β), List.Forall₂ Call.Alike calls calls' → ∀ n,
        (start source destination p w).trace (calls'.take n) =
            (start source destination p w).trace (calls.take n) ∧
          ((start source destination p w).run (calls.take n)).Indistinct
            ((start source destination p w).run (calls'.take n)) := by
  obtain ⟨p, hp⟩ : ∃ p : Pipeline β,
      Pipeline.create context settings source destination drainBurst now = .ok p :=
    Pipeline.create_eq_ok hvalid hpolicy
  obtain ⟨twins, htwins⟩ : ∃ twins : Pipeline (Twins β),
      Pipeline.create context settings source destination drainBurst now = .ok twins :=
    Pipeline.create_eq_ok hvalid hpolicy
  refine ⟨p, hp, ?_⟩
  intro calls calls' halike n
  obtain ⟨pairs, hpairs, hpairs'⟩ := exists_calls_map_eq (List.forall₂_take n halike)
  -- Both deliveries are images of the delivery of pairs, which starts with every frame twice.
  have hfirst : (start source destination twins (w.map Twins.same)).Carries Twins.first
      (start source destination p w) :=
    start_carries htwins hp (w.carries_map_of_leftInverse fun _ => rfl)
  have hsecond : (start source destination twins (w.map Twins.same)).Carries Twins.second
      (start source destination p w) :=
    start_carries htwins hp (w.carries_map_of_leftInverse fun _ => rfl)
  have hkept : (start source destination twins (w.map Twins.same)).Kept := by
    refine kept_fresh (Pipeline.create_fresh htwins) ?_ ?_
    · intro queue
      rw [World.pending_map, hpending, List.map_nil]
    · intro queue
      rw [World.retainedOn_map, hretained, List.map_nil]
  obtain ⟨hrun, htrace⟩ := run_carries Twins.isProbe_first hfirst pairs
  obtain ⟨hrun', htrace'⟩ := run_carries Twins.isProbe_second hsecond pairs
  rw [← hpairs, ← hpairs', htrace, htrace']
  exact ⟨rfl, hrun.indistinct hrun' (kept_run hkept pairs).delivers.sent_subperm⟩

/-- The statement at the default settings, between two new interfaces. -/
theorem run_indistinct_twoPorts :
    ∃ p, Pipeline.create 1 {} { interface := 0, queues := .single 0 }
        { interface := 1, queues := ⟨[0, 1], by decide, by decide⟩ } 32 0 = .ok p ∧
      ∀ calls calls' : List (Call Buffer), List.Forall₂ Call.Alike calls calls' → ∀ n,
        (start { interface := 0, queues := .single 0 }
              { interface := 1, queues := ⟨[0, 1], by decide, by decide⟩ } p twoPorts).trace
            (calls'.take n) =
          (start { interface := 0, queues := .single 0 }
              { interface := 1, queues := ⟨[0, 1], by decide, by decide⟩ } p twoPorts).trace
            (calls.take n) ∧
        ((start { interface := 0, queues := .single 0 }
          { interface := 1, queues := ⟨[0, 1], by decide, by decide⟩ } p twoPorts).run
            (calls.take n)).Indistinct
          ((start { interface := 0, queues := .single 0 }
            { interface := 1, queues := ⟨[0, 1], by decide, by decide⟩ } p twoPorts).run
              (calls'.take n)) := by
  refine run_indistinct 1 {} _ _ 32 0 twoPorts rfl rfl ?_ ?_
  · exact Interface.pending_create ⟨0, "left"⟩ 1 1 Interface.defaultRxDepth
  · exact Interface.retainedOn_create ⟨1, "right"⟩ 1 2 Interface.defaultRxDepth

end Delivery

end EtherRelay
