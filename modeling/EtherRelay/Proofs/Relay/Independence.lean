import EtherRelay.Proofs.Relay.Station
import EtherRelay.Proofs.Telemetry.Ledger

/-!
# Contexts do not notice each other

The contexts of a relay share the relay, the sink and the counter blocks. A context that shares no
interface with the others does what it would do alone: take any moves on a station, leave out those
that are about other contexts and their interfaces, and the context ends in the same state, with the
same frames at its interfaces and the same latency records.

The proof runs both stations side by side. A move that concerns the context is made in both, any
other move in the first one only, and `Accord` is what both keep in common.
-/

namespace EtherRelay

variable {β σ : Type}

/-! ## No time passes as frames come and go -/

namespace World

variable (w : World β σ) (index : Nat) (queue : QueueId)

theorem wallNs_inject [FrameBuffer β] (burst : List β) :
    (w.inject index queue burst).2.wallNs = w.wallNs := by
  rw [inject]
  split <;> rfl

theorem wallNs_takeTransmitted : (w.takeTransmitted index queue).2.wallNs = w.wallNs := by
  rw [takeTransmitted]
  split <;> rfl

end World

/-! ## The ends of a context -/

namespace Context

/-- Whether an interface is an end of the context. -/
def reaches (c : Context β) (interface : Nat) : Bool :=
  interface == c.source.interface || interface == c.destination.interface

theorem reaches_iff (c : Context β) (interface : Nat) :
    c.reaches interface = true ↔
      interface = c.source.interface ∨ interface = c.destination.interface := by
  rw [reaches, Bool.or_eq_true, beq_iff_eq, beq_iff_eq]

/-- Two contexts without a common interface. -/
def Apart (c d : Context β) : Prop := ∀ interface, c.reaches interface → ¬d.reaches interface

variable {c d d' : Context β}

theorem SameEnds.reaches_eq (h : c.SameEnds d) : d.reaches = c.reaches := by
  funext interface
  rw [reaches, h.source_eq, h.destination_eq, reaches]

theorem SameEnds.isBoundTo_eq (h : c.SameEnds d) (interface : InterfaceId) :
    d.isBoundTo interface = c.isBoundTo interface := by
  rw [isBoundTo, h.sourceId_eq, h.destinationId_eq, isBoundTo]

theorem Mirrors.requestStop {K : Counter → Prop} (h : d.Mirrors K d') :
    d.requestStop.Mirrors K d'.requestStop :=
  { h with lifecycle_eq := congrArg Lifecycle.requestStop h.lifecycle_eq }

theorem Mirrors.afterRemoval {K : Counter → Prop} (h : d.Mirrors K d') (interface : InterfaceId) :
    (d.afterRemoval interface).Mirrors K (d'.afterRemoval interface) := by
  have hbound : d'.isBoundTo interface = d.isBoundTo interface := by
    rw [isBoundTo, h.sourceId_eq, h.destinationId_eq, isBoundTo]
  rw [Context.afterRemoval, Context.afterRemoval, hbound]
  split
  · exact h.requestStop
  · exact h

end Context

namespace Station

/-- Whether a move is about the context `c` at the position `n`, or about its interfaces. Time
passes for everyone. -/
def Move.concerns (n : Nat) (c : Context β) : Move β → Bool
  | .inject interface _ _ => c.reaches interface
  | .act context _ => context == n
  | .stop context => context == n
  | .device _ interface => c.isBoundTo interface
  | .setTxLimit interface _ _ => c.reaches interface
  | .takeTransmitted interface _ => c.reaches interface
  | .pass _ _ => true

section

variable [Sink σ]

/-- What two stations have in common that were both reached from `s`, as far as the context at the
position `n` goes. -/
structure Accord (o : Outlook σ) (n : Nat) (s t u : Station β σ) : Prop where
  follows : List.Forall₂ Context.Follows s.relay.contexts t.relay.contexts
  context : Option.Rel (Context.Mirrors o.Counts) t.relay.contexts[n]? u.relay.contexts[n]?
  around : o.Around t.world u.world
  listens : u.relay.resets.isSome = t.relay.resets.isSome

end

variable [FrameBuffer β] [Sink σ] {o : Outlook σ} {n : Nat} {s t u : Station β σ} {c : Context β}

/-! ## Moves that leave parts of a station alone -/

theorem isSome_resets_step (s : Station β σ) (move : Move β) :
    (s.step move).relay.resets.isSome = s.relay.resets.isSome := by
  cases move with
  | act context role =>
      rw [step]
      split <;> rfl
  | device kind interface =>
      cases hresets : s.relay.resets with
      | none => simp [step, Relay.deviceEvent, hresets]
      | some count =>
          cases kind with
          | removed =>
              simp only [step, Relay.deviceEvent, hresets]
              exact congrArg Option.isSome hresets
          | reset => simp [step, Relay.deviceEvent, hresets, Relay.interfaceReset]
  | _ => rfl

/-! ## Moves that concern others -/

namespace Accord

omit [FrameBuffer β] in
/-- The context is where it was, with the same ends, and its workers are at them. -/
theorem exists_follows (h : Accord o n s t u) (hc : s.relay.contexts[n]? = some c) :
    ∃ d d', t.relay.contexts[n]? = some d ∧ u.relay.contexts[n]? = some d' ∧ c.Follows d ∧
      d.Mirrors o.Counts d' := by
  have hcontext := h.context
  obtain ⟨hn, _⟩ := List.getElem?_eq_some_iff.mp hc
  have hd := List.getElem?_eq_getElem (h.follows.length_eq ▸ hn)
  obtain ⟨c₀, hc₀, hfollows⟩ := exists_of_forall₂_getElem? h.follows hd
  cases hc.symm.trans hc₀
  rw [hd] at hcontext
  generalize u.relay.contexts[n]? = d'? at hcontext
  cases hcontext with
  | some hmirrors => exact ⟨_, _, hd, rfl, hfollows, hmirrors⟩

omit [FrameBuffer β] in
theorem wired (h : Accord o n s t u) (hs : s.Orderly) : ∀ d ∈ t.relay.contexts, d.Wired := by
  intro d hd
  obtain ⟨k, hk⟩ := List.mem_iff_getElem?.mp hd
  obtain ⟨c, hc, hfollows⟩ := exists_of_forall₂_getElem? h.follows hk
  exact hfollows.wired (hs.wired c (List.mem_of_getElem? hc))

theorem follows_step (h : Accord o n s t u) (hs : s.Orderly) (move : Move β) :
    List.Forall₂ Context.Follows s.relay.contexts (t.step move).relay.contexts :=
  forall₂_trans (fun _ _ _ hfirst => hfirst.trans) h.follows
    (outcome_step (h.wired hs) move).follows.1

/-- What becomes of the position `n` when others move. -/
theorem getElem?_step_of_not_concerns (h : Accord o n s t u) (hc : s.relay.contexts[n]? = some c)
    {move : Move β} (hmove : move.concerns n c = false) :
    (t.step move).relay.contexts[n]? = t.relay.contexts[n]? := by
  obtain ⟨d, _, hd, _, hfollows, _⟩ := h.exists_follows hc
  cases move with
  | act context role =>
      have hne : context ≠ n := beq_eq_false_iff_ne.mp hmove
      rw [step]
      split
      · rfl
      · exact List.getElem?_set_ne hne
  | stop context =>
      have hne : context ≠ n := beq_eq_false_iff_ne.mp hmove
      rw [step]
      simp [hne]
  | device kind interface =>
      have hbound : d.isBoundTo interface = false := (hfollows.isBoundTo_eq interface).trans hmove
      rw [contexts_device]
      split
      · rw [List.getElem?_map, hd, Option.map_some, Context.afterRemoval, hbound,
          if_neg Bool.false_ne_true]
      · rfl
  | pass => cases hmove
  | _ => rfl

/-- What the context finds around it stays when others move. -/
theorem around_step_of_not_concerns (h : Accord o n s t u) (hs : s.Orderly)
    (hc : s.relay.contexts[n]? = some c) (hid : o.context = c.id)
    (hreaches : ∀ j, o.Reaches j → c.reaches j) {move : Move β}
    (hmove : move.concerns n c = false)
    (hapart : ∀ m role, move = .act m role → ∀ d, s.relay.contexts[m]? = some d → c.Apart d) :
    o.Around (t.step move).world u.world := by
  have hne : ∀ {j k : Nat}, c.reaches k = false → o.Reaches j → j ≠ k := by
    rintro j k hk hj rfl
    exact Bool.false_ne_true (hk.symm.trans (hreaches j hj))
  have hagree := h.around.agree
  cases move with
  | inject interface queue burst =>
      refine h.around.left ?_ (t.world.wallNs_inject _ _ _) ?_
      · exact fun j hj => (t.world.inject_arrives interface queue burst).elsewhere j (hne hmove hj)
      · rw [step, World.sink_inject]
        exact hagree
  | act m role =>
      rw [step]
      split
      · exact h.around
      · next d hd =>
        obtain ⟨d₀, hd₀, hfollows⟩ := exists_of_forall₂_getElem? h.follows hd
        have hother : d.id ≠ o.context := by
          rw [hfollows.id_eq, hid]
          exact hs.id_ne hd₀ hc (beq_eq_false_iff_ne.mp hmove)
        obtain ⟨_, _, _, _, hflows⟩ :=
          Context.stepWorker_flows (hfollows.wired (hs.wired _ (List.mem_of_getElem? hd₀))) role
            t.world
        have hclear : ∀ j, o.Reaches j → ¬d.reaches j := by
          intro j hj
          rw [hfollows.reaches_eq]
          exact hapart m role rfl d₀ hd₀ j (hreaches j hj)
        refine h.around.left ?_ hflows.wallNs_eq (o.agree_offered hother hflows.offered hagree)
        intro j hj
        have hj' := hclear j hj
        rw [d.reaches_iff, not_or] at hj'
        exact hflows.elsewhere j hj'.1 hj'.2
  | stop context => exact h.around
  | device kind interface =>
      obtain ⟨hinterfaces, hwallNs, hsink⟩ := t.world_device kind interface
      exact h.around.left (fun _ _ => by rw [hinterfaces]) hwallNs (hsink ▸ hagree)
  | setTxLimit interface queue limit =>
      refine h.around.left ?_ rfl hagree
      intro j hj
      rw [step, World.modifyInterface, List.getElem?_modify]
      simp [(hne hmove hj).symm]
  | takeTransmitted interface queue =>
      refine h.around.left ?_ (t.world.wallNs_takeTransmitted _ _) ?_
      · exact fun j hj => (World.Hauls.takeTransmitted t.world interface queue).elsewhere j
          (hne hmove hj) (hne hmove hj)
      · rw [step, World.sink_takeTransmitted]
        exact hagree
  | pass => cases hmove

/-- Others move, in the first station. -/
theorem step_of_not_concerns (h : Accord o n s t u) (hs : s.Orderly)
    (hc : s.relay.contexts[n]? = some c) (hid : o.context = c.id)
    (hreaches : ∀ j, o.Reaches j → c.reaches j) {move : Move β}
    (hmove : move.concerns n c = false)
    (hapart : ∀ m role, move = .act m role → ∀ d, s.relay.contexts[m]? = some d → c.Apart d) :
    Accord o n s (t.step move) u where
  follows := h.follows_step hs move
  context := by
    rw [h.getElem?_step_of_not_concerns hc hmove]
    exact h.context
  around := h.around_step_of_not_concerns hs hc hid hreaches hmove hapart
  listens := h.listens.trans (t.isSome_resets_step move).symm

/-! ## Moves that concern the context -/

/-- The same move is made in both stations. -/
theorem step_of_concerns (h : Accord o n s t u) (hs : s.Orderly)
    (hc : s.relay.contexts[n]? = some c) (hid : o.context = c.id)
    (hreaches : ∀ j, c.reaches j → o.Reaches j) {move : Move β}
    (hmove : move.concerns n c = true) : Accord o n s (t.step move) (u.step move) := by
  obtain ⟨d, d', hd, hd', hfollows, hmirrors⟩ := h.exists_follows hc
  have hboth : Option.Rel (Context.Mirrors o.Counts) (t.step move).relay.contexts[n]?
        (u.step move).relay.contexts[n]? ∧
      o.Around (t.step move).world (u.step move).world := by
    have hagree := h.around.agree
    cases move with
    | inject interface queue burst =>
        obtain ⟨_, hcarries⟩ :=
          h.around.carries.inject interface (hreaches interface hmove) queue burst
        rw [List.map_id'] at hcarries
        refine ⟨h.context, hcarries, ?_, ?_⟩
        · rw [step, step, World.wallNs_inject, World.wallNs_inject]
          exact h.around.wallNs_eq
        · rw [step, step, World.sink_inject, World.sink_inject]
          exact hagree
    | act context role =>
        obtain rfl : context = n := eq_of_beq hmove
        have hends := d.reaches_iff
        rw [hfollows.reaches_eq] at hends
        obtain ⟨hafter, haround⟩ := o.stepWorker hmirrors h.around (hfollows.id_eq.trans hid.symm)
          (h.wired hs d (List.mem_of_getElem? hd)) (hreaches _ ((hends _).mpr (.inl rfl)))
          (hreaches _ ((hends _).mpr (.inr rfl))) role
        rw [step, step, hd, hd']
        dsimp only
        rw [List.getElem?_set_self (List.getElem?_eq_some_iff.mp hd).1,
          List.getElem?_set_self (List.getElem?_eq_some_iff.mp hd').1]
        exact ⟨.some hafter, haround⟩
    | stop context =>
        obtain rfl : context = n := eq_of_beq hmove
        rw [step, step]
        simp only [List.getElem?_modify_eq, hd, hd', Option.map_eq_map, Option.map_some]
        exact ⟨.some hmirrors.requestStop, h.around⟩
    | device kind interface =>
        refine ⟨?_, h.around.aside (t.world_device kind interface) (u.world_device kind interface)⟩
        rw [contexts_device, contexts_device, h.listens]
        split
        · rw [List.getElem?_map, List.getElem?_map, hd, hd']
          exact .some (hmirrors.afterRemoval interface)
        · exact h.context
    | setTxLimit interface queue limit =>
        have hcarries := h.around.carries.modifyInterface interface
          fun hi => hi.setTxLimit queue limit
        exact ⟨h.context, { h.around with carries := hcarries }⟩
    | takeTransmitted interface queue =>
        obtain ⟨_, hcarries⟩ :=
          h.around.carries.takeTransmitted interface (hreaches interface hmove) queue
        refine ⟨h.context, hcarries, ?_, ?_⟩
        · rw [step, step, World.wallNs_takeTransmitted, World.wallNs_takeTransmitted]
          exact h.around.wallNs_eq
        · rw [step, step, World.sink_takeTransmitted, World.sink_takeTransmitted]
          exact hagree
    | pass ns cycles =>
        refine ⟨h.context, h.around.carries.of_interfaces rfl rfl, ?_, hagree⟩
        exact congrArg (· + ns) h.around.wallNs_eq
  exact
    { follows := h.follows_step hs move
      context := hboth.1
      around := hboth.2
      listens := by rw [isSome_resets_step, isSome_resets_step, h.listens] }

/-! ## Runs -/

/-- Any moves are made in the first station, and those that concern the context in the second. -/
theorem run (h : Accord o n s t u) (hs : s.Orderly) (hc : s.relay.contexts[n]? = some c)
    (hid : o.context = c.id) (hreaches : ∀ j, o.Reaches j ↔ c.reaches j) (moves : List (Move β))
    (hapart : ∀ m role, .act m role ∈ moves → m ≠ n → ∀ d, s.relay.contexts[m]? = some d →
      c.Apart d) :
    Accord o n s (t.run moves) (u.run (moves.filter (Move.concerns n c))) := by
  induction moves generalizing t u with
  | nil => exact h
  | cons move moves ih =>
      have hrest := fun m role hmem => hapart m role (List.mem_cons_of_mem move hmem)
      cases hmove : move.concerns n c with
      | true =>
          rw [List.filter_cons_of_pos hmove]
          exact ih (h.step_of_concerns hs hc hid (fun j => (hreaches j).mpr) hmove) hrest
      | false =>
          rw [List.filter_cons_of_neg (by rw [hmove]; decide)]
          refine ih (h.step_of_not_concerns hs hc hid (fun j => (hreaches j).mp) hmove ?_) hrest
          rintro m role rfl
          exact hapart m role List.mem_cons_self (beq_eq_false_iff_ne.mp hmove)

omit [FrameBuffer β] in
/-- Before any moves there is one station. -/
theorem refl (o : Outlook σ) (n : Nat) (s : Station β σ) : Accord o n s s s where
  follows := List.forall₂_refl _
  context := by
    cases s.relay.contexts[n]? with
    | none => exact .none
    | some c => exact .some (.refl c)
  around := ⟨s.world.carries_refl, rfl, o.agree_refl _⟩
  listens := rfl

end Accord

/-! ## The statement -/

/-- A context in one world and in another one is in the same state, and so are its interfaces. What
its samples say is left open, and so is how many records the sink refused. -/
structure SameCourse (c c' : Context β) (w w' : World β σ) : Prop where
  relayRing_eq : c'.lane.relayRing = c.lane.relayRing
  statsRing_eq : c'.lane.statsRing = c.lane.statsRing
  get_eq : ∀ k, k ≠ .publishFailures → c'.lane.counters.get k = c.lane.counters.get k
  lifecycle_eq : c'.lifecycle = c.lifecycle
  workers : c.body.Alike c'.body
  pending_eq : ∀ j, c.reaches j → ∀ queue, w'.pending j queue = w.pending j queue
  retainedOn_eq : ∀ j, c.reaches j → ∀ queue, w'.retainedOn j queue = w.retainedOn j queue
  transmitLog_eq : ∀ j, c.reaches j →
    w'.interfaces[j]?.map Interface.transmitLog = w.interfaces[j]?.map Interface.transmitLog

/-- One of the ends of the context is an interface with this port and this name. -/
def EndsAt (w : World β σ) (interface : InterfaceId) (c : Context β) : Prop :=
  ∃ binding ∈ [c.source, c.destination],
    (w.interfaceId binding.interface).port = interface.port ∧
      (w.interfaceId binding.interface).name = interface.name

instance (w : World β σ) (interface : InterfaceId) (c : Context β) :
    Decidable (EndsAt w interface c) :=
  inferInstanceAs (Decidable (∃ binding ∈ [c.source, c.destination], _ ∧ _))

omit [FrameBuffer β] [Sink σ] in
theorem Orderly.isBoundTo_iff (h : s.Orderly) (hc : c ∈ s.relay.contexts)
    (interface : InterfaceId) :
    c.isBoundTo interface = true ↔ EndsAt s.world interface c := by
  have hid : ∀ i : InterfaceId,
      i = interface ↔ i.port = interface.port ∧ i.name = interface.name := by
    intro i
    cases i
    cases interface
    simp
  rw [Context.isBoundTo, Bool.or_eq_true, beq_iff_eq, beq_iff_eq, h.sourceId_eq c hc,
    h.destinationId_eq c hc, hid, hid, EndsAt]
  simp

/-- A context is independent of the others. If those that act share no interface with it, it comes
to the same state as in the run of its own moves alone, and so do its interfaces. A sink that treats
all records alike then also refused as many of its records, and kept the same latencies. The removal
of an interface stops the contexts that end at one with its port and name, and changes no other:
after it, the flag of a context is raised if it was before or if the context ends there. -/
theorem Reachable.run_independent {start : World β σ} (h : Reachable start s) :
    (∀ n c, s.relay.contexts[n]? = some c → ∀ moves : List (Move β),
      (∀ m role, .act m role ∈ moves → m ≠ n → ∀ d, s.relay.contexts[m]? = some d → c.Apart d) →
      ∃ d d', (s.run moves).relay.contexts[n]? = some d ∧
        (s.run (moves.filter (Move.concerns n c))).relay.contexts[n]? = some d' ∧
        SameCourse d d' (s.run moves).world (s.run (moves.filter (Move.concerns n c))).world ∧
        ∀ ledger : Sink.Ledger σ,
          (∀ k, d'.lane.counters.get k = d.lane.counters.get k) ∧
            latenciesOf c.id
                (ledger.records (s.run (moves.filter (Move.concerns n c))).world.sink) =
              latenciesOf c.id (ledger.records (s.run moves).world.sink)) ∧
      ∀ interface,
        (s.relay.interfaceRemoved interface s.world).1.contexts =
          (s.relay.contexts.map fun c => if EndsAt s.world interface c then c.requestStop else c) ∧
        ∀ (n : Nat) (c : Context β), s.relay.contexts[n]? = some c →
          (s.relay.interfaceRemoved interface s.world).1.contexts[n]? =
            some { c with lifecycle := { c.lifecycle with
              stopRequested := c.lifecycle.stopRequested || EndsAt s.world interface c } } := by
  have hs := h.orderly
  refine ⟨?_, ?_⟩
  · intro n c hc moves hapart
    have haccord := (Accord.refl (.anySink σ c.id fun j => c.reaches j) n s).run hs hc rfl
      (fun _ => .rfl) moves hapart
    obtain ⟨d, d', hd, hd', hfollows, hmirrors⟩ := haccord.exists_follows hc
    have hreaches : ∀ j, d.reaches j → c.reaches j := fun j hj => hfollows.reaches_eq ▸ hj
    have hcarries := haccord.around.carries
    refine ⟨d, d', hd, hd', ?_, ?_⟩
    · refine ⟨hmirrors.lane.rings_eq.1, hmirrors.lane.rings_eq.2, hmirrors.lane.get_eq,
        hmirrors.lifecycle_eq, hmirrors.body, ?_, ?_, ?_⟩ <;> intro j hj
      · exact fun queue => (hcarries.pending_eq (hreaches j hj) queue).trans (List.map_id' _)
      · exact fun queue => (hcarries.retainedOn_eq (hreaches j hj) queue).trans (List.map_id' _)
      · exact hcarries.transmitLog_eq (hreaches j hj)
    · intro ledger
      have hledger := (Accord.refl (ledger.outlook c.id fun j => c.reaches j) n s).run hs hc rfl
        (fun _ => .rfl) moves hapart
      obtain ⟨e, e', he, he', _, hsame⟩ := hledger.exists_follows hc
      cases hd.symm.trans he
      cases hd'.symm.trans he'
      exact ⟨fun k => hsame.lane.get_eq k trivial, hledger.around.agree.latencies_eq⟩
  · intro interface
    have hstopped : (s.relay.interfaceRemoved interface s.world).1.contexts =
        s.relay.contexts.map fun c => if EndsAt s.world interface c then c.requestStop else c := by
      rw [Relay.contexts_interfaceRemoved]
      refine List.map_congr_left ?_
      intro c hc
      rw [Context.afterRemoval]
      exact if_congr (hs.isBoundTo_iff hc interface) rfl rfl
    refine ⟨hstopped, ?_⟩
    intro n c hc
    rw [hstopped, List.getElem?_map, hc, Option.map_some]
    split
    · next hends => simp only [hends, decide_true, Bool.or_true, Context.requestStop,
        Lifecycle.requestStop]
    · next hends => simp only [hends, decide_false, Bool.or_false]

/-- A new relay, with four new interfaces and an open sink. -/
def fourPorts : Station Buffer MemorySink where
  relay := { settings := { burstSize := 2, ringCapacity := 4, statsRingCapacity := 2 } }
  world :=
    { interfaces := [.create ⟨0, "a"⟩ 1 1, .create ⟨1, "b"⟩ 1 1, .create ⟨2, "c"⟩ 1 1,
        .create ⟨3, "d"⟩ 1 1]
      sink := {}
      clock := { hz := Clock.monotonicHz }
      pool := .create 16 }

/-- A context with two of the interfaces. -/
def oneLane : Station Buffer MemorySink :=
  fourPorts.add 1 { interface := 0, queues := .single 0 } { interface := 1, queues := .single 0 }

/-- Another one with the other two, and an id that begins like the first one. -/
def twoLanes : Station Buffer MemorySink :=
  (oneLane.add 11 { interface := 2, queues := .single 0 }
    { interface := 3, queues := .single 0 }).launch

/-- The statement for two contexts, whatever both of them do. The removal of an interface of the
second one stops that one and spares the first. -/
theorem run_independent_twoLanes :
    ∃ c, twoLanes.relay.contexts[0]? = some c ∧
      (twoLanes.relay.interfaceRemoved ⟨3, "d"⟩ twoLanes.world).1.contexts.map
        (·.lifecycle.stopRequested) = [false, true] ∧
      ∀ moves : List (Move Buffer), ∃ d d', (twoLanes.run moves).relay.contexts[0]? = some d ∧
        (twoLanes.run (moves.filter (Move.concerns 0 c))).relay.contexts[0]? = some d' ∧
        SameCourse d d' (twoLanes.run moves).world
          (twoLanes.run (moves.filter (Move.concerns 0 c))).world ∧
        (∀ k, d'.lane.counters.get k = d.lane.counters.get k) ∧
        latenciesOf 1 (twoLanes.run (moves.filter (Move.concerns 0 c))).world.sink.records =
          latenciesOf 1 (twoLanes.run moves).world.sink.records := by
  have hcreated : Reachable fourPorts.world fourPorts := .create (Relay.create_eq_ok rfl)
  have hadded : Reachable fourPorts.world oneLane := hcreated.add rfl 1 _ _
  have hreached : Reachable fourPorts.world twoLanes := (hadded.add rfl 11 _ _).launch
  have hends : twoLanes.relay.contexts.map
      (fun c => (c.source.interface, c.destination.interface)) = [(0, 1), (2, 3)] := by rfl
  obtain ⟨c, hc⟩ : ∃ c, twoLanes.relay.contexts[0]? = some c := ⟨_, rfl⟩
  have hid : c.id = 1 := by
    cases hc
    rfl
  have hremoved : (twoLanes.relay.interfaceRemoved ⟨3, "d"⟩ twoLanes.world).1.contexts.map
      (·.lifecycle.stopRequested) = [false, true] := by
    rw [(hreached.run_independent.2 ⟨3, "d"⟩).1]
    decide +kernel
  refine ⟨c, hc, hremoved, ?_⟩
  intro moves
  have hapart : ∀ m role, .act m role ∈ moves → m ≠ 0 → ∀ d,
      twoLanes.relay.contexts[m]? = some d → c.Apart d := by
    intro m role _ hm d hd
    have hfirst := congrArg (·[0]?) hends
    have hother := congrArg (·[m]?) hends
    simp only [List.getElem?_map, hc, hd, Option.map_some] at hfirst hother
    obtain _ | _ | m := m
    · exact absurd rfl hm
    · obtain ⟨hsource, hdestination⟩ := Prod.mk.inj (Option.some.inj hfirst)
      obtain ⟨hsource', hdestination'⟩ := Prod.mk.inj (Option.some.inj hother)
      intro j
      rw [c.reaches_iff, d.reaches_iff, hsource, hdestination, hsource', hdestination']
      omega
    · cases hother
  obtain ⟨d, d', hd, hd', hsame, hledger⟩ := hreached.run_independent.1 0 c hc moves hapart
  obtain ⟨hcounters, hlatencies⟩ := hledger MemorySink.ledger
  exact ⟨d, d', hd, hd', hsame, hcounters, hid ▸ hlatencies⟩

/-- A probe takes its way through each of two contexts, and only one of the records is found under
the first id. -/
example :
    let probe : Buffer := .ofFrame (Probe.Stamps.frame ⟨⟨5, 7⟩, ⟨3, 1⟩, ⟨2, 4⟩⟩)
    let rounds (m : Nat) : List (Move Buffer) :=
      [.act m .receive, .act m .receive] ++ List.replicate 4 (.act m .stats)
    let after := twoLanes.run
      ([.inject 2 0 [probe], .inject 0 0 [probe]] ++ rounds 1 ++ rounds 0)
    after.world.sink.records = ["Latency_stats(ctx-11),hop(0)=2024,hop(1)=988\n",
        "Latency_stats(ctx-1),hop(0)=2024,hop(1)=988\n"] ∧
      latenciesOf 1 after.world.sink.records =
        ["Latency_stats(ctx-1),hop(0)=2024,hop(1)=988\n"] := by
  decide +kernel

end Station

end EtherRelay
