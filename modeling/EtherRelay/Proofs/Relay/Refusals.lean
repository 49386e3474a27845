import EtherRelay.Proofs.Context.Refusals
import EtherRelay.Proofs.Relay.Reconciliation

/-!
# Refused frames on both sides

A transmit stage counts the frames that it has to drop because they were not accepted, and the
interface counts the frames that it refuses. Both accounts are of the same frames but for one kind:
a context may be bound to queues that its destination does not have, and the interface knows nothing
of the stray frames that are offered there. The main statement books all frames that are offered to
an interface, and says of the interfaces of a relay that what they refused is what the contexts
dropped, less the stray frames.
-/

namespace EtherRelay

variable {β σ : Type}

namespace Station

/-! ## Actions -/

/-- What happens to a station: a context is added to a relay that is not started, the relay is
started, or a move is made. -/
inductive Action (β : Type) where
  | add (id : UInt16) (source destination : Binding)
  | launch
  | move (move : Move β)

section

variable [FrameBuffer β] [Sink σ]

/-- Perform one action. -/
def perform (s : Station β σ) : Action β → Station β σ
  | .add id source destination =>
    if s.relay.phase = .building then s.add id source destination else s
  | .launch => s.launch
  | .move move => s.step move

/-- Perform actions in order. -/
def performAll (s : Station β σ) (actions : List (Action β)) : Station β σ :=
  actions.foldl perform s

/-- How many stray frames an action offers to an interface. -/
def strays (s : Station β σ) (j : Nat) : Action β → Nat
  | .move (.act context role) =>
    match s.relay.contexts[context]? with
    | none => 0
    | some c => if j = c.destination.interface then c.strays s.world role else 0
  | _ => 0

/-- How many of them several actions offer. -/
def straysOver (s : Station β σ) (j : Nat) : List (Action β) → Nat
  | [] => 0
  | action :: actions => s.strays j action + (s.perform action).straysOver j actions

end

/-- The frames that were dropped because an interface did not accept them, by the contexts that end
there. -/
def droppedAt (s : Station β σ) (j : Nat) : Nat :=
  Context.tally Context.destination .txPartialDrops j s.relay.contexts

/-- The ends that contexts transmit on. -/
def destinations (s : Station β σ) : List Binding := s.relay.contexts.map Context.destination

/-- From one state to the next, the contexts forward and drop so many frames at each interface, and
the interface counts them; stray ones it does not. -/
structure Books (strays : Nat → Nat) (s s' : Station β σ) : Prop where
  forwards : ∃ forwarded : Nat → Nat, ∀ j,
    s'.world.txPackets j = s.world.txPackets j + UInt64.ofNat (forwarded j) ∧
      UInt64.ofNat (s'.forwardedTo j) =
        UInt64.ofNat (s.forwardedTo j) + UInt64.ofNat (forwarded j)
  drops : ∃ dropped : Nat → Nat, ∀ j,
    s'.world.txErrors j + UInt64.ofNat (strays j) =
        s.world.txErrors j + UInt64.ofNat (dropped j) ∧
      UInt64.ofNat (s'.droppedAt j) = UInt64.ofNat (s.droppedAt j) + UInt64.ofNat (dropped j)
  txQueueCount_eq : ∀ j, s'.world.txQueueCount j = s.world.txQueueCount j

namespace Books

variable {s s' : Station β σ}

/-- Nothing is forwarded or dropped. -/
theorem of_eq (hforwarded : ∀ j, s'.forwardedTo j = s.forwardedTo j)
    (hdropped : ∀ j, s'.droppedAt j = s.droppedAt j)
    (hpackets : ∀ j, s'.world.txPackets j = s.world.txPackets j)
    (hrefuses : World.Refuses 0 0 0 s.world s'.world) : Books (fun _ => 0) s s' where
  forwards := by
    refine ⟨fun _ => 0, fun j => ⟨?_, ?_⟩⟩
    · rw [hpackets]
      exact (UInt64.add_zero _).symm
    · rw [hforwarded]
      exact (UInt64.add_zero _).symm
  drops := by
    refine ⟨fun _ => 0, fun j => ⟨?_, ?_⟩⟩
    · have herrors := hrefuses.txErrors_eq j
      rwa [ite_self] at herrors
    · rw [hdropped]
      exact (UInt64.add_zero _).symm
  txQueueCount_eq := hrefuses.txQueueCount_eq

/-- The contexts rest, whatever happens to the interfaces meanwhile. -/
theorem of_rests (hcontexts : List.Forall₂ Context.Rests s.relay.contexts s'.relay.contexts)
    (hpackets : ∀ j, s'.world.txPackets j = s.world.txPackets j)
    (hrefuses : World.Refuses 0 0 0 s.world s'.world) : Books (fun _ => 0) s s' := by
  have htally : ∀ k j, Context.tally Context.destination k j s'.relay.contexts =
      Context.tally Context.destination k j s.relay.contexts := fun k j =>
    Context.tally_rests k j (fun _ _ hc => hc.destination_eq) hcontexts
  exact of_eq (htally .forwarded) (htally .txPartialDrops) hpackets hrefuses

/-- The contexts rest, and nothing happens to the interfaces. -/
theorem of_idle (hcontexts : List.Forall₂ Context.Rests s.relay.contexts s'.relay.contexts)
    (hinterfaces : s'.world.interfaces = s.world.interfaces) : Books (fun _ => 0) s s' := by
  apply of_rests hcontexts
  case hpackets =>
    intro j
    rw [World.txPackets_def, hinterfaces, World.txPackets_def]
  case hrefuses => exact .of_interfaces hinterfaces

/-- An action of a worker. -/
theorem of_acts [FrameBuffer β] [Sink σ] {k : Nat} {c : Context β}
    (hc : s.relay.contexts[k]? = some c) (hwired : c.Wired) (role : WorkerRole) :
    Books (fun j => s.strays j (.move (.act k role))) s (s.step (.act k role)) := by
  obtain ⟨-, hends, received, sent, hflows⟩ := c.stepWorker_flows hwired role s.world
  obtain ⟨left, hcount, hrefuses⟩ := c.stepWorker_refuses hwired role s.world
  have hstep : s.step (.act k role) =
      { relay := { s.relay with contexts := s.relay.contexts.set k (c.stepWorker role s.world).1 }
        world := (c.stepWorker role s.world).2 } := by
    simp only [step, hc]
  rw [hstep]
  constructor
  case forwards =>
    refine ⟨fun j => if j = c.destination.interface then sent else 0, fun j => ?_⟩
    exact ⟨hflows.txPackets_eq j,
      Context.ofNat_tally_set _ j hc hends.destination_eq hflows.get_forwarded⟩
  case drops =>
    refine ⟨fun j => if j = c.destination.interface then left else 0, fun j => ?_⟩
    simp only [strays, hc]
    exact ⟨hrefuses.txErrors_eq j, Context.ofNat_tally_set _ j hc hends.destination_eq hcount⟩
  case txQueueCount_eq => exact hrefuses.txQueueCount_eq

end Books

section

variable [FrameBuffer β] [Sink σ] {s : Station β σ} {start : World β σ}

/-- Every action keeps both accounts. -/
theorem books_perform (h : ∀ c ∈ s.relay.contexts, c.Wired) (action : Action β) :
    Books (fun j => s.strays j action) s (s.perform action) := by
  have hresting : List.Forall₂ Context.Rests s.relay.contexts s.relay.contexts :=
    List.forall₂_refl _
  cases action with
  | add id source destination =>
    rw [perform]
    split
    · rcases s.relay.contexts_add id source destination s.world with
        hsame | ⟨c, hadded, -, -, hcounters, -⟩
      · exact .of_eq (fun j => congrArg (Context.tally _ _ j) hsame)
          (fun j => congrArg (Context.tally _ _ j) hsame) (fun _ => rfl) (.of_interfaces rfl)
      · have htally : ∀ k j, Context.tally Context.destination k j
            (s.add id source destination).relay.contexts =
              Context.tally Context.destination k j s.relay.contexts := fun k j =>
          (congrArg (Context.tally _ k j) hadded).trans
            (Context.tally_append_new _ k j _ hcounters)
        exact .of_eq (htally .forwarded) (htally .txPartialDrops) (fun _ => rfl)
          (.of_interfaces rfl)
    · exact .of_idle hresting rfl
  | launch =>
    obtain ⟨hcontexts, hinterfaces⟩ := launch_forall₂ (fun c w => (Context.Rests.launch c w).1) s
    exact .of_idle hcontexts hinterfaces
  | move move =>
    cases move with
    | inject interface queue burst =>
      exact .of_rests hresting (s.world.inject_arrives interface queue burst).txPackets_eq
        (.inject s.world interface queue burst)
    | act context role =>
      cases hc : s.relay.contexts[context]? with
      | none =>
        have hstep : s.perform (.move (.act context role)) = s := by simp only [perform, step, hc]
        have hstrays : (fun j => s.strays j (.move (.act context role))) = fun _ => 0 := by
          simp only [strays, hc]
        rw [hstep, hstrays]
        exact .of_idle hresting rfl
      | some c => exact .of_acts hc (h c (List.mem_of_getElem? hc)) role
    | stop context =>
      exact .of_idle (forall₂_modify Context.Rests.requestStop _ context) rfl
    | device kind interface =>
      exact .of_idle (s.device_rests kind interface) (s.world_device kind interface).1
    | setTxLimit interface queue limit =>
      have hhauls : World.Hauls interface interface 0 0 s.world
          (s.world.modifyInterface interface (·.setTxLimit queue limit)) := by
        refine .modifyInterface (.inl rfl) ?_ ?_ ?_ s.world <;> exact fun _ => rfl
      refine .of_rests hresting hhauls.txPackets_eq_of_none (.modifyInterface ?_ ?_ s.world)
      · exact fun _ => rfl
      · exact fun _ => List.length_modify _ _ _
    | takeTransmitted interface queue =>
      have hhauls := World.Hauls.takeTransmitted s.world interface queue
      exact .of_rests hresting hhauls.txPackets_eq_of_none
        (.takeTransmitted s.world interface queue)
    | pass ns cycles => exact .of_idle hresting rfl

/-! ## Contexts that are bound to queues that exist -/

omit [FrameBuffer β] [Sink σ] in
theorem aimed_add (r : Relay β) (id : UInt16) (source destination : Binding) (w : World β σ) :
    ∃ new, (r.add id source destination w).2.contexts = r.contexts ++ new ∧
      ∀ c ∈ new, c.Aimed := by
  rw [Relay.add]
  split
  · exact ⟨[], (List.append_nil _).symm, List.forall_mem_nil _⟩
  · split
    · exact ⟨[], (List.append_nil _).symm, List.forall_mem_nil _⟩
    · next c names hcreate =>
      have haimed := Context.aimed_create (congrArg Prod.fst hcreate)
      exact ⟨[c], rfl, List.forall_mem_singleton.mpr haimed⟩

/-- The contexts stay at their queues, and those that are new are at theirs. -/
theorem aimed_perform (s : Station β σ) (action : Action β) :
    ∃ kept new, (s.perform action).relay.contexts = kept ++ new ∧
      List.Forall₂ Context.StaysAimed s.relay.contexts kept ∧ ∀ c ∈ new, c.Aimed := by
  have hsame : List.Forall₂ Context.StaysAimed s.relay.contexts s.relay.contexts :=
    List.forall₂_refl _
  have hkept : ∀ {kept}, (s.perform action).relay.contexts = kept →
      List.Forall₂ Context.StaysAimed s.relay.contexts kept →
      ∃ kept new, (s.perform action).relay.contexts = kept ++ new ∧
        List.Forall₂ Context.StaysAimed s.relay.contexts kept ∧ ∀ c ∈ new, c.Aimed := by
    intro kept heq hstays
    exact ⟨kept, [], heq.trans (List.append_nil _).symm, hstays, List.forall_mem_nil _⟩
  cases action with
  | add id source destination =>
    by_cases hphase : s.relay.phase = .building
    · obtain ⟨new, hadded, hnew⟩ := aimed_add s.relay id source destination s.world
      refine ⟨_, new, ?_, hsame, hnew⟩
      rw [perform, if_pos hphase]
      exact hadded
    · apply hkept _ hsame
      rw [perform, if_neg hphase]
  | launch => exact hkept rfl (launch_forall₂ Context.StaysAimed.launch s).1
  | move move =>
    cases move with
    | act context role =>
      cases hc : s.relay.contexts[context]? with
      | none => exact hkept (by simp only [perform, step, hc]) hsame
      | some c =>
        have hset : (s.perform (.move (.act context role))).relay.contexts =
            s.relay.contexts.set context (c.stepWorker role s.world).1 := by
          simp only [perform, step, hc]
        exact hkept hset (forall₂_set hc (.stepWorker c role s.world))
    | stop context =>
      exact hkept rfl (forall₂_modify (fun _ => ⟨rfl, fun haimed => haimed⟩) _ context)
    | device kind interface =>
      apply hkept (s.contexts_device kind interface)
      split
      · rw [List.forall₂_map_right_iff, List.forall₂_same]
        exact fun c _ => .afterRemoval c interface
      · exact hsame
    | inject interface queue burst => exact hkept rfl hsame
    | setTxLimit interface queue limit => exact hkept rfl hsame
    | takeTransmitted interface queue => exact hkept rfl hsame
    | pass ns cycles => exact hkept rfl hsame

theorem all_aimed_perform (h : ∀ c ∈ s.relay.contexts, c.Aimed) (action : Action β) :
    ∀ c ∈ (s.perform action).relay.contexts, c.Aimed := by
  obtain ⟨kept, new, heq, hstays, hnew⟩ := s.aimed_perform action
  rw [heq]
  refine List.forall_mem_append.mpr ⟨?_, hnew⟩
  intro c' hc'
  obtain ⟨k, hk⟩ := List.mem_iff_getElem?.mp hc'
  obtain ⟨c, hc, hstays⟩ := exists_of_forall₂_getElem? hstays hk
  exact hstays.aimed (h c (List.mem_of_getElem? hc))

/-- Contexts come, and none goes. -/
theorem destinations_subset (s : Station β σ) (actions : List (Action β)) :
    s.destinations ⊆ (s.performAll actions).destinations := by
  induction actions generalizing s with
  | nil => exact List.Subset.refl _
  | cons action actions ih =>
    obtain ⟨kept, new, heq, hstays, -⟩ := s.aimed_perform action
    have hkept : kept.map Context.destination = s.destinations :=
      map_eq_of_forall₂ (hstays.imp fun _ _ hstays => hstays.destination_eq)
    refine List.Subset.trans ?_ (ih (s.perform action))
    rw [← hkept, destinations, heq, List.map_append]
    exact List.subset_append_left _ _

omit [FrameBuffer β] [Sink σ] in
/-- The contexts that end at an interface offer no stray frames if it has all their queues. -/
theorem strays_eq_zero (hwired : ∀ c ∈ s.relay.contexts, c.Wired)
    (haimed : ∀ c ∈ s.relay.contexts, c.Aimed) {j : Nat}
    (hqueues : ∀ d ∈ s.destinations, d.interface = j →
      ∀ queue ∈ d.queues.queues, queue.toNat < s.world.txQueueCount j) (action : Action β) :
    s.strays j action = 0 := by
  cases action with
  | move move =>
    cases move with
    | act context role =>
      rw [strays]
      split
      · rfl
      · next c hc =>
        have hmem := List.mem_of_getElem? hc
        split
        · next hj =>
          apply Context.strays_eq_zero (hwired c hmem) (haimed c hmem)
          rw [← hj]
          exact hqueues c.destination (List.mem_map_of_mem hmem) hj.symm
        · rfl
    | _ => rfl
  | _ => rfl

theorem Reachable.perform (h : Reachable start s) (action : Action β) :
    Reachable start (s.perform action) := by
  cases action with
  | add id source destination =>
    rw [Station.perform]
    split
    · next hphase => exact h.add hphase id source destination
    · exact h
  | launch => exact h.launch
  | move move => exact h.move move

/-- No stray frames are offered to an interface that has all queues that contexts transmit on. -/
theorem Reachable.straysOver_eq_zero (h : Reachable start s)
    (haimed : ∀ c ∈ s.relay.contexts, c.Aimed) (j : Nat) (actions : List (Action β))
    (hqueues : ∀ d ∈ (s.performAll actions).destinations, d.interface = j →
      ∀ queue ∈ d.queues.queues, queue.toNat < s.world.txQueueCount j) :
    s.straysOver j actions = 0 := by
  induction actions generalizing s with
  | nil => rfl
  | cons action actions ih =>
    have hcount := (books_perform h.orderly.wired action).txQueueCount_eq j
    have hrest : (s.perform action).straysOver j actions = 0 := by
      apply ih (h.perform action) (all_aimed_perform haimed action)
      rw [hcount]
      exact hqueues
    have hfirst : s.strays j action = 0 := by
      apply strays_eq_zero h.orderly.wired haimed
      -- No context goes, so what is true of all at the end is true of those that are there now.
      exact fun d hd => hqueues d (s.destinations_subset (action :: actions) hd)
    rw [straysOver, hfirst, hrest]

/-! ## Accounts -/

/-- The accounts of the interfaces and of the contexts since the start, as words. -/
structure Accounts (start : World β σ) (strays : Nat → Nat) (s : Station β σ) : Prop where
  /-- An interface transmitted what the contexts forwarded that end there. -/
  txPackets_eq : ∀ j, s.world.txPackets j = start.txPackets j + UInt64.ofNat (s.forwardedTo j)
  /-- It refused what they dropped, if the stray frames are added that it did not count. -/
  txErrors_eq : ∀ j, s.world.txErrors j + UInt64.ofNat (strays j) =
    start.txErrors j + UInt64.ofNat (s.droppedAt j)
  txQueueCount_eq : ∀ j, s.world.txQueueCount j = start.txQueueCount j

omit [FrameBuffer β] [Sink σ] in
theorem Accounts.books {strays more : Nat → Nat} {s' : Station β σ} (h : s.Accounts start strays)
    (hbooks : Books more s s') : s'.Accounts start fun j => strays j + more j where
  txPackets_eq j := by
    obtain ⟨forwarded, hforwards⟩ := hbooks.forwards
    rw [(hforwards j).1, (hforwards j).2, h.txPackets_eq, UInt64.add_assoc]
  txErrors_eq j := by
    obtain ⟨dropped, hdrops⟩ := hbooks.drops
    calc s'.world.txErrors j + UInt64.ofNat (strays j + more j)
        = s'.world.txErrors j + UInt64.ofNat (more j) + UInt64.ofNat (strays j) := by
          rw [Nat.add_comm, UInt64.ofNat_add, UInt64.add_assoc]
      _ = s.world.txErrors j + UInt64.ofNat (strays j) + UInt64.ofNat (dropped j) := by
          rw [(hdrops j).1, UInt64.add_assoc, UInt64.add_assoc,
            UInt64.add_comm (UInt64.ofNat (dropped j))]
      _ = start.txErrors j + UInt64.ofNat (s'.droppedAt j) := by
          rw [h.txErrors_eq, (hdrops j).2, UInt64.add_assoc]
  txQueueCount_eq j := (hbooks.txQueueCount_eq j).trans (h.txQueueCount_eq j)

/-- The accounts are kept over any actions. -/
theorem Accounts.performAll {strays : Nat → Nat} (hreach : Reachable start s)
    (h : s.Accounts start strays) (actions : List (Action β)) :
    (s.performAll actions).Accounts start fun j => strays j + s.straysOver j actions := by
  induction actions generalizing s strays with
  | nil => exact h
  | cons action actions ih =>
    have hrest := ih (hreach.perform action) (h.books (books_perform hreach.orderly.wired action))
    simp only [Nat.add_assoc] at hrest
    exact hrest

end

end Station

/-! ## All frames that are offered -/

theorem Station.accounts_start {relay : Relay β} (h : relay.contexts = []) (start : World β σ) :
    ({ relay, world := start } : Station β σ).Accounts start fun _ => 0 := by
  constructor <;> intro j
  · rw [forwardedTo, h]
    exact (UInt64.add_zero _).symm
  · rw [droppedAt, h]
    rfl
  · rfl

section

variable [FrameBuffer β] [Sink σ]

/-- Every frame that is offered for transmission is booked. A call to transmit accepts the front of
a burst and leaves the others in order; over any calls, what is offered is what was accepted, what a
queue refused, and what was stray, and the interface counts the first and the second. Whatever
happens to a relay, each interface transmitted what the contexts forwarded that end there, and
refused what they dropped less the stray frames; there are no stray frames where the interface has
the queues that the contexts transmit on. -/
theorem offers_booked {settings : Settings} {relay : Relay β}
    (h : Relay.create settings = .ok relay) :
    (∀ (i : Interface β) (registers : Hardware.Registers) (ns : Nat) (queue : QueueId)
      (burst : List β), i.Splits queue burst (i.transmit registers ns queue burst)) ∧
    (∀ (s : Interface.Wired β) (calls : List (Interface.Call β)), Interface.Books s calls) ∧
    ∀ (start : World β σ) (actions : List (Station.Action β)),
      let s : Station β σ := { relay, world := start }
      (s.performAll actions).Accounts start (fun j => s.straysOver j actions) ∧
        ∀ j, (∀ d ∈ (s.performAll actions).destinations, d.interface = j →
          ∀ queue ∈ d.queues.queues, queue.toNat < start.txQueueCount j) →
        s.straysOver j actions = 0 := by
  refine ⟨fun i registers ns queue burst => i.transmit_splits registers queue burst ns,
    Interface.callAll_books, ?_⟩
  intro start actions s
  have hnone : s.relay.contexts = [] := Relay.contexts_create h
  have hreach : Station.Reachable start s := .create h
  constructor
  · have haccounts := (Station.accounts_start hnone start).performAll hreach actions
    simp only [Nat.zero_add] at haccounts
    exact haccounts
  · intro j hqueues
    apply hreach.straysOver_eq_zero _ j actions hqueues
    rw [hnone]
    exact List.forall_mem_nil _

end

namespace Offers

def settings : Settings := { burstSize := 2, ringCapacity := 4, statsRingCapacity := 2 }

/-- Of two contexts that end at the same interface, one is bound to a queue that takes one frame at
a time, and the other to one that does not exist. Each has two frames to forward. -/
def actions : List (Station.Action Buffer) :=
  let left : Binding := { interface := 0, queues := .single 0 }
  let frame : Buffer := .ofFrame [1, 2, 3]
  [.add 1 left { interface := 1, queues := .single 0 },
    .add 2 left { interface := 1, queues := .single 5 }, .launch, .move (.setTxLimit 1 0 (some 1)),
    .move (.inject 0 0 [frame, frame]), .move (.act 0 .receive), .move (.act 0 .receive),
    .move (.inject 0 0 [frame, frame]), .move (.act 1 .receive), .move (.act 1 .receive),
    .move (.act 0 .transmit), .move (.act 0 .transmit), .move (.act 0 .transmit),
    .move (.act 1 .transmit), .move (.act 1 .transmit), .move (.act 1 .transmit)]

end Offers

open Offers in
/-- The statement where three frames are dropped and one of them is counted by the interface. -/
theorem offers_booked_missingQueue :
    ∃ relay : Relay Buffer, Relay.create settings = .ok relay ∧
      let s : Station Buffer NullSink := { relay, world := Station.freshPorts }
      (s.performAll actions).forwardedTo 1 = 1 ∧ (s.performAll actions).droppedAt 1 = 3 ∧
        s.straysOver 1 actions = 2 ∧ (s.performAll actions).world.txErrors 1 = 1 ∧
        (s.performAll actions).Accounts Station.freshPorts (fun j => s.straysOver j actions) := by
  have hcreate : Relay.create settings = .ok ({ settings } : Relay Buffer) :=
    Relay.create_eq_ok rfl
  obtain ⟨-, -, hstation⟩ := offers_booked (σ := NullSink) hcreate
  exact ⟨_, hcreate, by decide +kernel, by decide +kernel, by decide +kernel, by decide +kernel,
    (hstation Station.freshPorts actions).1⟩

/-- An interface of one transmit queue is offered two frames on another queue. -/
theorem offered_ne_counted :
    ¬ ∀ (s : Interface.Wired Buffer) (calls : List (Interface.Call Buffer)),
      s.1.counters = {} →
      (Interface.callAll s calls).1.counters.txPackets +
          (Interface.callAll s calls).1.counters.txErrors =
        UInt64.ofNat (Interface.offeredAll calls) := by
  intro hcounted
  have htwo := hcounted (.create ⟨0, "a"⟩ 1 1, {})
    [.transmit 0 1 [.ofFrame [1], .ofFrame [2]]] rfl
  revert htwo
  decide

end EtherRelay
