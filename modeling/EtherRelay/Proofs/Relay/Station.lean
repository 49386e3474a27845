import EtherRelay.Proofs.Context.Flow
import EtherRelay.Proofs.Relay.Teardown
import Mathlib.Data.List.Forall2

/-!
# Relays in their worlds

A station is a relay together with the world that its contexts share. Callers, workers and devices
act on it in any order, one move at a time, and `Station.run` makes any number of them. A station is
`Reachable` if it comes about as the relay is created, contexts are added to it, it is started, and
moves are made at any time.

In every reachable station the workers of a context are at the interfaces that it is bound to, it
knows both interfaces by their names, and no two contexts have the same id.
-/

namespace EtherRelay

variable {β σ : Type}

/-- A relay and the world of its contexts. -/
structure Station (β σ : Type) where
  relay : Relay β
  world : World β σ

/-- What a caller, a worker or a device can do. Contexts are named by their position. -/
inductive Station.Move (β : Type) where
  | inject (interface : Nat) (queue : QueueId) (burst : List β)
  | act (context : Nat) (role : WorkerRole)
  | stop (context : Nat)
  | device (kind : DeviceEventKind) (interface : InterfaceId)
  | setTxLimit (interface : Nat) (queue : QueueId) (limit : Option Nat)
  | takeTransmitted (interface : Nat) (queue : QueueId)
  /-- Time passes, for the sleepers and for the cycle clock. -/
  | pass (ns : Nat) (cycles : UInt64)

/-! ## Contexts that keep their ends -/

namespace Context

/-- A later state of a context that is bound to the same ends. -/
structure Follows (c c' : Context β) : Prop extends c.SameEnds c' where
  wired : c.Wired → c'.Wired

theorem Follows.refl (c : Context β) : c.Follows c :=
  ⟨⟨rfl, rfl, rfl, rfl, rfl⟩, fun h => h⟩

instance : Std.Refl (@Follows β) := ⟨.refl⟩

theorem Follows.trans {c c' c'' : Context β} (h : c.Follows c') (h' : c'.Follows c'') :
    c.Follows c'' where
  id_eq := h'.id_eq.trans h.id_eq
  source_eq := h'.source_eq.trans h.source_eq
  destination_eq := h'.destination_eq.trans h.destination_eq
  sourceId_eq := h'.sourceId_eq.trans h.sourceId_eq
  destinationId_eq := h'.destinationId_eq.trans h.destinationId_eq
  wired hc := h'.wired (h.wired hc)

/-- A later state in which the lane did not change. -/
structure Rests (c c' : Context β) : Prop extends c.Follows c' where
  lane_eq : c'.lane = c.lane

theorem Rests.refl (c : Context β) : c.Rests c := ⟨.refl c, rfl⟩

instance : Std.Refl (@Rests β) := ⟨.refl⟩

theorem Rests.requestStop (c : Context β) : c.Rests c.requestStop :=
  ⟨⟨⟨rfl, rfl, rfl, rfl, rfl⟩, fun h => h⟩, rfl⟩

/-- What the removal of an interface does to a context: it stops if it is bound there. -/
def afterRemoval (interface : InterfaceId) (c : Context β) : Context β :=
  if c.isBoundTo interface then c.requestStop else c

theorem Rests.afterRemoval (c : Context β) (interface : InterfaceId) :
    c.Rests (c.afterRemoval interface) := by
  rw [Context.afterRemoval]
  split
  · exact .requestStop c
  · exact .refl c

theorem Rests.launch (c : Context β) (w : World β σ) :
    c.Rests ((c.launch w).getD (c, w)).1 ∧
      ((c.launch w).getD (c, w)).2.interfaces = w.interfaces := by
  rw [Context.launch]
  split
  · next receiver transmitter hbody =>
    refine ⟨⟨⟨⟨rfl, rfl, rfl, rfl, rfl⟩, ?_⟩, rfl⟩, rfl⟩
    intro hwired
    rw [Wired, hbody] at hwired
    exact ⟨hwired.1, hwired.2, rfl, rfl⟩
  · exact ⟨.refl c, rfl⟩

end Context

/-! ## Lists of contexts -/

/-- One of a list is replaced. -/
theorem forall₂_set {γ : Type} {R : γ → γ → Prop} [Std.Refl R] {xs : List γ} {k : Nat} {x y : γ}
    (hx : xs[k]? = some x) (hxy : R x y) : List.Forall₂ R xs (xs.set k y) := by
  induction xs generalizing k with
  | nil => cases hx
  | cons z xs ih =>
      cases k with
      | zero =>
          cases hx
          exact .cons hxy (List.forall₂_refl xs)
      | succ k => exact .cons (Std.Refl.refl z) (ih (List.getElem?_cons_succ.symm.trans hx))

theorem forall₂_modify {γ : Type} {R : γ → γ → Prop} [Std.Refl R] {f : γ → γ}
    (hf : ∀ x, R x (f x)) (xs : List γ) (k : Nat) : List.Forall₂ R xs (xs.modify k f) := by
  rw [List.modify_eq_set_getElem?]
  cases hx : xs[k]? with
  | none => exact List.forall₂_refl xs
  | some x => exact forall₂_set hx (hf x)

theorem forall₂_trans {γ δ ε : Type} {R : γ → δ → Prop} {S : δ → ε → Prop} {T : γ → ε → Prop}
    (h : ∀ x y z, R x y → S y z → T x z) {xs : List γ} {ys : List δ} {zs : List ε}
    (hxy : List.Forall₂ R xs ys) (hyz : List.Forall₂ S ys zs) : List.Forall₂ T xs zs := by
  induction hxy generalizing zs with
  | nil =>
      cases hyz
      exact .nil
  | cons hhead _ ih =>
      cases hyz with
      | cons hhead' htail' => exact .cons (h _ _ _ hhead hhead') (ih htail')

theorem exists_of_forall₂_getElem? {γ δ : Type} {R : γ → δ → Prop} {xs : List γ} {ys : List δ}
    (h : List.Forall₂ R xs ys) {k : Nat} {y : δ} (hy : ys[k]? = some y) :
    ∃ x, xs[k]? = some x ∧ R x y := by
  obtain ⟨hk, hget⟩ := List.getElem?_eq_some_iff.mp hy
  have hk' : k < xs.length := h.length_eq ▸ hk
  refine ⟨xs[k], List.getElem?_eq_getElem hk', ?_⟩
  have hrel := h.get hk' hk
  rwa [List.get_eq_getElem, List.get_eq_getElem, hget] at hrel

theorem map_eq_of_forall₂ {γ δ : Type} {g : γ → δ} {xs ys : List γ}
    (h : List.Forall₂ (fun x y => g y = g x) xs ys) : ys.map g = xs.map g := by
  induction h with
  | nil => rfl
  | cons hxy _ ih => rw [List.map_cons, List.map_cons, hxy, ih]

namespace Relay

/-- An operation on each context in order, which relates each one to what becomes of it. -/
theorem forEach_forall₂ {R : Context β → Context β → Prop} {Q : World β σ → Prop}
    {f : Context β → World β σ → Context β × World β σ}
    (hf : ∀ c w, Q w → R c (f c w).1 ∧ Q (f c w).2) (contexts : List (Context β))
    {w : World β σ} (hw : Q w) :
    List.Forall₂ R contexts (forEach f contexts w).1 ∧ Q (forEach f contexts w).2 := by
  induction contexts generalizing w with
  | nil => exact ⟨.nil, hw⟩
  | cons c contexts ih =>
      obtain ⟨hc, hw'⟩ := hf c w hw
      obtain ⟨hrest, hlast⟩ := ih hw'
      exact ⟨.cons hc hrest, hlast⟩

theorem contexts_interfaceRemoved (r : Relay β) (interface : InterfaceId) (w : World β σ) :
    (r.interfaceRemoved interface w).1.contexts =
      r.contexts.map (Context.afterRemoval interface) := by
  rw [interfaceRemoved]
  dsimp only
  generalize r.contexts = contexts
  induction contexts generalizing w with
  | nil => rfl
  | cons c contexts ih =>
      rw [forEach, List.map_cons, Context.afterRemoval]
      by_cases hbound : c.isBoundTo interface
      · simp only [if_pos hbound, ih]
      · simp only [if_neg hbound, ih]

/-- The removal of an interface is logged, and leaves everything else in the world alone. -/
theorem world_interfaceRemoved (r : Relay β) (interface : InterfaceId) (w : World β σ) :
    (r.interfaceRemoved interface w).2.interfaces = w.interfaces ∧
      (r.interfaceRemoved interface w).2.wallNs = w.wallNs ∧
      (r.interfaceRemoved interface w).2.sink = w.sink := by
  have hsame := forEach_forall₂ (R := fun _ _ => True)
    (Q := fun w' : World β σ =>
      w'.interfaces = w.interfaces ∧ w'.wallNs = w.wallNs ∧ w'.sink = w.sink)
    (f := fun c w => if c.isBoundTo interface then
      (c.requestStop, w.note (.interfaceRemoved c.id interface)) else (c, w))
    (fun c w' hw' => by split <;> exact ⟨trivial, hw'⟩) r.contexts ⟨rfl, rfl, rfl⟩
  exact hsame.2

end Relay

namespace Station

/-! ## Moves -/

section

variable [FrameBuffer β] [Sink σ]

/-- Make one move. Nothing happens if it is about something that is not there. -/
def step (s : Station β σ) : Move β → Station β σ
  | .inject interface queue burst => { s with world := (s.world.inject interface queue burst).2 }
  | .act context role =>
    match s.relay.contexts[context]? with
    | none => s
    | some c =>
      let (c, world) := c.stepWorker role s.world
      { relay := { s.relay with contexts := s.relay.contexts.set context c }, world }
  | .stop context =>
    { s with relay :=
      { s.relay with contexts := s.relay.contexts.modify context Context.requestStop } }
  | .device kind interface =>
    match s.relay.deviceEvent kind interface s.world with
    | none => s
    | some (relay, world) => { relay, world }
  | .setTxLimit interface queue limit =>
    { s with world := s.world.modifyInterface interface (·.setTxLimit queue limit) }
  | .takeTransmitted interface queue =>
    { s with world := (s.world.takeTransmitted interface queue).2 }
  | .pass ns cycles =>
    { s with world := { s.world.advanceClock cycles with wallNs := s.world.wallNs + ns } }

/-- Add a context to the relay, if it can be made. -/
def add (s : Station β σ) (id : UInt16) (source destination : Binding) : Station β σ :=
  { s with relay := (s.relay.add id source destination s.world).2 }

/-- Start the relay. A relay is started once only. -/
def launch (s : Station β σ) : Station β σ :=
  match s.relay.start s.world with
  | none => s
  | some (relay, world) => { relay, world }

/-- Make moves in order. -/
def run (s : Station β σ) (moves : List (Move β)) : Station β σ := moves.foldl step s

/-- The stations that are reached from a new relay in a given world. -/
inductive Reachable (start : World β σ) : Station β σ → Prop where
  | create {settings : Settings} {relay : Relay β} (h : Relay.create settings = .ok relay) :
      Reachable start { relay, world := start }
  | add {s : Station β σ} (h : Reachable start s) (hphase : s.relay.phase = .building)
      (id : UInt16) (source destination : Binding) : Reachable start (s.add id source destination)
  | launch {s : Station β σ} (h : Reachable start s) : Reachable start s.launch
  | move {s : Station β σ} (h : Reachable start s) (move : Move β) :
      Reachable start (s.step move)

theorem Reachable.run {start : World β σ} {s : Station β σ} (h : Reachable start s)
    (moves : List (Move β)) : Reachable start (s.run moves) := by
  induction moves generalizing s with
  | nil => exact h
  | cons move moves ih => exact ih (h.move move)

end

/-! ## What a move does -/

/-- From one state to the next, the contexts rest, or frames arrive at an interface, or one context
takes frames from its source or sends frames on its destination. -/
inductive Outcome [Sink σ] (s s' : Station β σ) : Prop where
  | rests (index : Nat)
      (hcontexts : List.Forall₂ Context.Rests s.relay.contexts s'.relay.contexts)
      (hworld : World.Hauls index index 0 0 s.world s'.world)
  | arrives (hcontexts : s'.relay.contexts = s.relay.contexts) {index accepted : Nat}
      (hworld : World.Arrives index accepted s.world s'.world)
  | acts {k : Nat} {c c' : Context β} (hc : s.relay.contexts[k]? = some c)
      (hcontexts : s'.relay.contexts = s.relay.contexts.set k c') (hfollows : c.Follows c')
      {received sent : Nat}
      (hflows : Lane.Flows c.source.interface c.destination.interface received sent c.lane s.world
        c'.lane s'.world)

/-- Every context is at its ends and knows their names, and contexts differ in their ids. -/
structure Orderly (s : Station β σ) : Prop where
  wired : ∀ c ∈ s.relay.contexts, c.Wired
  ids_nodup : (s.relay.contexts.map Context.id).Nodup
  sourceId_eq : ∀ c ∈ s.relay.contexts, c.sourceId = s.world.interfaceId c.source.interface
  destinationId_eq : ∀ c ∈ s.relay.contexts,
    c.destinationId = s.world.interfaceId c.destination.interface

theorem Orderly.id_ne {s : Station β σ} (h : s.Orderly) {m n : Nat} {c d : Context β}
    (hd : s.relay.contexts[m]? = some d) (hc : s.relay.contexts[n]? = some c) (hne : m ≠ n) :
    d.id ≠ c.id := by
  intro hid
  have hm : m < (s.relay.contexts.map Context.id).length := by
    rw [List.length_map]
    exact (List.getElem?_eq_some_iff.mp hd).1
  refine hne ((List.getElem?_inj hm h.ids_nodup).mp ?_)
  rw [List.getElem?_map, List.getElem?_map, hd, hc, Option.map_some, Option.map_some, hid]

section

variable [FrameBuffer β] [Sink σ] {s s' : Station β σ}

/-- A relay that was started hears of removed interfaces. -/
theorem contexts_device (s : Station β σ) (kind : DeviceEventKind) (interface : InterfaceId) :
    (s.step (.device kind interface)).relay.contexts =
      if s.relay.resets.isSome ∧ kind = .removed then
        s.relay.contexts.map (Context.afterRemoval interface)
      else s.relay.contexts := by
  cases hresets : s.relay.resets with
  | none => simp [step, Relay.deviceEvent, hresets]
  | some count =>
      cases kind with
      | removed =>
          simp only [step, Relay.deviceEvent, hresets, Option.isSome_some, and_self, if_true]
          exact s.relay.contexts_interfaceRemoved interface s.world
      | reset => simp [step, Relay.deviceEvent, hresets, Relay.interfaceReset]

theorem device_rests (s : Station β σ) (kind : DeviceEventKind) (interface : InterfaceId) :
    List.Forall₂ Context.Rests s.relay.contexts
      (s.step (.device kind interface)).relay.contexts := by
  rw [contexts_device]
  split
  · rw [List.forall₂_map_right_iff, List.forall₂_same]
    exact fun c _ => .afterRemoval c interface
  · exact List.forall₂_refl _

theorem world_device (s : Station β σ) (kind : DeviceEventKind) (interface : InterfaceId) :
    (s.step (.device kind interface)).world.interfaces = s.world.interfaces ∧
      (s.step (.device kind interface)).world.wallNs = s.world.wallNs ∧
      (s.step (.device kind interface)).world.sink = s.world.sink := by
  cases hresets : s.relay.resets with
  | none => simp [step, Relay.deviceEvent, hresets]
  | some count =>
      cases kind with
      | removed =>
          simp only [step, Relay.deviceEvent, hresets]
          exact s.relay.world_interfaceRemoved interface s.world
      | reset =>
          simp only [step, Relay.deviceEvent, hresets]
          exact ⟨rfl, rfl, rfl⟩

theorem outcome_step (h : ∀ c ∈ s.relay.contexts, c.Wired) (move : Move β) :
    Outcome s (s.step move) := by
  have hresting : List.Forall₂ Context.Rests s.relay.contexts s.relay.contexts :=
    List.forall₂_refl _
  cases move with
  | inject interface queue burst =>
      exact .arrives rfl (s.world.inject_arrives interface queue burst)
  | act context role =>
      rw [step]
      split
      · exact .rests 0 hresting (.of_interfaces rfl)
      · next c hc =>
        obtain ⟨hwired, hends, _, _, hflows⟩ :=
          Context.stepWorker_flows (h c (List.mem_of_getElem? hc)) role s.world
        exact .acts hc rfl { hends with wired := fun _ => hwired } hflows
  | stop context =>
      exact .rests 0 (forall₂_modify Context.Rests.requestStop _ context) (.of_interfaces rfl)
  | device kind interface =>
      exact .rests 0 (s.device_rests kind interface)
        (.of_interfaces (s.world_device kind interface).1)
  | setTxLimit interface queue limit =>
      refine .rests interface hresting (.modifyInterface (.inl rfl) ?_ ?_ ?_ s.world) <;>
        exact fun _ => rfl
  | takeTransmitted interface queue =>
      exact .rests interface hresting (.takeTransmitted s.world interface queue)
  | pass ns cycles => exact .rests 0 hresting (.of_interfaces rfl)

omit [FrameBuffer β] [Sink σ] in
/-- The start of a relay relates each context to what its launch makes of it, and leaves the
interfaces alone. -/
theorem launch_forall₂ {R : Context β → Context β → Prop} [Std.Refl R]
    (hR : ∀ (c : Context β) (w : World β σ), R c ((c.launch w).getD (c, w)).1)
    (s : Station β σ) :
    List.Forall₂ R s.relay.contexts s.launch.relay.contexts ∧
      s.launch.world.interfaces = s.world.interfaces := by
  rw [launch]
  split
  · exact ⟨List.forall₂_refl _, rfl⟩
  · next hstart =>
    rw [Relay.start] at hstart
    split at hstart
    · cases hstart
      exact Relay.forEach_forall₂ (Q := fun w : World β σ => w.interfaces = s.world.interfaces)
        (fun c w hw => ⟨hR c w, (Context.Rests.launch c w).2.trans hw⟩) s.relay.contexts rfl
    · cases hstart

omit [FrameBuffer β] in
theorem outcome_launch (s : Station β σ) : Outcome s s.launch := by
  obtain ⟨hcontexts, hinterfaces⟩ := launch_forall₂ (fun c w => (Context.Rests.launch c w).1) s
  exact .rests 0 hcontexts (.of_interfaces hinterfaces)

omit [FrameBuffer β] in
theorem Outcome.follows (h : Outcome s s') :
    List.Forall₂ Context.Follows s.relay.contexts s'.relay.contexts ∧
      ∀ j, s'.world.interfaceId j = s.world.interfaceId j := by
  cases h with
  | rests index hcontexts hworld =>
      exact ⟨hcontexts.imp fun _ _ hrests => hrests.toFollows, hworld.interfaceId_eq⟩
  | arrives hcontexts hworld =>
      rw [hcontexts]
      exact ⟨List.forall₂_refl _, hworld.interfaceId_eq⟩
  | acts hc hcontexts hfollows hflows =>
      rw [hcontexts]
      exact ⟨forall₂_set hc hfollows, hflows.interfaceId_eq⟩

omit [FrameBuffer β] in
/-- The contexts keep their ends, and the interfaces their names. -/
theorem Orderly.outcome (h : s.Orderly) (houtcome : Outcome s s') : s'.Orderly := by
  obtain ⟨hcontexts, hnames⟩ := houtcome.follows
  have hmem : ∀ c' ∈ s'.relay.contexts, ∃ c ∈ s.relay.contexts, c.Follows c' := by
    intro c' hc'
    obtain ⟨k, hk⟩ := List.mem_iff_getElem?.mp hc'
    obtain ⟨c, hc, hfollows⟩ := exists_of_forall₂_getElem? hcontexts hk
    exact ⟨c, List.mem_of_getElem? hc, hfollows⟩
  refine ⟨?_, ?_, ?_, ?_⟩
  · intro c' hc'
    obtain ⟨c, hc, hfollows⟩ := hmem c' hc'
    exact hfollows.wired (h.wired c hc)
  · have hids : s'.relay.contexts.map Context.id = s.relay.contexts.map Context.id :=
      map_eq_of_forall₂ (hcontexts.imp fun _ _ hfollows => hfollows.id_eq)
    rw [hids]
    exact h.ids_nodup
  · intro c' hc'
    obtain ⟨c, hc, hfollows⟩ := hmem c' hc'
    rw [hfollows.sourceId_eq, hfollows.source_eq, hnames, h.sourceId_eq c hc]
  · intro c' hc'
    obtain ⟨c, hc, hfollows⟩ := hmem c' hc'
    rw [hfollows.destinationId_eq, hfollows.destination_eq, hnames, h.destinationId_eq c hc]

end

end Station

/-! ## New contexts -/

namespace Relay

theorem create_eq_ok {settings : Settings} (h : settings.validate = .ok ()) :
    create settings = .ok ({ settings } : Relay β) := by
  rw [create, h]
  rfl

/-- A context that is added comes last, is at its ends, has counted nothing, and has an id of its
own. If none is added, those that are there stay. -/
theorem contexts_add (r : Relay β) (id : UInt16) (source destination : Binding) (w : World β σ) :
    (r.add id source destination w).2.contexts = r.contexts ∨
      ∃ c, (r.add id source destination w).2.contexts = r.contexts ++ [c] ∧ c.Wired ∧
        c.id ∉ r.contexts.map Context.id ∧ c.lane.counters = ({} : Counters) ∧
        c.sourceId = w.interfaceId c.source.interface ∧
        c.destinationId = w.interfaceId c.destination.interface := by
  rw [add]
  split
  · exact .inl rfl
  · next hfresh =>
    split
    · exact .inl rfl
    · next c names hcreate =>
      obtain ⟨hwired, hid, hcounters, hnames⟩ := Context.wired_create (congrArg Prod.fst hcreate)
      refine .inr ⟨c, rfl, hwired, ?_, hcounters, hnames⟩
      rw [hid]
      simpa [List.mem_map, List.any_eq_true] using hfresh

end Relay

namespace Station

variable [FrameBuffer β] [Sink σ] {start : World β σ} {s : Station β σ}

theorem Reachable.orderly (h : Reachable start s) : s.Orderly := by
  induction h with
  | create h =>
      have hnone := Relay.contexts_create h
      refine ⟨?_, ?_, ?_, ?_⟩ <;> simp [hnone]
  | @add s h _ id source destination ih =>
      rcases s.relay.contexts_add id source destination s.world with
        hsame | ⟨c, hadded, hwired, hid, _, hsource, hdestination⟩
      · exact ⟨hsame.symm ▸ ih.wired, hsame.symm ▸ ih.ids_nodup, hsame.symm ▸ ih.sourceId_eq,
          hsame.symm ▸ ih.destinationId_eq⟩
      · refine ⟨?_, ?_, ?_, ?_⟩ <;> dsimp only [Station.add] <;> rw [hadded]
        · exact List.forall_mem_append.mpr ⟨ih.wired, by simpa using hwired⟩
        · rw [List.map_append, List.map_singleton]
          exact List.nodup_append.mpr ⟨ih.ids_nodup, List.nodup_singleton _, by simpa using hid⟩
        · exact List.forall_mem_append.mpr ⟨ih.sourceId_eq, by simpa using hsource⟩
        · exact List.forall_mem_append.mpr ⟨ih.destinationId_eq, by simpa using hdestination⟩
  | launch _ ih => exact ih.outcome (outcome_launch _)
  | move _ move ih => exact ih.outcome (outcome_step ih.wired move)

end Station

end EtherRelay
