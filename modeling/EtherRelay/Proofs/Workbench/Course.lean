import EtherRelay.Proofs.Context.Identities
import EtherRelay.Proofs.Workbench.Traffic
import EtherRelay.Workbench.Timeline

/-!
# What stays in the course of a run

Between two device events the workers act, time passes and bursts of traffic arrive. None of it
renames a port, moves an end of a context, asks a context to stop, or writes to the log of the run:
`Site.Stays`. A device event does ask contexts to stop and is logged, but it leaves the ports, the
ends and the sources where they are as well: `Site.SameLayout`, which therefore holds from the start
of a run to any later point of it.
-/

namespace EtherRelay

variable {β σ : Type}

/-! ## Device events -/

namespace Relay

/-- What the relay logs when it hears of a device event. -/
def notices (contexts : List (Context β)) (kind : DeviceEventKind) (interface : InterfaceId) :
    List Event :=
  let bound := contexts.filter fun c => c.isBoundTo interface
  match kind with
  | .removed => bound.map fun c => .interfaceRemoved c.id interface
  | .reset => [.interfaceReset interface bound.length]

theorem log_interfaceRemoved (r : Relay β) (interface : InterfaceId) (w : World β σ) :
    (r.interfaceRemoved interface w).2.log =
      w.log ++ notices r.contexts .removed interface := by
  rw [interfaceRemoved, notices]
  dsimp only
  generalize r.contexts = contexts
  induction contexts generalizing w with
  | nil => exact (List.append_nil _).symm
  | cons c contexts ih =>
      rw [forEach, List.filter_cons]
      by_cases hbound : c.isBoundTo interface
      · simp only [if_pos hbound]
        rw [ih]
        exact List.append_assoc w.log _ _
      · simp only [if_neg hbound, ih]

/-- What a relay that was started does when it hears of a device event. -/
theorem deviceEvent_eq_some {r : Relay β} {n : Nat} (hstarted : r.resets = some n)
    (kind : DeviceEventKind) (interface : InterfaceId) (w : World β σ) :
    ∃ r' w', r.deviceEvent kind interface w = some (r', w') ∧
      r'.contexts = (match kind with
        | .removed => r.contexts.map (Context.afterRemoval interface)
        | .reset => r.contexts) ∧
      r'.resets = some (n + if kind = .reset then 1 else 0) ∧
      w'.identities = w.identities ∧ w'.log = w.log ++ notices r.contexts kind interface := by
  simp only [deviceEvent, hstarted]
  cases kind with
  | removed =>
      exact ⟨_, _, rfl, r.contexts_interfaceRemoved interface w, hstarted,
        World.identities_of_interfaces (r.world_interfaceRemoved interface w).1,
        r.log_interfaceRemoved interface w⟩
  | reset =>
      refine ⟨_, _, rfl, rfl, ?_, rfl, rfl⟩
      simp only [hstarted, Option.map_some, if_true]

theorem notices_congr {contexts contexts' : List (Context β)}
    (h : List.Forall₂ Context.SameEnds contexts contexts') (kind : DeviceEventKind)
    (interface : InterfaceId) :
    notices contexts' kind interface = notices contexts kind interface := by
  have hbound : List.Forall₂ Context.SameEnds (contexts.filter fun c => c.isBoundTo interface)
      (contexts'.filter fun c => c.isBoundTo interface) := by
    induction h with
    | nil => exact .nil
    | @cons c c' _ _ hends _ ih =>
        rw [List.filter_cons, List.filter_cons, hends.isBoundTo_eq]
        split
        · exact .cons hends ih
        · exact ih
  cases kind with
  | removed =>
      rw [notices, notices]
      refine map_eq_of_forall₂ (hbound.imp ?_)
      intro c c' hends
      rw [hends.id_eq]
  | reset => rw [notices, notices, hbound.length_eq]

end Relay

namespace Workbench

/-! ## Sites -/

/-- Two states of the traffic of one context. -/
structure Source.SameEnd (x x' : Source) : Prop where
  port_eq : x'.port = x.port
  context_eq : x'.context = x.context
  interface_eq : x'.generator.interface = x.generator.interface
  queues_eq : x'.generator.queues = x.generator.queues

theorem Source.SameEnd.refl (x : Source) : x.SameEnd x := ⟨rfl, rfl, rfl, rfl⟩

instance : Std.Refl Source.SameEnd := ⟨.refl⟩

theorem Source.SameEnd.trans {x x' x'' : Source} (h : x.SameEnd x') (h' : x'.SameEnd x'') :
    x.SameEnd x'' where
  port_eq := h'.port_eq.trans h.port_eq
  context_eq := h'.context_eq.trans h.context_eq
  interface_eq := h'.interface_eq.trans h.interface_eq
  queues_eq := h'.queues_eq.trans h.queues_eq

/-- A generator stays at its interface and its queues. -/
theorem Generator.injectBurst_sameEnd {ρ : Type} [RandomSource ρ] (g : Generator ρ)
    (w : World Buffer σ) :
    (g.injectBurst w).1.interface = g.interface ∧ (g.injectBurst w).1.queues = g.queues := by
  obtain ⟨_, _, _, random, hmade⟩ :=
    makeFrames_spec (UInt64.ofNat_toNat (x := g.generated)).symm w.wallNs g.burst
  rw [injectBurst]
  dsimp only
  rw [hmade]
  exact ⟨rfl, rfl⟩

namespace Site

/-- Two sites with the same ports, and the same contexts and sources between them. -/
structure SameLayout (s s' : Site) : Prop where
  identities_eq : s'.world.identities = s.world.identities
  contexts : List.Forall₂ Context.SameEnds s.relay.contexts s'.relay.contexts
  sources : List.Forall₂ Source.SameEnd s.sources s'.sources

/-- A later site, if workers and sources have acted and nobody else. -/
structure Stays (s s' : Site) : Prop where
  world : s.world.Stays s'.world
  contexts : List.Forall₂ Context.Stays s.relay.contexts s'.relay.contexts
  sources : List.Forall₂ Source.SameEnd s.sources s'.sources
  resets_eq : s'.relay.resets = s.relay.resets

variable {s s' s'' : Site}

theorem SameLayout.trans (h : s.SameLayout s') (h' : s'.SameLayout s'') : s.SameLayout s'' where
  identities_eq := h'.identities_eq.trans h.identities_eq
  contexts := forall₂_trans (fun _ _ _ => .trans) h.contexts h'.contexts
  sources := forall₂_trans (fun _ _ _ => .trans) h.sources h'.sources

theorem Stays.sameLayout (h : s.Stays s') : s.SameLayout s' where
  identities_eq := h.world.identities_eq
  contexts := h.contexts.imp fun _ _ hstays => hstays.toSameEnds
  sources := h.sources

theorem Stays.of_world {w : World Buffer RunSink} (h : s.world.Stays w) :
    s.Stays { s with world := w } :=
  ⟨h, List.forall₂_refl _, List.forall₂_refl _, rfl⟩

theorem Stays.refl (s : Site) : s.Stays s := .of_world (.refl s.world)

theorem SameLayout.refl (s : Site) : s.SameLayout s := (Stays.refl s).sameLayout

theorem Stays.trans (h : s.Stays s') (h' : s'.Stays s'') : s.Stays s'' where
  world := h.world.trans h'.world
  contexts := forall₂_trans (fun _ _ _ => .trans) h.contexts h'.contexts
  sources := forall₂_trans (fun _ _ _ => .trans) h.sources h'.sources
  resets_eq := h'.resets_eq.trans h.resets_eq

/-- The position of a port depends on the declared ports alone. -/
theorem port?_eq (s : Site) (port : UInt16) :
    s.port? port = s.world.identities.findIdx? fun i => i.port == port := by
  rw [port?, World.identities, List.findIdx?_map]
  rfl

theorem SameLayout.port?_eq (h : s.SameLayout s') (port : UInt16) :
    s'.port? port = s.port? port := by
  rw [Site.port?_eq, h.identities_eq, Site.port?_eq]

/-- The interface of a declared port goes by the name and port of its declaration. -/
theorem find?_identities (s : Site) (port : UInt16) :
    (s.world.identities.find? fun i => i.port == port) =
      (s.port? port).map s.world.interfaceId := by
  rw [List.find?_eq_bind_findIdx?_getElem?, ← port?_eq]
  cases hport : s.port? port with
  | none => rfl
  | some index =>
      obtain ⟨hindex, -⟩ := List.findIdx?_eq_some_iff_getElem.mp hport
      rw [Option.bind_some, Option.map_some, World.interfaceId, World.identities, List.getElem?_map,
        List.getElem?_eq_getElem hindex]
      rfl

end Site

/-! ## Steps of a course -/

namespace Course

open Site

theorem stays_settle (s : Site) : s.Stays (settle s) := by
  have hsettled := Schedule.stays_settle [] s.relay.contexts s.world
  rw [settle]
  -- Set apart, since nothing may evaluate the rounds.
  generalize Schedule.settle [] s.relay.contexts s.world = settled at hsettled
  exact ⟨hsettled.2, hsettled.1, List.forall₂_refl _, rfl⟩

theorem stays_passTo (ns : Nat) (s : Site) : s.Stays (passTo ns s) := .of_world ⟨rfl, rfl⟩

theorem stays_runTo (ns fuel : Nat) (s : Site) : s.Stays (runTo ns fuel s) := by
  induction fuel generalizing s with
  | zero => exact (stays_settle s).trans (stays_passTo ns (settle s))
  | succ fuel ih =>
      have hsettled := stays_settle s
      rw [runTo]
      split
      · next due _ =>
        split
        · exact (hsettled.trans (stays_passTo due (settle s))).trans (ih _)
        · exact hsettled.trans (stays_passTo ns (settle s))
      · exact hsettled.trans (stays_passTo ns (settle s))

variable (c : Course)

theorem stays_advance (ns : Nat) : c.site.Stays (c.advance ns).site := stays_runTo ns _ c.site

theorem stays_send (pause ns index : Nat) : c.site.Stays (c.send pause ns index).site := by
  have hadvanced := c.stays_advance ns
  rw [send]
  dsimp only
  split
  · exact hadvanced
  · next source hsource =>
    split
    · exact hadvanced
    · let site := (c.advance ns).site
      obtain ⟨hinterface, hqueues⟩ := source.generator.injectBurst_sameEnd site.world
      have hsent : site.Stays
          { site with
            world := (source.generator.injectBurst site.world).2
            sources := site.sources.set index
              { source with generator := (source.generator.injectBurst site.world).1 } } :=
        { world := source.generator.injectBurst_stays site.world
          contexts := List.forall₂_refl _
          sources := forall₂_set hsource ⟨rfl, rfl, hinterface, hqueues⟩
          resets_eq := rfl }
      exact (hadvanced.trans hsent).trans (stays_settle _)

/-- What becomes of an event: it is too late, or its port is unknown, or the relay hears of it. -/
theorem raise_cases (e : DeviceEventPlan) :
    (c.deadlineNs ≤ e.atMs.toNat * 1000000 ∧
      (c.raise e).site =
        { c.site with world := c.site.world.note (.deviceEventTooLate e.kind e.port) }) ∨
    (e.atMs.toNat * 1000000 < c.deadlineNs ∧ c.site.port? e.port = none ∧
      (c.raise e).site =
        { c.site with world := c.site.world.note (.deviceEventUnknownPort e.kind e.port) }) ∨
    (e.atMs.toNat * 1000000 < c.deadlineNs ∧
      ∃ index s, c.site.port? e.port = some index ∧ c.site.Stays s ∧
        match s.relay.deviceEvent e.kind (s.world.interfaceId index)
          (s.world.note (.deviceEventRaised e.kind (s.world.interfaceId index))) with
        | none => (c.raise e).site = s
        | some (relay, world) => Site.Stays { s with relay, world } (c.raise e).site) := by
  -- The time is set apart, since the check of this proof would count up to the factor in it.
  obtain ⟨atNs, hat⟩ : ∃ atNs, e.atMs.toNat * 1000000 = atNs := ⟨_, rfl⟩
  rw [raise, hat]
  dsimp only
  split
  · next hlate => exact .inl ⟨hlate, rfl⟩
  · next hlate =>
    have hearly : atNs < c.deadlineNs := Nat.lt_of_not_le hlate
    split
    · next hport => exact .inr (.inl ⟨hearly, hport, rfl⟩)
    · next index hport =>
      refine .inr (.inr ⟨hearly, index, (c.advance atNs).site, hport, c.stays_advance atNs, ?_⟩)
      generalize (c.advance atNs).site.relay.deviceEvent e.kind _ _ = heard
      cases heard with
      | none => rfl
      | some _ => exact stays_settle _

theorem raise_same (e : DeviceEventPlan) :
    (c.raise e).bursts = c.bursts ∧ (c.raise e).events = c.events ∧
      (c.raise e).deadlineNs = c.deadlineNs := by
  obtain ⟨atNs, hat⟩ : ∃ atNs, e.atMs.toNat * 1000000 = atNs := ⟨_, rfl⟩
  rw [raise, hat]
  dsimp only
  split
  · exact ⟨rfl, rfl, rfl⟩
  · split
    · exact ⟨rfl, rfl, rfl⟩
    · split <;> exact ⟨rfl, rfl, rfl⟩

theorem sameLayout_raise (e : DeviceEventPlan) : c.site.SameLayout (c.raise e).site := by
  have hsame {contexts : List (Context Buffer)} :
      List.Forall₂ Context.SameEnds contexts contexts :=
    List.forall₂_same.mpr fun c _ => c.sameEnds_refl
  rcases c.raise_cases e with ⟨_, hsite⟩ | ⟨_, _, hsite⟩ | ⟨_, index, s, _, hstays, hheard⟩
  · rw [hsite]
    exact ⟨rfl, hsame, List.forall₂_refl _⟩
  · rw [hsite]
    exact ⟨rfl, hsame, List.forall₂_refl _⟩
  · refine hstays.sameLayout.trans ?_
    cases hresets : s.relay.resets with
    | none =>
        simp only [Relay.deviceEvent, hresets] at hheard
        rw [hheard]
        exact .refl s
    | some n =>
        obtain ⟨relay, world, hevent, hcontexts, _, hidentities, _⟩ := Relay.deviceEvent_eq_some
          hresets e.kind (s.world.interfaceId index)
          (s.world.note (.deviceEventRaised e.kind (s.world.interfaceId index)))
        rw [hevent] at hheard
        have hsame' : s.SameLayout { s with relay, world } := by
          refine ⟨hidentities, ?_, List.forall₂_refl _⟩
          rw [hcontexts]
          split
          · rw [List.forall₂_map_right_iff, List.forall₂_same]
            exact fun c _ => (Context.Rests.afterRemoval c _).toSameEnds
          · exact hsame
        exact hsame'.trans hheard.sameLayout

theorem sameLayout_run (pause fuel : Nat) : c.site.SameLayout (c.run pause fuel).site := by
  induction fuel generalizing c with
  | zero => exact .refl c.site
  | succ fuel ih =>
      rw [run]
      split
      · exact .refl c.site
      · next e rest _ _ =>
        exact (sameLayout_raise { c with events := rest } e).trans (ih _)
      · next ns i _ _ => exact (c.stays_send pause ns i).sameLayout.trans (ih _)
      · next e rest ns i _ _ =>
        split
        · exact (sameLayout_raise { c with events := rest } e).trans (ih _)
        · exact (c.stays_send pause ns i).sameLayout.trans (ih _)

/-- A course ends where its last step left it, or at the deadline. -/
theorem finish_cases (plan : TrafficPlan) {last : Course}
    (hlast : c.run (pauseNs plan) (c.steps (pauseNs plan)) = last) :
    (c.finish plan).2 = last.site ∨ (c.finish plan).2 = (last.advance last.deadlineNs).site := by
  simp only [finish, hlast]
  split
  · exact .inl rfl
  · split
    · exact .inr rfl
    · exact .inl rfl

theorem sameLayout_finish (plan : TrafficPlan) : c.site.SameLayout (c.finish plan).2 := by
  obtain ⟨last, hlast⟩ : ∃ last, c.run (pauseNs plan) (c.steps (pauseNs plan)) = last := ⟨_, rfl⟩
  have hrun : c.site.SameLayout last.site := hlast ▸ c.sameLayout_run _ _
  rcases c.finish_cases plan hlast with hsite | hsite
  · rw [hsite]
    exact hrun
  · rw [hsite]
    exact hrun.trans (last.stays_advance last.deadlineNs).sameLayout

end Course

end Workbench

end EtherRelay
