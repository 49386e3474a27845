import EtherRelay.Proofs.Relay.Enrolment
import EtherRelay.Proofs.Workbench.Course
import EtherRelay.Proofs.Workbench.Faults

/-!
# Setting up, up to the first fault

A step of setting up has a contract of the form `Setup.Finds`: it names the faults that the step
looks for, and what holds of the site whether it finds one or not. Contracts compose along `bind`
and over a loop, so setting up as a whole looks for `Configuration.faults`. It stops at the first of
them with nothing launched. If there is none, every context and its traffic stand where their entry
of the configuration says.
-/

namespace EtherRelay.Workbench

/-! ## Contracts for setting up -/

namespace Setup

variable {α γ : Type} {s : Site} {J : Site → Prop}

/-- A step looks for faults one after the other. If it finds none, it succeeds as `Q` says;
otherwise it stops at the first of them, as `J` says. -/
def Finds (m : Setup α) (s : Site) (faults : List RunError) (Q : α → Site → Prop)
    (J : Site → Prop) : Prop :=
  match faults with
  | [] => ∃ a s', m s = (.ok a, s') ∧ Q a s'
  | e :: _ => ∃ s', m s = (.error e, s') ∧ J s'

theorem bind_apply (m : Setup α) (k : α → Setup γ) (s : Site) :
    (m >>= k) s = match m s with
      | (.ok a, s') => k a s'
      | (.error e, s') => (.error e, s') := by
  have hcont : (m >>= k) s = match m s with | (a, s') => ExceptT.bindCont k a s' := rfl
  rw [hcont]
  rcases m s with ⟨_ | _, _⟩ <;> rfl

namespace Finds

theorem ok {m : Setup α} {a : α} {s' : Site} {Q : α → Site → Prop} (h : m s = (.ok a, s'))
    (hQ : Q a s') : Finds m s [] Q J := ⟨a, s', h, hQ⟩

theorem error {m : Setup α} {e : RunError} {s' : Site} {Q : α → Site → Prop}
    (h : m s = (.error e, s')) (hJ : J s') (others : List RunError) :
    Finds m s (e :: others) Q J := ⟨s', h, hJ⟩

theorem bind {m : Setup α} {k : α → Setup γ} {faults faults' : List RunError}
    {Q : α → Site → Prop} {Q' : γ → Site → Prop} (h : Finds m s faults Q J)
    (h' : ∀ a s', Q a s' → Finds (k a) s' faults' Q' J) :
    Finds (m >>= k) s (faults ++ faults') Q' J := by
  cases faults with
  | nil =>
      obtain ⟨a, s', hm, hQ⟩ := h
      have hbind : (m >>= k) s = k a s' := by rw [bind_apply, hm]
      have hk := h' a s' hQ
      cases faults' with
      | nil =>
          obtain ⟨b, s'', hb, hQ'⟩ := hk
          exact .ok (hbind.trans hb) hQ'
      | cons e faults' =>
          obtain ⟨s'', he, hJ⟩ := hk
          exact .error (hbind.trans he) hJ faults'
  | cons e faults =>
      obtain ⟨s', hm, hJ⟩ := h
      refine .error ?_ hJ (faults ++ faults')
      rw [bind_apply, hm]

/-- A step may look at the site. -/
theorem get {k : Site → Setup γ} {faults : List RunError} {Q : γ → Site → Prop}
    (h : Finds (k s) s faults Q J) : Finds (MonadState.get >>= k) s faults Q J := by
  have hbind : (MonadState.get >>= k : Setup γ) s = k s s := rfl
  simp only [Finds, hbind]
  exact h

/-- A loop looks for the faults of each entry behind the earlier ones. -/
theorem forIn {step : α → Setup Unit} {faults : List α → α → List RunError}
    {I : List α → Site → Prop}
    (hstep : ∀ earlier x s, I earlier s →
      Finds (step x) s (faults earlier x) (fun _ => I (earlier ++ [x])) J)
    (xs : List α) {earlier : List α} (h : I earlier s) :
    Finds (ForIn.forIn xs PUnit.unit fun x _ => do
        step x
        pure (ForInStep.yield PUnit.unit))
      s (faultsInOrder faults earlier xs) (fun _ => I (earlier ++ xs)) J := by
  induction xs generalizing earlier s with
  | nil =>
      refine .ok (a := PUnit.unit) rfl ?_
      rwa [List.append_nil]
  | cons x xs ih =>
      rw [List.forIn_cons, bind_assoc]
      refine (hstep earlier x s h).bind ?_
      intro _ s' hnext
      rw [pure_bind, List.append_cons earlier x xs]
      exact ih hnext

end Finds

end Setup

/-! ## What is set up -/

/-- The name and port of a planned interface. -/
def PortPlan.identity (p : PortPlan) : InterfaceId := ⟨p.port, p.name⟩

/-- What one end of a context names is found where its binding says. -/
structure EndPlan.BoundAs (s : Site) (e : EndPlan) (b : Binding) : Prop where
  port_eq : s.port? e.port = some b.interface
  queues_eq : e.queueSet = .ok b.queues

theorem EndPlan.BoundAs.length_queues {s : Site} {e : EndPlan} {b : Binding}
    (h : e.BoundAs s b) : b.queues.length = e.queues.length := by
  have hset := h.queues_eq
  rw [EndPlan.queueSet, QueueSet.ofList] at hset
  split at hset
  · rw [← Except.ok.inj hset]
    rfl
  · cases hset

theorem EndPlan.BoundAs.sameLayout {s s' : Site} {e : EndPlan} {b : Binding}
    (h : e.BoundAs s b) (hsame : s.SameLayout s') : e.BoundAs s' b :=
  ⟨(hsame.port?_eq e.port).trans h.port_eq, h.queues_eq⟩

namespace Site

/-- A context and a source of traffic stand for an entry of the configuration. -/
structure Serves (s : Site) (x : ContextPlan) (context : Context Buffer) (source : Source) :
    Prop where
  id_eq : context.id = x.id
  source_bound : x.source.BoundAs s context.source
  destination_bound : x.destination.BoundAs s context.destination
  port_eq : source.port = x.source.port
  interface_eq : source.generator.interface = context.source.interface
  queues_eq : source.generator.queues = context.source.queues

/-- Each entry has its context and its source, in order. -/
structure Equips (s : Site) (xs : List ContextPlan) : Prop where
  length_contexts : s.relay.contexts.length = xs.length
  length_sources : s.sources.length = xs.length
  serves : ∀ k x, xs[k]? = some x → ∃ context source, s.relay.contexts[k]? = some context ∧
    s.sources[k]? = some source ∧ source.context = k ∧ s.Serves x context source

/-- Nothing runs, no capture was begun, and nothing but ports was reported. -/
structure Unlaunched (s : Site) : Prop where
  phase_eq : s.relay.phase = .building
  created : ∀ c ∈ s.relay.contexts, ∃ receiver transmitter,
    c.body = .created receiver transmitter ∧ c.lifecycle = {}
  captures_eq : s.captures = none
  logged : ∀ event ∈ s.world.log, ∃ interface, event = .portReady interface

/-- A part of the ports of a configuration is declared. -/
structure Declares (s : Site) (c : Configuration) (ports : List PortPlan) : Prop
    extends s.Unlaunched where
  identities_eq : s.world.identities = ports.map PortPlan.identity
  relay_eq : s.relay = { settings := c.relay }
  sources_eq : s.sources = []

/-- All ports and a part of the contexts of a configuration are there. -/
structure Holds (s : Site) (c : Configuration) (xs : List ContextPlan) : Prop
    extends s.Unlaunched where
  identities_eq : s.world.identities = c.interfaces.map PortPlan.identity
  settings_eq : s.relay.settings = c.relay
  equips : s.Equips xs

variable {s s' : Site} {c : Configuration}

theorem port?_eq_none_iff (s : Site) (port : UInt16) :
    s.port? port = none ↔ port ∉ s.world.identities.map InterfaceId.port := by
  rw [port?_eq, List.findIdx?_eq_none_iff, List.mem_map]
  simp

theorem Declares.holds (h : s.Declares c c.interfaces) : s.Holds c [] where
  toUnlaunched := h.toUnlaunched
  identities_eq := h.identities_eq
  settings_eq := by rw [h.relay_eq]
  equips :=
    { length_contexts := by rw [h.relay_eq]; rfl
      length_sources := by rw [h.sources_eq]; rfl
      serves := fun k x hx => by cases hx }

theorem Serves.of_world {x : ContextPlan} {context : Context Buffer} {source : Source}
    (h : s.Serves x context source) (hworld : s'.world = s.world) : s'.Serves x context source := by
  have hport (port : UInt16) : s'.port? port = s.port? port := by rw [port?, hworld, port?]
  exact
    { h with
      source_bound := ⟨(hport _).trans h.source_bound.port_eq, h.source_bound.queues_eq⟩
      destination_bound :=
        ⟨(hport _).trans h.destination_bound.port_eq, h.destination_bound.queues_eq⟩ }

/-- One more entry gets its context and its source. -/
theorem Equips.concat {xs : List ContextPlan} {x : ContextPlan} {context : Context Buffer}
    {source : Source} (h : s.Equips xs) (hserves : s.Serves x context source)
    (hsource : source.context = xs.length) (hworld : s'.world = s.world)
    (hcontexts : s'.relay.contexts = s.relay.contexts ++ [context])
    (hsources : s'.sources = s.sources ++ [source]) : s'.Equips (xs ++ [x]) where
  length_contexts := by
    rw [hcontexts, List.length_append, h.length_contexts, List.length_append]
    rfl
  length_sources := by
    rw [hsources, List.length_append, h.length_sources, List.length_append]
    rfl
  serves k y hy := by
    rw [hcontexts, hsources]
    rcases Nat.lt_or_ge k xs.length with hlt | hge
    · rw [List.getElem?_append_left hlt] at hy
      rw [List.getElem?_append_left (h.length_contexts ▸ hlt),
        List.getElem?_append_left (h.length_sources ▸ hlt)]
      obtain ⟨context', source', hcontext', hsource', hk, hserves'⟩ := h.serves k y hy
      exact ⟨context', source', hcontext', hsource', hk, hserves'.of_world hworld⟩
    · rw [List.getElem?_append_right hge] at hy
      obtain rfl : k = xs.length := by
        have hk := (List.getElem?_eq_some_iff.mp hy).1
        rw [List.length_singleton] at hk
        omega
      rw [Nat.sub_self] at hy
      cases hy
      refine ⟨context, source, ?_, ?_, hsource, hserves.of_world hworld⟩
      · rw [← h.length_contexts, List.getElem?_concat_length]
      · rw [← h.length_sources, List.getElem?_concat_length]

/-- The ids that are taken are those of the entries. -/
theorem Equips.ids_eq {xs : List ContextPlan} (h : s.Equips xs) :
    s.relay.ids = xs.map ContextPlan.id := by
  refine List.ext_getElem? ?_
  intro k
  rw [Relay.ids, List.getElem?_map, List.getElem?_map]
  cases hx : xs[k]? with
  | none =>
      have hlength := List.getElem?_eq_none_iff.mp hx
      rw [List.getElem?_eq_none (h.length_contexts ▸ hlength)]
      rfl
  | some x =>
      obtain ⟨context, _, hcontext, _, _, hserves⟩ := h.serves k x hx
      rw [hcontext, Option.map_some, Option.map_some, hserves.id_eq]

/-- What serves an entry goes on to do so where the layout is the same. -/
theorem Equips.sameLayout {xs : List ContextPlan} (h : s.Equips xs) (hsame : s.SameLayout s') :
    s'.Equips xs where
  length_contexts := hsame.contexts.length_eq.symm.trans h.length_contexts
  length_sources := hsame.sources.length_eq.symm.trans h.length_sources
  serves k x hx := by
    obtain ⟨context, source, hcontext, hsource, hk, hserves⟩ := h.serves k x hx
    obtain ⟨context', hcontext', hends⟩ := exists_of_forall₂_getElem? hsame.contexts.flip hcontext
    obtain ⟨source', hsource', hend⟩ := exists_of_forall₂_getElem? hsame.sources.flip hsource
    refine ⟨context', source', hcontext', hsource', hend.context_eq.trans hk, ?_⟩
    exact
      { id_eq := hends.id_eq.trans hserves.id_eq
        source_bound := by
          rw [hends.source_eq]
          exact hserves.source_bound.sameLayout hsame
        destination_bound := by
          rw [hends.destination_eq]
          exact hserves.destination_bound.sameLayout hsame
        port_eq := hend.port_eq.trans hserves.port_eq
        interface_eq := by rw [hend.interface_eq, hserves.interface_eq, hends.source_eq]
        queues_eq := by rw [hend.queues_eq, hserves.queues_eq, hends.source_eq] }

end Site

namespace Setup

variable {s : Site} {c : Configuration}

theorem startCapture_finds (h : s.captures = none) (name : String) {J : Site → Prop} :
    Finds (startCapture name) s [] (fun capture s' => capture = none ∧ s' = s) J := by
  rw [startCapture]
  apply Finds.get
  rw [h]
  exact .ok rfl ⟨rfl, rfl⟩

theorem declarePort_finds {ports : List PortPlan} (h : s.Declares c ports) (p : PortPlan) :
    Finds (declarePort p) s (p.faults ports) (fun _ s' => s'.Declares c (ports ++ [p]))
      Site.Unlaunched := by
  have hports : s.world.identities.map InterfaceId.port = ports.map PortPlan.port := by
    rw [h.identities_eq, List.map_map]
    rfl
  have hport := s.port?_eq_none_iff p.port
  rw [hports] at hport
  rw [declarePort, PortPlan.faults]
  apply Finds.get
  dsimp only
  cases hindex : s.port? p.port with
  | some index =>
      rw [require_of_not (mt hport.mpr (by rw [hindex]; exact Option.some_ne_none index))]
      exact .error rfl h.toUnlaunched []
  | none =>
      rw [require_of (hport.mp hindex)]
      refine (startCapture_finds h.captures_eq p.name).bind ?_
      rintro _ _ ⟨rfl, rfl⟩
      refine .ok rfl ?_
      exact
        { phase_eq := h.phase_eq
          created := h.created
          captures_eq := h.captures_eq
          logged := List.forall_mem_append.mpr
            ⟨h.logged, List.forall_mem_singleton.mpr ⟨p.identity, rfl⟩⟩
          identities_eq := by
            rw [List.map_append, ← h.identities_eq]
            exact List.map_append
          relay_eq := h.relay_eq
          sources_eq := h.sources_eq }

theorem bind_finds {J : Site → Prop} (e : EndPlan) (hJ : J s) :
    Finds (Setup.bind e) s (e.faults (s.world.identities.map InterfaceId.port))
      (fun b s' => s' = s ∧ e.BoundAs s b) J := by
  have hport := s.port?_eq_none_iff e.port
  rw [Setup.bind, EndPlan.faults]
  apply Finds.get
  cases hindex : s.port? e.port with
  | none =>
      rw [require_of_not (hport.mp hindex)]
      exact .error rfl hJ _
  | some interface =>
      have hdeclared : e.port ∈ s.world.identities.map InterfaceId.port := by
        by_contra hnone
        rw [hport.mpr hnone] at hindex
        cases hindex
      rw [require_of hdeclared, List.nil_append]
      by_cases hqueues : 1 ≤ e.queues.length ∧ e.queues.length ≤ 3
      · have hset : e.queueSet = .ok ⟨e.queues, hqueues.1, hqueues.2⟩ := dif_pos hqueues
        rw [require_of hqueues, hset]
        exact .ok rfl ⟨rfl, hindex, hset⟩
      · have hset : e.queueSet = .error (.queueCount e.queues.length) := dif_neg hqueues
        rw [require_of_not hqueues, hset]
        exact .error rfl hJ _

theorem addContext_finds {earlier : List ContextPlan} (plan : TrafficPlan) (seed : UInt64)
    (hvalid : c.relay.validate = .ok ()) (h : s.Holds c earlier) (x : ContextPlan) :
    Finds (addContext plan seed x) s (x.faults c.declared c.relay.rxQueuePolicy earlier)
      (fun _ s' => s'.Holds c (earlier ++ [x])) Site.Unlaunched := by
  have hdeclared : c.declared = s.world.identities.map InterfaceId.port := by
    rw [h.identities_eq, List.map_map]
    rfl
  rw [addContext, ContextPlan.faults, hdeclared]
  refine (bind_finds x.source h.toUnlaunched).bind ?_
  rintro source _ ⟨rfl, hsource⟩
  refine (bind_finds x.destination h.toUnlaunched).bind ?_
  rintro destination s ⟨rfl, hdestination⟩
  apply Finds.get
  have hout := Relay.enrols_enrol (h.settings_eq ▸ hvalid)
    (⟨x.id, source, destination, s.world⟩ : Enrolment Buffer RunSink)
  have hadd : s.relay.add x.id source destination s.world =
      s.relay.enrol ⟨x.id, source, destination, s.world⟩ := rfl
  have hids := h.equips.ids_eq
  rw [hadd]
  generalize s.relay.enrol ⟨x.id, source, destination, s.world⟩ = result at hout
  obtain ⟨answer, relay⟩ := result
  cases hout with
  | duplicate htaken =>
      rw [hids] at htaken
      rw [require_of_not (not_not_intro htaken), List.singleton_append]
      exact ⟨s, rfl, h.toUnlaunched⟩
  | @misfit hnew index hpolicy hle =>
      rw [hids] at hnew
      rw [h.settings_eq] at hpolicy
      have hcount : source.queues.length = x.source.queues.length := hsource.length_queues
      rw [require_of hnew, ContextPlan.policyFaults_fixed hpolicy, ← hcount,
        require_of_not (Nat.not_lt.mpr hle)]
      refine ⟨_, rfl, ?_⟩
      exact ⟨h.phase_eq, h.created, h.captures_eq, h.logged⟩
  | @joins hnew hfits context hmade hnames =>
      rw [hids] at hnew
      have hpolicy : x.policyFaults c.relay.rxQueuePolicy = [] := by
        rw [ContextPlan.policyFaults_eq_nil, ← h.settings_eq, ← hsource.length_queues]
        exact hfits
      rw [require_of hnew, hpolicy]
      refine .ok rfl ?_
      have hserves (generator : Generator) (hinterface : generator.interface = source.interface)
          (hqueues : generator.queues = source.queues) :
          s.Serves x context ⟨x.source.port, generator, s.sources.length⟩ :=
        { id_eq := hmade.id_eq
          source_bound := hmade.source_eq ▸ hsource
          destination_bound := hmade.destination_eq ▸ hdestination
          port_eq := rfl
          interface_eq := hinterface.trans (congrArg Binding.interface hmade.source_eq.symm)
          queues_eq := hqueues.trans (congrArg Binding.queues hmade.source_eq.symm) }
      exact
        { phase_eq := h.phase_eq
          created := List.forall_mem_append.mpr
            ⟨h.created, List.forall_mem_singleton.mpr hmade.isCreated⟩
          captures_eq := h.captures_eq
          logged := h.logged
          identities_eq := h.identities_eq
          settings_eq := h.settings_eq
          equips := h.equips.concat (hserves _ rfl rfl) h.equips.length_sources rfl rfl rfl }

theorem all_finds (tree : FileTree) (o : Options) (hcaptures : o.captureDir = none)
    (c : Configuration) (seed : UInt64) :
    Finds (Setup.all tree o c seed) (Site.empty c.relay c.traffic.poolSize) c.faults
      (fun _ s => s.Holds c c.contexts) Site.Unlaunched := by
  have hempty : (Site.empty c.relay c.traffic.poolSize).Declares c [] :=
    { phase_eq := rfl
      created := fun _ h => absurd h List.not_mem_nil
      captures_eq := rfl
      logged := fun _ h => absurd h List.not_mem_nil
      identities_eq := rfl
      relay_eq := rfl
      sources_eq := rfl }
  rw [Setup.all, Configuration.faults, hcaptures]
  cases hvalid : c.relay.validate with
  | error e => exact .error rfl hempty.toUnlaunched _
  | ok _ =>
      have hready : Finds (pure () : Setup Unit) (Site.empty c.relay c.traffic.poolSize) []
          (fun _ s => s.Declares c []) Site.Unlaunched := .ok rfl hempty
      refine hready.bind ?_
      intro _ s hs
      refine (Finds.forIn (I := fun ports s => s.Declares c ports)
        (fun _ p _ h => declarePort_finds h p) c.interfaces hs).bind ?_
      intro _ s hs
      rw [← List.append_nil (faultsInOrder _ _ _)]
      refine (Finds.forIn (I := fun xs s => s.Holds c xs)
        (fun _ x _ h => addContext_finds c.traffic seed hvalid h x) c.contexts hs.holds).bind ?_
      intro _ s hs
      exact .ok rfl hs

end Setup

end EtherRelay.Workbench
