import EtherRelay.Proofs.Context.Teardown
import EtherRelay.Relay

/-!
# Tearing down a relay

A running relay is shut down or given up, or its contexts are joined and destroyed one by one.
The statements hold for any number of contexts, after any steps of their workers, and whatever
the world is like by then. All rings are released, and a context that is given up is destroyed.
After a shutdown the contexts are destroyed if no worker crashed; one whose worker crashed stays
drained although its rings are gone, and the first of these is what the shutdown reports.
-/

namespace EtherRelay

variable {β σ : Type}

namespace Relay

/-- What holds of the contexts of a relay in each phase. -/
def Fits (c : Context β) : RelayPhase → Prop
  | .building => c.lifecycle.phase = .created ∧ ∃ receiver transmitter,
      c.body = .created receiver transmitter ∧ receiver.burstSize = c.settings.burstSize ∧
        transmitter.burstSize = c.settings.burstSize
  | .running => ∃ k, c.Runs k
  | .over => True

variable [FrameBuffer β] [Sink σ] {r r' : Relay β} {w w' : World β σ}

/-- A relay after any steps before its end. Its workers act in any order, and the world may be
another one at each action. -/
inductive Ran (σ : Type) [Sink σ] : Relay β → Prop where
  | created (settings : Settings) {r : Relay β} (h : create settings = .ok r) : Ran σ r
  | added {r : Relay β} (h : Ran σ r) (hphase : r.phase = .building) (id : UInt16)
      (source destination : Binding) (w : World β σ) :
      Ran σ (r.add id source destination w).2
  | started {r r' : Relay β} {w w' : World β σ} (h : Ran σ r)
      (hstart : r.start w = some (r', w')) : Ran σ r'
  | stopped {r : Relay β} (h : Ran σ r) (index : Nat) {c : Context β}
      (hc : r.contexts[index]? = some c) :
      Ran σ { r with contexts := r.contexts.set index c.requestStop }
  | acted {r : Relay β} (h : Ran σ r) (index : Nat) {c : Context β}
      (hc : r.contexts[index]? = some c) (role : WorkerRole) (w : World β σ) :
      Ran σ { r with contexts := r.contexts.set index (c.stepWorker role w).1 }
  | noticed {r r' : Relay β} {w w' : World β σ} {kind : DeviceEventKind}
      {interface : InterfaceId} (h : Ran σ r)
      (hevent : r.deviceEvent kind interface w = some (r', w')) : Ran σ r'

omit [FrameBuffer β] [Sink σ] in
theorem mem_forEach {f : Context β → World β σ → Context β × World β σ}
    {contexts : List (Context β)} {c' : Context β} (h : c' ∈ (forEach f contexts w).1) :
    ∃ c ∈ contexts, ∃ w₀, c' = (f c w₀).1 := by
  induction contexts generalizing w with
  | nil => cases h
  | cons c contexts ih =>
      rcases List.mem_cons.mp h with rfl | hrest
      · exact ⟨c, List.mem_cons_self, w, rfl⟩
      · obtain ⟨d, hd, w₀, rfl⟩ := ih hrest
        exact ⟨d, List.mem_cons_of_mem _ hd, w₀, rfl⟩

namespace Fits

variable {c : Context β} {phase : RelayPhase}

omit [FrameBuffer β] in
theorem requestStop (h : Fits c phase) : Fits c.requestStop phase := by
  cases phase with
  | building => exact h
  | running =>
      obtain ⟨k, hk⟩ := h
      exact ⟨k, hk.requestStop⟩
  | _ => trivial

theorem stepWorker (h : Fits c phase) (role : WorkerRole) (w : World β σ) :
    Fits (c.stepWorker role w).1 phase := by
  cases phase with
  | building =>
      have hsame : (c.stepWorker role w).1 = c := by
        obtain ⟨_, receiver, transmitter, hbody, _⟩ := h
        simp only [Context.stepWorker, hbody]
      rw [hsame]
      exact h
  | running =>
      obtain ⟨k, hk⟩ := h
      exact hk.stepWorker role w
  | _ => trivial

omit [FrameBuffer β] [Sink σ] in
theorem create {id : UInt16} {source destination : Binding} {settings : Settings}
    {names : RingNames} (h : (Context.create id source destination settings names w).1 = .ok c) :
    Fits c .building := by
  obtain ⟨hsettings, _, _, receiver, hreceiver, hbody⟩ := Context.create_fresh h
  have hphase : c.lifecycle.phase = .created := by
    -- All branches but the last one answer with an error.
    rw [Context.create] at h
    repeat' split at h
    all_goals cases h
    rfl
  refine ⟨hphase, receiver, _, hbody, ?_, ?_⟩
  · rw [hreceiver, hsettings]
  · rw [hsettings]
    rfl

omit [Sink σ] in
/-- A context that was only created is put to work. -/
theorem launch (h : Fits c .building) (w : World β σ) :
    Fits ((c.launch w).getD (c, w)).1 .running := by
  obtain ⟨hphase, receiver, transmitter, hbody, hreceiver, htransmitter⟩ := h
  cases hlaunch : c.launch w with
  | none =>
      rw [Context.launch, hbody] at hlaunch
      cases hlaunch
  | some next =>
      obtain ⟨receiver', transmitter', k, hbody', hrunning, _, hsettings, _, _, _, _, hsized⟩ :=
        Context.launch_running hlaunch
      rw [hbody] at hbody'
      cases hbody'
      refine ⟨k, hrunning, ?_, ?_⟩
      · rw [Option.getD_some, hsettings]
        exact hsized hreceiver htransmitter
      · rw [Context.launch, hbody] at hlaunch
        cases hlaunch
        simp only [Option.getD_some, Context.advance, Lifecycle.advance, hphase]
        rfl

end Fits

omit [FrameBuffer β] in
theorem contexts_create {settings : Settings} (h : create settings = .ok r) : r.contexts = [] := by
  cases hvalid : settings.validate with
  | error e => simp [create, hvalid, bind, Except.bind] at h
  | ok _ =>
      simp only [create, hvalid, bind, Except.bind, pure, Except.pure, Except.ok.injEq] at h
      rw [← h]

omit [FrameBuffer β] [Sink σ] in
theorem add_fits (h : ∀ c ∈ r.contexts, Fits c r.phase) (hphase : r.phase = .building)
    (id : UInt16) (source destination : Binding) (w : World β σ) :
    ∀ c ∈ (r.add id source destination w).2.contexts,
      Fits c (r.add id source destination w).2.phase := by
  rw [add]
  split
  · exact h
  · split
    · exact h
    · next c names hcreate =>
      refine List.forall_mem_append.mpr ⟨h, List.forall_mem_singleton.mpr ?_⟩
      rw [hphase]
      exact Fits.create (congrArg Prod.fst hcreate)

omit [Sink σ] in
theorem start_fits (h : ∀ c ∈ r.contexts, Fits c r.phase) (hstart : r.start w = some (r', w')) :
    ∀ c ∈ r'.contexts, Fits c r'.phase := by
  rw [start] at hstart
  split at hstart
  · next hphase =>
    cases hstart
    intro d hd
    obtain ⟨c, hc, w₀, rfl⟩ := mem_forEach hd
    exact (hphase ▸ h c hc).launch w₀
  · cases hstart

omit [FrameBuffer β] in
theorem set_fits (h : ∀ c ∈ r.contexts, Fits c r.phase) (index : Nat) {c' : Context β}
    (hnext : Fits c' r.phase) : ∀ c ∈ r.contexts.set index c', Fits c r.phase := by
  intro c hc
  rcases List.mem_or_eq_of_mem_set hc with hc | rfl
  · exact h c hc
  · exact hnext

omit [FrameBuffer β] [Sink σ] in
theorem deviceEvent_fits {kind : DeviceEventKind} {interface : InterfaceId}
    (h : ∀ c ∈ r.contexts, Fits c r.phase)
    (hevent : r.deviceEvent kind interface w = some (r', w')) :
    ∀ c ∈ r'.contexts, Fits c r'.phase := by
  unfold deviceEvent at hevent
  split at hevent
  · cases hevent
  · cases kind <;> cases hevent
    · intro d hd
      obtain ⟨c, hc, w₀, rfl⟩ := mem_forEach hd
      split
      · exact (h c hc).requestStop
      · exact h c hc
    · exact h

/-- Every step leaves the contexts in the phase of their relay. -/
theorem Ran.fits (h : Ran σ r) : ∀ c ∈ r.contexts, Fits c r.phase := by
  induction h with
  | created settings h =>
      rw [contexts_create h]
      exact List.forall_mem_nil _
  | added h hphase id source destination w ih => exact add_fits ih hphase id source destination w
  | started h hstart ih => exact start_fits ih hstart
  | stopped h index hc ih =>
      exact set_fits ih index (ih _ (List.mem_of_getElem? hc)).requestStop
  | acted h index hc role w ih =>
      exact set_fits ih index ((ih _ (List.mem_of_getElem? hc)).stepWorker role w)
  | noticed h hevent ih => exact deviceEvent_fits ih hevent

/-! ## The ends of a relay -/

/-- Giving up a running relay destroys all of its contexts. -/
theorem drop_destroyed (h : ∀ c ∈ r.contexts, ∃ k, c.Runs k) (hphase : r.phase = .running)
    (w : World β σ) :
    ∀ c ∈ (r.drop w).1.contexts, c.lane.Released ∧ c.state = .destroyed := by
  intro d hd
  simp only [drop, hphase] at hd
  obtain ⟨c, hc, w₀, rfl⟩ := mem_forEach hd
  obtain ⟨c, hmem, rfl⟩ := List.mem_map.mp hc
  obtain ⟨k, hk⟩ := h c hmem
  exact hk.requestStop.drop w₀

/-- What becomes of a context in a shutdown: it is destroyed, or drained if a worker crashed. -/
inductive Ends (σ : Type) [Sink σ] (c c' : Context β) :
    Except ContextError ContextReport → Prop where
  | destroyed {report : ContextReport} (w : World β σ) (hnone : c.crashedIn w = [])
      (hreleased : c'.lane.Released) (hstate : c'.state = .destroyed) : Ends σ c c' (.ok report)
  | drained {role : WorkerRole} (w : World β σ) (hfirst : (c.crashedIn w).head? = some role)
      (hreleased : c'.lane.Released) (hstate : c'.state = .drained) :
      Ends σ c c' (.error (.workerPanicked c'.id role))

theorem windDown_ends {c : Context β} {k : Workers β} (h : c.Runs k) (w : World β σ) :
    ∃ outcome c' w', windDown c.requestStop w = (some outcome, c', w') ∧ Ends σ c c' outcome := by
  obtain ⟨result, c', w', hjoin, hjoined⟩ := h.requestStop.join w
  rw [windDown, hjoin]
  cases hjoined with
  | drained hnone hstate hdestroy =>
      obtain ⟨report, c'', w'', hd, hreleased, hdestroyed⟩ := hdestroy w'
      simp only [hd]
      exact ⟨_, _, _, rfl, .destroyed w hnone hreleased hdestroyed⟩
  | failed hfirst hreleased hstate _ => exact ⟨_, _, _, rfl, .drained w hfirst hreleased hstate⟩

/-- What a shutdown says of the contexts in order: the first failure, or all the reports. -/
def collect : List (Except ContextError ContextReport) → Except ContextError (List ContextReport)
  | [] => .ok []
  | .error e :: _ => .error e
  | .ok report :: rest => (collect rest).map (report :: ·)

theorem collect_eq_ok_iff {outcomes : List (Except ContextError ContextReport)} :
    (∃ reports, collect outcomes = .ok reports) ↔
      ∀ outcome ∈ outcomes, ∃ report, outcome = .ok report := by
  induction outcomes with
  | nil => exact iff_of_true ⟨[], rfl⟩ (List.forall_mem_nil _)
  | cons outcome outcomes ih =>
      rw [List.forall_mem_cons, ← ih]
      cases outcome with
      | error e => simp [collect]
      | ok report => cases hrest : collect outcomes <;> simp [collect, hrest, Except.map]

theorem collect_append (outcomes outcomes' : List (Except ContextError ContextReport)) :
    collect (outcomes ++ outcomes') =
      (collect outcomes).bind fun reports => (collect outcomes').map (reports ++ ·) := by
  induction outcomes with
  | nil => cases hrest : collect outcomes' <;> simp [collect, hrest, Except.bind, Except.map]
  | cons outcome outcomes ih =>
      cases outcome with
      | error e => rfl
      | ok report =>
          simp only [List.cons_append, collect, ih]
          cases collect outcomes with
          | error e => rfl
          | ok reports => cases collect outcomes' <;> rfl

namespace Closing

variable {k : Closing β σ}

theorem proceed_add (m n : Nat) (k : Closing β σ) :
    k.proceed (m + n) = (k.proceed m).proceed n := by
  induction m generalizing k with
  | zero => rw [Nat.zero_add, proceed]
  | succ m ih => rw [Nat.succ_add, proceed, ih, proceed]

theorem next_of_toStop {index : Nat} {toStop : List Nat} (h : k.toStop = index :: toStop) :
    k.next = { k with toStop }.stop index := by
  rw [next, h]

/-- A join takes one context to its end, and its outcome comes behind those before it. -/
theorem next_of_toJoin {index : Nat} {toJoin : List Nat} {c c' : Context β} {w' : World β σ}
    {outcome : Except ContextError ContextReport} (hstop : k.toStop = [])
    (hjoin : k.toJoin = index :: toJoin) (hc : k.contexts[index]? = some c)
    (hwound : windDown c k.world = (some outcome, c', w')) :
    k.next.contexts = k.contexts.set index c' ∧ k.next.world = w' ∧ k.next.toStop = [] ∧
      k.next.toJoin = toJoin ∧ ∀ outcomes, k.result = collect outcomes →
        k.next.result = collect (outcomes ++ [outcome]) := by
  simp only [next, hstop, hjoin, join, hc, hwound]
  cases outcome with
  | error e =>
      refine ⟨rfl, rfl, rfl, rfl, fun outcomes hresult => ?_⟩
      rw [collect_append, ← hresult]
      cases hfirst : k.firstError <;> simp only [result, hfirst] <;> rfl
  | ok report =>
      refine ⟨rfl, rfl, rfl, rfl, fun outcomes hresult => ?_⟩
      rw [collect_append, ← hresult]
      cases hfirst : k.firstError <;> simp only [result, hfirst] <;> rfl

theorem proceed_toStop (before contexts : List (Context β)) (k : Closing β σ)
    (hcontexts : k.contexts = before ++ contexts)
    (hstop : k.toStop = List.range' before.length contexts.length) :
    k.proceed contexts.length =
      { k with contexts := before ++ contexts.map Context.requestStop, toStop := [] } := by
  induction contexts generalizing before k with
  | nil =>
      rw [List.append_nil] at hcontexts
      rw [List.map_nil, List.append_nil, ← hcontexts, ← show k.toStop = [] from hstop]
      rfl
  | cons c contexts ih =>
      rw [List.length_cons, List.range'_succ] at hstop
      rw [List.length_cons, proceed, next_of_toStop hstop, ih (before ++ [c.requestStop])]
      · simp [stop]
      · simp [stop, hcontexts, List.modify_eq_set_getElem?]
      · simp [stop]

/-- Every context that is asked to stop is wound down, after a failure as before it. -/
theorem proceed_toJoin {contexts : List (Context β)} (h : ∀ c ∈ contexts, ∃ k, c.Runs k)
    (before : List (Context β)) (outcomes : List (Except ContextError ContextReport))
    (k : Closing β σ) (hcontexts : k.contexts = before ++ contexts.map Context.requestStop)
    (hstop : k.toStop = []) (hjoin : k.toJoin = List.range' before.length contexts.length)
    (hresult : k.result = collect outcomes) :
    ∃ ends : List (Context β × Context β × Except ContextError ContextReport),
      ends.map (·.1) = contexts ∧
        (k.proceed contexts.length).contexts = before ++ ends.map (·.2.1) ∧
        (k.proceed contexts.length).result = collect (outcomes ++ ends.map (·.2.2)) ∧
        ∀ e ∈ ends, Ends σ e.1 e.2.1 e.2.2 := by
  induction contexts generalizing before outcomes k with
  | nil =>
      refine ⟨[], rfl, hcontexts, ?_, List.forall_mem_nil _⟩
      rw [List.map_nil, List.append_nil]
      exact hresult
  | cons c contexts ih =>
      obtain ⟨workers, hc⟩ := h c List.mem_cons_self
      obtain ⟨outcome, c', w', hfirst, hends⟩ := windDown_ends hc k.world
      rw [List.length_cons, List.range'_succ] at hjoin
      obtain ⟨hset, _, hstop', hjoin', houtcomes⟩ :=
        next_of_toJoin hstop hjoin (by simp [hcontexts]) hfirst
      obtain ⟨ends, hbefore, hafter, hcollected, hall⟩ :=
        ih (fun d hd => h d (List.mem_cons_of_mem _ hd)) (before ++ [c']) (outcomes ++ [outcome])
          k.next (by simp [hset, hcontexts]) hstop' (by simp [hjoin']) (houtcomes outcomes hresult)
      refine ⟨(c, c', outcome) :: ends, ?_, ?_, ?_, List.forall_mem_cons.mpr ⟨hends, hall⟩⟩
      · rw [List.map_cons, hbefore]
      · simpa [proceed] using hafter
      · simpa [proceed] using hcollected

/-- A shutdown ends all contexts, and answers with the first failure or all the reports. -/
theorem finish_ends {contexts : List (Context β)} (h : ∀ c ∈ contexts, ∃ k, c.Runs k)
    (w : World β σ) :
    ∃ ends : List (Context β × Context β × Except ContextError ContextReport),
      ends.map (·.1) = contexts ∧ ends.map (·.2.1) = (create contexts w).finish.contexts ∧
        (create contexts w).finish.result = collect (ends.map (·.2.2)) ∧
        ∀ e ∈ ends, Ends σ e.1 e.2.1 e.2.2 := by
  have hasked := proceed_toStop [] contexts (create contexts w) rfl List.range_eq_range'
  have hlength : (create contexts w).toStop.length + (create contexts w).toJoin.length =
      contexts.length + contexts.length := by
    simp [create]
  obtain ⟨ends, hbefore, hafter, hresult, hall⟩ := proceed_toJoin h [] []
    ((create contexts w).proceed contexts.length) (by rw [hasked]) (by rw [hasked])
    (by rw [hasked]; exact List.range_eq_range') (by rw [hasked]; rfl)
  rw [finish, hlength, proceed_add]
  exact ⟨ends, hbefore, hafter.symm, hresult, hall⟩

end Closing

theorem shutdown_running (hphase : r.phase = .running)
    (w : World β σ) :
    let k := (Closing.create r.contexts w).finish
    ∃ w', r.shutdown w = some (k.result, { r with contexts := k.contexts, phase := .over }, w') ∧
      (w' = k.world ∨ ∃ reports, k.result = .ok reports ∧
        w' = k.world.note (.relayShutDown reports.length)) := by
  intro k
  simp only [shutdown, hphase]
  split
  · next reports hok => exact ⟨_, by rw [← hok], .inr ⟨reports, hok, rfl⟩⟩
  · next e herror => exact ⟨_, by rw [← herror], .inl rfl⟩

/-- The three ways to tear down a running relay, and how they end. -/
structure TearsDown (r : Relay β) (w : World β σ) : Prop where
  drop : ∀ c ∈ (r.drop w).1.contexts, c.lane.Released ∧ c.state = .destroyed
  /-- A shutdown takes each context to its end and answers with all reports or the first
  failure. -/
  shutdown : ∃ (ends : List (Context β × Context β × Except ContextError ContextReport))
    (r' : Relay β) (w' : World β σ),
      r.shutdown w = some (collect (ends.map (·.2.2)), r', w') ∧ ends.map (·.1) = r.contexts ∧
        ends.map (·.2.1) = r'.contexts ∧ ∀ e ∈ ends, Ends σ e.1 e.2.1 e.2.2
  /-- All contexts are destroyed just if the shutdown succeeds. -/
  shutdown_eq_ok_iff : ∀ result r' w', r.shutdown w = some (result, r', w') →
    ((∃ reports, result = .ok reports) ↔ ∀ c ∈ r'.contexts, c.state = .destroyed)
  join : ∀ c ∈ r.contexts, ∃ result c' w', c.join w = some (result, c', w') ∧
    Context.Joined σ (c.crashedIn w) result c'

theorem Ends.isOk_iff {c c' : Context β} {outcome : Except ContextError ContextReport}
    (h : Ends σ c c' outcome) : (∃ report, outcome = .ok report) ↔ c'.state = .destroyed := by
  cases h with
  | @destroyed report _ _ _ hstate => exact iff_of_true ⟨report, rfl⟩ hstate
  | drained _ _ _ hstate =>
      rw [hstate]
      simp

/-- However a running relay is torn down, all rings are released. A context whose worker crashed
is left drained by a shutdown or a join, and destroyed by a drop. -/
theorem running_tearsDown (h : Ran σ r) (hphase : r.phase = .running) (w : World β σ) :
    r.TearsDown w := by
  have hruns : ∀ c ∈ r.contexts, ∃ k, c.Runs k := by
    intro c hc
    have hfits := h.fits c hc
    rwa [hphase] at hfits
  obtain ⟨ends, hbefore, hafter, hresult, hall⟩ := Closing.finish_ends hruns w
  obtain ⟨w', hanswer, _⟩ := shutdown_running hphase w
  rw [hresult] at hanswer
  refine ⟨drop_destroyed hruns hphase w, ⟨ends, _, w', hanswer, hbefore, hafter, hall⟩, ?_, ?_⟩
  · intro result r'' w'' h'
    rw [hanswer] at h'
    cases h'
    rw [collect_eq_ok_iff, ← hafter, List.forall_mem_map, List.forall_mem_map]
    exact forall₂_congr fun e he => (hall e he).isOk_iff
  · intro c hc
    obtain ⟨k, hk⟩ := hruns c hc
    exact hk.join w

/-! ## A crash -/

/-- Two interfaces, the first of which brings down the worker that receives from it. -/
def faultyPort : World Buffer NullSink where
  interfaces :=
    [{ Interface.create ⟨0, "left"⟩ 1 1 with faultyCall := some .receive },
      .create ⟨1, "right"⟩ 1 1]
  sink := {}
  clock := { hz := Clock.monotonicHz }
  pool := .create 4

def smallRings : Settings := { burstSize := 2, ringCapacity := 4, statsRingCapacity := 2 }

/-- A running relay with one context, whose receive worker is about to crash. -/
def aboutToCrash : Relay Buffer :=
  let r := (add { settings := smallRings } 1 { interface := 0, queues := .single 0 }
    { interface := 1, queues := .single 0 } faultyPort).2
  let r := ((r.start faultyPort).map Prod.fst).getD r
  { r with contexts := r.contexts.map fun c => (c.stepWorker .receive faultyPort).1 }

theorem ran_aboutToCrash : Ran NullSink aboutToCrash := by
  have hcreated : Ran NullSink ({ settings := smallRings } : Relay Buffer) :=
    .created smallRings rfl
  have hadded := hcreated.added rfl 1 { interface := 0, queues := .single 0 }
    { interface := 1, queues := .single 0 } faultyPort
  have hstarted := hadded.started (w := faultyPort) rfl
  exact hstarted.acted 0 rfl .receive faultyPort

/-- The statement for a relay whose worker crashes while it is torn down. -/
theorem running_tearsDown_faultyPort :
    Ran NullSink aboutToCrash ∧ aboutToCrash.phase = .running ∧
      aboutToCrash.TearsDown faultyPort :=
  ⟨ran_aboutToCrash, rfl, running_tearsDown ran_aboutToCrash rfl faultyPort⟩

/-- The same crash ends in two states: after a shutdown the context is drained, and after a drop
it is destroyed, with its rings released either way. -/
theorem shutdown_ne_drop :
    Ran NullSink aboutToCrash ∧ aboutToCrash.phase = .running ∧
      (∃ result r' w', aboutToCrash.shutdown faultyPort = some (result, r', w') ∧
        ∃ c ∈ r'.contexts, c.lane.Released ∧ c.state = .drained) ∧
      ∃ c ∈ (aboutToCrash.drop faultyPort).1.contexts, c.lane.Released ∧ c.state = .destroyed := by
  refine ⟨ran_aboutToCrash, rfl, ⟨_, _, _, rfl, _, List.mem_singleton_self _, ?_, rfl⟩,
    _, List.mem_singleton_self _, ?_, rfl⟩
  · exact ⟨rfl, rfl, rfl, rfl⟩
  · exact ⟨rfl, rfl, rfl, rfl⟩

end Relay

end EtherRelay
