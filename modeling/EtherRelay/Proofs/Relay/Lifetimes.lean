import EtherRelay.Proofs.Relay.Station

/-!
# The lifetime of a context

Many parties take a context further: those who hold a handle or its stop flag, the device layer when
an interface is removed, and its owner, who launches, joins, destroys or gives it up. What a handle
reports is put together from the recorded phase and the stop flag, which a reader looks at one after
the other. Both only ever move forward, and so does what is put together from them, even if other
parties act between the two looks.

`Lifetime` keeps next to the context what was done to it, which its reported state is then compared
with. Every operation comes in a world of its own, so whatever happens in between is allowed for.
-/

namespace EtherRelay

variable {β σ : Type}

/-! ## Moving forward -/

namespace Lifecycle

/-- The first can become the second: no phase is lost, and no stop request. -/
structure Precedes (l l' : Lifecycle) : Prop where
  rank_le : l.phase.rank ≤ l'.phase.rank
  stop : l.stopRequested = true → l'.stopRequested = true

/-- What is reported by a reader who looks at the phase first and at the stop flag later. -/
def report (early late : Lifecycle) : ContextState :=
  state { phase := early.phase, stopRequested := late.stopRequested }

variable {l l' l'' : Lifecycle}

theorem Precedes.refl (l : Lifecycle) : l.Precedes l := ⟨Nat.le_refl _, fun h => h⟩

theorem Precedes.trans (h : l.Precedes l') (h' : l'.Precedes l'') : l.Precedes l'' :=
  ⟨Nat.le_trans h.rank_le h'.rank_le, fun hl => h'.stop (h.stop hl)⟩

theorem precedes_requestStop (l : Lifecycle) : l.Precedes l.requestStop :=
  ⟨Nat.le_refl _, fun _ => rfl⟩

theorem precedes_advance (l : Lifecycle) (phase : Phase) : l.Precedes (l.advance phase) := by
  rw [advance]
  split
  · next hlt => exact ⟨Nat.le_of_lt hlt, fun h => h⟩
  · exact .refl l

theorem stopRequested_advance (l : Lifecycle) (phase : Phase) :
    (l.advance phase).stopRequested = l.stopRequested := by
  rw [advance]
  split <;> rfl

/-- The stop flag shows in the running phase alone, where it adds one to the rank. -/
theorem rank_state (l : Lifecycle) :
    l.state.rank = l.phase.rank + if l.phase = .running then l.stopRequested.toNat else 0 := by
  obtain ⟨phase, stopRequested⟩ := l
  cases phase <;> cases stopRequested <;> rfl

theorem Precedes.rank_state_le (h : l.Precedes l') : l.state.rank ≤ l'.state.rank := by
  have hrank := h.rank_le
  have hstop : l.stopRequested.toNat ≤ l'.stopRequested.toNat :=
    Bool.toNat_le_toNat (Bool.le_iff_imp.mpr h.stop)
  have hlast := l.stopRequested.toNat_le
  rw [rank_state, rank_state]
  split
  · next hrunning =>
    rw [hrunning] at hrank ⊢
    cases hphase : l'.phase with
    | created =>
        rw [hphase] at hrank
        exact absurd hrank (by decide)
    | running =>
        rw [if_pos rfl]
        exact Nat.add_le_add_left hstop _
    | drained | destroyed =>
        simp only [Phase.rank]
        omega
  · exact Nat.le_trans hrank (Nat.le_add_right _ _)

/-- Reports come in order if the looks behind them do. -/
theorem rank_report_le {m m' : Lifecycle} (h : l.Precedes m) (h' : l'.Precedes m') :
    (report l l').rank ≤ (report m m').rank :=
  Precedes.rank_state_le ⟨h.rank_le, h'.stop⟩

end Lifecycle

/-! ## What is done to a context -/

/-- A context and what was done to it. -/
structure Lifetime (β : Type) where
  context : Context β
  launched : Bool := false
  /-- Its workers were waited for, be it to join it or to give it up. -/
  joined : Bool := false
  /-- Somebody asked it to stop, or had to in order to wait for its workers. -/
  stopped : Bool := false

namespace Lifetime

/-- What can be done to a context. The owner finds a world in which to do it. -/
inductive Deed (β σ : Type) where
  /-- Through a handle or the stop flag. -/
  | requestStop
  /-- The device layer reports that an interface was removed. -/
  | removal (interface : InterfaceId)
  | act (role : WorkerRole) (w : World β σ)
  | launch (w : World β σ)
  | join (w : World β σ)
  | destroy (w : World β σ)
  | drop (w : World β σ)
  | discard (w : World β σ)

variable [FrameBuffer β] [Sink σ]

/-- Do one thing. Nothing happens if it does not apply any more, or not yet. -/
def step (l : Lifetime β) : Deed β σ → Lifetime β
  | .requestStop => { l with context := l.context.requestStop, stopped := true }
  | .removal interface =>
    { l with
      context := l.context.afterRemoval interface
      stopped := l.stopped || l.context.isBoundTo interface }
  | .act role w => { l with context := (l.context.stepWorker role w).1 }
  | .launch w =>
    match l.context.launch w with
    | none => l
    | some (context, _) => { l with context, launched := true }
  | .join w =>
    match l.context.join w with
    | none => l
    | some (_, context, _) => { l with context, joined := true, stopped := true }
  | .destroy w =>
    match l.context.destroy w with
    | none => l
    | some (_, context, _) => { l with context }
  | .drop w =>
    match l.context.body with
    | .running _ =>
      { l with context := (l.context.drop w).1, joined := true, stopped := true }
    | _ => { l with context := (l.context.drop w).1 }
  | .discard w =>
    match l.context.discard w with
    | none => l
    | some (context, _) => { l with context }

/-- Do things in order. -/
def run (l : Lifetime β) (deeds : List (Deed β σ)) : Lifetime β := deeds.foldl step l

end Lifetime

/-! ## What becomes of the life cycle -/

namespace Context

variable {c c' : Context β} {k : Workers β} {w w' : World β σ}

theorem precedes_afterRemoval (c : Context β) (interface : InterfaceId) :
    c.lifecycle.Precedes (c.afterRemoval interface).lifecycle := by
  rw [afterRemoval]
  split
  · exact c.lifecycle.precedes_requestStop
  · exact .refl _

theorem of_launch (h : c.launch w = some (c', w')) :
    ∃ receiver transmitter k, c.body = .created receiver transmitter ∧ c'.body = .running k ∧
      c'.lifecycle = c.lifecycle.advance .running := by
  rw [launch] at h
  split at h
  · next receiver transmitter hbody =>
    cases h
    exact ⟨receiver, transmitter, _, hbody, rfl, rfl⟩
  · cases h

section

variable [FrameBuffer β]

theorem of_discard (h : c.discard w = some (c', w')) :
    ∃ receiver transmitter, c.body = .created receiver transmitter ∧ c'.body = .gone ∧
      c'.lifecycle = c.lifecycle.advance .destroyed := by
  rw [discard] at h
  split at h
  · next receiver transmitter hbody =>
    cases h
    exact ⟨receiver, transmitter, hbody, rfl, rfl⟩
  · cases h

theorem of_destroy {report : ContextReport} (h : c.destroy w = some (report, c', w')) :
    c.body = .drained ∧ c'.body = .gone ∧ c'.lifecycle = c.lifecycle.advance .destroyed := by
  rw [destroy] at h
  split at h
  · next hbody =>
    cases h
    exact ⟨hbody, rfl, rfl⟩
  · cases h

end

variable [FrameBuffer β] [Sink σ]

theorem lifecycle_finishWorkers (c : Context β) (w : World β σ) :
    (c.finishWorkers w).1.lifecycle = c.lifecycle := by
  obtain ⟨_, _, _, _, _, _, _, _, hreceive, htransmit, hstats⟩ := finishWorkers_acts c w
  rw [hstats.lifecycle_eq, htransmit.lifecycle_eq, hreceive.lifecycle_eq]

/-- A join raises the stop flag before it waits. -/
theorem of_join {result : Except ContextError Unit} (h : c.join w = some (result, c', w')) :
    ∃ k, c.body = .running k ∧ (c'.body = .drained ∨ c'.body = .gone) ∧
      c'.lifecycle = c.lifecycle.requestStop.advance .drained := by
  have hlifecycle : (c.requestStop.finishWorkers w).1.lifecycle = c.lifecycle.requestStop :=
    lifecycle_finishWorkers c.requestStop w
  rw [join] at h
  split at h
  · next k hbody =>
    refine ⟨k, hbody, ?_⟩
    dsimp only at h
    rw [← hlifecycle]
    split at h
    · cases h
      exact ⟨.inr rfl, rfl⟩
    · cases h
      exact ⟨.inl rfl, rfl⟩
  · cases h

theorem drop_running (h : c.body = .running k) (w : World β σ) :
    (c.drop w).1.body = .gone ∧
      (c.drop w).1.lifecycle = c.lifecycle.requestStop.advance .destroyed := by
  have hlifecycle : (c.requestStop.finishWorkers (w.note (.contextAbandoned c.id))).1.lifecycle =
      c.lifecycle.requestStop := lifecycle_finishWorkers _ _
  simp only [drop, h]
  rw [← hlifecycle]
  exact ⟨rfl, rfl⟩

/-- Nobody hears of a context that is given up while it does not run. -/
theorem drop_of_ne_running (h : ∀ k, c.body ≠ .running k) (w : World β σ) :
    (c.drop w).1.body = .gone ∧ (c.drop w).1.lifecycle = c.lifecycle := by
  rw [drop]
  split
  · next hbody => exact ⟨hbody, rfl⟩
  · exact ⟨rfl, rfl⟩
  · exact ⟨rfl, rfl⟩
  · next k hbody => exact absurd hbody (h k)

/-- A handle that looks while a join is waiting finds what it finds after a stop request. -/
theorem join_requestStop (h : c.body = .running k) (w : World β σ) :
    c.requestStop.join w = c.join w := by
  have hbody : c.requestStop.body = .running k := h
  have htwice : c.requestStop.requestStop = c.requestStop := rfl
  simp only [join, h, hbody, htwice]

end Context

/-! ## Where a context stands -/

namespace Lifetime

/-- What a context consists of and what its life cycle says, by whether it was launched and whether
its workers were waited for. -/
inductive Stage : Bool → Bool → ContextBody β → Lifecycle → Prop where
  | created (receiver : Receiver) (transmitter : Transmitter) (stop : Bool) :
      Stage false false (.created receiver transmitter) { phase := .created, stopRequested := stop }
  | running (k : Workers β) (stop : Bool) :
      Stage true false (.running k) { phase := .running, stopRequested := stop }
  | drained : Stage true true .drained { phase := .drained, stopRequested := true }
  /-- It was given up before it was launched. -/
  | abandoned (stop : Bool) {phase : Phase} (h : phase = .created ∨ phase = .destroyed) :
      Stage false false .gone { phase, stopRequested := stop }
  | ended {phase : Phase} (h : phase = .drained ∨ phase = .destroyed) :
      Stage true true .gone { phase, stopRequested := true }

/-- The recorded stop flag is what was asked for, and the context is where it was taken. -/
structure Sound (l : Lifetime β) : Prop where
  stopped_eq : l.context.lifecycle.stopRequested = l.stopped
  stage : Stage l.launched l.joined l.context.body l.context.lifecycle

namespace Stage

variable {launched joined : Bool} {body : ContextBody β} {y : Lifecycle}

/-- A stop request does not take a context anywhere. -/
theorem requestStop (h : Stage launched joined body y) :
    Stage launched joined body y.requestStop := by
  cases h with
  | created receiver transmitter stop => exact .created receiver transmitter true
  | running k stop => exact .running k true
  | drained => exact .drained
  | abandoned stop h => exact .abandoned true h
  | ended h => exact .ended h

theorem launch {receiver : Receiver} {transmitter : Transmitter}
    (h : Stage launched joined (ContextBody.created (β := β) receiver transmitter) y)
    (k : Workers β) : Stage true joined (.running k) (y.advance .running) := by
  cases h with
  | created _ _ stop => exact .running k stop

theorem act {k : Workers β} (h : Stage launched joined (.running k) y) (k' : Workers β) :
    Stage launched joined (.running k') y := by
  cases h with
  | running _ stop => exact .running k' stop

theorem join {k : Workers β} (h : Stage launched joined (.running k) y)
    (hbody : body = .drained ∨ body = .gone) :
    Stage launched true body (y.requestStop.advance .drained) := by
  cases h with
  | running _ stop =>
      obtain rfl | rfl := hbody
      · exact .drained
      · exact .ended (.inl rfl)

theorem destroy (h : Stage launched joined (ContextBody.drained (β := β)) y) :
    Stage launched joined (ContextBody.gone (β := β)) (y.advance .destroyed) := by
  cases h with
  | drained => exact .ended (.inr rfl)

theorem discard {receiver : Receiver} {transmitter : Transmitter}
    (h : Stage launched joined (ContextBody.created (β := β) receiver transmitter) y) :
    Stage launched joined (ContextBody.gone (β := β)) (y.advance .destroyed) := by
  cases h with
  | created _ _ stop => exact .abandoned stop (.inr rfl)

theorem dropRunning {k : Workers β} (h : Stage launched joined (.running k) y) :
    Stage launched true (ContextBody.gone (β := β)) (y.requestStop.advance .destroyed) := by
  cases h with
  | running _ stop => exact .ended (.inr rfl)

theorem drop (h : Stage launched joined body y) (hbody : ∀ k, body ≠ .running k) :
    Stage launched joined (ContextBody.gone (β := β)) y := by
  cases h with
  | created receiver transmitter stop => exact .abandoned stop (.inl rfl)
  | running k stop => exact absurd rfl (hbody k)
  | drained => exact .ended (.inl rfl)
  | abandoned stop h => exact .abandoned stop h
  | ended h => exact .ended h

/-- A stop request shows just while the workers run. -/
theorem state_eq_stopRequested_iff (h : Stage launched joined body y) :
    y.state = .stopRequested ↔ launched = true ∧ joined = false ∧ y.stopRequested = true := by
  cases h with
  | running k stop => cases stop <;> simp [Lifecycle.state]
  | abandoned stop h | ended h => obtain rfl | rfl := h <;> simp [Lifecycle.state]
  | _ => simp [Lifecycle.state]

/-- Nobody waits for the workers of a context that was not asked to stop. -/
theorem stopRequested_of_wound (h : Stage launched joined body y) (hlaunched : launched = true)
    (hstate : y.state = .drained ∨ y.state = .destroyed) : y.stopRequested = true := by
  cases h with
  | running k stop => cases stop <;> simp [Lifecycle.state] at hstate
  | drained | ended => rfl
  | created | abandoned => cases hlaunched

/-- A stop request shows in a running context alone. -/
theorem state_requestStop (h : Stage launched joined body y)
    (hrests : launched = false ∨ y.state = .drained ∨ y.state = .destroyed) :
    y.requestStop.state = y.state := by
  cases h with
  | running k stop => cases stop <;> simp [Lifecycle.state] at hrests
  | abandoned stop h | ended h => obtain rfl | rfl := h <;> rfl
  | _ => rfl

end Stage

variable {l : Lifetime β} [FrameBuffer β] [Sink σ]

theorem Sound.step (h : l.Sound) (deed : Deed β σ) : (l.step deed).Sound := by
  cases deed with
  | requestStop => exact ⟨rfl, h.stage.requestStop⟩
  | removal interface =>
      rw [Lifetime.step, Context.afterRemoval]
      cases l.context.isBoundTo interface with
      | true => exact ⟨(Bool.or_true _).symm, h.stage.requestStop⟩
      | false => exact ⟨h.stopped_eq.trans (Bool.or_false _).symm, h.stage⟩
  | act role w =>
      refine ⟨?_, ?_⟩ <;> rw [Lifetime.step]
      · rw [Context.lifecycle_stepWorker]
        exact h.stopped_eq
      · rw [Context.lifecycle_stepWorker, Context.stepWorker]
        split
        · next k hbody => exact (hbody ▸ h.stage).act _
        · exact h.stage
  | launch w =>
      rw [Lifetime.step]
      split
      · exact h
      · next c' w' hlaunch =>
        obtain ⟨receiver, transmitter, k, hbody, hbody', hlifecycle⟩ := Context.of_launch hlaunch
        refine ⟨?_, ?_⟩
        · rw [hlifecycle, Lifecycle.stopRequested_advance]
          exact h.stopped_eq
        · rw [hlifecycle, hbody']
          exact (hbody ▸ h.stage).launch k
  | join w =>
      rw [Lifetime.step]
      split
      · exact h
      · next c' w' hjoin =>
        obtain ⟨k, hbody, hbody', hlifecycle⟩ := Context.of_join hjoin
        refine ⟨?_, ?_⟩
        · rw [hlifecycle, Lifecycle.stopRequested_advance]
          rfl
        · rw [hlifecycle]
          exact (hbody ▸ h.stage).join hbody'
  | destroy w =>
      rw [Lifetime.step]
      split
      · exact h
      · next report c' w' hdestroy =>
        obtain ⟨hbody, hbody', hlifecycle⟩ := Context.of_destroy hdestroy
        refine ⟨?_, ?_⟩
        · rw [hlifecycle, Lifecycle.stopRequested_advance]
          exact h.stopped_eq
        · rw [hlifecycle, hbody']
          exact (hbody ▸ h.stage).destroy
  | drop w =>
      rw [Lifetime.step]
      split
      · next k hbody =>
        obtain ⟨hbody', hlifecycle⟩ := Context.drop_running hbody w
        refine ⟨?_, ?_⟩
        · rw [hlifecycle, Lifecycle.stopRequested_advance]
          rfl
        · rw [hlifecycle, hbody']
          exact (hbody ▸ h.stage).dropRunning
      · next hne =>
        obtain ⟨hbody', hlifecycle⟩ := Context.drop_of_ne_running hne w
        refine ⟨?_, ?_⟩
        · rw [hlifecycle]
          exact h.stopped_eq
        · rw [hlifecycle, hbody']
          exact h.stage.drop hne
  | discard w =>
      rw [Lifetime.step]
      split
      · exact h
      · next c' w' hdiscard =>
        obtain ⟨receiver, transmitter, hbody, hbody', hlifecycle⟩ := Context.of_discard hdiscard
        refine ⟨?_, ?_⟩
        · rw [hlifecycle, Lifecycle.stopRequested_advance]
          exact h.stopped_eq
        · rw [hlifecycle, hbody']
          exact (hbody ▸ h.stage).discard

theorem Sound.run (h : l.Sound) (deeds : List (Deed β σ)) : (l.run deeds).Sound := by
  induction deeds generalizing l with
  | nil => exact h
  | cons deed deeds ih => exact ih (h.step deed)

omit [FrameBuffer β] [Sink σ] in
theorem sound_create {id : UInt16} {source destination : Binding} {settings : Settings}
    {names : RingNames} {w : World β σ} {c : Context β}
    (h : (Context.create id source destination settings names w).1 = .ok c) :
    Sound { context := c } := by
  rw [Context.create] at h
  split at h
  · cases h
  · split at h
    · cases h
    · split at h
      · cases h
      · next receiver _ =>
        cases h
        exact ⟨rfl, .created receiver _ false⟩

/-- Whatever is done, no phase is lost, and no stop request. -/
theorem precedes_step (l : Lifetime β) (deed : Deed β σ) :
    l.context.lifecycle.Precedes (l.step deed).context.lifecycle := by
  cases deed with
  | requestStop => exact l.context.lifecycle.precedes_requestStop
  | removal interface => exact l.context.precedes_afterRemoval interface
  | act role w =>
      rw [step, Context.lifecycle_stepWorker]
      exact .refl _
  | launch w =>
      rw [step]
      split
      · exact .refl _
      · next hlaunch =>
        obtain ⟨_, _, _, _, _, hlifecycle⟩ := Context.of_launch hlaunch
        exact hlifecycle ▸ l.context.lifecycle.precedes_advance .running
  | join w =>
      rw [step]
      split
      · exact .refl _
      · next hjoin =>
        obtain ⟨_, _, _, hlifecycle⟩ := Context.of_join hjoin
        exact hlifecycle ▸ (Lifecycle.precedes_requestStop _).trans (Lifecycle.precedes_advance _ _)
  | destroy w =>
      rw [step]
      split
      · exact .refl _
      · next hdestroy =>
        obtain ⟨_, _, hlifecycle⟩ := Context.of_destroy hdestroy
        exact hlifecycle ▸ l.context.lifecycle.precedes_advance .destroyed
  | drop w =>
      rw [step]
      split
      · next k hbody =>
        obtain ⟨_, hlifecycle⟩ := Context.drop_running hbody w
        exact hlifecycle ▸ (Lifecycle.precedes_requestStop _).trans (Lifecycle.precedes_advance _ _)
      · next hne =>
        obtain ⟨_, hlifecycle⟩ := Context.drop_of_ne_running hne w
        exact hlifecycle ▸ .refl _
  | discard w =>
      rw [step]
      split
      · exact .refl _
      · next hdiscard =>
        obtain ⟨_, _, _, _, hlifecycle⟩ := Context.of_discard hdiscard
        exact hlifecycle ▸ l.context.lifecycle.precedes_advance .destroyed

theorem precedes_run (l : Lifetime β) (deeds : List (Deed β σ)) :
    l.context.lifecycle.Precedes (l.run deeds).context.lifecycle := by
  induction deeds generalizing l with
  | nil => exact .refl _
  | cons deed deeds ih => exact (l.precedes_step deed).trans (ih (l.step deed))

/-- Whatever is done to a new context, what its handles report never falls back. They report that it
was asked to stop just if somebody did and its workers run and were not waited for yet. A context
that was launched is not reported as drained or destroyed unless its stop flag is raised, and
raising the flag of one that is not launched or is drained shows in no report. -/
theorem run_reports {id : UInt16} {source destination : Binding} {settings : Settings}
    {names : RingNames} {w : World β σ} {c : Context β}
    (hc : (Context.create id source destination settings names w).1 = .ok c)
    (deeds : List (Deed β σ)) :
    let l := run { context := c } deeds
    (∀ first between second : List (Deed β σ),
      let l₁ := l.run first
      let l₂ := l₁.run between
      (Lifecycle.report l.context.lifecycle l₁.context.lifecycle).rank ≤
        (Lifecycle.report l₂.context.lifecycle (l₂.run second).context.lifecycle).rank) ∧
    (l.context.state = .stopRequested ↔
      l.launched = true ∧ l.joined = false ∧ l.stopped = true) ∧
    (l.launched = true → l.context.state = .drained ∨ l.context.state = .destroyed →
      l.context.lifecycle.stopRequested = true) ∧
    (l.launched = false ∨ l.context.state = .drained ∨ l.context.state = .destroyed →
      ∀ request : Deed β σ, request = .requestStop ∨ (∃ interface, request = .removal interface) →
        (l.step request).context.state = l.context.state) := by
  intro l
  have hsound : l.Sound := (sound_create hc).run deeds
  refine ⟨?_, ?_, hsound.stage.stopRequested_of_wound, ?_⟩
  · intro first between second l₁ l₂
    have hearly : l.context.lifecycle.Precedes l₂.context.lifecycle :=
      (l.precedes_run first).trans (l₁.precedes_run between)
    have hlate : l₁.context.lifecycle.Precedes (l₂.run second).context.lifecycle :=
      (l₁.precedes_run between).trans (l₂.precedes_run second)
    exact Lifecycle.rank_report_le hearly hlate
  · rw [← hsound.stopped_eq]
    exact hsound.stage.state_eq_stopRequested_iff
  · rintro hrests request (rfl | ⟨interface, rfl⟩)
    · exact hsound.stage.state_requestStop hrests
    · rw [step, Context.afterRemoval]
      split
      · exact hsound.stage.state_requestStop hrests
      · rfl

/-- A new context that receives from a faulty port. -/
def newcomer : Except ContextError (Context Buffer) :=
  (Context.create 1 { interface := 0, queues := .single 0 } { interface := 1, queues := .single 0 }
    Relay.smallRings {} Relay.faultyPort).1

/-- The statement for that context: whatever is done to it, it reports a stop request just if there
was one and its workers run, and its reports never fall back. -/
theorem run_reports_newcomer :
    ∃ c, newcomer = .ok c ∧ ∀ deeds more : List (Deed Buffer NullSink),
      let l := run { context := c } deeds
      (l.context.state = .stopRequested ↔
        l.launched = true ∧ l.joined = false ∧ l.stopped = true) ∧
      l.context.state.rank ≤ (l.run more).context.state.rank := by
  obtain ⟨c, hc⟩ : ∃ c, newcomer = .ok c := ⟨_, rfl⟩
  refine ⟨c, hc, ?_⟩
  intro deeds more l
  obtain ⟨hforward, hstopping, _, _⟩ := run_reports hc deeds
  exact ⟨hstopping, hforward [] more []⟩

/-- Its receive worker crashes and an interface is removed. The join then fails, and nothing leads
on from there. -/
example :
    let deeds : List (Deed Buffer NullSink) :=
      [.launch Relay.faultyPort, .act .receive Relay.faultyPort, .act .receive Relay.faultyPort,
        .removal ⟨1, "right"⟩, .join Relay.faultyPort, .destroy Relay.faultyPort, .requestStop]
    newcomer.toOption.map (fun c => (deeds.scanl step { context := c }).map (·.context.state)) =
      some [.created, .running, .running, .running, .stopRequested, .drained, .drained,
        .drained] := by
  decide +kernel

end Lifetime

end EtherRelay
