import EtherRelay.Proofs.Context.Balance
import EtherRelay.Proofs.Relay.Lifetimes
import EtherRelay.Proofs.Relay.Stopping

/-!
# How the contexts of a relay end

When the workers of a context have left their loops a join winds it up at once. Without a crash the
context is destroyed and reported on. A worker that crashed fails the join, which then releases the
rings itself, and the first such worker is named. `Settled` says so, by the workers that crashed.
Either way there is nothing left of the context: it is `Emptied`.

What is answered for all contexts follows from the outcomes of the single ones: without a crash
there is a report on each, and else the first crash decides.
-/

namespace EtherRelay

variable {β σ : Type}

namespace Context

/-! ## What a context keeps to its end -/

section

variable {c c' : Context β} {w w' : World β σ}

theorem sameEnds_refl (c : Context β) : c.SameEnds c := ⟨rfl, rfl, rfl, rfl, rfl⟩

theorem SameEnds.trans {c'' : Context β} (h : c.SameEnds c') (h' : c'.SameEnds c'') :
    c.SameEnds c'' where
  id_eq := h'.id_eq.trans h.id_eq
  source_eq := h'.source_eq.trans h.source_eq
  destination_eq := h'.destination_eq.trans h.destination_eq
  sourceId_eq := h'.sourceId_eq.trans h.sourceId_eq
  destinationId_eq := h'.destinationId_eq.trans h.destinationId_eq

variable [FrameBuffer β] [Sink σ]

theorem sameEnds_stepWorker (c : Context β) (role : WorkerRole) (w : World β σ) :
    c.SameEnds (c.stepWorker role w).1 := by
  cases hbody : c.body with
  | running k =>
      rw [stepWorker_eq hbody]
      refine ⟨?_, rfl, rfl, rfl, rfl⟩
      cases role with
      | receive =>
          obtain ⟨_, hflows⟩ := k.receive.step_flows c.lifecycle.stopRequested c.lane
            { w with log := [] } c.destination.interface
          exact hflows.context_eq
      | transmit =>
          obtain ⟨_, hflows⟩ := k.transmit.step_flows c.lifecycle.stopRequested c.lane
            { w with log := [] } c.source.interface
          exact hflows.context_eq
      | stats =>
          exact (k.stats.step_flows c.lifecycle.stopRequested c.lane
            { w with log := [] }).context_eq
  | _ =>
      simp only [stepWorker, hbody]
      exact sameEnds_refl c

theorem Acts.sameEnds {role : WorkerRole} {n : Nat} (h : Acts role c w n c' w') :
    c.SameEnds c' := by
  induction h with
  | none => exact sameEnds_refl c
  | next _ ih => exact ih.trans (sameEnds_stepWorker _ role _)

theorem sameEnds_finishWorkers (c : Context β) (w : World β σ) :
    c.SameEnds (c.finishWorkers w).1 := by
  obtain ⟨_, _, _, _, _, _, _, _, hreceive, htransmit, hstats⟩ := finishWorkers_acts c w
  exact (hreceive.sameEnds.trans htransmit.sameEnds).trans hstats.sameEnds

end

/-! ## Workers that left their loops -/

section

variable {c : Context β} {k : Workers β}

/-- Whether all workers of a context have left their loops, or there are none. -/
def isQuiet (c : Context β) : Bool :=
  match c.body with
  | .running workers => [WorkerRole.receive, .transmit, .stats].all workers.isDone
  | _ => true

theorem isQuiet_iff (hbody : c.body = .running k) :
    c.isQuiet = true ↔ ∀ role, k.isDone role = true := by
  simp only [isQuiet, hbody, List.all_eq_true]
  exact ⟨fun h role => h role (by cases role <;> decide), fun h role _ => h role⟩

theorem requestStop_of_stopRequested (h : c.lifecycle.stopRequested = true) :
    c.requestStop = c := by
  rw [requestStop, Lifecycle.requestStop, ← h]

variable [FrameBuffer β] [Sink σ]

theorem turn_of_isDone (hbody : c.body = .running k) {role : WorkerRole}
    (h : k.isDone role = true) (fuel : Nat) (w : World β σ) :
    turn [] role fuel c w = (c, w) := by
  cases fuel with
  | zero => rfl
  | succ fuel =>
      have hrests : c.rests role = true := by
        rw [rests, hbody]
        exact Workers.rests_of_isDone h
      rw [turn, stepWorker_of_isDone hbody h]
      simp [hrests]

theorem finishWorkers_of_isQuiet (hbody : c.body = .running k) (h : c.isQuiet = true)
    (w : World β σ) : c.finishWorkers w = (c, w) := by
  have hdone := (isQuiet_iff hbody).mp h
  have hturn (role : WorkerRole) : c.finishWorker role w = (c, w) := by
    simp only [finishWorker, turn_of_isDone hbody (hdone role)]
  simp only [finishWorkers, hturn]

theorem Runs.isQuiet_finishWorkers (h : c.Runs k) (hstop : c.lifecycle.stopRequested = true)
    (w : World β σ) : (c.finishWorkers w).1.isQuiet = true := by
  obtain ⟨k', hbody, hdone⟩ := finishWorkers_done w h.body_eq h.sized hstop
  exact (isQuiet_iff hbody).mpr hdone

end

/-! ## One context -/

variable {c : Context Buffer} {k : Workers Buffer}

/-- There is nothing left of a context: no worker, and nothing in its rings. -/
structure Emptied (c : Context Buffer) : Prop where
  body_eq : c.body = .gone
  relay_eq : c.lane.relayRing.toList = []
  stats_eq : c.lane.statsRing.toList = []
  pooled_eq : c.pooled = 0

theorem Keeps.emptied (h : c.Keeps) (hgone : c.body = .gone) : c.Emptied := by
  obtain ⟨hrelay, hstats⟩ := h.toList_eq hgone
  refine ⟨hgone, hrelay, hstats, ?_⟩
  rw [pooled_of_idle (by rw [hgone]; rfl), Lane.pooled, hrelay, hstats]
  rfl

variable [Sink σ]

/-- A join without a crash leaves both rings to be released. -/
theorem Runs.join_kept (h : c.Runs k) (hkeeps : c.Keeps) {w : World Buffer σ}
    (hnone : c.crashedIn w = []) :
    ∃ c' w', c.join w = some (.ok (), c', w') ∧ c'.body = .drained ∧ c'.Keeps ∧ c.SameEnds c' := by
  obtain ⟨k', hfinished⟩ := h.requestStop.finishWorkers w
  have hkept := (keeps_finishWorkers hkeeps.requestStop w).body_keep
  have hends := sameEnds_finishWorkers c.requestStop w
  rw [hfinished.body_eq] at hkept
  rw [crashedIn] at hnone
  have hroles : k'.crashedRoles = [] := by
    rw [crashedRoles, hfinished.body_eq] at hnone
    exact hnone
  obtain ⟨hreceive, htransmit, hstats⟩ := Workers.isAlive_of_crashedRoles hroles
  have hopen := hkept.2
  rw [Workers.Keep, hreceive, htransmit, hstats] at hopen
  simp only [Context.join, h.body_eq, hnone]
  exact ⟨_, _, rfl, rfl, ⟨hopen⟩, ⟨hends.id_eq, hends.source_eq, hends.destination_eq,
    hends.sourceId_eq, hends.destinationId_eq⟩⟩

/-- A join after a crash releases the rings itself, and names the first worker that crashed. -/
theorem Runs.join_failed (h : c.Runs k) (hkeeps : c.Keeps) {w : World Buffer σ} {role : WorkerRole}
    {rest : List WorkerRole} (hcrashed : c.crashedIn w = role :: rest) :
    ∃ c' w', c.join w = some (.error (.workerPanicked c.id role), c', w') ∧ c'.Emptied := by
  obtain ⟨k', hfinished⟩ := h.requestStop.finishWorkers w
  have hkept := (keeps_finishWorkers hkeeps.requestStop w).body_keep
  have hid : (c.requestStop.finishWorkers w).1.id = c.id :=
    (sameEnds_finishWorkers c.requestStop w).id_eq
  rw [hfinished.body_eq] at hkept
  rw [crashedIn] at hcrashed
  have hreleased : (((c.requestStop.finishWorkers w).1.advance .drained).releaseRings
      (c.requestStop.finishWorkers w).2).1.Keeps :=
    keeps_releaseRings (c := (c.requestStop.finishWorkers w).1.advance .drained) hkept.2 _
  simp only [Context.join, h.body_eq, hcrashed]
  rw [← hid]
  exact ⟨_, _, rfl, hreleased.emptied rfl⟩

omit [Sink σ] in
/-- Destroying a joined context empties its rings and reports on it. -/
theorem Keeps.destroy_emptied (h : c.Keeps) (hbody : c.body = .drained) (w : World Buffer σ) :
    ∃ report c' w', c.destroy w = some (report, c', w') ∧ c'.Emptied ∧ c'.state = .destroyed ∧
      report.id = c.id ∧ report.source = c.sourceId ∧ report.destination = c.destinationId := by
  have hkept := h.body_keep
  rw [hbody] at hkept
  have hreleased := (keeps_releaseRings hkept w).emptied rfl
  simp only [Context.destroy, hbody]
  exact ⟨_, _, _, rfl, ⟨hreleased.body_eq, hreleased.relay_eq, hreleased.stats_eq,
    hreleased.pooled_eq⟩, state_advance_destroyed _, rfl, rfl, rfl⟩

end Context

namespace Relay

/-! ## Contexts of a relay that ran -/

section

variable [Sink σ] {r r' : Relay Buffer} {w w' : World Buffer σ}

/-- Whatever the relay and its workers did, the rings of its contexts are kept. -/
theorem Ran.keeps (h : Ran σ r) : ∀ c ∈ r.contexts, c.Keeps := by
  induction h with
  | created settings h =>
      rw [contexts_create h]
      exact List.forall_mem_nil _
  | added _ _ id source destination w ih =>
      rw [add]
      split
      · exact ih
      · split
        · exact ih
        · next c names hcreate =>
          refine List.forall_mem_append.mpr ⟨ih, List.forall_mem_singleton.mpr ?_⟩
          exact (Context.keeps_create (congrArg Prod.fst hcreate)).1
  | started _ hstart ih =>
      rw [start] at hstart
      split at hstart
      · cases hstart
        intro d hd
        obtain ⟨c, hc, w₀, rfl⟩ := mem_forEach hd
        cases hlaunch : c.launch w₀ with
        | none => exact ih c hc
        | some next => exact Context.keeps_launch (ih c hc) hlaunch
      · cases hstart
  | stopped _ index hc ih =>
      intro d hd
      obtain hd | rfl := List.mem_or_eq_of_mem_set hd
      · exact ih d hd
      · exact (ih _ (List.mem_of_getElem? hc)).requestStop
  | acted _ index hc role w ih =>
      intro d hd
      obtain hd | rfl := List.mem_or_eq_of_mem_set hd
      · exact ih d hd
      · exact Context.keeps_stepWorker (ih _ (List.mem_of_getElem? hc)) role w
  | @noticed _ _ _ _ kind _ _ hevent ih =>
      unfold deviceEvent at hevent
      split at hevent
      · cases hevent
      · cases kind with
        | removed =>
            cases hevent
            intro d hd
            obtain ⟨c, hc, w₀, rfl⟩ := mem_forEach hd
            split
            · exact (ih c hc).requestStop
            · exact ih c hc
        | reset =>
            cases hevent
            exact ih

end

/-! ## Outcomes -/

/-- What a report says of the context that it is about. -/
structure Reports (c : Context Buffer) (report : ContextReport) : Prop where
  id_eq : report.id = c.id
  source_eq : report.source = c.sourceId
  destination_eq : report.destination = c.destinationId

/-- What becomes of a context, by the workers that crashed: it is reported on and destroyed, or the
first of them is named. -/
inductive Settled (c : Context Buffer) : List WorkerRole → Except ContextError ContextReport →
    Context Buffer → Prop where
  | reported {report : ContextReport} {c' : Context Buffer} (hreports : Reports c report)
      (hstate : c'.state = .destroyed) (hempty : c'.Emptied) : Settled c [] (.ok report) c'
  | failed {role : WorkerRole} {rest : List WorkerRole} {c' : Context Buffer}
      (hstate : c'.state = .drained) (hempty : c'.Emptied) :
      Settled c (role :: rest) (.error (.workerPanicked c.id role)) c'

section

variable {c c' : Context Buffer} {outcome : Except ContextError ContextReport}

theorem Settled.emptied {crashed : List WorkerRole} (h : Settled c crashed outcome c') :
    c'.Emptied := by
  cases h with
  | reported _ _ hempty => exact hempty
  | failed _ hempty => exact hempty

theorem Settled.joined {crashed : List WorkerRole} (h : Settled c crashed outcome c') :
    c'.state = .drained ∨ c'.state = .destroyed := by
  cases h with
  | reported _ hstate _ => exact .inr hstate
  | failed hstate _ => exact .inl hstate

theorem Settled.destroyed (h : Settled c [] outcome c') : c'.state = .destroyed := by
  cases h with
  | reported _ hstate _ => exact hstate

end

/-- A context, its workers that crashed, what was said of it, and what is left of it. -/
structure Ending where
  context : Context Buffer
  crashed : List WorkerRole
  outcome : Except ContextError ContextReport
  after : Context Buffer

/-- Without a crash there is a report on each context; else the first crash is what is answered. -/
theorem collect_settled {endings : List Ending}
    (h : ∀ e ∈ endings, Settled e.context e.crashed e.outcome e.after) :
    (∃ reports, collect (endings.map (·.outcome)) = .ok reports ∧
      (∀ e ∈ endings, e.crashed = []) ∧
      List.Forall₂ (fun e report => Reports e.context report) endings reports) ∨
    ∃ (n : Nat) (e : Ending) (role : WorkerRole) (rest : List WorkerRole),
      endings[n]? = some e ∧ e.crashed = role :: rest ∧
      (∀ m < n, (endings.map (·.crashed))[m]? = some []) ∧
      collect (endings.map (·.outcome)) = .error (.workerPanicked e.context.id role) := by
  induction endings with
  | nil => exact .inl ⟨[], rfl, List.forall_mem_nil _, .nil⟩
  | cons e endings ih =>
      have hfirst := h e List.mem_cons_self
      obtain ⟨c, crashed, outcome, after⟩ := e
      dsimp only at hfirst
      cases hfirst with
      | @reported report _ hreports =>
          obtain ⟨reports, hok, hsane, hall⟩ | ⟨n, e, role, rest, he, hcrashed, hbefore, herror⟩ :=
            ih fun d hd => h d (List.mem_cons_of_mem _ hd)
          · refine .inl ⟨report :: reports, ?_, List.forall_mem_cons.mpr ⟨rfl, hsane⟩,
              .cons hreports hall⟩
            rw [List.map_cons, collect, hok]
            rfl
          · refine .inr ⟨n + 1, e, role, rest, he, hcrashed, ?_, ?_⟩
            · intro m hm
              cases m with
              | zero => rfl
              | succ m => exact hbefore m (Nat.lt_of_succ_lt_succ hm)
            · rw [List.map_cons, collect, herror]
              rfl
      | @failed role rest _ _ =>
          refine .inr ⟨0, _, role, rest, rfl, rfl, ?_, rfl⟩
          intro m hm
          exact absurd hm (Nat.not_lt_zero m)

/-- The answer is decided by the workers that crashed. -/
theorem collect_ok_iff {endings : List Ending}
    (h : ∀ e ∈ endings, Settled e.context e.crashed e.outcome e.after) :
    (∃ reports, collect (endings.map (·.outcome)) = .ok reports ∧
      List.Forall₂ Reports (endings.map (·.context)) reports) ↔
        ∀ crashed ∈ endings.map (·.crashed), crashed = [] := by
  obtain ⟨reports, hok, hsane, hall⟩ | ⟨n, e, role, rest, he, hcrashed, _, herror⟩ :=
    collect_settled h
  · refine iff_of_true ⟨reports, hok, ?_⟩ (List.forall_mem_map.mpr hsane)
    exact List.forall₂_map_left_iff.mpr hall
  · refine iff_of_false ?_ ?_
    · rintro ⟨reports, hok, _⟩
      cases herror.symm.trans hok
    · intro hsane
      cases hcrashed.symm.trans (List.forall_mem_map.mp hsane e (List.mem_of_getElem? he))

theorem collect_error {endings : List Ending}
    (h : ∀ e ∈ endings, Settled e.context e.crashed e.outcome e.after) {n : Nat} {e : Ending}
    {role : WorkerRole} {rest : List WorkerRole} (he : endings[n]? = some e)
    (hcrashed : e.crashed = role :: rest)
    (hbefore : ∀ m < n, (endings.map (·.crashed))[m]? = some []) :
    collect (endings.map (·.outcome)) = .error (.workerPanicked e.context.id role) := by
  have hat : (endings.map (·.crashed))[n]? = some (role :: rest) := by
    rw [List.getElem?_map, he, Option.map_some, hcrashed]
  obtain ⟨_, _, hsane, _⟩ | ⟨n', e', role', rest', he', hcrashed', hbefore', herror⟩ :=
    collect_settled h
  · cases hcrashed.symm.trans (hsane e (List.mem_of_getElem? he))
  · have hat' : (endings.map (·.crashed))[n']? = some (role' :: rest') := by
      rw [List.getElem?_map, he', Option.map_some, hcrashed']
    obtain hlt | rfl | hlt := Nat.lt_trichotomy n n'
    · cases hat.symm.trans (hbefore' n hlt)
    · cases he.symm.trans he'
      cases hcrashed.symm.trans hcrashed'
      exact herror
    · cases hat'.symm.trans (hbefore n' hlt)

/-! ## Winding down -/

theorem Reports.of_sameEnds {c c' : Context Buffer} {report : ContextReport}
    (h : Reports c' report) (hends : c.SameEnds c') : Reports c report where
  id_eq := h.id_eq.trans hends.id_eq
  source_eq := h.source_eq.trans hends.sourceId_eq
  destination_eq := h.destination_eq.trans hends.destinationId_eq

theorem Settled.of_sameEnds {c c' c'' : Context Buffer} {crashed : List WorkerRole}
    {outcome : Except ContextError ContextReport} (h : Settled c' crashed outcome c'')
    (hends : c.SameEnds c') : Settled c crashed outcome c'' := by
  cases h with
  | reported hreports hstate hempty => exact .reported (hreports.of_sameEnds hends) hstate hempty
  | failed hstate hempty =>
      rw [hends.id_eq]
      exact .failed hstate hempty

/-- A context came to its end for the workers of it that crashed. -/
structure Ending.Sound (e : Ending) : Prop where
  settled : Settled e.context e.crashed e.outcome e.after
  crashed_eq : ∃ workers : Workers Buffer, e.crashed = workers.crashedRoles
  stopRequested : e.after.lifecycle.stopRequested = true

theorem Ending.Sound.crashedRoles_after {e : Ending} (h : e.Sound) : e.after.crashedRoles = [] := by
  rw [Context.crashedRoles, h.settled.emptied.body_eq]

variable [Sink σ]

/-- A context whose workers have left their loops is wound down as it is. -/
theorem windDown_settled {c : Context Buffer} {workers : Workers Buffer} (h : c.Runs workers)
    (hkeeps : c.Keeps) (hstop : c.lifecycle.stopRequested = true) (hquiet : c.isQuiet = true)
    (w : World Buffer σ) :
    ∃ outcome c' w', windDown c w = (some outcome, c', w') ∧
      Settled c c.crashedRoles outcome c' ∧ c'.lifecycle.stopRequested = true := by
  have hsame := Context.requestStop_of_stopRequested hstop
  have hcrashedIn : c.crashedIn w = c.crashedRoles := by
    rw [Context.crashedIn, hsame, Context.finishWorkers_of_isQuiet h.body_eq hquiet]
  cases hcrashed : c.crashedRoles with
  | nil =>
      obtain ⟨c₁, w₁, hjoin, hbody, hkept, hends⟩ :=
        h.join_kept hkeeps (hcrashedIn.trans hcrashed)
      obtain ⟨report, c₂, w₂, hdestroy, hempty, hstate, hid, hsource, hdestination⟩ :=
        hkept.destroy_emptied hbody w₁
      obtain ⟨_, _, _, hjoined⟩ := Context.of_join hjoin
      obtain ⟨_, _, hdestroyed⟩ := Context.of_destroy hdestroy
      refine ⟨.ok report, c₂, w₂, ?_, ?_, ?_⟩
      · simp only [windDown, hjoin, hdestroy]
      · have hreports : Reports c₁ report := ⟨hid, hsource, hdestination⟩
        exact .reported (hreports.of_sameEnds hends) hstate hempty
      · rw [hdestroyed, Lifecycle.stopRequested_advance, hjoined, Lifecycle.stopRequested_advance]
        rfl
  | cons role rest =>
      obtain ⟨c₁, w₁, hjoin, hempty⟩ := h.join_failed hkeeps (hcrashedIn.trans hcrashed)
      obtain ⟨_, _, _, hjoined⟩ := Context.of_join hjoin
      refine ⟨.error (.workerPanicked c.id role), c₁, w₁, ?_, .failed ?_ hempty, ?_⟩
      · simp only [windDown, hjoin]
      · rw [Context.state, hjoined]
        exact h.requestStop.state_advance_drained
      · rw [hjoined, Lifecycle.stopRequested_advance]
        rfl

/-- It makes no difference whether the workers finish before the caller comes to the join. -/
theorem windDown_finishWorkers {c : Context Buffer} {workers : Workers Buffer}
    (h : c.Runs workers) (hstop : c.lifecycle.stopRequested = true) (w : World Buffer σ) :
    windDown (c.finishWorkers w).1 (c.finishWorkers w).2 = windDown c w := by
  obtain ⟨workers', hfinished⟩ := h.finishWorkers w
  have hquiet := h.isQuiet_finishWorkers hstop w
  have hstop' : (c.finishWorkers w).1.lifecycle.stopRequested = true := by
    rwa [Context.lifecycle_finishWorkers]
  have hjoin : (c.finishWorkers w).1.join (c.finishWorkers w).2 = c.join w := by
    simp only [Context.join, hfinished.body_eq, h.body_eq,
      Context.requestStop_of_stopRequested hstop, Context.requestStop_of_stopRequested hstop',
      Context.finishWorkers_of_isQuiet hfinished.body_eq hquiet]
  obtain ⟨result, _, _, hjoined, _⟩ := h.join w
  cases result <;> simp only [windDown, hjoin, hjoined]

end Relay

end EtherRelay
