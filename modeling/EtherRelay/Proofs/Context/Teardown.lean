import EtherRelay.Proofs.Context.Turns
import EtherRelay.Proofs.Ring.Closing

/-!
# Winding down a context

A running context can be given up, or joined and then destroyed. Either way its workers finish
first, and some of them may have crashed by then. The rings are released in the end whatever
happened, but the state that the context reports depends on the way: one that was given up is
destroyed, and so is one that was joined without a crash, while a join that fails releases the
rings of a context that says it is drained and that nothing takes further.
-/

namespace EtherRelay

variable {α β σ : Type}

/-! ## Releasing the rings -/

namespace Ring

variable (r : Ring α)

theorem Alike.release : r.Alike r.release.2 := by
  rw [Ring.release]
  split
  · exact .refl r
  · exact .popMany r r.length

theorem open_closeProducer :
    r.closeProducer.2.producerOpen = false ∧
      r.closeProducer.2.consumerOpen = r.consumerOpen := by
  rw [Ring.closeProducer]
  split
  · have halike := Alike.release { r with producerOpen := false }
    exact ⟨halike.producerOpen_eq, halike.consumerOpen_eq⟩
  · next hclosed => exact ⟨Bool.eq_false_of_not_eq_true hclosed, rfl⟩

theorem open_closeConsumer :
    r.closeConsumer.2.producerOpen = r.producerOpen ∧
      r.closeConsumer.2.consumerOpen = false := by
  rw [Ring.closeConsumer]
  split
  · have halike := Alike.release { r with consumerOpen := false }
    exact ⟨halike.producerOpen_eq, halike.consumerOpen_eq⟩
  · next hclosed => exact ⟨rfl, Bool.eq_false_of_not_eq_true hclosed⟩

end Ring

/-- Both halves of both rings were given up. -/
structure Lane.Released (lane : Lane β) : Prop where
  relay_producer : lane.relayRing.producerOpen = false
  relay_consumer : lane.relayRing.consumerOpen = false
  stats_producer : lane.statsRing.producerOpen = false
  stats_consumer : lane.statsRing.consumerOpen = false

namespace Context

variable {c : Context β} {k : Workers β}

@[simp] theorem lane_advance (c : Context β) (phase : Phase) : (c.advance phase).lane = c.lane :=
  rfl

/-- Whatever phase was reached before, the last one can be reached. -/
theorem state_advance_destroyed (c : Context β) : (c.advance .destroyed).state = .destroyed := by
  rw [advance, state, Lifecycle.advance]
  cases hphase : c.lifecycle.phase with
  | destroyed =>
      rw [if_neg (by decide), Lifecycle.state, hphase]
  | _ => rfl

/-- A running context whose workers take no more than a burst at once. -/
structure Runs (c : Context β) (k : Workers β) : Prop where
  body_eq : c.body = .running k
  sized : k.Sized c.settings.burstSize
  phase_eq : c.lifecycle.phase = .running

theorem Runs.requestStop (h : c.Runs k) : c.requestStop.Runs k :=
  ⟨h.body_eq, h.sized, h.phase_eq⟩

/-- A running context that did not fail yet is drained next. -/
theorem Runs.state_advance_drained (h : c.Runs k) : (c.advance .drained).state = .drained := by
  rw [advance, state, Lifecycle.advance, h.phase_eq]
  rfl

variable [FrameBuffer β]

theorem released_releaseRings (c : Context β) (w : World β σ) :
    (c.releaseRings w).1.lane.Released := by
  have hrelay := Ring.open_closeProducer c.lane.relayRing
  have hstats := Ring.open_closeProducer c.lane.statsRing
  have hrelay' := Ring.open_closeConsumer c.lane.relayRing.closeProducer.2
  have hstats' := Ring.open_closeConsumer c.lane.statsRing.closeProducer.2
  exact ⟨hrelay'.1.trans hrelay.1, hrelay'.2, hstats'.1.trans hstats.1, hstats'.2⟩

variable [Sink σ]

theorem Runs.stepWorker (h : c.Runs k) (role : WorkerRole) (w : World β σ) :
    ∃ k', (c.stepWorker role w).1.Runs k' := by
  rw [stepWorker_eq h.body_eq]
  exact ⟨_, rfl, h.sized.step _ _ _ role, h.phase_eq⟩

theorem Runs.acts {c' : Context β} {w w' : World β σ} {role : WorkerRole} {n : Nat}
    (h : c.Runs k) (hacts : Acts role c w n c' w') : ∃ k', c'.Runs k' := by
  induction hacts with
  | none => exact ⟨k, h⟩
  | next _ ih =>
      obtain ⟨k', h'⟩ := ih
      exact h'.stepWorker role _

theorem Runs.finishWorkers (h : c.Runs k) (w : World β σ) :
    ∃ k', (c.finishWorkers w).1.Runs k' := by
  obtain ⟨_, _, _, _, _, _, _, _, hacts₁, hacts₂, hacts₃⟩ := finishWorkers_acts c w
  obtain ⟨k₁, h₁⟩ := h.acts hacts₁
  obtain ⟨k₂, h₂⟩ := h₁.acts hacts₂
  exact h₂.acts hacts₃

/-! ## Ways to wind down -/

/-- The workers that have crashed by the time that all of them left their loops. -/
def crashedIn (c : Context β) (w : World β σ) : List WorkerRole :=
  (c.requestStop.finishWorkers w).1.crashedRoles

/-- Giving up a running context ends in the last phase, crash or not. -/
theorem Runs.drop (h : c.Runs k) (w : World β σ) :
    (c.drop w).1.lane.Released ∧ (c.drop w).1.state = .destroyed := by
  simp only [Context.drop, h.body_eq, lane_advance]
  exact ⟨released_releaseRings _ _, state_advance_destroyed _⟩

/-- Without a crash a join waits for the rings to be released. -/
theorem Runs.join_of_sane (h : c.Runs k) {w : World β σ} (hnone : c.crashedIn w = []) :
    ∃ c' w', c.join w = some (.ok (), c', w') ∧ c'.body = .drained ∧ c'.state = .drained := by
  obtain ⟨k', hfinished⟩ := h.requestStop.finishWorkers w
  rw [crashedIn] at hnone
  simp only [join, h.body_eq, hnone]
  exact ⟨_, _, rfl, rfl, hfinished.state_advance_drained⟩

/-- After a crash a join releases the rings itself, and goes no further. -/
theorem Runs.join_of_crashed (h : c.Runs k) {w : World β σ} {role : WorkerRole}
    {rest : List WorkerRole} (hcrashed : c.crashedIn w = role :: rest) :
    ∃ c' w', c.join w = some (.error (.workerPanicked c'.id role), c', w') ∧ c'.body = .gone ∧
      c'.lane.Released ∧ c'.state = .drained := by
  obtain ⟨k', hfinished⟩ := h.requestStop.finishWorkers w
  rw [crashedIn] at hcrashed
  simp only [join, h.body_eq, hcrashed]
  exact ⟨_, _, rfl, rfl, released_releaseRings _ _, hfinished.state_advance_drained⟩

omit [Sink σ] in
theorem destroy_of_drained (h : c.body = .drained) (w : World β σ) :
    ∃ report c' w', c.destroy w = some (report, c', w') ∧ c'.body = .gone ∧
      c'.lane.Released ∧ c'.state = .destroyed := by
  have hreleased := released_releaseRings c w
  simp only [destroy, h]
  exact ⟨_, _, _, rfl, rfl, hreleased, state_advance_destroyed _⟩

/-- What a join makes of a context, and where it can lead from there. -/
inductive Joined (σ : Type) [Sink σ] (crashed : List WorkerRole) :
    Except ContextError Unit → Context β → Prop where
  | drained {c : Context β} (hnone : crashed = []) (hstate : c.state = .drained)
      (hdestroy : ∀ w : World β σ, ∃ report c' w', c.destroy w = some (report, c', w') ∧
        c'.lane.Released ∧ c'.state = .destroyed) : Joined σ crashed (.ok ()) c
  | failed {c : Context β} {role : WorkerRole} (hfirst : crashed.head? = some role)
      (hreleased : c.lane.Released) (hstate : c.state = .drained)
      (hlast : ∀ w : World β σ, c.destroy w = none ∧ c.join w = none ∧ c.drop w = (c, w)) :
      Joined σ crashed (.error (.workerPanicked c.id role)) c

/-- A join fails just if a worker crashed, and then leaves the context where it is for good. -/
theorem Runs.join (h : c.Runs k) (w : World β σ) :
    ∃ result c' w', c.join w = some (result, c', w') ∧ Joined σ (c.crashedIn w) result c' := by
  cases hcrashed : c.crashedIn w with
  | nil =>
      obtain ⟨c', w', hjoin, hbody, hstate⟩ := h.join_of_sane hcrashed
      refine ⟨_, c', w', hjoin, .drained rfl hstate ?_⟩
      intro w₁
      obtain ⟨report, c'', w₂, hdestroy, _, hreleased, hdestroyed⟩ := destroy_of_drained hbody w₁
      exact ⟨report, c'', w₂, hdestroy, hreleased, hdestroyed⟩
  | cons role rest =>
      obtain ⟨c', w', hjoin, hbody, hreleased, hstate⟩ := h.join_of_crashed hcrashed
      refine ⟨_, c', w', hjoin, .failed rfl hreleased hstate ?_⟩
      intro w₁
      simp only [destroy, Context.join, Context.drop, hbody, and_self]

end Context

end EtherRelay
