import EtherRelay.Proofs.Context.Halves

/-!
# Where the buffers of contexts are

A context holds buffers in its rings and in the hands of its workers. Every action of a worker
and every step of the context itself keeps account of them. A worker that crashes frees what it
has in hand, and a context that is gone holds nothing.
-/

namespace EtherRelay

variable {σ : Type} {lane : Lane Buffer} {w : World Buffer σ} {capacity n : Nat}
variable {receiving transmitting monitoring : Bool}

/-! ## Actions of one worker -/

theorem ReceiveWorker.step_lends (stop : Bool) (r : ReceiveWorker)
    (h : lane.Kept r.place.isAlive transmitting monitoring)
    (hw : w.Lends capacity (n + lane.pooled)) :
    (r.step stop lane w).2.2.Lends capacity (n + (r.step stop lane w).2.1.pooled) := by
  cases hp : r.place with
  | ready =>
      simp only [step, hp]
      split
      · exact hw
      · exact hw
  | polling =>
      rw [hp] at h
      simp only [step, hp]
      split
      · rw [h.closeReceiver.2, ← Nat.add_assoc] at hw
        have hmarked := hw.markFaulted r.stage.interface
        exact hmarked.release
      · exact (r.stage.poll_lends h hw).2
  | finished | crashed =>
      simp only [step, hp]
      exact hw

theorem TransmitWorker.step_lends (stop : Bool) (t : TransmitWorker Buffer)
    (h : lane.Kept receiving t.place.isAlive monitoring)
    (hw : w.Lends capacity (n + lane.pooled + pooledIn t.place.inHand)) :
    (t.step stop lane w).2.2.Lends capacity (n + (t.step stop lane w).2.1.pooled +
      pooledIn (t.step stop lane w).1.place.inHand) := by
  cases hp : t.place with
  | ready =>
      rw [hp] at hw
      simp only [step, hp]
      split
      · exact hw
      · exact hw
  | polling =>
      rw [hp] at h hw
      obtain ⟨_, hpooled⟩ :=
        h.takesRelay (t.stage.load_takes (h.relay_kept.sound (.inr h.relay_consumer)))
      have hnone : (TransmitPlace.polling : TransmitPlace Buffer).inHand = [] := rfl
      rw [hnone, pooledIn_nil, Nat.add_zero, hpooled, ← Nat.add_assoc] at hw
      simp only [step, hp]
      split
      · next hnil =>
        rw [List.isEmpty_iff.mp hnil] at hw
        exact hw
      · exact hw
  | sending burst =>
      rw [hp] at h hw
      simp only [step, hp]
      split
      · rw [h.closeTransmitter.2, ← Nat.add_assoc] at hw
        have hmarked := hw.markFaulted t.stage.interface
        exact hmarked.release.release
      · obtain ⟨_, hsame, hsent⟩ := t.stage.send_lends h hw
        rw [← hsame] at hsent
        exact hsent
  | finished | crashed =>
      rw [hp] at hw
      simp only [step, hp]
      exact hw

/-- Taking a sample moves no buffer, and if it crashes the worker gives up its halves. -/
theorem StatsWorker.sampleIfDue_lends (s : StatsWorker Buffer)
    (h : lane.Kept receiving transmitting true) (hw : w.Lends capacity (n + lane.pooled)) :
    (s.sampleIfDue lane w).2.2.Lends capacity (n + (s.sampleIfDue lane w).2.1.pooled) := by
  rcases s.sampleIfDue_cases lane w with ⟨_, hlane, hfrees⟩ | ⟨i, w', hfrees, hcrash⟩
  · rw [hlane]
    exact hw.frees_nil hfrees
  · rw [h.closeMonitor.2, ← Nat.add_assoc] at hw
    have hmarked := (hw.frees_nil hfrees).markFaulted i
    rw [hcrash]
    exact hmarked.release

theorem StatsWorker.step_lends [Sink σ] (stop : Bool) (s : StatsWorker Buffer)
    (h : lane.Kept receiving transmitting s.place.isAlive)
    (hw : w.Lends capacity (n + lane.pooled + pooledIn s.place.inHand)) :
    (s.step stop lane w).2.2.Lends capacity (n + (s.step stop lane w).2.1.pooled +
      pooledIn (s.step stop lane w).1.place.inHand) := by
  cases hp : s.place with
  | ready =>
      rw [hp] at hw
      simp only [step, hp]
      split
      · exact hw
      · exact hw
  | polling =>
      rw [hp] at h hw
      obtain ⟨_, hpooled⟩ :=
        h.takesStats (s.stage.load_takes (h.stats_kept.sound (.inr h.stats_consumer)))
      have hnone : (StatsPlace.polling : StatsPlace Buffer).inHand = [] := rfl
      rw [hnone, pooledIn_nil, Nat.add_zero, hpooled, ← Nat.add_assoc] at hw
      simp only [step, hp]
      exact hw
  | draining rest =>
      rw [hp] at h hw
      cases rest with
      | nil =>
          have hnone : (StatsPlace.draining [] : StatsPlace Buffer).inHand = [] := rfl
          rw [hnone, pooledIn_nil, Nat.add_zero] at hw
          simp only [step, hp]
          rw [(s.sampleIfDue_place lane w).2.2.1, pooledIn_nil, Nat.add_zero]
          exact s.sampleIfDue_lends h hw
      | cons probe rest =>
          have hnext : (StatsPlace.draining (probe :: rest)).inHand = probe :: rest := rfl
          obtain ⟨_, _, hcounts, hfrees⟩ := Monitor.inspect_counts lane w probe
          rw [hnext, ← (h.counts hcounts).2] at hw
          have hread := hw.frees_nil hfrees
          simp only [step, hp]
          split
          · next heq =>
            rw [heq] at hread
            exact hread
          · next heq =>
            rw [heq, add_pooledIn_cons] at hread
            exact hread.release
  | reporting latency probe rest =>
      rw [hp] at h hw
      have hnext : (StatsPlace.reporting latency probe rest).inHand = probe :: rest := rfl
      obtain ⟨_, _, hcounts, hfrees⟩ :=
        Monitor.publish_counts lane w (latency.record lane.context)
      rw [hnext, ← (h.counts hcounts).2, add_pooledIn_cons] at hw
      simp only [step, hp]
      exact (hw.frees_nil hfrees).release
  | publishing sample =>
      rw [hp] at h hw
      obtain ⟨_, _, hcounts, hfrees⟩ :=
        Monitor.publish_counts lane w (sample.record lane.context)
      rw [← (h.counts hcounts).2] at hw
      simp only [step, hp]
      exact hw.frees_nil hfrees
  | finished | crashed =>
      rw [hp] at hw
      simp only [step, hp]
      exact hw

/-! ## Actions of all workers -/

namespace Workers

/-- The pooled buffers that the workers have in hand. -/
def pooled (k : Workers Buffer) : Nat :=
  pooledIn k.transmit.place.inHand + pooledIn k.stats.place.inHand

theorem pooled_of_rests {k : Workers Buffer} (h : ∀ role, k.rests role = true) :
    k.pooled = 0 := by
  rw [pooled, k.transmit.inHand_of_rests (h .transmit), (k.stats.inHand_of_rests (h .stats)).1,
    pooledIn_nil]

theorem isAlive_of_crashedRoles {k : Workers Buffer} (h : k.crashedRoles = []) :
    k.receive.place.isAlive = true ∧ k.transmit.place.isAlive = true ∧
      k.stats.place.isAlive = true := by
  rw [crashedRoles, List.filter_eq_nil_iff] at h
  have hreceive := h .receive (by decide)
  have htransmit := h .transmit (by decide)
  have hstats := h .stats (by decide)
  refine ⟨?_, ?_, ?_⟩
  · cases hp : k.receive.place <;> simp_all [crashed, ReceivePlace.isAlive]
  · cases hp : k.transmit.place <;> simp_all [crashed, TransmitPlace.isAlive]
  · cases hp : k.stats.place <;> simp_all [crashed, StatsPlace.isAlive]

theorem step_lends [Sink σ] (stop : Bool) {k : Workers Buffer} (h : k.Keep lane)
    (hw : w.Lends capacity (n + (lane.pooled + k.pooled))) (role : WorkerRole) :
    (k.step stop lane w role).2.2.Lends capacity
      (n + ((k.step stop lane w role).2.1.pooled + (k.step stop lane w role).1.pooled)) := by
  cases role with
  | receive =>
      have htotal : n + (lane.pooled + k.pooled) = n + k.pooled + lane.pooled := by omega
      rw [htotal] at hw
      have hlends := k.receive.step_lends stop h hw
      rw [Nat.add_comm (Lane.pooled _), ← Nat.add_assoc]
      exact hlends
  | transmit =>
      have htotal : n + (lane.pooled + k.pooled) = n + pooledIn k.stats.place.inHand +
          lane.pooled + pooledIn k.transmit.place.inHand := by
        rw [pooled]
        omega
      rw [htotal] at hw
      have hlends := k.transmit.step_lends stop h hw
      have htotal' : ∀ a b, n + (a + (b + pooledIn k.stats.place.inHand)) =
          n + pooledIn k.stats.place.inHand + a + b := by omega
      rw [pooled, step]
      dsimp only
      rw [htotal']
      exact hlends
  | stats =>
      have htotal : n + (lane.pooled + k.pooled) = n + pooledIn k.transmit.place.inHand +
          lane.pooled + pooledIn k.stats.place.inHand := by
        rw [pooled]
        omega
      rw [htotal] at hw
      have hlends := k.stats.step_lends stop h hw
      have htotal' : ∀ a b, n + (a + (pooledIn k.transmit.place.inHand + b)) =
          n + pooledIn k.transmit.place.inHand + a + b := by omega
      rw [pooled, step]
      dsimp only
      rw [htotal']
      exact hlends

end Workers

/-! ## Steps of a context -/

/-- The pooled buffers that the workers of a context have in hand. -/
def ContextBody.inHand : ContextBody Buffer → Nat
  | .running k => k.pooled
  | _ => 0

namespace Context

/-- The pooled buffers of a context. -/
def pooled (c : Context Buffer) : Nat := c.lane.pooled + c.body.inHand

theorem pooled_of_idle {c : Context Buffer} (h : c.body.inHand = 0) :
    c.pooled = c.lane.pooled := by
  rw [pooled, h, Nat.add_zero]

/-- What an owner or a worker does with a context. -/
inductive Act where
  | launch
  | requestStop
  | worker (role : WorkerRole)
  | join
  | destroy
  | drop
  deriving Repr, DecidableEq

variable {c c' : Context Buffer} {w' : World Buffer σ}

theorem keeps_create {id : UInt16} {source destination : Binding} {settings : Settings}
    {names : RingNames} (h : (create id source destination settings names w).1 = .ok c) :
    c.Keeps ∧ c.pooled = 0 := by
  obtain ⟨rfl, _, hfresh, receiver, hreceiver, hbody⟩ := create_fresh h
  refine ⟨⟨?_⟩, ?_⟩
  · rw [hbody]
    exact ⟨hfresh.kept, hreceiver, rfl⟩
  · rw [pooled, hfresh.pooled_eq, hbody]
    rfl

theorem Keeps.launch (h : c.Keeps) (hw : w.Lends capacity (n + c.pooled))
    (hlaunch : c.launch w = some (c', w')) :
    c'.Keeps ∧ w'.Lends capacity (n + c'.pooled) := by
  obtain ⟨receiver, transmitter, k, hcreated, hrunning, hlane, _, hfrees, _, htransmit, hstats,
    _⟩ := launch_running hlaunch
  have hpooled : c'.pooled = c.pooled := by
    rw [pooled, pooled, hrunning, hcreated, hlane, ContextBody.inHand, Workers.pooled, htransmit,
      hstats]
    rfl
  refine ⟨keeps_launch h hlaunch, ?_⟩
  rw [hpooled]
  exact hw.frees_nil hfrees

/-- Releasing the rings frees all that is in them. -/
theorem releaseRings_lends (h : c.lane.Kept receiving transmitting monitoring)
    (hw : w.Lends capacity (n + c.lane.pooled)) :
    (c.releaseRings w).1.Keeps ∧
      (c.releaseRings w).2.Lends capacity (n + (c.releaseRings w).1.pooled) := by
  obtain ⟨hreceiver, hreceived⟩ := h.closeReceiver
  obtain ⟨htransmitter, hrelayed⟩ := hreceiver.closeTransmitter
  obtain ⟨_, hprobes⟩ := htransmitter.closeMonitor
  have hpooled : (c.releaseRings w).1.pooled =
      c.lane.closeReceiver.2.closeTransmitter.2.closeMonitor.2.pooled := rfl
  refine ⟨keeps_releaseRings h w, ?_⟩
  rw [hreceived, hrelayed, hprobes, ← Nat.add_assoc, ← Nat.add_assoc, ← Nat.add_assoc] at hw
  rw [hpooled]
  exact hw.release.release.release

/-- Destroying a context frees all that is in its rings. -/
theorem Keeps.destroy (h : c.Keeps) (hw : w.Lends capacity (n + c.pooled))
    {report : ContextReport} (hdestroy : c.destroy w = some (report, c', w')) :
    c'.Keeps ∧ w'.Lends capacity (n + c'.pooled) := by
  cases hc : c.body with
  | drained =>
      have hbody := h.body_keep
      rw [hc] at hbody
      rw [pooled_of_idle (by rw [hc]; rfl)] at hw
      obtain ⟨hkeeps, hreleased⟩ := releaseRings_lends hbody hw
      simp only [Context.destroy, hc] at hdestroy
      cases hdestroy
      exact ⟨⟨hkeeps.body_keep⟩, hreleased⟩
  | _ => simp only [Context.destroy, hc, reduceCtorEq] at hdestroy

theorem destroy_gone {report : ContextReport} (h : c.destroy w = some (report, c', w')) :
    c'.body = .gone := by
  cases hc : c.body with
  | drained =>
      simp only [Context.destroy, hc] at h
      cases h
      rfl
  | _ => simp only [Context.destroy, hc, reduceCtorEq] at h

/-- Reporting on workers moves no buffer. -/
theorem noteAll_lends (event : WorkerRole → Event) (roles : List WorkerRole)
    (hw : w.Lends capacity n) :
    (roles.foldl (fun w role => w.note (event role)) w).Lends capacity n := by
  induction roles generalizing w with
  | nil => exact hw
  | cons role roles ih => exact ih (w := w.note (event role)) hw

variable [Sink σ]

theorem Keeps.stepWorker (h : c.Keeps) (hw : w.Lends capacity (n + c.pooled))
    (role : WorkerRole) :
    (c.stepWorker role w).1.Keeps ∧
      (c.stepWorker role w).2.Lends capacity (n + (c.stepWorker role w).1.pooled) := by
  refine ⟨keeps_stepWorker h role w, ?_⟩
  cases hc : c.body with
  | running k =>
      have hbody := h.body_keep
      rw [hc] at hbody
      have hin : ({ w with log := [] } : World Buffer σ).Lends capacity
          (n + (c.lane.pooled + k.pooled)) := by
        rw [pooled, hc] at hw
        exact hw
      rw [stepWorker_eq hc]
      exact Workers.step_lends c.lifecycle.stopRequested hbody.2 hin role
  | _ =>
      have hsame : c.stepWorker role w = (c, w) := by simp only [Context.stepWorker, hc]
      rw [hsame]
      exact hw

theorem Keeps.acts {role : WorkerRole} {m : Nat} (h : c.Keeps)
    (hw : w.Lends capacity (n + c.pooled)) (hacts : Acts role c w m c' w') :
    c'.Keeps ∧ w'.Lends capacity (n + c'.pooled) := by
  induction hacts with
  | none => exact ⟨h, hw⟩
  | next _ ih => exact ih.1.stepWorker ih.2 role

/-- Finishing all workers leaves their hands empty. -/
theorem Keeps.finishWorkers (h : c.Keeps) (hw : w.Lends capacity (n + c.pooled))
    {k : Workers Buffer} (hbody : c.body = .running k)
    (hstop : c.lifecycle.stopRequested = true) :
    ∃ k', (c.finishWorkers w).1.body = .running k' ∧ k'.Keep (c.finishWorkers w).1.lane ∧
      (c.finishWorkers w).2.Lends capacity (n + (c.finishWorkers w).1.lane.pooled) := by
  obtain ⟨c₁, w₁, c₂, w₂, n₁, n₂, n₃, _, hacts₁, hacts₂, hacts₃⟩ := finishWorkers_acts c w
  obtain ⟨h₁, hw₁⟩ := h.acts hw hacts₁
  obtain ⟨h₂, hw₂⟩ := h₁.acts hw₁ hacts₂
  obtain ⟨h₃, hw₃⟩ := h₂.acts hw₂ hacts₃
  have hkeep := h.body_keep
  rw [hbody] at hkeep
  obtain ⟨k', hbody', hdone⟩ := finishWorkers_done w hbody hkeep.1 hstop
  have hkeep' := h₃.body_keep
  rw [hbody'] at hkeep'
  have hrests := fun role => Workers.rests_of_isDone (hdone role)
  rw [pooled, hbody', ContextBody.inHand, Workers.pooled_of_rests hrests, Nat.add_zero] at hw₃
  exact ⟨k', hbody', hkeep'.2, hw₃⟩

theorem Keeps.join (h : c.Keeps) (hw : w.Lends capacity (n + c.pooled))
    {result : Except ContextError Unit} (hjoin : c.join w = some (result, c', w')) :
    c'.Keeps ∧ w'.Lends capacity (n + c'.pooled) := by
  cases hc : c.body with
  | running k =>
      obtain ⟨k', hbody', hkeep, hlends⟩ := h.requestStop.finishWorkers hw hc rfl
      simp only [Context.join, hc] at hjoin
      split at hjoin
      · cases hjoin
        obtain ⟨hkeeps, hreleased⟩ := releaseRings_lends
          (c := (c.requestStop.finishWorkers w).1.advance .drained) hkeep hlends
        exact ⟨hkeeps, hreleased⟩
      · next hnone =>
        cases hjoin
        rw [crashedRoles, hbody'] at hnone
        obtain ⟨hreceive, htransmit, hstats⟩ := Workers.isAlive_of_crashedRoles hnone
        rw [Workers.Keep, hreceive, htransmit, hstats] at hkeep
        exact ⟨⟨hkeep⟩, hlends⟩
  | _ => simp only [Context.join, hc, reduceCtorEq] at hjoin

/-- Giving up a context frees all that is in its rings and in the hands of its workers. -/
theorem Keeps.drop (h : c.Keeps) (hw : w.Lends capacity (n + c.pooled)) :
    (c.drop w).1.Keeps ∧ (c.drop w).2.Lends capacity (n + (c.drop w).1.pooled) := by
  have hbody := h.body_keep
  cases hc : c.body with
  | created receiver transmitter =>
      rw [hc] at hbody
      rw [pooled_of_idle (by rw [hc]; rfl)] at hw
      rw [Context.drop, hc]
      exact releaseRings_lends hbody.1 hw
  | running k =>
      have hnoted : (w.note (.contextAbandoned c.id)).Lends capacity
          (n + c.requestStop.pooled) := hw
      obtain ⟨k', _, hkeep, hlends⟩ := h.requestStop.finishWorkers hnoted hc rfl
      rw [Context.drop, hc]
      obtain ⟨hkeeps, hreleased⟩ :=
        releaseRings_lends hkeep (noteAll_lends (.workerPanicked _) _ hlends)
      exact ⟨⟨hkeeps.body_keep⟩, hreleased⟩
  | drained =>
      rw [hc] at hbody
      rw [pooled_of_idle (by rw [hc]; rfl)] at hw
      rw [Context.drop, hc]
      exact releaseRings_lends hbody hw
  | gone =>
      rw [Context.drop, hc]
      exact ⟨h, hw⟩

/-- Do one thing with a context. What does not fit its phase has no effect. -/
def act (c : Context Buffer) (w : World Buffer σ) : Act → Context Buffer × World Buffer σ
  | .launch => (c.launch w).getD (c, w)
  | .requestStop => (c.requestStop, w)
  | .worker role => c.stepWorker role w
  | .join =>
    match c.join w with
    | some (_, next) => next
    | none => (c, w)
  | .destroy =>
    match c.destroy w with
    | some (_, next) => next
    | none => (c, w)
  | .drop => c.drop w

/-- Whatever is done with a context, its buffers are accounted for. -/
theorem Keeps.act (h : c.Keeps) (hw : w.Lends capacity (n + c.pooled)) (a : Act) :
    (c.act w a).1.Keeps ∧ (c.act w a).2.Lends capacity (n + (c.act w a).1.pooled) := by
  cases a with
  | launch =>
      rw [Context.act]
      cases hlaunch : c.launch w with
      | none => exact ⟨h, hw⟩
      | some next => exact h.launch hw hlaunch
  | requestStop => exact ⟨h.requestStop, hw⟩
  | worker role => exact h.stepWorker hw role
  | join =>
      rw [Context.act]
      cases hjoin : c.join w with
      | none => exact ⟨h, hw⟩
      | some next => exact h.join hw hjoin
  | destroy =>
      rw [Context.act]
      cases hdestroy : c.destroy w with
      | none => exact ⟨h, hw⟩
      | some next => exact h.destroy hw hdestroy
  | drop => exact h.drop hw

theorem drop_gone (c : Context Buffer) (w : World Buffer σ) : (c.drop w).1.body = .gone := by
  cases hc : c.body with
  | gone =>
      rw [Context.drop, hc]
      exact hc
  | _ =>
      rw [Context.drop, hc]
      rfl

/-- Nothing can be done with a context that is gone. -/
theorem act_gone (h : c.body = .gone) (w : World Buffer σ) (a : Act) :
    (c.act w a).1.body = .gone ∧ (c.act w a).2 = w := by
  cases a with
  | launch => simp only [Context.act, Context.launch, h, Option.getD_none, and_self]
  | requestStop => exact ⟨h, rfl⟩
  | worker role => simp only [Context.act, Context.stepWorker, h, and_self]
  | join => simp only [Context.act, Context.join, h, and_self]
  | destroy => simp only [Context.act, Context.destroy, h, and_self]
  | drop => simp only [Context.act, Context.drop, h, and_self]

end Context

end EtherRelay
