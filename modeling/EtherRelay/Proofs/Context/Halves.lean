import EtherRelay.Proofs.Context.Turns
import EtherRelay.Proofs.Forwarding.Custody

/-!
# The halves of the rings

A ring is kept as long as one of the parties at its ends is there: it is sound, and when both are
gone it is empty. Every action of a worker keeps both rings of its context, whatever the pool and
the world are like, and so does every step of the context itself. Hence nothing is left in the rings
of a context that is gone, even if its workers crashed in the middle of a burst.
-/

namespace EtherRelay

variable {σ : Type} {lane : Lane Buffer} {w w' : World Buffer σ}
variable {receiving transmitting monitoring : Bool}

/-! ## Actions of one worker -/

theorem ReceiveWorker.step_kept (stop : Bool) (r : ReceiveWorker) (w : World Buffer σ)
    (h : lane.Kept r.place.isAlive transmitting monitoring) :
    (r.step stop lane w).2.1.Kept (r.step stop lane w).1.place.isAlive transmitting monitoring := by
  cases hp : r.place with
  | ready =>
      rw [hp] at h
      simp only [step, hp]
      split
      · exact h
      · exact h
  | polling =>
      rw [hp] at h
      simp only [step, hp]
      split
      · exact h.closeReceiver.1
      · exact h.passed (r.stage.poll_passes w h.relay_sound h.stats_sound)
  | finished | crashed =>
      rw [hp] at h
      simp only [step, hp]
      exact h

theorem TransmitWorker.step_kept (stop : Bool) (t : TransmitWorker Buffer) (w : World Buffer σ)
    (h : lane.Kept receiving t.place.isAlive monitoring) :
    (t.step stop lane w).2.1.Kept receiving (t.step stop lane w).1.place.isAlive monitoring := by
  cases hp : t.place with
  | ready =>
      rw [hp] at h
      simp only [step, hp]
      split
      · exact h
      · exact h
  | polling =>
      rw [hp] at h
      have hloaded := h.takesRelay (t.stage.load_takes (h.relay_kept.sound (.inr h.relay_consumer)))
      simp only [step, hp]
      split
      · exact hloaded.1
      · exact hloaded.1
  | sending burst =>
      rw [hp] at h
      simp only [step, hp]
      split
      · exact h.closeTransmitter.1
      · rw [t.stage.send_eq]
        exact (h.counts (((Lane.Counts.count lane 1 .txBursts).trans (.count _ _ .forwarded)).trans
          (.count _ _ .txPartialDrops))).1
  | finished | crashed =>
      rw [hp] at h
      simp only [step, hp]
      exact h

theorem StatsWorker.step_kept [Sink σ] (stop : Bool) (s : StatsWorker Buffer) (w : World Buffer σ)
    (h : lane.Kept receiving transmitting s.place.isAlive) :
    (s.step stop lane w).2.1.Kept receiving transmitting (s.step stop lane w).1.place.isAlive := by
  cases hp : s.place with
  | ready =>
      rw [hp] at h
      simp only [step, hp]
      split
      · exact h
      · exact h
  | polling =>
      rw [hp] at h
      simp only [step, hp]
      exact (h.takesStats (s.stage.load_takes (h.stats_kept.sound (.inr h.stats_consumer)))).1
  | draining rest =>
      rw [hp] at h
      simp only [step, hp]
      cases rest with
      | nil =>
          obtain ⟨halive, hlane, _⟩ | ⟨interface, w', _, hcrash⟩ := s.sampleIfDue_cases lane w
          · dsimp only
            rw [halive, hlane]
            exact h
          · dsimp only
            rw [hcrash]
            exact h.closeMonitor.1
      | cons probe rest =>
          obtain ⟨_, _, hcounts, _⟩ := Monitor.inspect_counts lane w probe
          have hread := (h.counts hcounts).1
          dsimp only
          split <;> next heq =>
            rw [heq] at hread
            exact hread
  | reporting latency probe rest =>
      rw [hp] at h
      obtain ⟨_, _, hcounts, _⟩ := Monitor.publish_counts lane w (latency.record lane.context)
      simp only [step, hp]
      exact (h.counts hcounts).1
  | publishing sample =>
      rw [hp] at h
      obtain ⟨_, _, hcounts, _⟩ := Monitor.publish_counts lane w (sample.record lane.context)
      simp only [step, hp]
      exact (h.counts hcounts).1
  | finished | crashed =>
      rw [hp] at h
      simp only [step, hp]
      exact h

/-- Both rings are kept, with a half for each worker that did not crash. -/
def Workers.Keep (k : Workers Buffer) (lane : Lane Buffer) : Prop :=
  lane.Kept k.receive.place.isAlive k.transmit.place.isAlive k.stats.place.isAlive

theorem Workers.Keep.step [Sink σ] {k : Workers Buffer} (h : k.Keep lane) (stop : Bool)
    (w : World Buffer σ) (role : WorkerRole) :
    (k.step stop lane w role).1.Keep (k.step stop lane w role).2.1 := by
  cases role with
  | receive => exact k.receive.step_kept stop w h
  | transmit => exact k.transmit.step_kept stop w h
  | stats => exact k.stats.step_kept stop w h

/-! ## Steps of a context -/

/-- Both rings of a context are kept, with a half for each stage that is still there. -/
def ContextBody.Keep (lane : Lane Buffer) (burstSize : Nat) : ContextBody Buffer → Prop
  | .created receiver transmitter =>
    lane.Kept true true true ∧ receiver.burstSize = burstSize ∧
      transmitter.burstSize = burstSize
  | .running k => k.Sized burstSize ∧ k.Keep lane
  | .drained => lane.Kept true true true
  | .gone => lane.Kept false false false

namespace Context

/-- The rings of a context are kept. -/
structure Keeps (c : Context Buffer) : Prop where
  body_keep : c.body.Keep c.lane c.settings.burstSize

variable {c c' : Context Buffer}

/-- A context that is gone has nothing in its rings. -/
theorem Keeps.toList_eq (h : c.Keeps) (hgone : c.body = .gone) :
    c.lane.relayRing.toList = [] ∧ c.lane.statsRing.toList = [] := by
  have hbody := h.body_keep
  rw [hgone] at hbody
  exact Lane.Kept.toList_eq hbody

theorem Keeps.requestStop (h : c.Keeps) : c.requestStop.Keeps := ⟨h.body_keep⟩

theorem keeps_launch (h : c.Keeps) (hlaunch : c.launch w = some (c', w')) : c'.Keeps := by
  obtain ⟨receiver, transmitter, k, hcreated, hrunning, hlane, hsettings, _, hreceive, htransmit,
    hstats, hsized⟩ := launch_running hlaunch
  have hbody := h.body_keep
  rw [hcreated] at hbody
  obtain ⟨hkept, hr, ht⟩ := hbody
  refine ⟨?_⟩
  rw [hrunning, hsettings, hlane]
  refine ⟨hsized hr ht, ?_⟩
  rw [Workers.Keep, hreceive, htransmit, hstats]
  exact hkept

/-- When the rings are released, all that is in them is given up. -/
theorem keeps_releaseRings (h : c.lane.Kept receiving transmitting monitoring)
    (w : World Buffer σ) : (c.releaseRings w).1.Keeps :=
  ⟨h.closeReceiver.1.closeTransmitter.1.closeMonitor.1⟩

variable [Sink σ]

theorem keeps_stepWorker (h : c.Keeps) (role : WorkerRole) (w : World Buffer σ) :
    (c.stepWorker role w).1.Keeps := by
  cases hbody : c.body with
  | running k =>
      have hkeep := h.body_keep
      rw [hbody] at hkeep
      rw [stepWorker_eq hbody]
      exact ⟨hkeep.1.step _ _ _ role, hkeep.2.step _ _ role⟩
  | _ =>
      simp only [stepWorker, hbody]
      exact h

theorem keeps_acts {role : WorkerRole} {n : Nat} (h : c.Keeps) (hacts : Acts role c w n c' w') :
    c'.Keeps := by
  induction hacts with
  | none => exact h
  | next _ ih => exact keeps_stepWorker ih role _

theorem keeps_finishWorkers (h : c.Keeps) (w : World Buffer σ) : (c.finishWorkers w).1.Keeps := by
  obtain ⟨_, _, _, _, _, _, _, _, hreceive, htransmit, hstats⟩ := finishWorkers_acts c w
  exact keeps_acts (keeps_acts (keeps_acts h hreceive) htransmit) hstats

end Context

end EtherRelay
