import EtherRelay.Proofs.Relay.Stopping
import EtherRelay.Proofs.World.Offers

/-!
# What a context leaves behind

What the destination of a context does not accept is dropped, and counted as such by the transmit
stage. `World.Refuses` is proved here of each stage, and from there of the workers and of the
context, together with the count. Stray frames come from a context that is bound to a queue which
its destination does not have; without such a queue there are none.
-/

namespace EtherRelay

variable {β σ : Type}

/-! ## Stages and workers -/

section

variable [FrameBuffer β]

theorem Receiver.interfaces_admitProbe (r : Receiver) (lane : Lane β) (w : World β σ) (probe : β) :
    (r.admitProbe lane w probe).2.2.interfaces = w.interfaces := by
  rw [admitProbe]
  split
  · rfl
  · dsimp only
    split <;> rfl

theorem Receiver.interfaces_admitProbes (r : Receiver) (lane : Lane β) (w : World β σ)
    (probes : List β) : (r.admitProbes lane w probes).2.2.interfaces = w.interfaces := by
  induction probes generalizing r lane w with
  | nil => rfl
  | cons probe probes ih => exact (ih _ _ _).trans (r.interfaces_admitProbe lane w probe)

theorem Receiver.interfaces_admitData (r : Receiver) (lane : Lane β) (w : World β σ)
    (data : List β) : (r.admitData lane w data).2.2.interfaces = w.interfaces := by
  rw [admitData]
  split
  · rfl
  · dsimp only
    split <;> rfl

/-- Receiving refuses nothing that is to be transmitted. -/
theorem Receiver.poll_refuses (r : Receiver) (lane : Lane β) (w : World β σ) (index : Nat) :
    World.Refuses index 0 0 w (r.poll lane w).2.2.2 := by
  have hreceived : World.Refuses index 0 0 w
      (w.receive r.interface r.chooseQueue.1 r.burstSize).2 := .receive w _ _ _
  rw [poll_eq]
  split
  · exact hreceived
  · apply hreceived.thenNone
    apply World.Refuses.of_interfaces
    exact (Receiver.interfaces_admitData _ _ _ _).trans (Receiver.interfaces_admitProbes _ _ _ _)

/-- Sending drops what the interface does not accept. -/
theorem Transmitter.send_refuses (t : Transmitter) (lane : Lane β) (w : World β σ)
    (burst : List β) :
    ∃ left, (t.send lane w burst).2.1.counters.get .txPartialDrops =
        lane.counters.get .txPartialDrops + UInt64.ofNat left ∧
      World.Refuses t.interface left
        (Interface.strays (w.txQueueCount t.interface) (t.rotation.queue t.queues) burst) w
        (t.send lane w burst).2.2 := by
  have hrefuses := World.Refuses.transmit w t.interface (t.rotation.queue t.queues) burst
  exact ⟨_, rfl, hrefuses.thenNone (.of_interfaces rfl)⟩

namespace TransmitWorker

/-- How many stray frames the next action of the worker offers. -/
def strays (t : TransmitWorker β) (w : World β σ) : Nat :=
  match t.place with
  | .sending burst =>
    if w.failsOn t.stage.interface .transmit then 0
    else
      Interface.strays (w.txQueueCount t.stage.interface) (t.stage.rotation.queue t.stage.queues)
        burst
  | _ => 0

theorem step_refuses (t : TransmitWorker β) (stop : Bool) (lane : Lane β) (w : World β σ) :
    ∃ left, (t.step stop lane w).2.1.counters.get .txPartialDrops =
        lane.counters.get .txPartialDrops + UInt64.ofNat left ∧
      World.Refuses t.stage.interface left (t.strays w) w (t.step stop lane w).2.2 := by
  cases hp : t.place with
  | ready =>
    refine ⟨0, ?_, ?_⟩ <;> simp only [step, strays, hp] <;> split
    · exact (UInt64.add_zero _).symm
    · exact (UInt64.add_zero _).symm
    · exact .of_interfaces rfl
    · exact .of_interfaces rfl
  | polling =>
    simp only [step, strays, hp]
    exact ⟨0, (UInt64.add_zero _).symm, .of_interfaces rfl⟩
  | sending burst =>
    simp only [step, strays, hp]
    split
    · refine ⟨0, (UInt64.add_zero _).symm, ?_⟩
      exact (World.Refuses.markFaulted w t.stage.interface).thenNone (.of_interfaces rfl)
    · exact t.stage.send_refuses lane w burst
  | finished | crashed =>
    simp only [step, strays, hp]
    exact ⟨0, (UInt64.add_zero _).symm, .of_interfaces rfl⟩

end TransmitWorker

theorem ReceiveWorker.step_refuses (r : ReceiveWorker) (stop : Bool) (lane : Lane β)
    (w : World β σ) (index : Nat) : World.Refuses index 0 0 w (r.step stop lane w).2.2 := by
  rw [ReceiveWorker.step]
  split
  · split <;> exact .of_interfaces rfl
  · split
    · exact (World.Refuses.markFaulted w r.stage.interface).thenNone (.of_interfaces rfl)
    · exact r.stage.poll_refuses lane w index
  · exact .of_interfaces rfl
  · exact .of_interfaces rfl

namespace StatsWorker

variable (s : StatsWorker β) (lane : Lane β) (w : World β σ) (index : Nat)

theorem sampleIfDue_refuses : World.Refuses index 0 0 w (s.sampleIfDue lane w).2.2 := by
  rcases s.sampleIfDue_cases lane w with ⟨-, -, hfrees⟩ | ⟨interface, w', hfrees, heq⟩
  · exact .of_frees hfrees
  · have hcrashed : World.Refuses index 0 0 w (w'.markFaulted interface) :=
      (World.Refuses.of_frees hfrees).thenNone (.markFaulted w' interface)
    rw [heq]
    exact hcrashed.thenNone (.of_interfaces rfl)

theorem step_refuses [Sink σ] (stop : Bool) :
    World.Refuses index 0 0 w (s.step stop lane w).2.2 := by
  rw [step]
  split
  · split <;> exact .of_interfaces rfl
  · exact .of_interfaces rfl
  · exact s.sampleIfDue_refuses lane w index
  · next probe rest _ =>
    obtain ⟨_, -, -, hfrees⟩ := Monitor.inspect_counts lane w probe
    split <;> next heq =>
      rw [heq] at hfrees
      first
        | exact .of_frees hfrees
        | exact (World.Refuses.of_frees hfrees).thenNone (.of_interfaces rfl)
  · next latency probe rest _ =>
    obtain ⟨_, -, -, hfrees⟩ := Monitor.publish_counts lane w (latency.record lane.context)
    exact (World.Refuses.of_frees hfrees).thenNone (.of_interfaces rfl)
  · next sample _ =>
    obtain ⟨_, -, -, hfrees⟩ := Monitor.publish_counts lane w (sample.record lane.context)
    exact .of_frees hfrees
  · exact .of_interfaces rfl
  · exact .of_interfaces rfl

end StatsWorker

variable [Sink σ]

/-- How many stray frames the next action of a worker offers. -/
def Workers.strays (k : Workers β) (w : World β σ) : WorkerRole → Nat
  | .transmit => k.transmit.strays w
  | _ => 0

/-- What an action of a worker leaves behind is counted by the transmit worker. -/
theorem Workers.At.step_refuses {source destination : Binding} {k : Workers β}
    (h : k.At source destination) (stop : Bool) (lane : Lane β) (w : World β σ)
    (role : WorkerRole) :
    ∃ left, (k.step stop lane w role).2.1.counters.get .txPartialDrops =
        lane.counters.get .txPartialDrops + UInt64.ofNat left ∧
      World.Refuses destination.interface left (k.strays w role) w
        (k.step stop lane w role).2.2 := by
  cases role with
  | transmit =>
    have hstep := k.transmit.step_refuses stop lane w
    rwa [h.transmit_eq] at hstep
  | receive =>
    have hcount := k.receive.get_step stop lane w (k := .txPartialDrops) (by decide)
    exact ⟨0, hcount.trans (UInt64.add_zero _).symm, k.receive.step_refuses stop lane w _⟩
  | stats =>
    have hcount := k.stats.get_step stop lane w (k := .txPartialDrops) (by decide)
    exact ⟨0, hcount.trans (UInt64.add_zero _).symm, k.stats.step_refuses lane w _ stop⟩

end

/-! ## Contexts -/

namespace Context

variable [FrameBuffer β] {c c' : Context β}

/-- How many stray frames the next action of a worker offers. -/
def strays (c : Context β) (w : World β σ) (role : WorkerRole) : Nat :=
  match c.body with
  | .running k => k.strays w role
  | _ => 0

theorem stepWorker_refuses [Sink σ] (h : c.Wired) (role : WorkerRole) (w : World β σ) :
    ∃ left, (c.stepWorker role w).1.lane.counters.get .txPartialDrops =
        c.lane.counters.get .txPartialDrops + UInt64.ofNat left ∧
      World.Refuses c.destination.interface left (c.strays w role) w (c.stepWorker role w).2 := by
  cases hbody : c.body with
  | running k =>
    rw [Wired, hbody] at h
    obtain ⟨left, hcount, hrefuses⟩ :=
      h.step_refuses c.lifecycle.stopRequested c.lane { w with log := [] } role
    rw [stepWorker_eq hbody, strays, hbody]
    -- The worker writes to a log of its own, which no interface knows.
    exact ⟨left, hcount, hrefuses.txErrors_eq, hrefuses.txQueueCount_eq⟩
  | _ =>
    simp only [stepWorker, strays, hbody]
    exact ⟨0, (UInt64.add_zero _).symm, .of_interfaces rfl⟩

end Context

/-! ## Queues that contexts transmit on -/

theorem Workers.queues_step [FrameBuffer β] [Sink σ] (k : Workers β) (stop : Bool) (lane : Lane β)
    (w : World β σ) (role : WorkerRole) :
    (k.step stop lane w role).1.transmit.stage.queues = k.transmit.stage.queues := by
  cases role with
  | transmit =>
    simp only [Workers.step, TransmitWorker.step]
    split
    · split <;> rfl
    · rfl
    · split <;> rfl
    · rfl
    · rfl
  | receive => rfl
  | stats => rfl

namespace Context

variable {c : Context β}

/-- The transmitter goes round the queues that the context is bound to. -/
def Aimed (c : Context β) : Prop :=
  match c.body with
  | .created _ transmitter => transmitter.queues = c.destination.queues
  | .running k => k.transmit.stage.queues = c.destination.queues
  | _ => True

/-- A later state of a context that is bound to the same queues. -/
structure StaysAimed (c c' : Context β) : Prop where
  destination_eq : c'.destination = c.destination
  aimed : c.Aimed → c'.Aimed

theorem StaysAimed.refl (c : Context β) : c.StaysAimed c := ⟨rfl, fun h => h⟩

instance : Std.Refl (@StaysAimed β) := ⟨.refl⟩

theorem aimed_create {id : UInt16} {source destination : Binding} {settings : Settings}
    {names : RingNames} {w : World β σ}
    (h : (create id source destination settings names w).1 = .ok c) : c.Aimed := by
  rw [create] at h
  split at h
  · cases h
  · split at h
    · cases h
    · split at h
      · cases h
      · cases h
        rfl

theorem StaysAimed.launch (c : Context β) (w : World β σ) :
    c.StaysAimed ((c.launch w).getD (c, w)).1 := by
  rw [Context.launch]
  split
  · next hbody =>
    refine ⟨rfl, fun haimed => ?_⟩
    rw [Aimed, hbody] at haimed
    exact haimed
  · exact .refl c

theorem StaysAimed.afterRemoval (c : Context β) (interface : InterfaceId) :
    c.StaysAimed (c.afterRemoval interface) := by
  rw [Context.afterRemoval]
  split
  · exact ⟨rfl, fun haimed => haimed⟩
  · exact .refl c

theorem StaysAimed.stepWorker [FrameBuffer β] [Sink σ] (c : Context β) (role : WorkerRole) (w : World β σ) :
    c.StaysAimed (c.stepWorker role w).1 := by
  cases hbody : c.body with
  | running k =>
    rw [stepWorker_eq hbody]
    refine ⟨rfl, fun haimed => ?_⟩
    rw [Aimed, hbody] at haimed
    exact (k.queues_step _ _ _ role).trans haimed
  | _ =>
    simp only [Context.stepWorker, hbody]
    exact .refl c

/-- A context whose destination has all its queues offers no stray frames. -/
theorem strays_eq_zero (hwired : c.Wired) (haimed : c.Aimed) {w : World β σ}
    (hqueues : ∀ queue ∈ c.destination.queues.queues,
      queue.toNat < w.txQueueCount c.destination.interface) (role : WorkerRole) :
    c.strays w role = 0 := by
  cases hbody : c.body with
  | running k =>
    rw [Wired, hbody] at hwired
    rw [Aimed, hbody] at haimed
    rw [strays, hbody]
    cases role with
    | transmit =>
      simp only [Workers.strays, TransmitWorker.strays, hwired.transmit_eq, haimed]
      split
      · split
        · rfl
        · exact Interface.strays_of_lt (hqueues _ (List.get_mem _ _)) _
      · rfl
    | receive => rfl
    | stats => rfl
  | _ => rw [strays, hbody]

end Context

end EtherRelay
