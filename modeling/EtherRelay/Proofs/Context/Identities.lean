import EtherRelay.Context.Schedule
import EtherRelay.Proofs.Context.Refusals
import EtherRelay.Proofs.Relay.Endings
import EtherRelay.Workbench.Traffic

/-!
# What no worker changes

The interfaces of a world keep their names and ports, whatever arrives at them or is transmitted,
and the log of the caller is not written by workers. A context keeps its ends and its lifecycle
however long its workers act. `World.Stays` and `Context.Stays` say so of a step, and this module
proves them of the workers, of their turns and rounds, and of a burst of generated traffic.
-/

namespace EtherRelay

variable {β σ : Type}

namespace World

/-- The names and ports of all interfaces. -/
def identities (w : World β σ) : List InterfaceId := w.interfaces.map Interface.id

variable {w w' w'' : World β σ}

theorem identities_of_interfaces (h : w'.interfaces = w.interfaces) :
    w'.identities = w.identities :=
  congrArg (List.map Interface.id) h

theorem identities_set {k : Nat} {i i' : Interface β} (hi : w.interfaces[k]? = some i)
    (hid : i'.id = i.id) : (w.interfaces.set k i').map Interface.id = w.identities := by
  rw [List.map_set, hid, identities]
  refine List.ext_getElem? ?_
  intro j
  rw [List.getElem?_set, List.length_map]
  split
  · next hj =>
    rw [if_pos (List.getElem?_eq_some_iff.mp hi).1, ← hj, List.getElem?_map, hi]
    rfl
  · rfl

theorem identities_modifyInterface {f : Interface β → Interface β} (hf : ∀ i, (f i).id = i.id)
    (w : World β σ) (k : Nat) : (w.modifyInterface k f).identities = w.identities := by
  rw [modifyInterface, List.modify_eq_set_getElem?, identities]
  cases hi : w.interfaces[k]? with
  | none => rfl
  | some i => exact identities_set hi (hf i)

theorem identities_markFaulted (w : World β σ) (k : Nat) :
    (w.markFaulted k).identities = w.identities := by
  refine identities_modifyInterface ?_ w k
  exact fun _ => rfl

theorem identities_receive (w : World β σ) (k : Nat) (queue : QueueId) (max : Nat) :
    (w.receive k queue max).2.identities = w.identities := by
  rw [receive]
  split
  · rfl
  · next hi => exact identities_set hi rfl

variable [FrameBuffer β]

theorem identities_transmit (w : World β σ) (k : Nat) (queue : QueueId) (burst : List β) :
    (w.transmit k queue burst).2.2.identities = w.identities := by
  rw [transmit]
  split
  · rfl
  · next i hi =>
    exact identities_set hi (i.txPackets_transmit queue w.registers burst w.wallNs).2.2.2

theorem identities_inject (w : World β σ) (k : Nat) (queue : QueueId) (burst : List β) :
    (w.inject k queue burst).2.identities = w.identities := by
  rw [inject]
  split
  · rfl
  · next i hi => exact identities_set hi (i.backlog_inject queue w.registers burst).2.2.2

end World

/-! ## Stages and workers -/

section

variable [FrameBuffer β]

theorem Receiver.identities_poll (r : Receiver) (lane : Lane β) (w : World β σ) :
    (r.poll lane w).2.2.2.identities = w.identities := by
  have hreceived := w.identities_receive r.interface r.chooseQueue.1 r.burstSize
  rw [poll_eq]
  split
  · exact hreceived
  · refine (World.identities_of_interfaces ?_).trans hreceived
    exact (Receiver.interfaces_admitData _ _ _ _).trans (Receiver.interfaces_admitProbes _ _ _ _)

theorem ReceiveWorker.identities_step (stop : Bool) (r : ReceiveWorker) (lane : Lane β)
    (w : World β σ) : (r.step stop lane w).2.2.identities = w.identities := by
  rw [ReceiveWorker.step]
  split
  · split <;> rfl
  · split
    · exact w.identities_markFaulted r.stage.interface
    · exact r.stage.identities_poll lane w
  · rfl
  · rfl

theorem TransmitWorker.identities_step (stop : Bool) (t : TransmitWorker β) (lane : Lane β)
    (w : World β σ) : (t.step stop lane w).2.2.identities = w.identities := by
  rw [TransmitWorker.step]
  split
  · split <;> rfl
  · rfl
  · split
    · exact w.identities_markFaulted t.stage.interface
    · rw [t.stage.send_eq]
      exact w.identities_transmit _ _ _
  · rfl
  · rfl

variable [Sink σ]

theorem StatsWorker.identities_step (stop : Bool) (s : StatsWorker β) (lane : Lane β)
    (w : World β σ) : (s.step stop lane w).2.2.identities = w.identities := by
  rw [StatsWorker.step]
  split
  · split <;> rfl
  · rfl
  · rcases s.sampleIfDue_cases lane w with ⟨_, _, h⟩ | ⟨interface, w', h, heq⟩
    · exact World.identities_of_interfaces h.interfaces_eq
    · rw [heq]
      exact (w'.identities_markFaulted interface).trans
        (World.identities_of_interfaces h.interfaces_eq)
  · next probe _ _ =>
    obtain ⟨_, _, _, h⟩ := Monitor.inspect_counts lane w probe
    split <;> next heq =>
      rw [heq] at h
      exact World.identities_of_interfaces h.interfaces_eq
  · next latency _ _ _ =>
    obtain ⟨_, _, _, h⟩ := Monitor.publish_counts lane w (latency.record lane.context)
    exact World.identities_of_interfaces h.interfaces_eq
  · next sample _ =>
    obtain ⟨_, _, _, h⟩ := Monitor.publish_counts lane w (sample.record lane.context)
    exact World.identities_of_interfaces h.interfaces_eq
  · rfl
  · rfl

theorem Workers.identities_step (stop : Bool) (k : Workers β) (lane : Lane β) (w : World β σ)
    (role : WorkerRole) : (k.step stop lane w role).2.2.identities = w.identities := by
  cases role with
  | receive => exact k.receive.identities_step stop lane w
  | transmit => exact k.transmit.identities_step stop lane w
  | stats => exact k.stats.identities_step stop lane w

end

/-! ## Contexts -/

/-- The step from `w` to `w'` renames no interface and is not logged by the caller. -/
structure World.Stays (w w' : World β σ) : Prop where
  identities_eq : w'.identities = w.identities
  log_eq : w'.log = w.log

namespace World.Stays

variable {w w' w'' : World β σ}

theorem refl (w : World β σ) : w.Stays w := ⟨rfl, rfl⟩

theorem trans (h : w.Stays w') (h' : w'.Stays w'') : w.Stays w'' :=
  ⟨h'.identities_eq.trans h.identities_eq, h'.log_eq.trans h.log_eq⟩

end World.Stays

namespace Context

/-- A later state of a context, of which nobody has asked anything in between. -/
structure Stays (c c' : Context β) : Prop extends c.SameEnds c' where
  lifecycle_eq : c'.lifecycle = c.lifecycle

theorem Stays.refl (c : Context β) : c.Stays c := ⟨sameEnds_refl c, rfl⟩

instance : Std.Refl (@Stays β) := ⟨.refl⟩

variable {c c' c'' : Context β} {w w' : World β σ}

theorem Stays.trans (h : c.Stays c') (h' : c'.Stays c'') : c.Stays c'' :=
  ⟨h.toSameEnds.trans h'.toSameEnds, h'.lifecycle_eq.trans h.lifecycle_eq⟩

variable [FrameBuffer β] [Sink σ]

theorem stays_stepWorker (c : Context β) (role : WorkerRole) (w : World β σ) :
    c.Stays (c.stepWorker role w).1 ∧ w.Stays (c.stepWorker role w).2 := by
  refine ⟨⟨sameEnds_stepWorker c role w, lifecycle_stepWorker role c w⟩, ?_⟩
  cases hbody : c.body with
  | running k =>
      rw [stepWorker_eq hbody]
      exact ⟨k.identities_step c.lifecycle.stopRequested c.lane { w with log := [] } role, rfl⟩
  | _ =>
      simp only [stepWorker, hbody]
      exact .refl w

theorem Acts.stays {role : WorkerRole} {n : Nat} (h : Acts role c w n c' w') :
    c.Stays c' ∧ w.Stays w' := by
  induction h with
  | none => exact ⟨.refl c, .refl w⟩
  | @next n c' w' _ ih =>
      obtain ⟨hcontext, hworld⟩ := stays_stepWorker c' role w'
      exact ⟨ih.1.trans hcontext, ih.2.trans hworld⟩

theorem stays_turn (closed : List Door) (role : WorkerRole) (fuel : Nat) (c : Context β)
    (w : World β σ) :
    c.Stays (turn closed role fuel c w).1 ∧ w.Stays (turn closed role fuel c w).2 := by
  obtain ⟨_, _, hacts⟩ := turn_acts closed role fuel c w
  exact hacts.stays

end Context

/-! ## Rounds -/

namespace Schedule

variable [FrameBuffer β] [Sink σ]

theorem stays_round (closed : List Door) (c : Context β) (w : World β σ) :
    c.Stays (round closed c w).1 ∧ w.Stays (round closed c w).2 := by
  let turns : Context β × World β σ → Context β × World β σ :=
    fun x => x.1.turn closed .receive x.1.turnFuel x.2
  have hreceive (n : Nat) :
      c.Stays (n.repeat turns (c, w)).1 ∧ w.Stays (n.repeat turns (c, w)).2 := by
    induction n with
    | zero => exact ⟨.refl c, .refl w⟩
    | succ n ih =>
        obtain ⟨hcontext, hworld⟩ := Context.stays_turn closed .receive
          (n.repeat turns (c, w)).1.turnFuel (n.repeat turns (c, w)).1 (n.repeat turns (c, w)).2
        exact ⟨ih.1.trans hcontext, ih.2.trans hworld⟩
  let received := c.source.queues.length.repeat turns (c, w)
  let transmitted := received.1.turn closed .transmit received.1.turnFuel received.2
  obtain ⟨hcontext₁, hworld₁⟩ := hreceive c.source.queues.length
  obtain ⟨hcontext₂, hworld₂⟩ :=
    Context.stays_turn closed .transmit received.1.turnFuel received.1 received.2
  obtain ⟨hcontext₃, hworld₃⟩ :=
    Context.stays_turn closed .stats transmitted.1.turnFuel transmitted.1 transmitted.2
  exact ⟨(hcontext₁.trans hcontext₂).trans hcontext₃, (hworld₁.trans hworld₂).trans hworld₃⟩

theorem stays_roundAll (closed : List Door) (contexts : List (Context β)) (w : World β σ) :
    List.Forall₂ Context.Stays contexts (roundAll closed contexts w).1 ∧
      w.Stays (roundAll closed contexts w).2 := by
  induction contexts generalizing w with
  | nil => exact ⟨.nil, .refl w⟩
  | cons c contexts ih =>
      obtain ⟨hcontext, hworld⟩ := stays_round closed c w
      obtain ⟨hcontexts, hrest⟩ := ih (round closed c w).2
      exact ⟨.cons hcontext hcontexts, hworld.trans hrest⟩

theorem stays_settleWithin (closed : List Door) (fuel : Nat) (contexts : List (Context β))
    (w : World β σ) :
    List.Forall₂ Context.Stays contexts (settleWithin closed fuel contexts w).1 ∧
      w.Stays (settleWithin closed fuel contexts w).2 := by
  induction fuel generalizing contexts w with
  | zero => exact ⟨List.forall₂_refl _, .refl w⟩
  | succ fuel ih =>
      have hround := stays_roundAll closed contexts w
      rw [settleWithin]
      dsimp only
      split
      · exact hround
      · obtain ⟨hcontexts, hworld⟩ :=
          ih (roundAll closed contexts w).1 (roundAll closed contexts w).2
        exact ⟨forall₂_trans (fun _ _ _ => .trans) hround.1 hcontexts, hround.2.trans hworld⟩

theorem stays_settle (closed : List Door) (contexts : List (Context β)) (w : World β σ) :
    List.Forall₂ Context.Stays contexts (settle closed contexts w).1 ∧
      w.Stays (settle closed contexts w).2 :=
  stays_settleWithin closed _ contexts w

end Schedule

/-- A burst that arrives renames no interface, and its generator stays where it is. -/
theorem Workbench.Generator.injectBurst_stays {ρ : Type} [Workbench.RandomSource ρ]
    (g : Workbench.Generator ρ) (w : World Buffer σ) : w.Stays (g.injectBurst w).2 := by
  rw [injectBurst]
  dsimp only
  refine ⟨World.identities_inject _ _ _ _, ?_⟩
  rw [World.inject]
  split <;> rfl

end EtherRelay
