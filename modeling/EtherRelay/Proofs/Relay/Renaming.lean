import EtherRelay.Proofs.Relay.Station

/-!
# Where the names of rings count

A relay counts the names that it has given to rings, and looks at this count only when it adds a
context. A relay that counts from somewhere else acts in the same way once it is started, and
reports the same at its end.
-/

namespace EtherRelay

variable {β σ : Type}

namespace Relay

/-- A relay that counts the names of its rings from somewhere else. -/
def withNames (r : Relay β) (names : RingNames) : Relay β := { r with names }

theorem start_withNames [FrameBuffer β] [Sink σ] (r : Relay β) (names : RingNames)
    (w : World β σ) :
    (r.withNames names).start w = (r.start w).map fun next => (next.1.withNames names, next.2) := by
  rw [start, start]
  have hphase : (r.withNames names).phase = r.phase := rfl
  rw [hphase]
  cases r.phase <;> rfl

theorem shutdown_withNames [FrameBuffer β] [Sink σ] (r : Relay β) (names : RingNames)
    (w : World β σ) :
    (r.withNames names).shutdown w =
      (r.shutdown w).map fun next => (next.1, next.2.1.withNames names, next.2.2) := by
  have hphase : (r.withNames names).phase = r.phase := rfl
  have hcontexts : (r.withNames names).contexts = r.contexts := rfl
  rw [shutdown, shutdown, hphase, hcontexts]
  cases r.phase with
  | running =>
      dsimp only
      cases (Closing.create r.contexts w).finish.result <;> rfl
  | _ => rfl

theorem deviceEvent_withNames (r : Relay β) (names : RingNames) (kind : DeviceEventKind)
    (interface : InterfaceId) (w : World β σ) :
    (r.withNames names).deviceEvent kind interface w =
      (r.deviceEvent kind interface w).map fun next => (next.1.withNames names, next.2) := by
  have hresets : (r.withNames names).resets = r.resets := rfl
  simp only [deviceEvent, hresets]
  cases r.resets with
  | none => rfl
  | some n => cases kind <;> rfl

end Relay

namespace Station

variable [FrameBuffer β] [Sink σ]

/-- A station whose relay counts the names of its rings from somewhere else. -/
def withNames (s : Station β σ) (names : RingNames) : Station β σ :=
  { s with relay := s.relay.withNames names }

theorem launch_withNames (s : Station β σ) (names : RingNames) :
    (s.withNames names).launch = s.launch.withNames names := by
  rw [launch, launch]
  have hstart : (s.withNames names).relay.start (s.withNames names).world = _ :=
    s.relay.start_withNames names s.world
  rw [hstart]
  cases s.relay.start s.world <;> rfl

theorem step_withNames (s : Station β σ) (names : RingNames) (move : Move β) :
    (s.withNames names).step move = (s.step move).withNames names := by
  cases move with
  | act context role =>
      have hcontexts : (s.withNames names).relay.contexts = s.relay.contexts := rfl
      rw [step, step, hcontexts]
      cases s.relay.contexts[context]? <;> rfl
  | device kind interface =>
      have hevent : (s.withNames names).relay.deviceEvent kind interface (s.withNames names).world =
          _ := s.relay.deviceEvent_withNames names kind interface s.world
      rw [step, step, hevent]
      cases s.relay.deviceEvent kind interface s.world <;> rfl
  | _ => rfl

theorem run_withNames (s : Station β σ) (names : RingNames) (moves : List (Move β)) :
    (s.withNames names).run moves = (s.run moves).withNames names := by
  induction moves generalizing s with
  | nil => rfl
  | cons move moves ih =>
      have hrest := ih (s.step move)
      rw [← step_withNames] at hrest
      exact hrest

/-- What the relay of a station reports if it is shut down, and the world after it. -/
def reports (s : Station β σ) :
    Option (Except ContextError (List ContextReport) × World β σ) :=
  (s.relay.shutdown s.world).map fun next => (next.1, next.2.2)

theorem reports_withNames (s : Station β σ) (names : RingNames) :
    (s.withNames names).reports = s.reports := by
  have hshutdown : (s.withNames names).relay.shutdown (s.withNames names).world = _ :=
    s.relay.shutdown_withNames names s.world
  rw [reports, reports, hshutdown, Option.map_map]
  rfl

end Station

end EtherRelay
