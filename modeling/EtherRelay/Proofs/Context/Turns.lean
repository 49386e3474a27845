import EtherRelay.Context
import EtherRelay.Proofs.Forwarding.Stages

/-!
# Turns of workers

A turn is a sequence of actions of one worker, and `Context.Acts` counts them. Once they are
asked to stop, all workers leave their loops: whatever a worker has in hand, it needs only so
many more actions until it rests, and a worker that rests then leaves its loop at once.
-/

namespace EtherRelay

variable {β σ : Type}

/-! ## What workers have in hand -/

/-- The frames in hand of the transmit worker. -/
def TransmitPlace.inHand : TransmitPlace β → List β
  | .sending burst => burst
  | _ => []

/-- The probes in hand of the stats worker. -/
def StatsPlace.inHand : StatsPlace β → List β
  | .draining rest => rest
  | .reporting _ probe rest => probe :: rest
  | _ => []

/-- The probes in hand of the stats worker that it did not look at. -/
def StatsPlace.unread : StatsPlace β → List β
  | .draining rest | .reporting _ _ rest => rest
  | _ => []

/-- Whether the worker did not crash. -/
def ReceivePlace.isAlive : ReceivePlace → Bool
  | .crashed => false
  | _ => true

def TransmitPlace.isAlive : TransmitPlace β → Bool
  | .crashed => false
  | _ => true

def StatsPlace.isAlive : StatsPlace β → Bool
  | .crashed => false
  | _ => true

/-- A bound for the actions that the worker takes until it rests. -/
def ReceivePlace.left : ReceivePlace → Nat
  | .polling => 1
  | _ => 0

def TransmitPlace.left : TransmitPlace β → Nat
  | .polling => 2
  | .sending _ => 1
  | _ => 0

/-- Each probe in hand takes up to two actions, and the sample behind them two more. -/
def StatsPlace.left (burstSize : Nat) : StatsPlace β → Nat
  | .polling => 2 * burstSize + 3
  | .draining rest => 2 * rest.length + 2
  | .reporting _ _ rest => 2 * rest.length + 3
  | .publishing _ => 1
  | _ => 0

/-! ## The receive worker -/

namespace ReceiveWorker

variable (stop : Bool) (r : ReceiveWorker)

theorem rests_of_left (h : r.place.left = 0) : r.rests = true := by
  cases hp : r.place with
  | polling =>
      rw [hp] at h
      cases h
  | _ => rw [rests, hp]; rfl

variable [FrameBuffer β] (lane : Lane β) (w : World β σ)

theorem burstSize_step : (r.step stop lane w).1.stage.burstSize = r.stage.burstSize := by
  rw [step]
  split
  · split <;> rfl
  · split
    · rfl
    · exact (r.stage.poll_alike w lane).burstSize_eq
  · rfl
  · rfl

theorem left_step_lt (h : r.rests = false) :
    (r.step stop lane w).1.place.left < r.place.left := by
  cases hp : r.place with
  | polling =>
      simp only [step, hp]
      split <;> exact Nat.one_pos
  | _ => simp [rests, hp] at h

theorem isDone_step (h : r.rests = true) : (r.step true lane w).1.isDone = true := by
  cases hp : r.place <;> simp_all [rests, step, isDone]

end ReceiveWorker

/-! ## The transmit worker -/

namespace TransmitWorker

variable (stop : Bool) (t : TransmitWorker β)

theorem inHand_of_rests (h : t.rests = true) : t.place.inHand = [] := by
  cases hp : t.place <;> simp_all [rests, TransmitPlace.inHand]

theorem rests_of_left (h : t.place.left = 0) : t.rests = true := by
  cases hp : t.place <;> simp_all [rests, TransmitPlace.left]

variable [FrameBuffer β] (lane : Lane β) (w : World β σ)

theorem burstSize_step : (t.step stop lane w).1.stage.burstSize = t.stage.burstSize := by
  rw [step]
  split
  · split <;> rfl
  · rfl
  · split
    · rfl
    · rw [t.stage.send_eq]
  · rfl
  · rfl

/-- Whatever the worker comes to hold is a burst that it just took. -/
theorem sending_step {burst : List β} (h : (t.step stop lane w).1.place = .sending burst) :
    burst ≠ [] ∧ burst.length ≤ t.stage.burstSize := by
  cases hp : t.place with
  | polling =>
      simp only [step, hp] at h
      split at h
      · cases h
      · next hne =>
        cases h
        exact ⟨by simpa using hne, t.stage.length_load_le lane⟩
  | ready =>
      simp only [step, hp] at h
      split at h <;> cases h
  | sending held =>
      simp only [step, hp] at h
      split at h <;> cases h
  | _ =>
      simp only [step, hp] at h
      cases h

theorem left_step_lt (h : t.rests = false) :
    (t.step stop lane w).1.place.left < t.place.left := by
  cases hp : t.place with
  | polling =>
      simp only [step, hp]
      split
      · exact Nat.two_pos
      · exact Nat.one_lt_two
  | sending burst =>
      simp only [step, hp]
      split <;> exact Nat.one_pos
  | _ => simp [rests, hp] at h

theorem isDone_step (h : t.rests = true) : (t.step true lane w).1.isDone = true := by
  cases hp : t.place <;> simp_all [rests, step, isDone]

end TransmitWorker

/-! ## The stats worker -/

namespace StatsWorker

variable (stop : Bool) (s : StatsWorker β)

theorem inHand_of_rests (h : s.rests = true) : s.place.inHand = [] ∧ s.place.unread = [] := by
  cases hp : s.place <;> simp_all [rests, StatsPlace.inHand, StatsPlace.unread]

theorem rests_of_left {burstSize : Nat} (h : s.place.left burstSize = 0) : s.rests = true := by
  cases hp : s.place <;> simp_all [rests, StatsPlace.left]

theorem left_le {burstSize : Nat} (h : s.place.unread.length ≤ burstSize) :
    s.place.left burstSize ≤ 2 * burstSize + 3 := by
  cases hp : s.place with
  | draining rest =>
      rw [hp, StatsPlace.unread] at h
      rw [StatsPlace.left]
      omega
  | reporting _ _ rest =>
      rw [hp, StatsPlace.unread] at h
      rw [StatsPlace.left]
      omega
  | polling => exact Nat.le_refl _
  | publishing _ => exact Nat.succ_le_succ (Nat.zero_le _)
  | _ => exact Nat.zero_le _

variable [FrameBuffer β] (lane : Lane β) (w : World β σ)

theorem sampleIfDue_place :
    (s.sampleIfDue lane w).1.stage.burstSize = s.stage.burstSize ∧
      (s.sampleIfDue lane w).1.place.left s.stage.burstSize ≤ 1 ∧
      (s.sampleIfDue lane w).1.place.inHand = [] ∧
      (s.sampleIfDue lane w).1.place.unread = [] := by
  rw [sampleIfDue]
  dsimp only
  split
  · exact ⟨rfl, Nat.zero_le _, rfl, rfl⟩
  · split
    · exact ⟨rfl, Nat.zero_le _, rfl, rfl⟩
    · split
      · exact ⟨rfl, Nat.zero_le _, rfl, rfl⟩
      · exact ⟨rfl, Nat.le_refl _, rfl, rfl⟩

/-- The worker crashes at the counters of an interface, or leaves the lane as it is. -/
theorem sampleIfDue_cases :
    ((s.sampleIfDue lane w).1.place.isAlive = true ∧ (s.sampleIfDue lane w).2.1 = lane ∧
        w.Frees (s.sampleIfDue lane w).2.2 []) ∨
      ∃ interface w', w.Frees w' [] ∧ s.sampleIfDue lane w = s.crash interface lane w' := by
  rw [sampleIfDue]
  dsimp only
  split
  · exact .inl ⟨rfl, rfl, .refl w⟩
  · split
    · exact .inr ⟨_, w, .refl w, rfl⟩
    · split
      · exact .inr ⟨_, _, Monitor.samplePort_frees w _ _, rfl⟩
      · exact .inl ⟨rfl, rfl, s.stage.sample_frees lane w⟩

variable [Sink σ]

theorem burstSize_step : (s.step stop lane w).1.stage.burstSize = s.stage.burstSize := by
  rw [step]
  split
  · split <;> rfl
  · rfl
  · exact (s.sampleIfDue_place lane w).1
  · split <;> rfl
  · rfl
  · rfl
  · rfl
  · rfl

theorem unread_step_le (h : s.place.unread.length ≤ s.stage.burstSize) :
    (s.step stop lane w).1.place.unread.length ≤ s.stage.burstSize := by
  cases hp : s.place with
  | ready =>
      simp only [step, hp]
      split <;> exact Nat.zero_le _
  | polling =>
      simp only [step, hp]
      exact s.stage.length_load_le lane
  | draining rest =>
      rw [hp] at h
      cases rest with
      | nil =>
          simp only [step, hp]
          rw [(s.sampleIfDue_place lane w).2.2.2]
          exact Nat.zero_le _
      | cons probe rest =>
          have hrest : rest.length ≤ s.stage.burstSize := Nat.le_of_succ_le h
          simp only [step, hp]
          split <;> exact hrest
  | reporting latency probe rest =>
      rw [hp] at h
      simp only [step, hp]
      exact h
  | publishing sample =>
      simp only [step, hp]
      exact Nat.zero_le _
  | _ =>
      simp only [step, hp]
      exact Nat.zero_le _

theorem left_step_lt (h : s.rests = false) :
    (s.step stop lane w).1.place.left s.stage.burstSize < s.place.left s.stage.burstSize := by
  cases hp : s.place with
  | polling =>
      have hload := s.stage.length_load_le lane
      simp only [step, hp, StatsPlace.left]
      omega
  | draining rest =>
      cases rest with
      | nil =>
          have hsample := (s.sampleIfDue_place lane w).2.1
          simp only [step, hp]
          exact Nat.lt_of_le_of_lt hsample Nat.one_lt_two
      | cons probe rest =>
          simp only [step, hp]
          split <;> simp only [StatsPlace.left, List.length_cons] <;> omega
  | reporting latency probe rest =>
      simp only [step, hp, StatsPlace.left]
      omega
  | publishing sample =>
      simp only [step, hp]
      exact Nat.one_pos
  | _ => simp [rests, hp] at h

theorem isDone_step (h : s.rests = true) : (s.step true lane w).1.isDone = true := by
  cases hp : s.place <;> simp_all [rests, step, isDone]

end StatsWorker

/-! ## All workers of a context -/

namespace Workers

/-- No worker takes more than a burst at once, and no empty burst waits to be sent. -/
structure Sized (k : Workers β) (burstSize : Nat) : Prop where
  receive_eq : k.receive.stage.burstSize = burstSize
  transmit_eq : k.transmit.stage.burstSize = burstSize
  stats_eq : k.stats.stage.burstSize = burstSize
  sending : ∀ burst, k.transmit.place = .sending burst → burst ≠ [] ∧ burst.length ≤ burstSize
  unread_le : k.stats.place.unread.length ≤ burstSize

/-- A bound for the actions that a worker takes until it rests. -/
def left (k : Workers β) (burstSize : Nat) : WorkerRole → Nat
  | .receive => k.receive.place.left
  | .transmit => k.transmit.place.left
  | .stats => k.stats.place.left burstSize

variable {k : Workers β} {burstSize : Nat}

theorem rests_of_left {role : WorkerRole} (h : k.left burstSize role = 0) :
    k.rests role = true := by
  cases role with
  | receive => exact k.receive.rests_of_left h
  | transmit => exact k.transmit.rests_of_left h
  | stats => exact k.stats.rests_of_left h

theorem rests_of_isDone {role : WorkerRole} (h : k.isDone role = true) :
    k.rests role = true := by
  cases role with
  | receive => cases hp : k.receive.place <;> simp_all [isDone, ReceiveWorker.isDone, rests,
      ReceiveWorker.rests]
  | transmit => cases hp : k.transmit.place <;> simp_all [isDone, TransmitWorker.isDone, rests,
      TransmitWorker.rests]
  | stats => cases hp : k.stats.place <;> simp_all [isDone, StatsWorker.isDone, rests,
      StatsWorker.rests]

theorem Sized.left_le (h : k.Sized burstSize) (role : WorkerRole) :
    k.left burstSize role ≤ 2 * burstSize + 3 := by
  cases role with
  | receive =>
      rw [left]
      cases k.receive.place <;> simp [ReceivePlace.left]
  | transmit =>
      rw [left]
      cases k.transmit.place <;> simp [TransmitPlace.left]
  | stats => exact k.stats.left_le h.unread_le

variable [FrameBuffer β] [Sink σ] (stop : Bool) (lane : Lane β) (w : World β σ)

theorem Sized.step (h : k.Sized burstSize) (role : WorkerRole) :
    (k.step stop lane w role).1.Sized burstSize := by
  cases role with
  | receive =>
      exact { h with receive_eq := (k.receive.burstSize_step stop lane w).trans h.receive_eq }
  | transmit =>
      refine { h with
        transmit_eq := (k.transmit.burstSize_step stop lane w).trans h.transmit_eq
        sending := ?_ }
      intro burst hburst
      rw [← h.transmit_eq]
      exact k.transmit.sending_step stop lane w hburst
  | stats =>
      refine { h with
        stats_eq := (k.stats.burstSize_step stop lane w).trans h.stats_eq
        unread_le := ?_ }
      have hunread := h.unread_le
      rw [← h.stats_eq] at hunread ⊢
      exact k.stats.unread_step_le stop lane w hunread

/-- Every action of a worker that does not rest brings it closer to rest. -/
theorem Sized.left_step_lt (h : k.Sized burstSize) {role : WorkerRole}
    (hrests : k.rests role = false) :
    (k.step stop lane w role).1.left burstSize role < k.left burstSize role := by
  cases role with
  | receive => exact k.receive.left_step_lt stop lane w hrests
  | transmit => exact k.transmit.left_step_lt stop lane w hrests
  | stats =>
      rw [← h.stats_eq]
      exact k.stats.left_step_lt stop lane w hrests

/-- A resting worker that is asked to stop leaves its loop. -/
theorem isDone_step (hstop : stop = true) {role : WorkerRole} (h : k.rests role = true) :
    (k.step stop lane w role).1.isDone role = true := by
  subst hstop
  cases role with
  | receive => exact k.receive.isDone_step lane w h
  | transmit => exact k.transmit.isDone_step lane w h
  | stats => exact k.stats.isDone_step lane w h

theorem isDone_step_of_ne {role other : WorkerRole} (h : other ≠ role) :
    (k.step stop lane w role).1.isDone other = k.isDone other := by
  cases role <;> cases other <;> first | rfl | exact absurd rfl h

end Workers

/-! ## Contexts -/

namespace Context

variable {c c' : Context β} {w w' : World β σ} {k : Workers β}

/-- A context is made of valid settings and a lane that did nothing yet. -/
theorem create_fresh {id : UInt16} {source destination : Binding} {settings : Settings}
    {names : RingNames} (h : (create id source destination settings names w).1 = .ok c) :
    c.settings = settings ∧ settings.validate = .ok () ∧ c.lane.Fresh ∧
      ∃ receiver, receiver.burstSize = settings.burstSize ∧
        c.body = .created receiver (Transmitter.create settings destination) := by
  rw [create] at h
  split at h
  · cases h
  · next hvalid =>
    split at h
    · cases h
    · next lane _ hlane =>
      have hfresh := Lane.create_fresh (congrArg Prod.fst hlane)
      split at h
      · cases h
      · next receiver hreceiver =>
        cases h
        exact ⟨rfl, hvalid, hfresh, receiver, (Receiver.create_reads hreceiver).2.2, rfl⟩

/-- Launching puts the stages of a context to work, with nothing in hand. -/
theorem launch_running [FrameBuffer β] (h : c.launch w = some (c', w')) :
    ∃ receiver transmitter k, c.body = .created receiver transmitter ∧ c'.body = .running k ∧
      c'.lane = c.lane ∧ c'.settings = c.settings ∧ w.Frees w' [] ∧
      k.receive.place = .ready ∧ k.transmit.place = .ready ∧ k.stats.place = .ready ∧
      (receiver.burstSize = c.settings.burstSize → transmitter.burstSize = c.settings.burstSize →
        k.Sized c.settings.burstSize) := by
  rw [launch] at h
  split at h
  · next receiver transmitter hbody =>
    cases h
    refine ⟨receiver, transmitter, _, hbody, rfl, rfl, rfl, ⟨rfl, rfl⟩, rfl, rfl, rfl, ?_⟩
    intro hreceiver htransmitter
    refine ⟨hreceiver, htransmitter, rfl, ?_, Nat.zero_le _⟩
    intro burst hsending
    cases hsending
  · cases h

variable [FrameBuffer β] [Sink σ]

/-- An action of a worker changes the worker, the lane, and the world. -/
theorem stepWorker_eq (h : c.body = .running k) (role : WorkerRole) (w : World β σ) :
    c.stepWorker role w =
      w.byWorker fun w => ({ c with
        body := .running (k.step c.lifecycle.stopRequested c.lane w role).1
        lane := (k.step c.lifecycle.stopRequested c.lane w role).2.1 },
          (k.step c.lifecycle.stopRequested c.lane w role).2.2) := by
  simp only [stepWorker, h]

/-- One worker takes `n` actions. -/
inductive Acts (role : WorkerRole) (c : Context β) (w : World β σ) :
    Nat → Context β → World β σ → Prop where
  | none : Acts role c w 0 c w
  | next {n : Nat} {c' : Context β} {w' : World β σ} :
      Acts role c w n c' w' →
        Acts role c w (n + 1) (c'.stepWorker role w').1 (c'.stepWorker role w').2

theorem Acts.trans {role : WorkerRole} {m n : Nat} {c'' : Context β} {w'' : World β σ}
    (h : Acts role c w m c' w') (h' : Acts role c' w' n c'' w'') :
    Acts role c w (m + n) c'' w'' := by
  induction h' with
  | none => exact h
  | next _ ih => exact .next ih

/-- A turn is made of actions of one worker, no more than its fuel allows. -/
theorem turn_acts (closed : List Door) (role : WorkerRole) (fuel : Nat) (c : Context β)
    (w : World β σ) :
    ∃ n, n ≤ fuel ∧ Acts role c w n (turn closed role fuel c w).1 (turn closed role fuel c w).2 := by
  induction fuel generalizing c w with
  | zero => exact ⟨0, Nat.le_refl 0, .none⟩
  | succ fuel ih =>
      rw [turn]
      split
      · exact ⟨0, Nat.zero_le _, .none⟩
      · dsimp only
        split
        · exact ⟨1, Nat.succ_le_succ (Nat.zero_le _), .next .none⟩
        · obtain ⟨n, hn, hacts⟩ := ih (c.stepWorker role w).1 (c.stepWorker role w).2
          exact ⟨1 + n, by omega, (Acts.none.next).trans hacts⟩

theorem settings_stepWorker (role : WorkerRole) (c : Context β) (w : World β σ) :
    (c.stepWorker role w).1.settings = c.settings := by
  rw [stepWorker]
  split <;> rfl

theorem lifecycle_stepWorker (role : WorkerRole) (c : Context β) (w : World β σ) :
    (c.stepWorker role w).1.lifecycle = c.lifecycle := by
  rw [stepWorker]
  split <;> rfl

namespace Acts

variable {role : WorkerRole} {n : Nat}

theorem settings_eq (h : Acts role c w n c' w') : c'.settings = c.settings := by
  induction h with
  | none => rfl
  | next _ ih => rw [settings_stepWorker, ih]

theorem turnFuel_eq (h : Acts role c w n c' w') : c'.turnFuel = c.turnFuel := by
  rw [turnFuel, h.settings_eq, turnFuel]

theorem lifecycle_eq (h : Acts role c w n c' w') : c'.lifecycle = c.lifecycle := by
  induction h with
  | none => rfl
  | next _ ih => rw [lifecycle_stepWorker, ih]

/-- Actions of one worker do not bring back another that left its loop. -/
theorem running (h : Acts role c w n c' w') (hbody : c.body = .running k)
    (hsized : k.Sized c.settings.burstSize) :
    ∃ k', c'.body = .running k' ∧ k'.Sized c'.settings.burstSize ∧
      ∀ other, other ≠ role → k'.isDone other = k.isDone other := by
  induction h with
  | none => exact ⟨k, hbody, hsized, fun _ _ => rfl⟩
  | @next n c' w' h ih =>
      obtain ⟨k', hbody', hsized', hothers⟩ := ih
      rw [stepWorker_eq hbody']
      refine ⟨_, rfl, hsized'.step _ _ _ role, ?_⟩
      intro other hother
      rw [← hothers other hother]
      exact Workers.isDone_step_of_ne _ _ _ hother

end Acts

/-! ## Finishing -/

/-- With enough fuel a turn goes on until the worker rests. -/
theorem turn_rests (role : WorkerRole) (fuel : Nat) (w : World β σ) (hbody : c.body = .running k)
    (hsized : k.Sized c.settings.burstSize) (hstop : c.lifecycle.stopRequested = true)
    (hleft : k.left c.settings.burstSize role ≤ fuel) :
    ∃ k', (turn [] role fuel c w).1.body = .running k' ∧ k'.rests role = true := by
  induction fuel generalizing c w k with
  | zero => exact ⟨k, hbody, Workers.rests_of_left (Nat.le_zero.mp hleft)⟩
  | succ fuel ih =>
      have hheld : c.isHeld [] role = false := by
        simp only [isHeld, hbody]
        split <;> rfl
      rw [turn, hheld, if_neg Bool.false_ne_true]
      dsimp only
      generalize hstep : k.step c.lifecycle.stopRequested c.lane { w with log := [] } role = s
      have hbody' : (c.stepWorker role w).1.body = .running s.1 := by
        rw [stepWorker_eq hbody, ← hstep]
        rfl
      cases hrests : s.1.rests role with
      | true =>
          have hresting : (c.stepWorker role w).1.rests role = true := by
            simp only [rests, hbody', hrests]
          rw [if_pos hresting]
          exact ⟨s.1, hbody', hrests⟩
      | false =>
          have hgoes : ¬(c.stepWorker role w).1.rests role = true := by
            simp [rests, hbody', hrests]
          have hbusy : k.rests role = false := by
            by_contra hk
            have hdone := Workers.isDone_step _ c.lane { w with log := [] } hstop
              (Bool.eq_true_of_not_eq_false hk)
            rw [hstep] at hdone
            rw [Workers.rests_of_isDone hdone] at hrests
            cases hrests
          have hcloser := hsized.left_step_lt c.lifecycle.stopRequested c.lane
            { w with log := [] } hbusy
          rw [hstep] at hcloser
          have hsized' := hsized.step c.lifecycle.stopRequested c.lane { w with log := [] } role
          rw [hstep] at hsized'
          rw [if_neg hgoes]
          refine ih _ hbody' ?_ ?_ ?_
          · rw [settings_stepWorker]
            exact hsized'
          · rw [lifecycle_stepWorker]
            exact hstop
          · rw [settings_stepWorker]
            omega

/-- A worker that rests leaves its loop in its next turn. -/
theorem turn_done (role : WorkerRole) (fuel : Nat) (w : World β σ) (hbody : c.body = .running k)
    (hstop : c.lifecycle.stopRequested = true) (hrests : k.rests role = true) :
    ∃ k', (turn [] role (fuel + 1) c w).1.body = .running k' ∧ k'.isDone role = true := by
  have hheld : c.isHeld [] role = false := by
    simp only [isHeld, hbody]
    split <;> rfl
  have hdone := Workers.isDone_step _ c.lane { w with log := [] } hstop hrests
  have hbody' : (c.stepWorker role w).1.body =
      .running (k.step c.lifecycle.stopRequested c.lane { w with log := [] } role).1 := by
    rw [stepWorker_eq hbody]
    rfl
  have hresting : (c.stepWorker role w).1.rests role = true := by
    simp only [rests, hbody', Workers.rests_of_isDone hdone]
  rw [turn, hheld, if_neg Bool.false_ne_true]
  dsimp only
  rw [if_pos hresting]
  exact ⟨_, hbody', hdone⟩

theorem finishWorker_acts (role : WorkerRole) (c : Context β) (w : World β σ) :
    ∃ n, n ≤ 2 * c.turnFuel ∧
      Acts role c w n (finishWorker role c w).1 (finishWorker role c w).2 := by
  obtain ⟨m, hm, hfirst⟩ := turn_acts [] role c.turnFuel c w
  have hfuel : (turn [] role c.turnFuel c w).1.turnFuel = c.turnFuel := hfirst.turnFuel_eq
  obtain ⟨n, hn, hsecond⟩ := turn_acts [] role (turn [] role c.turnFuel c w).1.turnFuel
    (turn [] role c.turnFuel c w).1 (turn [] role c.turnFuel c w).2
  rw [hfuel] at hn
  exact ⟨m + n, by omega, hfirst.trans hsecond⟩

/-- A worker that is asked to stop finishes, and the others stay where they are. -/
theorem finishWorker_done (role : WorkerRole) (w : World β σ) (hbody : c.body = .running k)
    (hsized : k.Sized c.settings.burstSize) (hstop : c.lifecycle.stopRequested = true) :
    ∃ k', (finishWorker role c w).1.body = .running k' ∧
      k'.Sized (finishWorker role c w).1.settings.burstSize ∧ k'.isDone role = true ∧
      ∀ other, other ≠ role → k'.isDone other = k.isDone other := by
  obtain ⟨n, _, hacts⟩ := finishWorker_acts role c w
  obtain ⟨k', hbody', hsized', hothers⟩ := hacts.running hbody hsized
  refine ⟨k', hbody', hsized', ?_, hothers⟩
  have hleft := hsized.left_le role
  obtain ⟨m, _, hfirst⟩ := turn_acts [] role c.turnFuel c w
  obtain ⟨k₁, hbody₁, hrests⟩ := turn_rests role c.turnFuel w hbody hsized hstop
    (by rw [turnFuel]; omega)
  have hstop₁ : (turn [] role c.turnFuel c w).1.lifecycle.stopRequested = true := by
    rw [hfirst.lifecycle_eq]
    exact hstop
  obtain ⟨k₂, hbody₂, hdone⟩ := turn_done role
    (2 * (turn [] role c.turnFuel c w).1.settings.burstSize + 7)
    (turn [] role c.turnFuel c w).2 hbody₁ hstop₁ hrests
  have hsame : k₂ = k' := by
    have := hbody₂.symm.trans hbody'
    injection this
  exact hsame ▸ hdone

/-- Finishing all workers takes a bounded number of actions of each in turn. -/
theorem finishWorkers_acts (c : Context β) (w : World β σ) :
    ∃ c₁ w₁ c₂ w₂ n₁ n₂ n₃, n₁ + n₂ + n₃ ≤ 6 * c.turnFuel ∧
      Acts .receive c w n₁ c₁ w₁ ∧ Acts .transmit c₁ w₁ n₂ c₂ w₂ ∧
      Acts .stats c₂ w₂ n₃ (c.finishWorkers w).1 (c.finishWorkers w).2 := by
  let first := finishWorker .receive c w
  let second := finishWorker .transmit first.1 first.2
  obtain ⟨n₁, hn₁, h₁⟩ := finishWorker_acts .receive c w
  obtain ⟨n₂, hn₂, h₂⟩ := finishWorker_acts .transmit first.1 first.2
  obtain ⟨n₃, hn₃, h₃⟩ := finishWorker_acts .stats second.1 second.2
  have hfuel₁ : first.1.turnFuel = c.turnFuel := h₁.turnFuel_eq
  have hfuel₂ : second.1.turnFuel = first.1.turnFuel := h₂.turnFuel_eq
  exact ⟨first.1, first.2, second.1, second.2, n₁, n₂, n₃, by omega, h₁, h₂, h₃⟩

/-- Once they are asked to stop, all workers leave their loops. -/
theorem finishWorkers_done (w : World β σ) (hbody : c.body = .running k)
    (hsized : k.Sized c.settings.burstSize) (hstop : c.lifecycle.stopRequested = true) :
    ∃ k', (c.finishWorkers w).1.body = .running k' ∧ ∀ role, k'.isDone role = true := by
  let first := finishWorker .receive c w
  let second := finishWorker .transmit first.1 first.2
  obtain ⟨_, _, hacts₁⟩ := finishWorker_acts .receive c w
  obtain ⟨_, _, hacts₂⟩ := finishWorker_acts .transmit first.1 first.2
  obtain ⟨k₁, hbody₁, hsized₁, hdone₁, _⟩ := finishWorker_done .receive w hbody hsized hstop
  have hstop₁ : first.1.lifecycle.stopRequested = true := hacts₁.lifecycle_eq ▸ hstop
  obtain ⟨k₂, hbody₂, hsized₂, hdone₂, hothers₂⟩ :=
    finishWorker_done .transmit first.2 hbody₁ hsized₁ hstop₁
  have hstop₂ : second.1.lifecycle.stopRequested = true := hacts₂.lifecycle_eq ▸ hstop₁
  obtain ⟨k₃, hbody₃, _, hdone₃, hothers₃⟩ :=
    finishWorker_done .stats second.2 hbody₂ hsized₂ hstop₂
  refine ⟨k₃, hbody₃, ?_⟩
  intro role
  cases role with
  | receive =>
      rw [hothers₃ .receive (by decide), hothers₂ .receive (by decide)]
      exact hdone₁
  | transmit =>
      rw [hothers₃ .transmit (by decide)]
      exact hdone₂
  | stats => exact hdone₃

end Context

end EtherRelay
