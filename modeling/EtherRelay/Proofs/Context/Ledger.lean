import EtherRelay.Proofs.Context.Turns
import EtherRelay.Proofs.Forwarding.Ledger

/-!
# The ledger of a context

Whatever order its workers act in, the counters of a context balance as long as no worker
crashed: each action keeps the balance, with the frames that the workers have in hand among
those on their way. Joining empties all hands, so the report of a destroyed context accounts
for every frame that was received.
-/

namespace EtherRelay

variable {β σ : Type}

/-- The frames counted as received between two readings. -/
def Counters.receivedSince (before after : Counters) : Nat :=
  (after.rxPackets - before.rxPackets).toNat

theorem Lane.Accounts.receivedSince_eq {lane lane' : Lane β}
    {burstSize sending unread burstSize' sending' unread' received n : Nat}
    (h : lane.Accounts burstSize sending unread received)
    (h' : lane'.Accounts burstSize' sending' unread' (received + n)) (hn : n < UInt64.size) :
    lane.counters.receivedSince lane'.counters = n := by
  have hsub := Ring.toNat_ofNat_sub (Nat.le_add_right received n)
    (by rwa [Nat.add_sub_cancel_left])
  rw [Counters.receivedSince, h.rxPackets_eq, h'.rxPackets_eq, hsub, Nat.add_sub_cancel_left]

/-! ## Actions of one worker -/

section

variable [FrameBuffer β] {lane : Lane β} {burstSize sending unread received : Nat}
variable (stop : Bool) (w : World β σ)

/-- An action of a receive worker that does not crash receives at most one burst. -/
theorem ReceiveWorker.accounts_step (r : ReceiveWorker)
    (h : lane.Accounts burstSize sending unread received)
    (hburst : r.stage.burstSize = burstSize)
    (hcrashed : (r.step stop lane w).1.place ≠ .crashed) :
    ∃ n, n ≤ burstSize ∧
      (r.step stop lane w).2.1.Accounts burstSize sending unread (received + n) := by
  rw [step] at hcrashed ⊢
  split
  · split <;> exact ⟨0, Nat.zero_le _, h⟩
  · split
    · next hp hfails =>
      simp only [hp, if_pos hfails] at hcrashed
      exact absurd rfl hcrashed
    · have hpoll := r.stage.poll_eq w lane
      by_cases hnil :
          (w.receive r.stage.interface r.stage.chooseQueue.1 r.stage.burstSize).1 = []
      · rw [if_pos hnil] at hpoll
        refine ⟨0, Nat.zero_le _, ?_⟩
        rw [hpoll]
        exact h
      · have hle : (w.receive r.stage.interface r.stage.chooseQueue.1
            r.stage.burstSize).1.length ≤ burstSize :=
          (w.length_receive_le _ _ _).trans_eq hburst
        rw [if_neg hnil] at hpoll
        refine ⟨_, hle, ?_⟩
        rw [hpoll]
        exact h.distributes (Receiver.distribute_distributes _ _ _ h.relay_sound h.stats_sound)
          hnil hle
  · exact ⟨0, Nat.zero_le _, h⟩
  · exact ⟨0, Nat.zero_le _, h⟩

theorem TransmitWorker.accounts_step (t : TransmitWorker β)
    (h : lane.Accounts burstSize t.place.inHand.length unread received)
    (hsending : ∀ burst, t.place = .sending burst → burst ≠ [] ∧ burst.length ≤ burstSize)
    (hcrashed : (t.step stop lane w).1.place ≠ .crashed) :
    (t.step stop lane w).2.1.Accounts burstSize (t.step stop lane w).1.place.inHand.length
      unread received := by
  cases hp : t.place with
  | ready =>
      rw [hp] at h
      simp only [step, hp]
      split <;> exact h
  | polling =>
      rw [hp] at h
      have hloaded := h.takesRelay (t.stage.load_takes h.relay_sound)
      simp only [step, hp]
      split
      · next hnil =>
        rw [List.isEmpty_iff.mp hnil] at hloaded
        exact hloaded
      · exact hloaded
  | sending burst =>
      obtain ⟨hpos, hle⟩ := hsending burst hp
      rw [hp] at h
      simp only [step, hp] at hcrashed ⊢
      split
      · next hfails =>
        rw [if_pos hfails] at hcrashed
        exact absurd rfl hcrashed
      · exact Lane.Accounts.send t.stage w h hpos hle
  | finished =>
      rw [hp] at h
      simp only [step, hp]
      exact h
  | crashed => simp only [step, hp, ne_eq, not_true_eq_false] at hcrashed

variable [Sink σ]

theorem StatsWorker.accounts_step (s : StatsWorker β)
    (h : lane.Accounts burstSize sending s.place.unread.length received)
    (hcrashed : (s.step stop lane w).1.place ≠ .crashed) :
    (s.step stop lane w).2.1.Accounts burstSize sending
      (s.step stop lane w).1.place.unread.length received := by
  cases hp : s.place with
  | ready =>
      rw [hp] at h
      simp only [step, hp]
      split <;> exact h
  | polling =>
      rw [hp] at h
      simp only [step, hp]
      exact h.takesStats (s.stage.load_takes h.stats_sound)
  | draining rest =>
      rw [hp] at h
      cases rest with
      | nil =>
          simp only [step, hp] at hcrashed ⊢
          rw [(s.sampleIfDue_place lane w).2.2.2]
          rcases s.sampleIfDue_cases lane w with ⟨_, hlane, _⟩ | ⟨interface, w', _, hcrash⟩
          · rw [hlane]
            exact h
          · rw [hcrash] at hcrashed
            exact absurd rfl hcrashed
      | cons probe rest =>
          obtain ⟨more, hreads, hcounts, _⟩ := Monitor.inspect_counts lane w probe
          have hboth : lane.Accounts burstSize sending (1 + rest.length) received := by
            rw [Nat.add_comm]
            exact h
          have hread := hboth.reads hcounts hreads
          simp only [step, hp]
          split <;> next heq => rw [heq] at hread; exact hread
  | reporting latency probe rest =>
      obtain ⟨more, hreads, hcounts, _⟩ :=
        Monitor.publish_counts lane w (latency.record lane.context)
      have hboth : lane.Accounts burstSize sending (0 + rest.length) received := by
        rw [Nat.zero_add]
        rw [hp] at h
        exact h
      simp only [step, hp]
      exact hboth.reads hcounts hreads
  | publishing sample =>
      obtain ⟨more, hreads, hcounts, _⟩ :=
        Monitor.publish_counts lane w (sample.record lane.context)
      rw [hp] at h
      simp only [step, hp]
      exact Lane.Accounts.reads h hcounts hreads
  | finished =>
      rw [hp] at h
      simp only [step, hp]
      exact h
  | crashed => simp only [step, hp, ne_eq, not_true_eq_false] at hcrashed

end

/-! ## Actions of all workers -/

namespace Workers

variable {k : Workers β}

theorem crashedRoles_eq_nil : k.crashedRoles = [] ↔ ∀ role, k.crashed role = false := by
  rw [crashedRoles, List.filter_eq_nil_iff]
  constructor
  · intro h role
    cases role <;> simpa using h _ (by decide)
  · intro h role _
    rw [h role]
    exact Bool.false_ne_true

theorem receive_ne_crashed (h : k.crashed .receive = false) : k.receive.place ≠ .crashed := by
  intro hp
  simp [crashed, hp] at h

theorem transmit_ne_crashed (h : k.crashed .transmit = false) :
    k.transmit.place ≠ .crashed := by
  intro hp
  simp [crashed, hp] at h

theorem stats_ne_crashed (h : k.crashed .stats = false) : k.stats.place ≠ .crashed := by
  intro hp
  simp [crashed, hp] at h

variable [FrameBuffer β] [Sink σ] (stop : Bool) (lane : Lane β) (w : World β σ)

/-- A worker that crashed stays where it is. -/
theorem crashed_step (role : WorkerRole) {other : WorkerRole} (h : k.crashed other = true) :
    (k.step stop lane w role).1.crashed other = true := by
  cases role with
  | receive =>
      cases other with
      | receive =>
          have hp : k.receive.place = .crashed := by simpa [crashed] using h
          simp only [step, crashed, ReceiveWorker.step, hp]
          rfl
      | _ => exact h
  | transmit =>
      cases other with
      | transmit => cases hp : k.transmit.place <;> simp_all [step, crashed, TransmitWorker.step]
      | _ => exact h
  | stats =>
      cases other with
      | stats => cases hp : k.stats.place <;> simp_all [step, crashed, StatsWorker.step]
      | _ => exact h

/-- An action keeps the balance and receives at most one burst, unless a worker crashed. -/
theorem accounts_step {burstSize received : Nat} (hsized : k.Sized burstSize)
    (h : lane.Accounts burstSize k.transmit.place.inHand.length k.stats.place.unread.length
      received) (role : WorkerRole)
    (hcrashed : ∀ other, (k.step stop lane w role).1.crashed other = false) :
    ∃ n, n ≤ burstSize ∧ (k.step stop lane w role).2.1.Accounts burstSize
      (k.step stop lane w role).1.transmit.place.inHand.length
      (k.step stop lane w role).1.stats.place.unread.length (received + n) := by
  cases role with
  | receive =>
      exact k.receive.accounts_step stop w h hsized.receive_eq
        (receive_ne_crashed (hcrashed .receive))
  | transmit =>
      exact ⟨0, Nat.zero_le _, k.transmit.accounts_step stop w h hsized.sending
        (transmit_ne_crashed (hcrashed .transmit))⟩
  | stats =>
      exact ⟨0, Nat.zero_le _, k.stats.accounts_step stop w h
        (stats_ne_crashed (hcrashed .stats))⟩

end Workers

/-! ## Runs of a context -/

/-- The counters balance in each phase, unless a worker crashed. -/
def ContextBody.Accounts (lane : Lane β) (burstSize received : Nat) : ContextBody β → Prop
  | .created receiver transmitter =>
    lane.Accounts burstSize 0 0 received ∧ receiver.burstSize = burstSize ∧
      transmitter.burstSize = burstSize
  | .running k => k.Sized burstSize ∧ ((∀ role, k.crashed role = false) →
      lane.Accounts burstSize k.transmit.place.inHand.length k.stats.place.unread.length received)
  | .drained => lane.Accounts burstSize 0 0 received
  | .gone => True

namespace Context

variable {c c' : Context β} {w w' : World β σ} {received : Nat}

/-- A context that received so many frames, and whose counters balance. -/
structure Accounts (c : Context β) (received : Nat) : Prop where
  burstSize_le : c.settings.burstSize ≤ maxBurst
  body_accounts : c.body.Accounts c.lane c.settings.burstSize received

theorem accounts_create {id : UInt16} {source destination : Binding} {settings : Settings}
    {names : RingNames} (h : (create id source destination settings names w).1 = .ok c) :
    c.Accounts 0 := by
  obtain ⟨rfl, hvalid, hfresh, receiver, hreceiver, hbody⟩ := create_fresh h
  refine ⟨(Settings.validate_eq_ok hvalid).2.1, ?_⟩
  rw [hbody]
  exact ⟨hfresh.accounts _, hreceiver, rfl⟩

theorem Accounts.launch [FrameBuffer β] (h : c.Accounts received)
    (hlaunch : c.launch w = some (c', w')) : c'.Accounts received := by
  obtain ⟨hburst, hbody⟩ := h
  obtain ⟨receiver, transmitter, k, hcreated, hrunning, hlane, hsettings, _, _, htransmit, hstats,
    hsized⟩ := launch_running hlaunch
  rw [hcreated] at hbody
  obtain ⟨haccounts, hreceiver, htransmitter⟩ := hbody
  refine ⟨hsettings ▸ hburst, ?_⟩
  rw [hrunning, hsettings, hlane]
  refine ⟨hsized hreceiver htransmitter, ?_⟩
  intro _
  rw [htransmit, hstats]
  exact haccounts

/-- Nothing is said of the counters once a worker crashed. -/
theorem Accounts.of_crashed (h : c.Accounts received) (hcrashed : c.crashedRoles ≠ [])
    (received' : Nat) : c.Accounts received' := by
  obtain ⟨hburst, hbody⟩ := h
  refine ⟨hburst, ?_⟩
  rw [crashedRoles] at hcrashed
  cases hc : c.body with
  | running k =>
      rw [hc] at hbody hcrashed
      exact ⟨hbody.1, fun hnone => absurd (Workers.crashedRoles_eq_nil.mpr hnone) hcrashed⟩
  | _ =>
      rw [hc] at hcrashed
      exact absurd rfl hcrashed

/-- Where the counters balance, their growth is the number of frames received. -/
theorem Accounts.receivedSince_eq {n : Nat} (h : c.Accounts received)
    (h' : c'.Accounts (received + n)) {k : Workers β} (hbody : c.body = .running k)
    (hnone : c.crashedRoles = []) {k' : Workers β} (hbody' : c'.body = .running k')
    (hnone' : c'.crashedRoles = []) (hn : n < UInt64.size) :
    c.lane.counters.receivedSince c'.lane.counters = n := by
  have hlane := h.body_accounts
  have hlane' := h'.body_accounts
  rw [crashedRoles, hbody] at hnone
  rw [crashedRoles, hbody'] at hnone'
  rw [hbody] at hlane
  rw [hbody'] at hlane'
  exact (hlane.2 (Workers.crashedRoles_eq_nil.mp hnone)).receivedSince_eq
    (hlane'.2 (Workers.crashedRoles_eq_nil.mp hnone')) hn

variable [FrameBuffer β] [Sink σ]

/-- A context after any steps of its own and any actions of its workers, whatever the world is
like at each of them. The number is that of the frames it counted as received. -/
inductive Ran (σ : Type) [Sink σ] : Context β → Nat → Prop where
  | created (id : UInt16) (source destination : Binding) (settings : Settings)
      (names : RingNames) (w : World β σ) {c : Context β}
      (h : (create id source destination settings names w).1 = .ok c) : Ran σ c 0
  | launched {c c' : Context β} {received : Nat} {w w' : World β σ} (h : Ran σ c received)
      (hlaunch : c.launch w = some (c', w')) : Ran σ c' received
  | stopped {c : Context β} {received : Nat} (h : Ran σ c received) :
      Ran σ c.requestStop received
  | acted {c : Context β} {received : Nat} (h : Ran σ c received) (role : WorkerRole)
      (w : World β σ) :
      Ran σ (c.stepWorker role w).1
        (received + c.lane.counters.receivedSince (c.stepWorker role w).1.lane.counters)

theorem crashedRoles_stepWorker (role : WorkerRole) (w : World β σ)
    (h : (c.stepWorker role w).1.crashedRoles = []) : c.crashedRoles = [] := by
  cases hc : c.body with
  | running k =>
      rw [stepWorker_eq hc] at h
      have hafter := Workers.crashedRoles_eq_nil.mp h
      rw [crashedRoles, hc]
      refine Workers.crashedRoles_eq_nil.mpr ?_
      intro other
      by_contra hother
      have hstays := k.crashed_step c.lifecycle.stopRequested c.lane { w with log := [] } role
        (Bool.eq_true_of_not_eq_false hother)
      rw [hafter other] at hstays
      cases hstays
  | _ => rw [crashedRoles, hc]

/-- An action of a worker keeps the balance and receives at most one burst. -/
theorem Accounts.stepWorker (h : c.Accounts received) (role : WorkerRole) (w : World β σ) :
    ∃ n, n ≤ maxBurst ∧ (c.stepWorker role w).1.Accounts (received + n) := by
  have hbefore := crashedRoles_stepWorker (c := c) role w
  obtain ⟨hburst, hbody⟩ := h
  cases hc : c.body with
  | running k =>
      rw [hc] at hbody
      obtain ⟨hsized, hlane⟩ := hbody
      have hsized' := hsized.step c.lifecycle.stopRequested c.lane { w with log := [] } role
      rw [crashedRoles, crashedRoles, hc, stepWorker_eq hc] at hbefore
      rw [stepWorker_eq hc]
      by_cases hcrashed : ∀ other, (k.step c.lifecycle.stopRequested c.lane
          { w with log := [] } role).1.crashed other = false
      · have hnone := hbefore (Workers.crashedRoles_eq_nil.mpr hcrashed)
        obtain ⟨n, hn, hlane'⟩ := Workers.accounts_step c.lifecycle.stopRequested c.lane
          { w with log := [] } hsized (hlane (Workers.crashedRoles_eq_nil.mp hnone)) role hcrashed
        exact ⟨n, hn.trans hburst, hburst, hsized', fun _ => hlane'⟩
      · exact ⟨0, Nat.zero_le _, hburst, hsized', fun hnone => absurd hnone hcrashed⟩
  | _ =>
      have hsame : (c.stepWorker role w).1 = c := by simp only [Context.stepWorker, hc]
      rw [hsame]
      exact ⟨0, Nat.zero_le _, hburst, hbody⟩

theorem Accounts.acts {role : WorkerRole} {n : Nat} (h : c.Accounts received)
    (hacts : Acts role c w n c' w') :
    ∃ m, m ≤ n * maxBurst ∧ c'.Accounts (received + m) := by
  induction hacts with
  | none => exact ⟨0, Nat.zero_le _, h⟩
  | @next n c' w' _ ih =>
      obtain ⟨m, hm, hmiddle⟩ := ih
      obtain ⟨m', hm', hlast⟩ := hmiddle.stepWorker role w'
      rw [Nat.add_assoc] at hlast
      refine ⟨m + m', ?_, hlast⟩
      rw [Nat.add_mul, Nat.one_mul]
      omega

theorem Ran.accounts (h : Ran σ c received) : c.Accounts received := by
  induction h with
  | created _ _ _ _ _ _ h => exact accounts_create h
  | launched _ hlaunch ih => exact ih.launch hlaunch
  | stopped _ ih => exact ⟨ih.burstSize_le, ih.body_accounts⟩
  | @acted c received _ role w ih =>
      obtain ⟨n, hn, hafter⟩ := ih.stepWorker role w
      by_cases hcrashed : (c.stepWorker role w).1.crashedRoles = []
      · cases hc : c.body with
        | running k =>
            have hbody' : (c.stepWorker role w).1.body = .running (k.step
                c.lifecycle.stopRequested c.lane { w with log := [] } role).1 := by
              rw [stepWorker_eq hc]
              rfl
            have hfits : n < UInt64.size := Nat.lt_of_le_of_lt hn (by decide)
            rwa [ih.receivedSince_eq hafter hc (crashedRoles_stepWorker role w hcrashed) hbody'
              hcrashed hfits]
        | _ =>
            have hsame : (c.stepWorker role w).1 = c := by simp only [Context.stepWorker, hc]
            rw [hsame, Counters.receivedSince, UInt64.sub_self]
            exact ih
      · exact hafter.of_crashed hcrashed _

/-! ## Joining -/

theorem Acts.crashedRoles_eq_nil {role : WorkerRole} {n : Nat} (h : Acts role c w n c' w')
    (hnone : c'.crashedRoles = []) : c.crashedRoles = [] := by
  induction h with
  | none => exact hnone
  | @next _ _ w' _ ih => exact ih (crashedRoles_stepWorker role w' hnone)

/-- Finishing all workers leaves their hands empty, and receives less than a word can count. -/
theorem Accounts.finishWorkers (h : c.Accounts received) {k : Workers β}
    (hbody : c.body = .running k) (hstop : c.lifecycle.stopRequested = true) (w : World β σ)
    (hnone : (c.finishWorkers w).1.crashedRoles = []) :
    (c.finishWorkers w).1.lane.Accounts (c.finishWorkers w).1.settings.burstSize 0 0
      (received + c.lane.counters.receivedSince (c.finishWorkers w).1.lane.counters) := by
  obtain ⟨c₁, w₁, c₂, w₂, n₁, n₂, n₃, hn, hacts₁, hacts₂, hacts₃⟩ := finishWorkers_acts c w
  obtain ⟨m₁, hm₁, h₁⟩ := h.acts hacts₁
  obtain ⟨m₂, hm₂, h₂⟩ := h₁.acts hacts₂
  obtain ⟨m₃, hm₃, h₃⟩ := h₂.acts hacts₃
  rw [Nat.add_assoc, Nat.add_assoc] at h₃
  have hnone₀ : c.crashedRoles = [] :=
    hacts₁.crashedRoles_eq_nil (hacts₂.crashedRoles_eq_nil (hacts₃.crashedRoles_eq_nil hnone))
  have hsized := h.body_accounts
  rw [hbody] at hsized
  obtain ⟨k', hbody', hdone⟩ := finishWorkers_done w hbody hsized.1 hstop
  have hfits : m₁ + (m₂ + m₃) < UInt64.size := by
    have hburst := h.burstSize_le
    rw [turnFuel] at hn
    rw [maxBurst] at hburst hm₁ hm₂ hm₃
    rw [UInt64.size]
    omega
  rw [h.receivedSince_eq h₃ hbody hnone₀ hbody' hnone hfits]
  have hlane := h₃.body_accounts
  rw [hbody'] at hlane
  rw [crashedRoles, hbody'] at hnone
  have hempty := hlane.2 (Workers.crashedRoles_eq_nil.mp hnone)
  rw [k'.transmit.inHand_of_rests (Workers.rests_of_isDone (hdone .transmit)),
    (k'.stats.inHand_of_rests (Workers.rests_of_isDone (hdone .stats))).2] at hempty
  exact hempty

/-- Joining ends with a balance, and with nothing in hand. -/
theorem Accounts.join (h : c.Accounts received) (hjoin : c.join w = some (.ok (), c', w')) :
    c'.body = .drained ∧ c'.lane.Accounts c'.settings.burstSize 0 0
      (received + c.lane.counters.receivedSince c'.lane.counters) := by
  cases hc : c.body with
  | running k =>
      have hstopped : c.requestStop.Accounts received := ⟨h.burstSize_le, h.body_accounts⟩
      have hfinished := hstopped.finishWorkers hc rfl w
      simp only [Context.join, hc] at hjoin
      split at hjoin
      · cases hjoin
      · next hnone =>
        cases hjoin
        exact ⟨rfl, hfinished hnone⟩
  | _ => simp only [Context.join, hc, reduceCtorEq] at hjoin

end Context

/-- The counters of a context are a ledger. Polled by hand, whatever the world is like at each
poll, they balance after every poll; in a running context they balance whenever all workers
rest; and the report of a context that was joined and destroyed accounts for every frame that
was received. -/
theorem counters_ledger [FrameBuffer β] [Sink σ] :
    (∀ (context : UInt16) (settings : Settings) (source destination : Binding)
      (drainBurst : Nat) (now : UInt64) (p : Pipeline β),
      Pipeline.create context settings source destination drainBurst now = .ok p →
      ∀ polls : List (Poll × World β σ), (p.performAll polls).1 < UInt64.size →
        (p.performAll polls).2.lane.counters.Ledger settings.burstSize
          (p.performAll polls).2.lane.relayRing.length
          (p.performAll polls).2.lane.statsRing.length) ∧
    ∀ (c : Context β) (received : Nat), Context.Ran σ c received →
      (∀ k : Workers β, c.body = .running k →
        (∀ role, k.rests role = true ∧ k.crashed role = false) → received < UInt64.size →
        c.lane.counters.Ledger c.settings.burstSize c.lane.relayRing.length
          c.lane.statsRing.length) ∧
      ∀ (w : World β σ) (c' : Context β) (w' : World β σ),
        c.join w = some (.ok (), c', w') →
        received + c.lane.counters.receivedSince c'.lane.counters < UInt64.size →
        ∀ w₁ : World β σ, ∃ report c'' w₂, c'.destroy w₁ = some (report, c'', w₂) ∧
          report.counters.rxPackets.toNat =
            report.counters.forwarded.toNat + report.counters.probesDecoded.toNat +
              report.counters.totalDrops.toNat + report.abandonedRelay +
              report.abandonedStats := by
  constructor
  · intro context settings source destination drainBurst now p hp polls hfits
    have hrun := (Pipeline.create_fresh hp).accounts.performAll polls
    rw [Nat.zero_add] at hrun
    exact hrun.lane_accounts.ledger hfits
  · intro c received hran
    have haccounts := hran.accounts
    constructor
    · intro k hbody hrests hfits
      have hlane := haccounts.body_accounts
      rw [hbody] at hlane
      have hempty := hlane.2 fun role => (hrests role).2
      rw [k.transmit.inHand_of_rests (hrests .transmit).1,
        (k.stats.inHand_of_rests (hrests .stats).1).2] at hempty
      exact hempty.ledger hfits
    · intro w c' w' hjoin hfits w₁
      obtain ⟨hdrained, hlane⟩ := haccounts.join hjoin
      have hledger := (hlane.ledger hfits).rxPackets_eq_add
      rw [Context.destroy, hdrained]
      exact ⟨_, _, _, rfl, hledger⟩

namespace Ledger

/-- Two interfaces; one frame waits at the first. -/
def oneFrame : World Buffer NullSink where
  interfaces :=
    [{ Interface.create ⟨0, "left"⟩ 1 1 with rxQueues := [[.ofFrame [1, 2, 3]]] },
      .create ⟨1, "right"⟩ 1 1]
  sink := {}
  clock := { hz := Clock.monotonicHz }
  pool := .create 4

def settings : Settings := { burstSize := 2, ringCapacity := 4, statsRingCapacity := 2 }

def source : Binding := { interface := 0, queues := .single 0 }

def destination : Binding := { interface := 1, queues := .single 0 }

end Ledger

/-- The statement where one frame is received: by hand, and by a context that is then joined. -/
theorem counters_ledger_oneFrame :
    (∃ p : Pipeline Buffer, Pipeline.create 1 Ledger.settings Ledger.source Ledger.destination
      2 0 = .ok p ∧ (p.performAll [(.receive, Ledger.oneFrame)]).1 = 1 ∧
        (p.performAll [(.receive, Ledger.oneFrame)]).2.lane.counters.Ledger 2 1 0) ∧
    ∃ (c c' : Context Buffer) (received : Nat) (w' : World Buffer NullSink),
      Context.Ran NullSink c received ∧ c.join Ledger.oneFrame = some (.ok (), c', w') ∧
        received + c.lane.counters.receivedSince c'.lane.counters = 1 ∧
        ∃ report c'' w₂, c'.destroy w' = some (report, c'', w₂) ∧
          report.counters.rxPackets.toNat =
            report.counters.forwarded.toNat + report.counters.probesDecoded.toNat +
              report.counters.totalDrops.toNat + report.abandonedRelay +
              report.abandonedStats := by
  have hcreated := Context.Ran.created 1 Ledger.source Ledger.destination Ledger.settings {}
    Ledger.oneFrame rfl
  have hran := (hcreated.launched (w := Ledger.oneFrame) rfl).acted .receive Ledger.oneFrame
  refine ⟨⟨_, rfl, rfl, ?_⟩, _, _, _, _, hran, rfl, ?_, ?_⟩
  · exact counters_ledger.1 1 Ledger.settings Ledger.source Ledger.destination 2 0 _ rfl
      [(.receive, Ledger.oneFrame)] (by decide)
  · decide
  · exact (counters_ledger.2 _ _ hran).2 Ledger.oneFrame _ _ rfl (by decide) _

end EtherRelay
