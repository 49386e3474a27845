import EtherRelay.Proofs.Forwarding.Stages

/-!
# The ledger of a lane

Each frame that was received is counted once more for what became of it, so the counters of a
lane balance: what came in was passed on, dropped, or is still queued. The equations hold for
the totals behind the counters, with the frames that a stage has in hand among those still on
their way. As long as no total outgrows a word, the counters show them as they are.
-/

namespace EtherRelay

namespace Counters

/-- The totals of a lane that received `received` frames. On their way are `outstanding` frames
between receiver and transmitter and `unread` probes between receiver and monitor. -/
structure Balanced (total : Counter → Nat) (burstSize received outstanding unread : Nat) :
    Prop where
  rxPackets_eq : total .rxPackets = received
  received_eq : total .rxPackets = total .relayed + total .probesEnqueued +
    total .relayOverflowDrops + total .probeOverflowDrops
  relayed_eq : total .relayed = total .forwarded + total .txPartialDrops + outstanding
  probes_eq : total .probesEnqueued =
    total .probesDecoded + total .malformedProbes + unread
  rxBursts_le : total .rxBursts ≤ total .rxPackets
  rxPackets_le : total .rxPackets ≤ burstSize * total .rxBursts
  txBursts_le : total .txBursts ≤ total .forwarded + total .txPartialDrops
  txPackets_le : total .forwarded + total .txPartialDrops ≤ burstSize * total .txBursts

theorem balanced_zero (burstSize : Nat) : Balanced 0 burstSize 0 0 0 where
  rxPackets_eq := rfl
  received_eq := rfl
  relayed_eq := rfl
  probes_eq := rfl
  rxBursts_le := Nat.le_refl 0
  rxPackets_le := Nat.zero_le _
  txBursts_le := Nat.le_refl 0
  txPackets_le := Nat.zero_le _

/-- What the counters of a lane say of each other and of the two rings. -/
structure Ledger (c : Counters) (burstSize relayQueued statsQueued : Nat) : Prop where
  rxPackets_eq : c.rxPackets.toNat = c.relayed.toNat + c.probesEnqueued.toNat +
    c.relayOverflowDrops.toNat + c.probeOverflowDrops.toNat
  relayed_eq : c.relayed.toNat = c.forwarded.toNat + c.txPartialDrops.toNat + relayQueued
  probesEnqueued_eq : c.probesEnqueued.toNat =
    c.probesDecoded.toNat + c.malformedProbes.toNat + statsQueued
  rxBursts_le : c.rxBursts.toNat ≤ c.rxPackets.toNat
  rxPackets_le : c.rxPackets.toNat ≤ burstSize * c.rxBursts.toNat
  txBursts_le : c.txBursts.toNat ≤ c.forwarded.toNat + c.txPartialDrops.toNat
  txPackets_le : c.forwarded.toNat + c.txPartialDrops.toNat ≤ burstSize * c.txBursts.toNat

variable {c : Counters} {total : Counter → Nat} {burstSize received relayQueued statsQueued : Nat}

/-- While the received frames fit a word, all totals do. -/
theorem Shows.ledger (h : c.Shows total)
    (hb : Balanced total burstSize received relayQueued statsQueued)
    (hfits : received < UInt64.size) : c.Ledger burstSize relayQueued statsQueued := by
  obtain ⟨hrx, hreceived, hrelayed, hprobes, hrxb, hrxp, htxb, htxp⟩ := hb
  have hshown : ∀ k, total k ≤ received → (c.get k).toNat = total k := by
    intro k hk
    exact h.toNat_get (Nat.lt_of_le_of_lt hk hfits)
  have h1 : c.rxPackets.toNat = _ := hshown .rxPackets (by omega)
  have h2 : c.relayed.toNat = _ := hshown .relayed (by omega)
  have h3 : c.probesEnqueued.toNat = _ := hshown .probesEnqueued (by omega)
  have h4 : c.relayOverflowDrops.toNat = _ := hshown .relayOverflowDrops (by omega)
  have h5 : c.probeOverflowDrops.toNat = _ := hshown .probeOverflowDrops (by omega)
  have h6 : c.forwarded.toNat = _ := hshown .forwarded (by omega)
  have h7 : c.txPartialDrops.toNat = _ := hshown .txPartialDrops (by omega)
  have h8 : c.probesDecoded.toNat = _ := hshown .probesDecoded (by omega)
  have h9 : c.malformedProbes.toNat = _ := hshown .malformedProbes (by omega)
  have h10 : c.rxBursts.toNat = _ := hshown .rxBursts (by omega)
  have h11 : c.txBursts.toNat = _ := hshown .txBursts (by omega)
  constructor <;> simp only [h1, h2, h3, h4, h5, h6, h7, h8, h9, h10, h11] <;> assumption

/-- The drops of a ledger are counted together, and with them every received frame. -/
theorem Ledger.rxPackets_eq_add (h : c.Ledger burstSize relayQueued statsQueued) :
    c.rxPackets.toNat = c.forwarded.toNat + c.probesDecoded.toNat + c.totalDrops.toNat +
      relayQueued + statsQueued := by
  have hrx := h.rxPackets_eq
  have hrelayed := h.relayed_eq
  have hprobes := h.probesEnqueued_eq
  have hword := c.rxPackets.toNat_lt_size
  have hdrops : c.totalDrops.toNat = c.relayOverflowDrops.toNat + c.probeOverflowDrops.toNat +
      c.txPartialDrops.toNat + c.malformedProbes.toNat := by
    rw [UInt64.size] at hword
    rw [totalDrops, UInt64.toNat_add, UInt64.toNat_add, UInt64.toNat_add]
    omega
  omega

end Counters

variable {β σ : Type}

/-- A lane whose counters balance. In hand of the transmitter are `sending` frames, and in hand
of the monitor `unread` probes that were not looked at. -/
structure Lane.Accounts (lane : Lane β) (burstSize sending unread received : Nat) : Prop where
  relay_sound : lane.relayRing.Sound
  stats_sound : lane.statsRing.Sound
  balanced : ∃ total, lane.counters.Shows total ∧
    Counters.Balanced total burstSize received (sending + lane.relayRing.toList.length)
      (unread + lane.statsRing.toList.length)

namespace Lane

variable {lane lane' : Lane β} {w w' : World β σ} {burst : List β}
variable {burstSize sending unread received : Nat}

theorem Fresh.accounts (h : lane.Fresh) (burstSize : Nat) : lane.Accounts burstSize 0 0 0 := by
  refine ⟨h.sound .relay, h.sound .stats, 0, h.counters_eq ▸ Counters.shows_zero, ?_⟩
  have hrelay : lane.relayRing.toList = [] := h.toList_eq .relay
  have hstats : lane.statsRing.toList = [] := h.toList_eq .stats
  rw [hrelay, hstats]
  exact Counters.balanced_zero burstSize

namespace Accounts

/-- Between two steps that have nothing in hand the counters are a ledger. -/
theorem ledger (h : lane.Accounts burstSize 0 0 received) (hfits : received < UInt64.size) :
    lane.counters.Ledger burstSize lane.relayRing.length lane.statsRing.length := by
  obtain ⟨hrelay, hstats, total, hshows, hbalanced⟩ := h
  rw [Nat.zero_add, Nat.zero_add, ← hrelay.length_eq, ← hstats.length_eq] at hbalanced
  exact hshows.ledger hbalanced hfits

theorem rxPackets_eq (h : lane.Accounts burstSize sending unread received) :
    lane.counters.rxPackets = UInt64.ofNat received := by
  obtain ⟨_, _, total, hshows, hbalanced⟩ := h
  rw [← hbalanced.rxPackets_eq]
  exact hshows .rxPackets

/-- A burst that is passed on is counted as received. -/
theorem distributes [FrameBuffer β] (h : lane.Accounts burstSize sending unread received)
    (hd : lane.Distributes w burst lane' w') (hpos : burst ≠ []) (hle : burst.length ≤ burstSize) :
    lane'.Accounts burstSize sending unread (received + burst.length) := by
  obtain ⟨_, _, total, hshows, hbalanced⟩ := h
  have hcounted := (((((hshows.add 1 .rxBursts).add burst.length .rxPackets).add
    (lane.probesAdmitted burst).length .probesEnqueued).add
    (lane.probesRefused burst).length .probeOverflowDrops).add
    (lane.dataAdmitted burst).length .relayed).add
    (lane.dataRefused burst).length .relayOverflowDrops
  rw [← hd.counters_eq] at hcounted
  refine ⟨hd.relay_sound, hd.stats_sound, _, hcounted, ?_⟩
  have hperm := (lane.perm_admitted_refused burst).length_eq
  have hlen : 0 < burst.length := List.length_pos_of_ne_nil hpos
  rw [hd.relay_toList, hd.stats_toList]
  simp only [List.length_append] at hperm ⊢
  obtain ⟨hrx, hreceived, hrelayed, hprobes, hrxb, hrxp, htxb, htxp⟩ := hbalanced
  constructor <;> simp [Nat.mul_add] <;> omega

theorem takesRelay (h : lane.Accounts burstSize 0 unread received)
    (ht : lane.Takes .relay burst lane') :
    lane'.Accounts burstSize burst.length unread received := by
  obtain ⟨_, hstats, total, hshows, hbalanced⟩ := h
  have hlist : lane.relayRing.toList = burst ++ lane'.relayRing.toList := ht.toList_eq
  have hother : lane'.statsRing = lane.statsRing := ht.ring_eq .stats (by decide)
  refine ⟨ht.sound, hother ▸ hstats, total, ht.counters_eq ▸ hshows, ?_⟩
  rwa [hlist, List.length_append, Nat.zero_add, ← hother] at hbalanced

theorem takesStats (h : lane.Accounts burstSize sending 0 received)
    (ht : lane.Takes .stats burst lane') :
    lane'.Accounts burstSize sending burst.length received := by
  obtain ⟨hrelay, _, total, hshows, hbalanced⟩ := h
  have hlist : lane.statsRing.toList = burst ++ lane'.statsRing.toList := ht.toList_eq
  have hother : lane'.relayRing = lane.relayRing := ht.ring_eq .relay (by decide)
  refine ⟨hother ▸ hrelay, ht.sound, total, ht.counters_eq ▸ hshows, ?_⟩
  rwa [hlist, List.length_append, Nat.zero_add, ← hother] at hbalanced

/-- A burst in hand is sent or dropped. -/
theorem send [FrameBuffer β] (t : Transmitter) (w : World β σ)
    (h : lane.Accounts burstSize burst.length unread received) (hpos : burst ≠ [])
    (hle : burst.length ≤ burstSize) :
    (t.send lane w burst).2.1.Accounts burstSize 0 unread received := by
  obtain ⟨hrelay, hstats, total, hshows, hbalanced⟩ := h
  have haccepted := (w.left_transmit t.interface (t.rotation.queue t.queues) burst).2
  have hlen : 0 < burst.length := List.length_pos_of_ne_nil hpos
  have hcounted := ((hshows.add 1 .txBursts).add
    (w.transmit t.interface (t.rotation.queue t.queues) burst).1 .forwarded).add
    (burst.length - (w.transmit t.interface (t.rotation.queue t.queues) burst).1)
    .txPartialDrops
  rw [t.send_eq]
  refine ⟨hrelay, hstats, _, hcounted, ?_⟩
  obtain ⟨hrx, hreceived, hrelayed, hprobes, hrxb, hrxp, htxb, htxp⟩ := hbalanced
  constructor <;> simp [Lane.count, Nat.mul_add] <;> omega

/-- Reading probes in hand counts what they are. -/
theorem reads {n : Nat} {more : Counter → Nat}
    (h : lane.Accounts burstSize sending (n + unread) received) (hc : lane.Counts lane' more)
    (hr : Monitor.Reads n more) : lane'.Accounts burstSize sending unread received := by
  obtain ⟨hrelay, hstats, total, hshows, hbalanced⟩ := h
  refine ⟨hc.relayRing_eq ▸ hrelay, hc.statsRing_eq ▸ hstats, _, hc.shows _ hshows, ?_⟩
  have hread := hr.read_eq
  have hother : ∀ k, k ≠ .probesDecoded → k ≠ .malformedProbes → k ≠ .reorderedHops →
      k ≠ .publishFailures → (total + more) k = total k := by
    intro k hd hm hro hp
    rw [Pi.add_apply, hr.other_eq k hd hm hro hp, Nat.add_zero]
  rw [hc.relayRing_eq, hc.statsRing_eq]
  obtain ⟨hrx, hreceived, hrelayed, hprobes, hrxb, hrxp, htxb, htxp⟩ := hbalanced
  refine ⟨?_, ?_, ?_, ?_, ?_, ?_, ?_, ?_⟩
  case refine_4 =>
    rw [hother .probesEnqueued (by decide) (by decide) (by decide) (by decide), Pi.add_apply,
      Pi.add_apply]
    omega
  all_goals
    simpa only [hother .rxPackets, hother .relayed, hother .probesEnqueued, hother .rxBursts,
      hother .relayOverflowDrops, hother .probeOverflowDrops, hother .forwarded,
      hother .txPartialDrops, hother .txBursts, ne_eq, reduceCtorEq, not_false_eq_true,
      forall_const]

end Accounts

end Lane

/-! ## Polls by hand -/

/-- A poll of one of the stages of a pipeline. -/
inductive Poll where
  | receive
  | transmit
  | drain
  | sample
  | publishSample
  deriving Repr, DecidableEq

namespace Pipeline

/-- A pipeline whose stages have nothing in hand and whose counters balance. -/
structure Accounts (p : Pipeline β) (burstSize received : Nat) : Prop where
  lane_accounts : p.lane.Accounts burstSize 0 0 received
  receiver_burstSize : ∀ r, p.receiver = some r → r.burstSize = burstSize
  transmitter_burstSize : ∀ t, p.transmitter = some t → t.burstSize = burstSize

variable {p : Pipeline β} {burstSize received : Nat}

theorem Fresh.accounts {settings : Settings} {source destination : Binding}
    (h : p.Fresh settings source destination) : p.Accounts settings.burstSize 0 := by
  obtain ⟨r, hr, _, hburst⟩ := h.receiver_eq
  refine ⟨h.lane_fresh.accounts _, ?_, ?_⟩
  · intro r' hr'
    rw [hr, Option.some.injEq] at hr'
    exact hr' ▸ hburst
  · intro t ht
    rw [h.transmitter_eq, Option.some.injEq] at ht
    exact ht ▸ rfl

namespace Accounts

theorem sample (h : p.Accounts burstSize received) (w : World β σ) :
    (p.sample w).2.1.Accounts burstSize received := by
  rw [Pipeline.sample]
  cases p.monitor with
  | none => exact h
  | some m => exact ⟨h.lane_accounts, h.receiver_burstSize, h.transmitter_burstSize⟩

variable [FrameBuffer β]

theorem receive (h : p.Accounts burstSize received) (w : World β σ) :
    (p.receive w).2.1.Accounts burstSize (received + (p.receive w).1.getD 0) := by
  rw [Pipeline.receive]
  cases hr : p.receiver with
  | none => exact h
  | some r =>
      have hburst := h.receiver_burstSize r hr
      refine ⟨?_, ?_, h.transmitter_burstSize⟩
      · dsimp only [Option.getD_some]
        rw [r.poll_eq]
        split
        · exact h.lane_accounts
        · next hpos =>
          exact h.lane_accounts.distributes (Receiver.distribute_distributes _ _ _
            h.lane_accounts.relay_sound h.lane_accounts.stats_sound) hpos
            (hburst ▸ w.length_receive_le _ _ _)
      · rintro _ ⟨⟩
        exact (r.poll_alike w p.lane).burstSize_eq.trans hburst

theorem transmit (h : p.Accounts burstSize received) (w : World β σ) :
    (p.transmit w).2.1.Accounts burstSize received := by
  rw [Pipeline.transmit]
  cases ht : p.transmitter with
  | none => exact h
  | some t =>
      have hburst := h.transmitter_burstSize t ht
      have hloaded := h.lane_accounts.takesRelay (t.load_takes h.lane_accounts.relay_sound)
      dsimp only
      rw [t.poll_eq]
      split
      · next hnil =>
        rw [hnil, List.length_nil] at hloaded
        exact ⟨hloaded, h.receiver_burstSize, fun _ ht' => by cases ht'; exact hburst⟩
      · next hpos =>
        refine ⟨hloaded.send t w hpos (hburst ▸ t.length_load_le p.lane), h.receiver_burstSize, ?_⟩
        rintro _ ⟨⟩
        rw [t.send_eq]
        exact hburst

variable [Sink σ]

theorem drain (h : p.Accounts burstSize received) (w : World β σ) :
    (p.drain w).2.1.Accounts burstSize received := by
  rw [Pipeline.drain]
  cases hm : p.monitor with
  | none => exact h
  | some m =>
      obtain ⟨more, hreads, hcounts, _⟩ := m.drain_counts p.lane w
      have hloaded := h.lane_accounts.takesStats (m.load_takes h.lane_accounts.stats_sound)
      exact ⟨hloaded.reads hcounts hreads, h.receiver_burstSize, h.transmitter_burstSize⟩

theorem publishSample (h : p.Accounts burstSize received) (w : World β σ) :
    (p.publishSample w).2.1.Accounts burstSize received := by
  rw [Pipeline.publishSample]
  cases hm : p.monitor with
  | none => exact h
  | some m =>
      obtain ⟨more, hreads, hcounts, _⟩ := m.publishSample_counts p.lane w
      have hlane := h.lane_accounts
      rw [← Nat.zero_add 0] at hlane
      exact ⟨hlane.reads hcounts hreads, h.receiver_burstSize, h.transmitter_burstSize⟩

end Accounts

variable [FrameBuffer β] [Sink σ]

/-- Poll a stage. The answer is the number of frames received. -/
def perform (p : Pipeline β) (w : World β σ) : Poll → Nat × Pipeline β
  | .receive =>
    let (n, p, _) := p.receive w
    (n.getD 0, p)
  | .transmit => (0, (p.transmit w).2.1)
  | .drain => (0, (p.drain w).2.1)
  | .sample => (0, (p.sample w).2.1)
  | .publishSample => (0, (p.publishSample w).2.1)

/-- Poll stages in order, whatever the world is like at each poll. The answer is the number of
frames received. -/
def performAll (p : Pipeline β) : List (Poll × World β σ) → Nat × Pipeline β
  | [] => (0, p)
  | (poll, w) :: polls =>
    let (n, p) := p.perform w poll
    let (m, p) := p.performAll polls
    (n + m, p)

/-- Every poll keeps the balance. -/
theorem Accounts.perform (h : p.Accounts burstSize received) (w : World β σ) (poll : Poll) :
    (p.perform w poll).2.Accounts burstSize (received + (p.perform w poll).1) := by
  cases poll with
  | receive => exact h.receive w
  | transmit => exact h.transmit w
  | drain => exact h.drain w
  | sample => exact h.sample w
  | publishSample => exact h.publishSample w

theorem Accounts.performAll (h : p.Accounts burstSize received) (polls : List (Poll × World β σ)) :
    (p.performAll polls).2.Accounts burstSize (received + (p.performAll polls).1) := by
  induction polls generalizing p received with
  | nil => exact h
  | cons first polls ih =>
      have hrest := ih (h.perform first.2 first.1)
      rw [Nat.add_assoc] at hrest
      exact hrest

end Pipeline

end EtherRelay
