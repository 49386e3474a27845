import EtherRelay.Forwarding.Receiver
import EtherRelay.Proofs.Counters.Totals
import EtherRelay.Proofs.Ring.Contents
import EtherRelay.Proofs.World.Frees

/-!
# Passing frames on to the rings

A receiver admits probes to the stats ring one by one and the other frames to the relay ring
as one burst. Either way the ring admits some frames and the others are freed, and exactly two
counters say how many there were of each. `Lane.Admits` describes such a step for either ring,
and the statements about the receiver say which frames are admitted.
-/

namespace EtherRelay

/-- The counter of the frames that a ring admitted. -/
def RingRole.admittedCounter : RingRole → Counter
  | .relay => .relayed
  | .stats => .probesEnqueued

/-- The counter of the frames that were freed since a ring was full. -/
def RingRole.droppedCounter : RingRole → Counter
  | .relay => .relayOverflowDrops
  | .stats => .probeOverflowDrops

/-- The ring of a lane in one of the two roles. -/
def Lane.ring {β : Type} (lane : Lane β) : RingRole → Ring β
  | .relay => lane.relayRing
  | .stats => lane.statsRing

variable {β σ : Type} [FrameBuffer β]

/-- A ring of the lane admits `admitted`; `refused` is freed. Both are counted, and nothing else
about the lane changes. -/
structure Lane.Admits (role : RingRole) (lane : Lane β) (w : World β σ)
    (admitted refused : List β) (lane' : Lane β) (w' : World β σ) : Prop where
  context_eq : lane'.context = lane.context
  ring_eq : ∀ other, other ≠ role → lane'.ring other = lane.ring other
  alike : (lane.ring role).Alike (lane'.ring role)
  sound : (lane'.ring role).Sound
  toList_eq : (lane'.ring role).toList = (lane.ring role).toList ++ admitted
  counters_eq : lane'.counters =
    (lane.counters.add admitted.length role.admittedCounter).add refused.length
      role.droppedCounter
  frees : w.Frees w' refused

namespace Lane.Admits

variable {role : RingRole} {lane lane' lane'' : Lane β} {w w' w'' : World β σ}

theorem refl (h : (lane.ring role).Sound) : lane.Admits role w [] [] lane w where
  context_eq := rfl
  ring_eq _ _ := rfl
  alike := .refl _
  sound := h
  toList_eq := (List.append_nil _).symm
  counters_eq := by simp
  frees := .refl w

theorem trans {admitted refused admitted' refused' : List β}
    (h : lane.Admits role w admitted refused lane' w')
    (h' : lane'.Admits role w' admitted' refused' lane'' w'') :
    lane.Admits role w (admitted ++ admitted') (refused ++ refused') lane'' w'' where
  context_eq := h'.context_eq.trans h.context_eq
  ring_eq other ho := (h'.ring_eq other ho).trans (h.ring_eq other ho)
  alike := h.alike.trans h'.alike
  sound := h'.sound
  toList_eq := by rw [h'.toList_eq, h.toList_eq, List.append_assoc]
  counters_eq := by
    rw [h'.counters_eq, h.counters_eq, List.length_append, List.length_append,
      Counters.add_right_comm _ _ admitted'.length, Counters.add_add, Counters.add_add]
  frees := h.frees.trans h'.frees

end Lane.Admits

namespace Receiver

variable (r : Receiver) {lane : Lane β} (w : World β σ)

/-- Two states of one receiver: only what it reported and whose turn it is may differ. -/
structure Alike (r r' : Receiver) : Prop where
  interface_eq : r'.interface = r.interface
  queues_eq : r'.queues = r.queues
  burstSize_eq : r'.burstSize = r.burstSize

theorem Alike.refl : r.Alike r := ⟨rfl, rfl, rfl⟩

theorem Alike.trans {r r' r'' : Receiver} (h : r.Alike r') (h' : r'.Alike r'') : r.Alike r'' :=
  ⟨h'.interface_eq.trans h.interface_eq, h'.queues_eq.trans h.queues_eq,
    h'.burstSize_eq.trans h.burstSize_eq⟩

/-- A probe is admitted if the stats ring has room for it. -/
theorem admitProbe_admits (h : lane.statsRing.Sound) (probe : β) :
    lane.Admits .stats w ([probe].take lane.statsRing.freeSlots)
      ([probe].drop lane.statsRing.freeSlots) (r.admitProbe lane w probe).2.1
      (r.admitProbe lane w probe).2.2 := by
  have halike := Ring.Alike.enqueue lane.statsRing probe
  have hother : ∀ ring counters other, other ≠ RingRole.stats →
      { lane with statsRing := ring, counters := counters }.ring other = lane.ring other := by
    intro ring counters other ho
    cases other with
    | relay => rfl
    | stats => exact absurd rfl ho
  by_cases hlt : lane.statsRing.toList.length < lane.statsRing.room
  · obtain ⟨_, hsound, hlist⟩ := h.enqueue_of_lt hlt probe
    rw [h.enqueue_eq_push hlt] at halike hsound hlist
    have hfree : [probe].length ≤ lane.statsRing.freeSlots := Nat.le_sub_of_add_le' hlt
    rw [List.take_of_length_le hfree, List.drop_of_length_le hfree, admitProbe,
      h.enqueue_eq_push hlt]
    exact ⟨rfl, hother _ _, halike, hsound, hlist, by simp [Lane.count]; rfl, .refl w⟩
  · have hfull := Nat.le_of_not_lt hlt
    obtain ⟨_, hsound, hlist⟩ := h.enqueue_of_full hfull probe
    rw [h.enqueue_eq_refresh hfull] at halike hsound hlist
    have hfree : lane.statsRing.freeSlots = 0 := Nat.sub_eq_zero_of_le hfull
    have hlist' := hlist.trans (List.append_nil _).symm
    rw [hfree, List.take_zero, List.drop_zero, admitProbe, h.enqueue_eq_refresh hfull]
    dsimp only
    split
    · exact ⟨rfl, hother _ _, halike, hsound, hlist', by simp [Lane.count]; rfl, .release w _⟩
    · exact ⟨rfl, hother _ _, halike, hsound, hlist', by simp [Lane.count]; rfl,
        (World.Frees.release w [probe]).trans (.note _ _)⟩

/-- The first probes of a burst are admitted, as many as the stats ring has room for. -/
theorem admitProbes_admits (probes : List β) (h : lane.statsRing.Sound) :
    lane.Admits .stats w (probes.take lane.statsRing.freeSlots)
      (probes.drop lane.statsRing.freeSlots) (r.admitProbes lane w probes).2.1
      (r.admitProbes lane w probes).2.2 := by
  induction probes generalizing r lane w with
  | nil =>
      rw [List.take_nil, List.drop_nil]
      exact .refl h
  | cons probe probes ih =>
      have hfirst := r.admitProbe_admits w h probe
      have hrest := ih (r.admitProbe lane w probe).1 (r.admitProbe lane w probe).2.2
        hfirst.sound
      have hboth := hfirst.trans hrest
      have hfree : (r.admitProbe lane w probe).2.1.statsRing.freeSlots =
          lane.statsRing.freeSlots - 1 := by
        have hlist := congrArg List.length hfirst.toList_eq
        have hroom := hfirst.alike.room_eq
        simp only [Lane.ring, List.length_append, List.length_take,
          List.length_singleton] at hlist hroom
        rw [Ring.freeSlots, hroom, hlist, Ring.freeSlots]
        omega
      rw [hfree] at hboth
      cases hn : lane.statsRing.freeSlots with
      | zero =>
          rw [hn] at hboth
          exact hboth
      | succ n =>
          rw [hn, List.take_succ_cons, List.take_nil, List.drop_succ_cons, List.drop_nil] at hboth
          exact hboth

theorem admitProbe_alike (lane : Lane β) (probe : β) :
    r.Alike (r.admitProbe lane w probe).1 := by
  rw [admitProbe]
  split
  · exact .refl r
  · dsimp only
    split
    · exact .refl r
    · exact ⟨rfl, rfl, rfl⟩

theorem admitProbes_alike (lane : Lane β) (probes : List β) :
    r.Alike (r.admitProbes lane w probes).1 := by
  induction probes generalizing r lane w with
  | nil => exact .refl r
  | cons probe probes ih => exact (r.admitProbe_alike w lane probe).trans (ih _ _ _)

/-- A burst is admitted whole if the relay ring has room for all of it, and freed otherwise. -/
theorem admitData_admits (h : lane.relayRing.Sound) (data : List β) :
    lane.Admits .relay w (if data.length ≤ lane.relayRing.freeSlots then data else [])
      (if data.length ≤ lane.relayRing.freeSlots then [] else data)
      (r.admitData lane w data).2.1 (r.admitData lane w data).2.2 := by
  have halike := Ring.Alike.enqueueBulk lane.relayRing data
  have hroom := h.length_le_room
  have hother : ∀ ring counters other, other ≠ RingRole.relay →
      { lane with relayRing := ring, counters := counters }.ring other = lane.ring other := by
    intro ring counters other ho
    cases other with
    | relay => exact absurd rfl ho
    | stats => rfl
  by_cases hfit : data.length ≤ lane.relayRing.freeSlots
  · have hle : lane.relayRing.toList.length + data.length ≤ lane.relayRing.room := by
      rw [Ring.freeSlots] at hfit
      omega
    obtain ⟨_, _, hsound, hlist⟩ := h.enqueueBulk_of_le hle
    rw [h.enqueueBulk_eq_push hle] at halike hsound hlist
    rw [if_pos hfit, if_pos hfit, admitData, h.enqueueBulk_eq_push hle]
    exact ⟨rfl, hother _ _, halike, hsound, hlist, by simp [Lane.count]; rfl, .refl w⟩
  · have hover : lane.relayRing.room < lane.relayRing.toList.length + data.length := by
      rw [Ring.freeSlots] at hfit
      omega
    obtain ⟨_, _, hsound, hlist⟩ := h.enqueueBulk_of_lt hover
    rw [h.enqueueBulk_eq_refresh hover] at halike hsound hlist
    have hlist' := hlist.trans (List.append_nil _).symm
    rw [if_neg hfit, if_neg hfit, admitData, h.enqueueBulk_eq_refresh hover]
    dsimp only
    split
    · exact ⟨rfl, hother _ _, halike, hsound, hlist', by simp [Lane.count]; rfl, .release w _⟩
    · refine ⟨rfl, hother _ _, halike, hsound, hlist', by simp [Lane.count]; rfl, ?_⟩
      have hfrees := (World.Frees.release w data).trans (.note (w.release data)
        (.relayRingFull lane.context (lane.relayRing.refreshTail data.length).name
          ⟨data.length, lane.relayRing.room - lane.relayRing.toList.length⟩))
      rwa [List.append_nil] at hfrees

theorem admitData_alike (lane : Lane β) (data : List β) :
    r.Alike (r.admitData lane w data).1 := by
  rw [admitData]
  split
  · exact .refl r
  · dsimp only
    split
    · exact .refl r
    · exact ⟨rfl, rfl, rfl⟩

end Receiver

/-! ## A whole burst -/

namespace Lane

variable (lane : Lane β) (burst : List β)

/-- The probes of a burst for which the stats ring has room. -/
def probesAdmitted : List β :=
  (burst.filter Receiver.isProbe).take lane.statsRing.freeSlots

def probesRefused : List β :=
  (burst.filter Receiver.isProbe).drop lane.statsRing.freeSlots

/-- The frames of a burst that are bound for the relay ring. -/
def dataOf : List β := burst.filter fun b => !Receiver.isProbe b

/-- The data frames of a burst, if the relay ring has room for all of them. -/
def dataAdmitted : List β :=
  if (dataOf burst).length ≤ lane.relayRing.freeSlots then dataOf burst else []

def dataRefused : List β :=
  if (dataOf burst).length ≤ lane.relayRing.freeSlots then [] else dataOf burst

/-- A received burst is passed on: each frame is admitted to its ring or freed. -/
structure Passes (lane : Lane β) (w : World β σ) (burst : List β) (lane' : Lane β)
    (w' : World β σ) : Prop where
  context_eq : lane'.context = lane.context
  relay_alike : lane.relayRing.Alike lane'.relayRing
  relay_sound : lane'.relayRing.Sound
  relay_toList : lane'.relayRing.toList = lane.relayRing.toList ++ lane.dataAdmitted burst
  stats_alike : lane.statsRing.Alike lane'.statsRing
  stats_sound : lane'.statsRing.Sound
  stats_toList : lane'.statsRing.toList = lane.statsRing.toList ++ lane.probesAdmitted burst
  frees : w.Frees w' (lane.probesRefused burst ++ lane.dataRefused burst)

/-- What became of each frame is counted. -/
structure Distributes (lane : Lane β) (w : World β σ) (burst : List β) (lane' : Lane β)
    (w' : World β σ) : Prop extends lane.Passes w burst lane' w' where
  counters_eq : lane'.counters =
    (((((lane.counters.add 1 .rxBursts).add burst.length .rxPackets).add
      (lane.probesAdmitted burst).length .probesEnqueued).add
      (lane.probesRefused burst).length .probeOverflowDrops).add
      (lane.dataAdmitted burst).length .relayed).add
      (lane.dataRefused burst).length .relayOverflowDrops

theorem dataAdmitted_sublist : (lane.dataAdmitted burst).Sublist (dataOf burst) := by
  rw [dataAdmitted]
  split
  · exact .refl _
  · exact List.nil_sublist _

/-- Admitted and refused frames are the burst again, in some order. -/
theorem perm_admitted_refused :
    (lane.dataAdmitted burst ++ lane.probesAdmitted burst ++
      (lane.probesRefused burst ++ lane.dataRefused burst)).Perm burst := by
  have hprobes : lane.probesAdmitted burst ++ lane.probesRefused burst =
      burst.filter Receiver.isProbe := List.take_append_drop _ _
  have hdata : lane.dataAdmitted burst ++ lane.dataRefused burst = dataOf burst := by
    rw [dataAdmitted, dataRefused]
    split
    · rw [List.append_nil]
    · rw [List.nil_append]
  have hsplit : (burst.filter Receiver.isProbe ++ dataOf burst).Perm burst :=
    List.filter_append_perm _ _
  calc
    _ = lane.dataAdmitted burst ++ (lane.probesAdmitted burst ++ lane.probesRefused burst ++
          lane.dataRefused burst) := by simp only [List.append_assoc]
    _ = lane.dataAdmitted burst ++ (burst.filter Receiver.isProbe ++ lane.dataRefused burst) := by
          rw [hprobes]
    List.Perm _ (lane.dataAdmitted burst ++ (lane.dataRefused burst ++
          burst.filter Receiver.isProbe)) := List.Perm.append_left _ List.perm_append_comm
    _ = dataOf burst ++ burst.filter Receiver.isProbe := by rw [← List.append_assoc, hdata]
    List.Perm _ (burst.filter Receiver.isProbe ++ dataOf burst) := List.perm_append_comm
    List.Perm _ burst := hsplit

end Lane

namespace Receiver

variable (r : Receiver) {lane : Lane β} (w : World β σ) (burst : List β)

theorem distribute_distributes (hrelay : lane.relayRing.Sound) (hstats : lane.statsRing.Sound) :
    lane.Distributes w burst (r.distribute lane w burst).2.1 (r.distribute lane w burst).2.2 := by
  let counted := (lane.count 1 .rxBursts).count burst.length .rxPackets
  have hprobes : counted.Admits .stats w _ _ _ _ :=
    r.admitProbes_admits w (burst.filter isProbe) hstats
  have hring : (r.admitProbes counted w (burst.filter isProbe)).2.1.relayRing =
      lane.relayRing := hprobes.ring_eq .relay (by decide)
  have hdata := (r.admitProbes counted w (burst.filter isProbe)).1.admitData_admits
    (r.admitProbes counted w (burst.filter isProbe)).2.2 (hring ▸ hrelay) (Lane.dataOf burst)
  have hkept : (r.distribute lane w burst).2.1.statsRing =
      (r.admitProbes counted w (burst.filter isProbe)).2.1.statsRing :=
    hdata.ring_eq .stats (by decide)
  rw [hring] at hdata
  refine
    { context_eq := hdata.context_eq.trans hprobes.context_eq
      relay_alike := hring ▸ hdata.alike
      relay_sound := hdata.sound
      relay_toList := ?_
      stats_alike := ?_
      stats_sound := ?_
      stats_toList := ?_
      counters_eq := ?_
      frees := hprobes.frees.trans hdata.frees }
  · exact hdata.toList_eq.trans (congrArg (·.toList ++ _) hring)
  · rw [hkept]
    exact hprobes.alike
  · rw [hkept]
    exact hprobes.sound
  · rw [hkept]
    exact hprobes.toList_eq
  · exact hdata.counters_eq.trans (by rw [hprobes.counters_eq]; rfl)

theorem distribute_alike (lane : Lane β) : r.Alike (r.distribute lane w burst).1 :=
  (r.admitProbes_alike w _ _).trans (admitData_alike _ _ _ _)

theorem chooseQueue_alike : r.Alike r.chooseQueue.2 := by
  rw [chooseQueue]
  split <;> exact ⟨rfl, rfl, rfl⟩

/-- A poll receives from the queue whose turn it is, and passes on what there was. -/
theorem poll_eq (lane : Lane β) :
    r.poll lane w =
      if (w.receive r.interface r.chooseQueue.1 r.burstSize).1 = [] then
        (0, r.chooseQueue.2, lane, (w.receive r.interface r.chooseQueue.1 r.burstSize).2)
      else
        ((w.receive r.interface r.chooseQueue.1 r.burstSize).1.length,
          r.chooseQueue.2.distribute lane (w.receive r.interface r.chooseQueue.1 r.burstSize).2
            (w.receive r.interface r.chooseQueue.1 r.burstSize).1) := by
  have h := r.chooseQueue_alike
  rw [poll]
  simp only [h.interface_eq, h.burstSize_eq, List.isEmpty_iff]

/-- Nothing happens to the rings if nothing was received. -/
theorem poll_passes (hrelay : lane.relayRing.Sound) (hstats : lane.statsRing.Sound) :
    lane.Passes (w.receive r.interface r.chooseQueue.1 r.burstSize).2
      (w.receive r.interface r.chooseQueue.1 r.burstSize).1 (r.poll lane w).2.2.1
      (r.poll lane w).2.2.2 := by
  rw [poll_eq]
  split
  · next hnil =>
    rw [hnil]
    exact ⟨rfl, .refl _, hrelay, by simp [Lane.dataAdmitted, Lane.dataOf], .refl _, hstats,
      by simp [Lane.probesAdmitted],
      by simpa [Lane.probesRefused, Lane.dataRefused, Lane.dataOf] using .refl _⟩
  · exact (distribute_distributes _ _ _ hrelay hstats).toPasses

theorem poll_alike (lane : Lane β) : r.Alike (r.poll lane w).2.1 := by
  rw [poll_eq]
  split
  · exact r.chooseQueue_alike
  · exact (r.chooseQueue_alike).trans (distribute_alike _ _ _ _)

end Receiver

end EtherRelay
