import EtherRelay.Proofs.Relay.Station

/-!
# Interfaces and contexts count the same traffic

An interface counts the frames that arrive and those that it transmits. A context counts the frames
that it takes and those that it forwards. Contexts may share interfaces, and even their queues, in
any way. In every station that is reached from new interfaces both accounts agree: what an interface
transmitted was forwarded by the contexts that end there, and what arrived was taken by the contexts
that begin there or still waits.

All counters are words, so the sums of them are compared as words.
-/

namespace EtherRelay

variable {β σ : Type}

/-! ## Tallies -/

namespace Context

/-- What the contexts with one end at the interface `j` counted, all together. -/
def tally (place : Context β → Binding) (k : Counter) (j : Nat)
    (contexts : List (Context β)) : Nat :=
  ((contexts.filter fun c => (place c).interface = j).map fun c =>
    (c.lane.counters.get k).toNat).sum

variable (place : Context β → Binding) (k : Counter) (j : Nat)

theorem tally_cons (c : Context β) (contexts : List (Context β)) :
    tally place k j (c :: contexts) =
      (if (place c).interface = j then (c.lane.counters.get k).toNat else 0) +
        tally place k j contexts := by
  by_cases hj : (place c).interface = j
  · simp [tally, hj]
  · simp [tally, hj]

/-- A context that counted nothing yet adds nothing. -/
theorem tally_append_new (contexts : List (Context β)) {c : Context β}
    (h : c.lane.counters = ({} : Counters)) :
    tally place k j (contexts ++ [c]) = tally place k j contexts := by
  have hzero : (c.lane.counters.get k).toNat = 0 := by
    rw [h]
    cases k <;> rfl
  induction contexts with
  | nil =>
      rw [List.nil_append, tally_cons, hzero, ite_self]
      rfl
  | cons d contexts ih => rw [List.cons_append, tally_cons, ih, tally_cons]

variable {place}

theorem tally_rests (hplace : ∀ c c' : Context β, c.Follows c' → place c' = place c)
    {contexts contexts' : List (Context β)} (h : List.Forall₂ Rests contexts contexts') :
    tally place k j contexts' = tally place k j contexts := by
  induction h with
  | nil => rfl
  | cons hc _ ih => rw [tally_cons, tally_cons, ih, hplace _ _ hc.toFollows, hc.lane_eq]

/-- One context counts `n` more. -/
theorem ofNat_tally_set {contexts : List (Context β)} {index n : Nat} {c c' : Context β}
    (hc : contexts[index]? = some c) (hplace : place c' = place c)
    (hcount : c'.lane.counters.get k = c.lane.counters.get k + UInt64.ofNat n) :
    UInt64.ofNat (tally place k j (contexts.set index c')) =
      UInt64.ofNat (tally place k j contexts) +
        UInt64.ofNat (if j = (place c).interface then n else 0) := by
  induction contexts generalizing index with
  | nil => cases hc
  | cons d contexts ih =>
      cases index with
      | zero =>
          cases hc
          rw [List.set_cons_zero, tally_cons, tally_cons, hplace, UInt64.ofNat_add,
            UInt64.ofNat_add, UInt64.add_assoc, UInt64.add_comm (UInt64.ofNat (tally _ _ _ _)),
            ← UInt64.add_assoc]
          congr 1
          by_cases hj : (place c).interface = j
          · rw [if_pos hj, if_pos hj, if_pos hj.symm, UInt64.ofNat_toNat, UInt64.ofNat_toNat,
              hcount]
          · rw [if_neg hj, if_neg hj, if_neg (Ne.symm hj)]
            exact (UInt64.add_zero _).symm
      | succ index =>
          rw [List.set_cons_succ, tally_cons, tally_cons, UInt64.ofNat_add, UInt64.ofNat_add,
            ih (List.getElem?_cons_succ.symm.trans hc), UInt64.add_assoc]

end Context

namespace Station

/-- The frames that were forwarded to an interface, by the contexts that end there. -/
def forwardedTo (s : Station β σ) (j : Nat) : Nat :=
  Context.tally Context.destination .forwarded j s.relay.contexts

/-- The frames that were taken from an interface, by the contexts that begin there. -/
def receivedFrom (s : Station β σ) (j : Nat) : Nat :=
  Context.tally Context.source .rxPackets j s.relay.contexts

/-- Each interface counted what the contexts took from it and left there, and what they forwarded
to it. -/
structure Reconciled (s : Station β σ) : Prop where
  txPackets_eq : ∀ j, s.world.txPackets j = UInt64.ofNat (s.forwardedTo j)
  rxPackets_eq : ∀ j,
    s.world.rxPackets j = UInt64.ofNat (s.receivedFrom j) + UInt64.ofNat (s.world.backlog j)

namespace Reconciled

variable {s s' : Station β σ}

/-- Nothing was counted and nothing moved. -/
theorem of_eq (h : s.Reconciled) (hforwarded : ∀ j, s'.forwardedTo j = s.forwardedTo j)
    (hreceived : ∀ j, s'.receivedFrom j = s.receivedFrom j) (hworld : s'.world = s.world) :
    s'.Reconciled where
  txPackets_eq j := by rw [hworld, hforwarded, h.txPackets_eq]
  rxPackets_eq j := by rw [hworld, hreceived, h.rxPackets_eq]

theorem outcome [Sink σ] (h : s.Reconciled) (houtcome : Outcome s s') : s'.Reconciled := by
  cases houtcome with
  | rests index hcontexts hworld =>
      have hforwarded : ∀ j, s'.forwardedTo j = s.forwardedTo j := fun j =>
        Context.tally_rests _ j (fun _ _ hc => hc.destination_eq) hcontexts
      have hreceived : ∀ j, s'.receivedFrom j = s.receivedFrom j := fun j =>
        Context.tally_rests _ j (fun _ _ hc => hc.source_eq) hcontexts
      refine ⟨?_, ?_⟩ <;> intro j
      · rw [hworld.txPackets_eq_of_none, h.txPackets_eq, hforwarded]
      · have hbacklog := hworld.backlog_eq j
        rw [ite_self, Nat.add_zero] at hbacklog
        rw [hworld.rxPackets_eq, h.rxPackets_eq, hreceived, hbacklog]
  | arrives hcontexts hworld =>
      refine ⟨?_, ?_⟩ <;> intro j
      · rw [hworld.txPackets_eq, h.txPackets_eq, forwardedTo, ← hcontexts, forwardedTo]
      · rw [hworld.rxPackets_eq, h.rxPackets_eq, hworld.backlog_eq, receivedFrom, ← hcontexts,
          receivedFrom, UInt64.ofNat_add, UInt64.add_assoc]
  | @acts k c c' hc hcontexts hfollows received sent hflows =>
      refine ⟨?_, ?_⟩ <;> intro j
      · rw [hflows.txPackets_eq, h.txPackets_eq, forwardedTo, forwardedTo, hcontexts,
          Context.ofNat_tally_set _ j hc hfollows.destination_eq hflows.get_forwarded]
      · -- The frames that the context took do not wait any more.
        rw [hflows.rxPackets_eq, h.rxPackets_eq, receivedFrom, receivedFrom, hcontexts,
          Context.ofNat_tally_set _ j hc hfollows.source_eq hflows.get_rxPackets,
          ← hflows.backlog_eq j, UInt64.ofNat_add, UInt64.add_assoc,
          UInt64.add_comm (UInt64.ofNat (s'.world.backlog j))]

end Reconciled

section

variable [FrameBuffer β] [Sink σ] {start : World β σ} {s : Station β σ}

theorem Reachable.reconciled (h : Reachable start s) (hrx : ∀ j, start.rxPackets j = 0)
    (htx : ∀ j, start.txPackets j = 0) (hbacklog : ∀ j, start.backlog j = 0) : s.Reconciled := by
  induction h with
  | create h =>
      have hnone := Relay.contexts_create h
      refine ⟨?_, ?_⟩ <;> intro j
      · rw [forwardedTo, hnone]
        exact htx j
      · rw [receivedFrom, hnone]
        dsimp only
        rw [hbacklog]
        exact hrx j
  | @add s _ _ id source destination ih =>
      rcases s.relay.contexts_add id source destination s.world with
        hsame | ⟨c, hadded, _, _, hcounters, _⟩
      · refine ih.of_eq ?_ ?_ rfl <;> intro j
        · exact congrArg (Context.tally _ _ j) hsame
        · exact congrArg (Context.tally _ _ j) hsame
      · refine ih.of_eq ?_ ?_ rfl <;> intro j
        · exact (congrArg (Context.tally _ _ j) hadded).trans
            (Context.tally_append_new _ _ j _ hcounters)
        · exact (congrArg (Context.tally _ _ j) hadded).trans
            (Context.tally_append_new _ _ j _ hcounters)
  | launch _ ih => exact ih.outcome (outcome_launch _)
  | move hreach move ih => exact ih.outcome (outcome_step hreach.orderly.wired move)

/-- The accounts of the interfaces and of the contexts agree in every station that is reached from
new interfaces. They agree as words: exactly, until a sum exceeds what a word holds. -/
theorem Reachable.counters_reconcile (h : Reachable start s) (hrx : ∀ j, start.rxPackets j = 0)
    (htx : ∀ j, start.txPackets j = 0) (hbacklog : ∀ j, start.backlog j = 0) (j : Nat) :
    (s.world.txPackets j).toNat = s.forwardedTo j % 2 ^ 64 ∧
      (s.world.rxPackets j).toNat = (s.receivedFrom j + s.world.backlog j) % 2 ^ 64 := by
  have hreconciled := h.reconciled hrx htx hbacklog
  refine ⟨?_, ?_⟩
  · rw [hreconciled.txPackets_eq, UInt64.toNat_ofNat']
  · rw [hreconciled.rxPackets_eq, ← UInt64.ofNat_add, UInt64.toNat_ofNat']

end

/-- Two new interfaces. -/
def freshPorts : World Buffer NullSink where
  interfaces := [.create ⟨0, "left"⟩ 1 1, .create ⟨1, "right"⟩ 1 1]
  sink := {}
  clock := { hz := Clock.monotonicHz }
  pool := .create 16

/-- The statement for two contexts that poll the same queue. Of four frames, one context takes and
forwards two, and the other takes one. -/
theorem counters_reconcile_sharedQueue :
    ∃ s, Reachable freshPorts s ∧ s.forwardedTo 1 = 2 ∧ s.receivedFrom 0 = 3 ∧
      s.world.backlog 0 = 1 ∧ (s.world.txPackets 1).toNat = s.forwardedTo 1 % 2 ^ 64 ∧
      (s.world.rxPackets 0).toNat = (s.receivedFrom 0 + s.world.backlog 0) % 2 ^ 64 := by
  let left : Binding := { interface := 0, queues := .single 0 }
  let right : Binding := { interface := 1, queues := .single 0 }
  let frame : Buffer := .ofFrame [1, 2, 3]
  have hcreated : Reachable freshPorts
      { relay := { settings := { burstSize := 2, ringCapacity := 4, statsRingCapacity := 2 } }
        world := freshPorts } := .create (Relay.create_eq_ok rfl)
  have hadded := (hcreated.add rfl 1 left right).add rfl 2 left right
  have hshared := (((hadded.launch.move (.inject 0 0 [frame, frame])).run
    [.act 0 .receive, .act 0 .receive]).move (.inject 0 0 [frame])).run
    [.act 1 .receive, .act 1 .receive, .act 0 .transmit, .act 0 .transmit, .inject 0 0 [frame],
      .act 0 .transmit]
  refine ⟨_, hshared, by decide +kernel, by decide +kernel, by decide +kernel, ?_⟩
  have hzero : (∀ j, freshPorts.rxPackets j = 0) ∧ (∀ j, freshPorts.txPackets j = 0) ∧
      ∀ j, freshPorts.backlog j = 0 := by
    refine ⟨?_, ?_, ?_⟩ <;> rintro (_ | _ | j) <;> rfl
  have hright := hshared.counters_reconcile hzero.1 hzero.2.1 hzero.2.2 1
  have hleft := hshared.counters_reconcile hzero.1 hzero.2.1 hzero.2.2 0
  exact ⟨hright.1, hleft.2⟩

end Station

end EtherRelay
