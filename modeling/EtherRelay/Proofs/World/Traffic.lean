import EtherRelay.Proofs.World.Conservation

/-!
# What interfaces count of their traffic

An interface counts the frames that arrive and those that it transmits. Frames that arrived wait
in one of its receive queues until somebody takes them; `World.backlog` is how many there are.
`World.Hauls` says of a step that it takes so many frames from one interface and transmits so many
on another, which may be the same one, as the interfaces of the world see it.
-/

namespace EtherRelay

variable {β σ : Type}

namespace Interface

/-- The frames that wait in all receive queues. -/
def backlog (i : Interface β) : Nat := (i.rxQueues.map List.length).sum

variable (i : Interface β) (queue : QueueId)

theorem backlog_receive (max : Nat) :
    (i.receive queue max).2.backlog + (i.receive queue max).1.length = i.backlog := by
  cases hw : i.rxQueues[queue.toNat]? with
  | none =>
      have hset : (i.receive queue max).2.rxQueues = i.rxQueues :=
        List.set_eq_of_length_le (List.getElem?_eq_none_iff.mp hw)
      have hnil : (i.receive queue max).1 = [] := by
        rw [receive, i.pending_eq_nil hw, List.take_nil]
      rw [backlog, hset, hnil, List.length_nil, Nat.add_zero, backlog]
  | some waiting =>
      have hsum := sum_map_set hw List.length (waiting.drop max)
      have hsplit := congrArg List.length (List.take_append_drop max waiting)
      rw [List.length_append] at hsplit
      rw [backlog, receive, i.pending_eq hw, backlog]
      dsimp only
      omega

variable [FrameBuffer β] (registers : Hardware.Registers) (burst : List β)

/-- The frames that are accepted wait, and are counted as received. -/
theorem backlog_inject :
    (i.inject registers queue burst).interface.backlog =
        i.backlog + (i.inject registers queue burst).accepted ∧
      (i.inject registers queue burst).interface.counters.rxPackets =
        i.counters.rxPackets + UInt64.ofNat (i.inject registers queue burst).accepted ∧
      (i.inject registers queue burst).interface.counters.txPackets = i.counters.txPackets ∧
      (i.inject registers queue burst).interface.id = i.id := by
  cases hw : i.rxQueues[queue.toNat]? with
  | none => simp [inject, hw, backlog]
  | some waiting =>
      have hsum := sum_map_set hw List.length
        (waiting ++ burst.take (i.rxDepth - waiting.length))
      rw [List.length_append] at hsum
      simp only [inject, hw, backlog, and_self, and_true]
      omega

/-- What is accepted is counted as transmitted. -/
theorem txPackets_transmit (ns : Nat) :
    (i.transmit registers ns queue burst).interface.counters.txPackets =
        i.counters.txPackets + UInt64.ofNat (i.transmit registers ns queue burst).accepted ∧
      (i.transmit registers ns queue burst).interface.counters.rxPackets = i.counters.rxPackets ∧
      (i.transmit registers ns queue burst).interface.backlog = i.backlog ∧
      (i.transmit registers ns queue burst).interface.id = i.id := by
  refine ⟨?_, ?_, ?_, ?_⟩
  · rw [transmit]
    split
    · exact (UInt64.add_zero _).symm
    · rfl
  · rw [transmit]
    split <;> rfl
  · rw [backlog, i.rxQueues_transmit, backlog]
  · rw [transmit]
    split <;> rfl

end Interface

namespace World

/-- The frames that wait in all receive queues of an interface. -/
def backlog (w : World β σ) (index : Nat) : Nat :=
  (w.interfaces[index]?.map Interface.backlog).getD 0

/-- The frames that an interface counted as they arrived. -/
def rxPackets (w : World β σ) (index : Nat) : UInt64 := (w.interfaceCounters index).rxPackets

/-- The frames that an interface counted as it transmitted them. -/
def txPackets (w : World β σ) (index : Nat) : UInt64 := (w.interfaceCounters index).txPackets

theorem rxPackets_def (w : World β σ) (index : Nat) :
    w.rxPackets index = (w.interfaces[index]?.map fun i => i.counters.rxPackets).getD 0 := by
  rw [rxPackets, interfaceCounters]
  cases w.interfaces[index]? <;> rfl

theorem txPackets_def (w : World β σ) (index : Nat) :
    w.txPackets index = (w.interfaces[index]?.map fun i => i.counters.txPackets).getD 0 := by
  rw [txPackets, interfaceCounters]
  cases w.interfaces[index]? <;> rfl

/-- The step from `w` to `w'` takes `received` frames from the receive queues of the interface
`source` and transmits `sent` frames on the interface `destination`. No other interface is touched,
and none is renamed. -/
structure Hauls (source destination received sent : Nat) (w w' : World β σ) : Prop where
  elsewhere : ∀ j, j ≠ source → j ≠ destination → w'.interfaces[j]? = w.interfaces[j]?
  interfaceId_eq : ∀ j, w'.interfaceId j = w.interfaceId j
  rxPackets_eq : ∀ j, w'.rxPackets j = w.rxPackets j
  txPackets_eq : ∀ j,
    w'.txPackets j = w.txPackets j + UInt64.ofNat (if j = destination then sent else 0)
  backlog_eq : ∀ j, w'.backlog j + (if j = source then received else 0) = w.backlog j

variable {w w' w'' : World β σ} {source destination received sent : Nat}

namespace Hauls

theorem of_interfaces (h : w'.interfaces = w.interfaces) : Hauls source destination 0 0 w w' := by
  refine ⟨fun j _ _ => by rw [h], ?_, ?_, ?_, ?_⟩ <;> intro j
  · rw [interfaceId, h, interfaceId]
  · rw [rxPackets_def, h, rxPackets_def]
  · rw [txPackets_def, h, txPackets_def, ite_self]
    exact (UInt64.add_zero _).symm
  · rw [backlog, h, ite_self, Nat.add_zero, backlog]

/-- No packets are counted where nothing is sent. -/
theorem txPackets_eq_of_none (h : Hauls source destination received 0 w w') (j : Nat) :
    w'.txPackets j = w.txPackets j := by
  rw [h.txPackets_eq, ite_self]
  exact UInt64.add_zero _

theorem trans {received' sent' : Nat} (h : Hauls source destination received sent w w')
    (h' : Hauls source destination received' sent' w' w'') :
    Hauls source destination (received + received') (sent + sent') w w'' where
  elsewhere j hs hd := (h'.elsewhere j hs hd).trans (h.elsewhere j hs hd)
  interfaceId_eq j := (h'.interfaceId_eq j).trans (h.interfaceId_eq j)
  rxPackets_eq j := (h'.rxPackets_eq j).trans (h.rxPackets_eq j)
  txPackets_eq j := by
    rw [h'.txPackets_eq, h.txPackets_eq]
    split
    · rw [UInt64.ofNat_add, UInt64.add_assoc]
    · exact UInt64.add_zero _
  backlog_eq j := by
    have hfirst := h.backlog_eq j
    have hsecond := h'.backlog_eq j
    by_cases hj : j = source
    · rw [if_pos hj] at hfirst hsecond ⊢
      omega
    · rw [if_neg hj] at hfirst hsecond ⊢
      omega

theorem receive (w : World β σ) (index destination : Nat) (queue : QueueId) (max : Nat) :
    Hauls index destination (w.receive index queue max).1.length 0 w
      (w.receive index queue max).2 := by
  rw [World.receive]
  split
  · exact .of_interfaces rfl
  · next i hi =>
    have hbacklog := i.backlog_receive queue max
    refine ⟨?_, ?_, ?_, ?_, ?_⟩
    · intro j hj _
      exact List.getElem?_set_ne (Ne.symm hj)
    all_goals intro j
    · rw [interfaceId, view_set hi, interfaceId]
      split
      · next hj => rw [hj, hi]; rfl
      · rfl
    · rw [rxPackets_def, view_set hi, rxPackets_def]
      split
      · next hj => rw [hj, hi]; rfl
      · rfl
    · rw [txPackets_def, view_set hi, txPackets_def, ite_self]
      split
      · next hj => rw [hj, hi]; exact (UInt64.add_zero _).symm
      · exact (UInt64.add_zero _).symm
    · rw [backlog, view_set hi, backlog]
      split
      · next hj =>
        rw [hj, hi]
        exact hbacklog
      · rfl

theorem transmit [FrameBuffer β] (w : World β σ) (source index : Nat) (queue : QueueId)
    (burst : List β) :
    Hauls source index 0 (w.transmit index queue burst).1 w (w.transmit index queue burst).2.2 := by
  rw [World.transmit]
  split
  · exact .of_interfaces rfl
  · next i hi =>
    obtain ⟨htx, hrx, hbacklog, hid⟩ := i.txPackets_transmit queue w.registers burst w.wallNs
    refine ⟨?_, ?_, ?_, ?_, ?_⟩
    · intro j _ hj
      exact List.getElem?_set_ne (Ne.symm hj)
    all_goals
      intro j
      simp only [release]
    · rw [interfaceId, view_set hi, interfaceId]
      split
      · next hj => rw [hj, hi, hid]; rfl
      · rfl
    · rw [rxPackets_def, view_set hi, rxPackets_def]
      split
      · next hj => rw [hj, hi, hrx]; rfl
      · rfl
    · rw [txPackets_def, view_set hi, txPackets_def]
      split
      · next hj => rw [hj, hi, htx]; rfl
      · exact (UInt64.add_zero _).symm
    · rw [backlog, view_set hi, ite_self, backlog]
      split
      · next hj => rw [hj, hi, hbacklog]; rfl
      · rfl

/-- A change of an interface that is not about its queues or its counters. -/
theorem modifyInterface {index : Nat} {f : Interface β → Interface β}
    (hindex : index = source ∨ index = destination) (hid : ∀ i, (f i).id = i.id)
    (hcounters : ∀ i, (f i).counters = i.counters) (hqueues : ∀ i, (f i).rxQueues = i.rxQueues)
    (w : World β σ) : Hauls source destination 0 0 w (w.modifyInterface index f) := by
  have hview {γ : Type} {view : Interface β → γ} (hf : ∀ i, view (f i) = view i) (d : γ) (j : Nat) :
      ((w.modifyInterface index f).interfaces[j]?.map view).getD d =
        (w.interfaces[j]?.map view).getD d := by
    rw [World.modifyInterface, List.getElem?_modify]
    cases w.interfaces[j]? with
    | none => rfl
    | some i =>
        simp only [Option.map_eq_map, Option.map_some]
        split
        · rw [hf]
        · rfl
  refine ⟨?_, ?_, ?_, ?_, ?_⟩
  · intro j hs hd
    have hj : index ≠ j := by
      rintro rfl
      exact hindex.elim hs hd
    rw [World.modifyInterface, List.getElem?_modify]
    simp only [if_neg hj]
    cases w.interfaces[j]? <;> rfl
  all_goals intro j
  · exact hview hid _ j
  · rw [rxPackets_def, rxPackets_def]
    exact hview (fun i => by rw [hcounters]) _ j
  · rw [txPackets_def, txPackets_def, ite_self]
    exact (hview (fun i => by rw [hcounters]) _ j).trans (UInt64.add_zero _).symm
  · rw [ite_self]
    exact hview (fun i => by rw [Interface.backlog, hqueues, Interface.backlog]) _ j

theorem takeTransmitted (w : World β σ) (index : Nat) (queue : QueueId) :
    Hauls index index 0 0 w (w.takeTransmitted index queue).2 := by
  have hmodify : (w.takeTransmitted index queue).2 =
      w.modifyInterface index fun i => (i.takeTransmitted queue).2 := by
    rw [World.takeTransmitted, World.modifyInterface, List.modify_eq_set_getElem?]
    split
    · next hi => rw [hi]; rfl
    · next i hi => rw [hi]; rfl
  rw [hmodify]
  refine .modifyInterface (.inl rfl) ?_ ?_ ?_ w <;> exact fun _ => rfl

end Hauls

/-- Of a burst that arrives at an interface, as many frames are counted as wait afterwards. -/
structure Arrives (index accepted : Nat) (w w' : World β σ) : Prop where
  elsewhere : ∀ j, j ≠ index → w'.interfaces[j]? = w.interfaces[j]?
  interfaceId_eq : ∀ j, w'.interfaceId j = w.interfaceId j
  rxPackets_eq : ∀ j,
    w'.rxPackets j = w.rxPackets j + UInt64.ofNat (if j = index then accepted else 0)
  txPackets_eq : ∀ j, w'.txPackets j = w.txPackets j
  backlog_eq : ∀ j, w'.backlog j = w.backlog j + if j = index then accepted else 0

theorem inject_arrives [FrameBuffer β] (w : World β σ) (index : Nat) (queue : QueueId)
    (burst : List β) :
    Arrives index (w.inject index queue burst).1 w (w.inject index queue burst).2 := by
  rw [World.inject]
  split
  · refine ⟨fun _ _ => rfl, fun _ => rfl, ?_, fun _ => rfl, ?_⟩ <;> intro j
    · rw [ite_self]
      exact (UInt64.add_zero _).symm
    · rw [ite_self]
      rfl
  · next i hi =>
    obtain ⟨hbacklog, hrx, htx, hid⟩ := i.backlog_inject queue w.registers burst
    refine ⟨?_, ?_, ?_, ?_, ?_⟩
    · intro j hj
      exact List.getElem?_set_ne (Ne.symm hj)
    all_goals
      intro j
      simp only [release]
    · rw [interfaceId, view_set hi, interfaceId]
      split
      · next hj => rw [hj, hi, hid]; rfl
      · rfl
    · rw [rxPackets_def, view_set hi, rxPackets_def]
      split
      · next hj => rw [hj, hi, hrx]; rfl
      · exact (UInt64.add_zero _).symm
    · rw [txPackets_def, view_set hi, txPackets_def]
      split
      · next hj => rw [hj, hi, htx]; rfl
      · rfl
    · rw [backlog, view_set hi, backlog]
      split
      · next hj => rw [hj, hi, hbacklog]; rfl
      · rfl

end World

end EtherRelay
