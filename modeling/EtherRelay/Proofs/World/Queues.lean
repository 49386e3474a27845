import EtherRelay.World
import Mathlib.Data.List.Basic
import Mathlib.Data.UInt

/-!
# What waits in the queues of the world

Each interface holds frames in its receive queues and, if it keeps them, the transmitted ones.
`World.pending` and `World.retainedOn` read one queue; the lemmas say what each operation of the
world does to every queue of every interface. An operation on a queue or on an interface that
does not exist moves nothing.
-/

namespace EtherRelay

variable {β σ : Type}

/-- The queues of a list after one that is there was replaced. -/
private theorem getD_set {γ : Type} {queues : List (List γ)} {old : List γ} {k : QueueId}
    (hk : queues[k.toNat]? = some old) (new : List γ) (j : QueueId) :
    (queues.set k.toNat new).getD j.toNat [] =
      if j = k then new else queues.getD j.toNat [] := by
  obtain ⟨hlt, _⟩ := List.getElem?_eq_some_iff.mp hk
  rw [List.getD_eq_getElem?_getD, List.getD_eq_getElem?_getD, List.getElem?_set]
  by_cases hj : j = k
  · subst hj
    rw [if_pos rfl, if_pos hlt, if_pos rfl, Option.getD_some]
  · have hne : k.toNat ≠ j.toNat := fun h => hj (UInt16.toNat_inj.mp h).symm
    rw [if_neg hne, if_neg hj]

namespace Interface

variable (i : Interface β)

/-- The frames kept for a transmit queue; none for a queue that does not exist. -/
def retainedOn (queue : QueueId) : List β :=
  (i.txQueues[queue.toNat]?.map TxQueue.transmitted).getD []

theorem takeTransmitted_fst (queue : QueueId) :
    (i.takeTransmitted queue).1 = i.retainedOn queue := rfl

theorem pending_eq_nil {queue : QueueId} (h : i.rxQueues[queue.toNat]? = none) :
    i.pending queue = [] := by
  rw [pending, List.getD_eq_getElem?_getD, h, Option.getD_none]

theorem pending_eq {queue : QueueId} {waiting : List β}
    (h : i.rxQueues[queue.toNat]? = some waiting) : i.pending queue = waiting := by
  rw [pending, List.getD_eq_getElem?_getD, h, Option.getD_some]

theorem pending_create (id : InterfaceId) (rxQueues txQueues rxDepth : Nat) (queue : QueueId) :
    (create id rxQueues txQueues rxDepth : Interface β).pending queue = [] := by
  rw [pending, create, List.getD_eq_getElem?_getD, List.getElem?_replicate]
  split <;> rfl

theorem retainedOn_create (id : InterfaceId) (rxQueues txQueues rxDepth : Nat)
    (queue : QueueId) :
    (create id rxQueues txQueues rxDepth : Interface β).retainedOn queue = [] := by
  rw [retainedOn, create, List.getElem?_replicate]
  split <;> rfl

/-! ## Receive queues -/

theorem pending_receive (queue queue' : QueueId) (max : Nat) :
    (i.receive queue max).2.pending queue' =
      if queue' = queue then (i.pending queue).drop max else i.pending queue' := by
  cases hw : i.rxQueues[queue.toNat]? with
  | none =>
      have hset : (i.receive queue max).2.rxQueues = i.rxQueues := by
        rw [receive, List.set_eq_of_length_le (List.getElem?_eq_none_iff.mp hw)]
      have hsame : (i.receive queue max).2.pending queue' = i.pending queue' := by
        rw [pending, pending, hset]
      rw [hsame]
      split
      · next hq => rw [hq, i.pending_eq_nil hw, List.drop_nil]
      · rfl
  | some waiting =>
      rw [pending, receive]
      exact getD_set hw _ _

section

variable [FrameBuffer β] (registers : Hardware.Registers) (queue : QueueId) (burst : List β)

theorem inject_missing (h : i.rxQueues[queue.toNat]? = none) :
    (i.inject registers queue burst).accepted = 0 ∧
      (i.inject registers queue burst).refused = burst ∧
      (i.inject registers queue burst).interface.rxQueues = i.rxQueues := by
  simp only [inject, h, and_self]

/-- A queue takes as many frames of a burst as it has room for, and refuses the others. -/
theorem inject_existing {waiting : List β} (h : i.rxQueues[queue.toNat]? = some waiting) :
    (i.inject registers queue burst).accepted = min (i.rxDepth - waiting.length) burst.length ∧
      (i.inject registers queue burst).refused = burst.drop (i.rxDepth - waiting.length) ∧
      (i.inject registers queue burst).interface.rxQueues =
        i.rxQueues.set queue.toNat (waiting ++ burst.take (i.rxDepth - waiting.length)) := by
  simp only [inject, h, List.length_take, and_self]

theorem pending_inject (queue' : QueueId) :
    (i.inject registers queue burst).interface.pending queue' =
      if queue' = queue then
        i.pending queue ++ burst.take (i.inject registers queue burst).accepted
      else i.pending queue' := by
  cases hw : i.rxQueues[queue.toNat]? with
  | none =>
      obtain ⟨haccepted, _, hqueues⟩ := i.inject_missing registers queue burst hw
      rw [pending, hqueues, haccepted, List.take_zero, List.append_nil]
      split
      · next hq => rw [hq, pending]
      · rfl
  | some waiting =>
      obtain ⟨haccepted, _, hqueues⟩ := i.inject_existing registers queue burst hw
      rw [pending, hqueues, haccepted, i.pending_eq hw, ← List.take_eq_take_min]
      exact getD_set hw _ _

theorem txQueues_inject :
    (i.inject registers queue burst).interface.txQueues = i.txQueues := by
  rw [inject]
  split <;> rfl

theorem retains_inject :
    (i.inject registers queue burst).interface.retains = i.retains := by
  rw [inject]
  split <;> rfl

/-! ## Transmit queues -/

theorem transmit_missing (ns : Nat) (h : i.txQueues[queue.toNat]? = none) :
    (i.transmit registers ns queue burst).accepted = 0 ∧
      (i.transmit registers ns queue burst).refused = burst ∧
      (i.transmit registers ns queue burst).givenUp = [] ∧
      (i.transmit registers ns queue burst).interface.txQueues = i.txQueues := by
  simp only [transmit, h, and_self]

/-- A queue takes the front of a burst up to its limit; the interface keeps what it took or
gives it up. -/
theorem transmit_existing (ns : Nat) {tx : TxQueue β}
    (h : i.txQueues[queue.toNat]? = some tx) :
    let n := min (tx.limit.getD burst.length) burst.length
    let s := i.transmit registers ns queue burst
    s.accepted = n ∧ s.refused = burst.drop n ∧
      s.givenUp = (if i.retains then [] else burst.take n) ∧
      s.interface.txQueues =
        if i.retains then
          i.txQueues.set queue.toNat { tx with transmitted := tx.transmitted ++ burst.take n }
        else i.txQueues := by
  dsimp only
  rw [← List.take_eq_take_min]
  cases hl : tx.limit with
  | none =>
      simp only [transmit, h, hl, Option.getD_none, Nat.min_self, List.take_length, and_self]
  | some limit =>
      simp only [transmit, h, hl, List.length_take, Option.getD_some, and_self, and_true,
        true_and]
      rcases Nat.le_total limit burst.length with hle | hle
      · rw [Nat.min_eq_left hle]
      · rw [Nat.min_eq_right hle, List.drop_length, List.drop_eq_nil_of_le hle]

theorem rxQueues_transmit (ns : Nat) :
    (i.transmit registers ns queue burst).interface.rxQueues = i.rxQueues := by
  rw [transmit]
  split <;> rfl

theorem retains_transmit (ns : Nat) :
    (i.transmit registers ns queue burst).interface.retains = i.retains := by
  rw [transmit]
  split <;> rfl

/-- What is not accepted of a burst is what follows the accepted frames. -/
theorem refused_transmit (ns : Nat) :
    (i.transmit registers ns queue burst).refused =
        burst.drop (i.transmit registers ns queue burst).accepted ∧
      (i.transmit registers ns queue burst).accepted ≤ burst.length := by
  cases ht : i.txQueues[queue.toNat]? with
  | none =>
      obtain ⟨haccepted, hrefused, _⟩ := i.transmit_missing registers queue burst ns ht
      rw [haccepted, hrefused]
      exact ⟨rfl, Nat.zero_le _⟩
  | some tx =>
      obtain ⟨haccepted, hrefused, _⟩ := i.transmit_existing registers queue burst ns ht
      rw [haccepted, hrefused]
      exact ⟨rfl, Nat.min_le_right _ _⟩

theorem retainedOn_transmit (ns : Nat) (queue' : QueueId) :
    (i.transmit registers ns queue burst).interface.retainedOn queue' =
      if queue' = queue ∧ i.retains then
        i.retainedOn queue ++ burst.take (i.transmit registers ns queue burst).accepted
      else i.retainedOn queue' := by
  cases ht : i.txQueues[queue.toNat]? with
  | none =>
      obtain ⟨haccepted, _, _, hqueues⟩ := i.transmit_missing registers queue burst ns ht
      rw [retainedOn, hqueues, haccepted, List.take_zero, List.append_nil]
      split
      · next hq => rw [hq.1, retainedOn]
      · rfl
  | some tx =>
      obtain ⟨haccepted, _, _, hqueues⟩ := i.transmit_existing registers queue burst ns ht
      obtain ⟨hlt, htx⟩ := List.getElem?_eq_some_iff.mp ht
      rw [retainedOn, hqueues, haccepted]
      by_cases hr : i.retains
      · by_cases hq : queue' = queue
        · subst hq
          simp [hr, retainedOn, hlt, htx]
        · have hne : queue.toNat ≠ queue'.toNat := fun h => hq (UInt16.toNat_inj.mp h).symm
          simp [hr, hq, retainedOn, hne]
      · simp [hr, retainedOn]

end

theorem retainedOn_setTxLimit (queue queue' : QueueId) (limit : Option Nat) :
    (i.setTxLimit queue limit).retainedOn queue' = i.retainedOn queue' := by
  rw [retainedOn, setTxLimit, List.getElem?_modify, retainedOn]
  split
  · cases i.txQueues[queue'.toNat]? <;> rfl
  · cases i.txQueues[queue'.toNat]? <;> rfl

theorem retainedOn_takeTransmitted (queue queue' : QueueId) :
    (i.takeTransmitted queue).2.retainedOn queue' =
      if queue' = queue then [] else i.retainedOn queue' := by
  rw [retainedOn, takeTransmitted, List.getElem?_modify, retainedOn]
  by_cases hq : queue' = queue
  · subst hq
    cases i.txQueues[queue'.toNat]? <;> simp
  · have hne : queue.toNat ≠ queue'.toNat := fun h => hq (UInt16.toNat_inj.mp h).symm
    cases i.txQueues[queue'.toNat]? <;> simp [hq, hne]

end Interface

namespace World

variable (w : World β σ)

/-- The frames that wait in a receive queue of an interface. -/
def pending (index : Nat) (queue : QueueId) : List β :=
  (w.interfaces[index]?.map (·.pending queue)).getD []

/-- The frames that an interface kept for a transmit queue. -/
def retainedOn (index : Nat) (queue : QueueId) : List β :=
  (w.interfaces[index]?.map (·.retainedOn queue)).getD []

/-- Whether an interface keeps what it transmits. -/
def retains (index : Nat) : Bool := (w.interfaces[index]?.map (·.retains)).getD false

/-- A view of the interfaces after one that is there was replaced. -/
theorem view_set {γ : Type} {interfaces : List (Interface β)} {index : Nat}
    {old : Interface β} (hi : interfaces[index]? = some old) (new : Interface β)
    (view : Interface β → γ) (d : γ) (j : Nat) :
    (((interfaces.set index new)[j]?).map view).getD d =
      if j = index then view new else (interfaces[j]?.map view).getD d := by
  obtain ⟨hlt, _⟩ := List.getElem?_eq_some_iff.mp hi
  rw [List.getElem?_set]
  by_cases hj : j = index
  · subst hj
    simp [hlt]
  · simp [hj, Ne.symm hj]

theorem pending_eq {index : Nat} {i : Interface β} (h : w.interfaces[index]? = some i)
    (queue : QueueId) : w.pending index queue = i.pending queue := by
  rw [pending, h, Option.map_some, Option.getD_some]

theorem retainedOn_eq {index : Nat} {i : Interface β} (h : w.interfaces[index]? = some i)
    (queue : QueueId) : w.retainedOn index queue = i.retainedOn queue := by
  rw [retainedOn, h, Option.map_some, Option.getD_some]

theorem retains_eq {index : Nat} {i : Interface β} (h : w.interfaces[index]? = some i) :
    w.retains index = i.retains := by
  rw [retains, h, Option.map_some, Option.getD_some]

variable (index : Nat) (queue : QueueId) (j : Nat) (queue' : QueueId)

/-! ## Receiving -/

theorem receive_fst (max : Nat) :
    (w.receive index queue max).1 = (w.pending index queue).take max := by
  rw [receive]
  split
  · next h => rw [pending, h, Option.map_none, Option.getD_none, List.take_nil]
  · next i h =>
    rw [w.pending_eq h]
    rfl

theorem length_receive_le (max : Nat) : (w.receive index queue max).1.length ≤ max := by
  rw [receive_fst]
  exact List.length_take_le _ _

theorem pending_receive (max : Nat) :
    (w.receive index queue max).2.pending j queue' =
      if j = index ∧ queue' = queue then (w.pending index queue).drop max
      else w.pending j queue' := by
  rw [receive]
  split
  · next h =>
    split
    · next hj => simp [hj.1, pending, h]
    · rfl
  · next i h =>
    rw [w.pending_eq h, pending, view_set h, i.pending_receive]
    by_cases hj : j = index
    · subst hj
      simp [w.pending_eq h]
    · simp [hj, pending]

theorem retains_receive (max : Nat) :
    (w.receive index queue max).2.retains j = w.retains j := by
  rw [receive]
  split
  · rfl
  · next i h =>
    rw [retains, view_set h]
    split
    · next hj => rw [hj, w.retains_eq h, Interface.receive]
    · rfl

theorem retainedOn_receive (max : Nat) :
    (w.receive index queue max).2.retainedOn j queue' = w.retainedOn j queue' := by
  rw [receive]
  split
  · rfl
  · next i h =>
    rw [retainedOn, view_set h]
    split
    · next hj => rw [hj, w.retainedOn_eq h, Interface.receive, Interface.retainedOn,
        Interface.retainedOn]
    · rfl

/-! ## Injecting -/

section

variable [FrameBuffer β] (burst : List β)

theorem pending_inject :
    (w.inject index queue burst).2.pending j queue' =
      if j = index ∧ queue' = queue then
        w.pending index queue ++ burst.take (w.inject index queue burst).1
      else w.pending j queue' := by
  rw [inject]
  split
  · next h =>
    rw [List.take_zero, List.append_nil]
    split
    · next hj => rw [hj.1, hj.2]; rfl
    · rfl
  · next i h =>
    simp only [release, w.pending_eq h]
    rw [pending, view_set h, i.pending_inject]
    by_cases hj : j = index
    · subst hj
      simp [w.pending_eq h]
    · simp [hj, pending]

theorem retainedOn_inject :
    (w.inject index queue burst).2.retainedOn j queue' = w.retainedOn j queue' := by
  rw [inject]
  split
  · rfl
  · next i h =>
    simp only [release]
    rw [retainedOn, view_set h]
    split
    · next hj => rw [hj, w.retainedOn_eq h, Interface.retainedOn, i.txQueues_inject,
        Interface.retainedOn]
    · rfl

theorem retains_inject : (w.inject index queue burst).2.retains j = w.retains j := by
  rw [inject]
  split
  · rfl
  · next i h =>
    simp only [release]
    rw [retains, view_set h]
    split
    · next hj => rw [hj, w.retains_eq h, i.retains_inject]
    · rfl

/-! ## Transmitting -/

/-- What is not accepted of a burst is what follows the accepted frames. -/
theorem left_transmit :
    (w.transmit index queue burst).2.1 = burst.drop (w.transmit index queue burst).1 ∧
      (w.transmit index queue burst).1 ≤ burst.length := by
  rw [transmit]
  split
  · exact ⟨rfl, Nat.zero_le _⟩
  · next i h => exact i.refused_transmit _ _ _ _

theorem pending_transmit :
    (w.transmit index queue burst).2.2.pending j queue' = w.pending j queue' := by
  rw [transmit]
  split
  · rfl
  · next i h =>
    simp only [release]
    rw [pending, view_set h]
    split
    · next hj => rw [hj, w.pending_eq h, Interface.pending, i.rxQueues_transmit,
        Interface.pending]
    · rfl

theorem retainedOn_transmit :
    (w.transmit index queue burst).2.2.retainedOn j queue' =
      if j = index ∧ queue' = queue ∧ w.retains index then
        w.retainedOn index queue ++ burst.take (w.transmit index queue burst).1
      else w.retainedOn j queue' := by
  rw [transmit]
  split
  · next h =>
    rw [List.take_zero, List.append_nil]
    split
    · next hj => rw [hj.1, hj.2.1]
    · rfl
  · next i h =>
    simp only [release, w.retainedOn_eq h, w.retains_eq h]
    rw [retainedOn, view_set h, i.retainedOn_transmit]
    by_cases hj : j = index
    · subst hj
      simp [w.retainedOn_eq h]
    · simp [hj, retainedOn]

theorem retains_transmit : (w.transmit index queue burst).2.2.retains j = w.retains j := by
  rw [transmit]
  split
  · rfl
  · next i h =>
    simp only [release]
    rw [retains, view_set h]
    split
    · next hj => rw [hj, w.retains_eq h, i.retains_transmit]
    · rfl

end

/-! ## Limits and kept frames -/

theorem pending_modify {f : Interface β → Interface β}
    (hf : ∀ i, (f i).rxQueues = i.rxQueues) :
    (w.modifyInterface index f).pending j queue' = w.pending j queue' := by
  rw [modifyInterface, pending, List.getElem?_modify, pending]
  cases w.interfaces[j]? with
  | none => rfl
  | some i =>
      simp only [Option.map_eq_map, Option.map_some]
      split
      · rw [Interface.pending, hf, Interface.pending]
      · rfl

theorem retains_modify {f : Interface β → Interface β}
    (hf : ∀ i, (f i).retains = i.retains) :
    (w.modifyInterface index f).retains j = w.retains j := by
  rw [modifyInterface, retains, List.getElem?_modify, retains]
  cases w.interfaces[j]? with
  | none => rfl
  | some i =>
      simp only [Option.map_eq_map, Option.map_some]
      split
      · rw [hf]
      · rfl

theorem retainedOn_setTxLimit (limit : Option Nat) :
    (w.modifyInterface index (·.setTxLimit queue limit)).retainedOn j queue' =
      w.retainedOn j queue' := by
  rw [modifyInterface, retainedOn, List.getElem?_modify, retainedOn]
  cases w.interfaces[j]? with
  | none => rfl
  | some i =>
      simp only [Option.map_eq_map, Option.map_some]
      split
      · rw [i.retainedOn_setTxLimit]
      · rfl

theorem takeTransmitted_fst :
    (w.takeTransmitted index queue).1 = w.retainedOn index queue := by
  rw [takeTransmitted]
  split
  · next h => rw [retainedOn, h, Option.map_none, Option.getD_none]
  · next i h =>
    rw [w.retainedOn_eq h]
    rfl

theorem pending_takeTransmitted :
    (w.takeTransmitted index queue).2.pending j queue' = w.pending j queue' := by
  rw [takeTransmitted]
  split
  · rfl
  · next i h =>
    rw [pending, view_set h]
    split
    · next hj => rw [hj, w.pending_eq h, Interface.pending, Interface.takeTransmitted,
        Interface.pending]
    · rfl

theorem retains_takeTransmitted :
    (w.takeTransmitted index queue).2.retains j = w.retains j := by
  rw [takeTransmitted]
  split
  · rfl
  · next i h =>
    rw [retains, view_set h]
    split
    · next hj => rw [hj, w.retains_eq h, Interface.takeTransmitted]
    · rfl

theorem retainedOn_takeTransmitted :
    (w.takeTransmitted index queue).2.retainedOn j queue' =
      if j = index ∧ queue' = queue then [] else w.retainedOn j queue' := by
  rw [takeTransmitted]
  split
  · next h =>
    split
    · next hj => rw [hj.1, retainedOn, h, Option.map_none, Option.getD_none]
    · rfl
  · next i h =>
    rw [retainedOn, view_set h, i.retainedOn_takeTransmitted]
    by_cases hj : j = index
    · subst hj
      simp [w.retainedOn_eq h]
    · simp [hj, retainedOn]

end World

end EtherRelay
