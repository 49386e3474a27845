import EtherRelay.Proofs.Capture.Tapping
import EtherRelay.Proofs.World.Frees
import EtherRelay.Proofs.World.Traffic

/-!
# What becomes of frames that are offered for transmission

A transmit queue accepts the front of a burst and refuses the others, and the interface counts both.
A burst that is offered to a queue that does not exist is refused as well, but counted nowhere: its
frames are *stray*. `Interface.Books` balances the accounts of an interface over any calls, stray
frames included. `World.Refuses` says the same of one step of a world, for all its interfaces.
-/

namespace EtherRelay

variable {β σ : Type}

namespace Interface

/-- How many frames of a burst are stray if there are so many transmit queues: all or none. -/
def strays (queues : Nat) (queue : QueueId) (burst : List β) : Nat :=
  if queue.toNat < queues then 0 else burst.length

theorem strays_of_lt {queues : Nat} {queue : QueueId} (h : queue.toNat < queues)
    (burst : List β) : strays queues queue burst = 0 := if_pos h

theorem strays_of_le {queues : Nat} {queue : QueueId} (h : queues ≤ queue.toNat)
    (burst : List β) : strays queues queue burst = burst.length := if_neg (Nat.not_lt_of_le h)

/-- How many frames a call offers. -/
def Call.offered : Call β → Nat
  | .transmit _ _ burst => burst.length
  | _ => 0

/-- How many of them are stray if there are so many transmit queues. -/
def Call.strays (queues : Nat) : Call β → Nat
  | .transmit _ queue burst => Interface.strays queues queue burst
  | _ => 0

/-- How many frames several calls offer. -/
def offeredAll (calls : List (Call β)) : Nat := (calls.map Call.offered).sum

/-- How many of them are stray. -/
def straysAll (queues : Nat) (calls : List (Call β)) : Nat := (calls.map (Call.strays queues)).sum

section

variable [FrameBuffer β]

/-- How many frames of a call a transmit queue refuses. -/
def refused (s : Wired β) (c : Call β) : Nat :=
  match c with
  | .transmit ns queue burst =>
    if queue.toNat < s.1.txQueues.length then (s.1.transmit s.2 ns queue burst).refused.length
    else 0
  | _ => 0

/-- How many frames of several calls a transmit queue refuses. -/
def refusedAll (s : Wired β) : List (Call β) → Nat
  | [] => 0
  | c :: calls => refused s c + refusedAll (call s c) calls

/-- What one call to transmit does with its burst. -/
structure Splits (i : Interface β) (queue : QueueId) (burst : List β) (s : Sent β) : Prop where
  /-- The first frames are accepted, and the others are left in their order. -/
  accepted_le : s.accepted ≤ burst.length
  refused_eq : s.refused = burst.drop s.accepted
  /-- Accepted frames are kept behind those that were kept before, or given up. -/
  retainedOn_eq : s.interface.retainedOn queue =
    i.retainedOn queue ++ if i.retains then burst.take s.accepted else []
  givenUp_eq : s.givenUp = if i.retains then [] else burst.take s.accepted
  /-- A queue that exists accepts as many frames as its limit allows, and all are counted. -/
  existing : ∀ tx, i.txQueues[queue.toNat]? = some tx →
    s.accepted = min (tx.limit.getD burst.length) burst.length ∧
      s.interface.counters.txPackets = i.counters.txPackets + UInt64.ofNat s.accepted ∧
      s.interface.counters.txErrors = i.counters.txErrors + UInt64.ofNat s.refused.length
  /-- A queue that does not exist accepts nothing, and nothing is counted. -/
  missing : i.txQueues[queue.toNat]? = none → s.accepted = 0 ∧ s.interface = i

/-- The accounts of an interface over some calls. All that is offered is accepted, refused by a
queue, or stray, and the interface counts what is not stray. -/
structure Books (s : Wired β) (calls : List (Call β)) : Prop where
  offered_eq : offeredAll calls =
    (sentAll s calls).length + refusedAll s calls + straysAll s.1.txQueues.length calls
  txPackets_eq : (callAll s calls).1.counters.txPackets =
    s.1.counters.txPackets + UInt64.ofNat (sentAll s calls).length
  txErrors_eq : (callAll s calls).1.counters.txErrors =
    s.1.counters.txErrors + UInt64.ofNat (refusedAll s calls)

/-! ## One call -/

variable (i : Interface β) (registers : Hardware.Registers) (queue : QueueId) (burst : List β)

/-- Refused frames are counted unless they are stray. -/
theorem txErrors_transmit (ns : Nat) :
    (i.transmit registers ns queue burst).interface.counters.txErrors +
          UInt64.ofNat (strays i.txQueues.length queue burst) =
        i.counters.txErrors +
          UInt64.ofNat (i.transmit registers ns queue burst).refused.length := by
  rw [transmit]
  split
  · next hnone => rw [strays_of_le (List.getElem?_eq_none_iff.mp hnone)]
  · next hsome =>
    rw [strays_of_lt (List.getElem?_eq_some_iff.mp hsome).1]
    exact UInt64.add_zero _

theorem length_txQueues_transmit (ns : Nat) :
    (i.transmit registers ns queue burst).interface.txQueues.length = i.txQueues.length := by
  rw [transmit]
  split
  · rfl
  · dsimp only
    split
    · exact List.length_set
    · rfl

theorem transmit_splits (ns : Nat) :
    i.Splits queue burst (i.transmit registers ns queue burst) := by
  obtain ⟨hrefused, hle⟩ := i.refused_transmit registers queue burst ns
  have hkept := i.retainedOn_transmit registers queue burst ns queue
  constructor
  case accepted_le => exact hle
  case refused_eq => exact hrefused
  case retainedOn_eq =>
    split
    · next hretains => rwa [if_pos ⟨rfl, hretains⟩] at hkept
    · next hretains => rwa [if_neg fun h => hretains h.2, ← List.append_nil (i.retainedOn _)] at hkept
  case givenUp_eq =>
    cases htx : i.txQueues[queue.toNat]? with
    | none =>
      obtain ⟨haccepted, -, hgivenUp, -⟩ := i.transmit_missing registers queue burst ns htx
      rw [hgivenUp, haccepted, List.take_zero, ite_self]
    | some tx =>
      obtain ⟨haccepted, -, hgivenUp, -⟩ := i.transmit_existing registers queue burst ns htx
      rw [hgivenUp, haccepted]
  case existing =>
    intro tx htx
    have hlt := (List.getElem?_eq_some_iff.mp htx).1
    have herrors := i.txErrors_transmit registers queue burst ns
    rw [strays_of_lt hlt] at herrors
    exact ⟨(i.transmit_existing registers queue burst ns htx).1,
      (i.txPackets_transmit queue registers burst ns).1, herrors.symm ▸ (UInt64.add_zero _).symm⟩
  case missing =>
    intro htx
    rw [transmit, htx]
    exact ⟨rfl, rfl⟩

end

/-! ## Any number of calls -/

section

variable [FrameBuffer β]

theorem length_txQueues_call (s : Wired β) (c : Call β) :
    (call s c).1.txQueues.length = s.1.txQueues.length := by
  cases c with
  | transmit ns queue burst => exact s.1.length_txQueues_transmit s.2 queue burst ns
  | inject queue burst => exact congrArg List.length (s.1.txQueues_inject s.2 queue burst)
  | setTxLimit queue limit => exact List.length_modify _ _ _
  | takeTransmitted queue => exact List.length_modify _ _ _
  | receive queue max => rfl
  | flush => rfl

/-- One call is booked. -/
theorem call_books (s : Wired β) (c : Call β) :
    c.offered = (sent s c).length + refused s c + c.strays s.1.txQueues.length ∧
      (call s c).1.counters.txPackets = s.1.counters.txPackets + UInt64.ofNat (sent s c).length ∧
      (call s c).1.counters.txErrors = s.1.counters.txErrors + UInt64.ofNat (refused s c) := by
  obtain ⟨i, registers⟩ := s
  cases c with
  | transmit ns queue burst =>
    have hsplits := i.transmit_splits registers queue burst ns
    have hpackets := i.txPackets_transmit queue registers burst ns
    have herrors := i.txErrors_transmit registers queue burst ns
    have hsent : (sent (i, registers) (.transmit ns queue burst)).length =
        (i.transmit registers ns queue burst).accepted := by
      rw [sent, List.length_map, List.length_take, Nat.min_eq_left hsplits.accepted_le]
    have hrefused : (i.transmit registers ns queue burst).refused.length =
        burst.length - (i.transmit registers ns queue burst).accepted := by
      rw [hsplits.refused_eq, List.length_drop]
    refine ⟨?_, ?_, ?_⟩
    · rw [hsent, refused, hrefused]
      rcases Nat.lt_or_ge queue.toNat i.txQueues.length with hlt | hge
      · have hle := hsplits.accepted_le
        rw [if_pos hlt, Call.strays, strays_of_lt hlt, Call.offered]
        omega
      · -- There is no such queue: nothing is accepted, and the whole burst is stray.
        have hnone := (hsplits.missing (List.getElem?_eq_none_iff.mpr hge)).1
        rw [if_neg (Nat.not_lt_of_le hge), Call.strays, strays_of_le hge, hnone, Call.offered]
        omega
    · rw [hsent]
      exact hpackets.1
    · rw [refused]
      split
      · next hlt =>
        rw [strays_of_lt hlt] at herrors
        exact (UInt64.add_zero _).symm.trans herrors
      · next hge =>
        have hsame := (hsplits.missing (List.getElem?_eq_none_iff.mpr (Nat.le_of_not_lt hge))).2
        rw [call, hsame]
        exact (UInt64.add_zero _).symm
  | inject queue burst =>
    have huncounted : (i.inject registers queue burst).interface.counters.txPackets =
          i.counters.txPackets ∧
        (i.inject registers queue burst).interface.counters.txErrors = i.counters.txErrors := by
      rw [inject]
      split <;> exact ⟨rfl, rfl⟩
    exact ⟨rfl, huncounted.1.trans (UInt64.add_zero _).symm,
      huncounted.2.trans (UInt64.add_zero _).symm⟩
  | _ => exact ⟨rfl, (UInt64.add_zero _).symm, (UInt64.add_zero _).symm⟩

/-- All calls are booked. -/
theorem callAll_books (s : Wired β) (calls : List (Call β)) : Books s calls := by
  induction calls generalizing s with
  | nil => exact ⟨rfl, (UInt64.add_zero _).symm, (UInt64.add_zero _).symm⟩
  | cons c calls ih =>
    obtain ⟨hoffered, hpackets, herrors⟩ := call_books s c
    obtain ⟨hrest, hpackets', herrors'⟩ := ih (call s c)
    constructor
    case offered_eq =>
      rw [length_txQueues_call] at hrest
      rw [offeredAll, List.map_cons, List.sum_cons, hoffered, ← offeredAll, hrest, sentAll,
        List.length_append, refusedAll, straysAll, straysAll, List.map_cons, List.sum_cons]
      omega
    case txPackets_eq =>
      rw [sentAll, List.length_append, UInt64.ofNat_add, ← UInt64.add_assoc, ← hpackets]
      exact hpackets'
    case txErrors_eq =>
      rw [refusedAll, UInt64.ofNat_add, ← UInt64.add_assoc, ← herrors]
      exact herrors'

end

end Interface

/-! ## Worlds -/

namespace World

/-- The frames that an interface counted as it refused them. -/
def txErrors (w : World β σ) (index : Nat) : UInt64 := (w.interfaceCounters index).txErrors

/-- How many transmit queues an interface has. -/
def txQueueCount (w : World β σ) (index : Nat) : Nat :=
  (w.interfaces[index]?.map (·.txQueues.length)).getD 0

theorem txErrors_def (w : World β σ) (index : Nat) :
    w.txErrors index = (w.interfaces[index]?.map fun i => i.counters.txErrors).getD 0 := by
  rw [txErrors, interfaceCounters]
  cases w.interfaces[index]? <;> rfl

/-- The step from `w` to `w'` leaves `left` frames behind that the interface `index` did not accept,
`strays` of which are stray. No interface gets or loses a transmit queue. -/
structure Refuses (index left strays : Nat) (w w' : World β σ) : Prop where
  txErrors_eq : ∀ j, w'.txErrors j + UInt64.ofNat (if j = index then strays else 0) =
    w.txErrors j + UInt64.ofNat (if j = index then left else 0)
  txQueueCount_eq : ∀ j, w'.txQueueCount j = w.txQueueCount j

namespace Refuses

variable {w w' w'' : World β σ} {index left strays : Nat}

/-- Nothing is refused as long as the errors and the transmit queues of all interfaces stay. -/
theorem of_eq (herrors : ∀ j, w'.txErrors j = w.txErrors j)
    (hqueues : ∀ j, w'.txQueueCount j = w.txQueueCount j) : Refuses index 0 0 w w' where
  txErrors_eq j := by rw [herrors]
  txQueueCount_eq := hqueues

theorem of_interfaces (h : w'.interfaces = w.interfaces) : Refuses index 0 0 w w' := by
  apply of_eq <;> intro j
  · rw [txErrors_def, h, txErrors_def]
  · rw [txQueueCount, h, txQueueCount]

theorem trans {left' strays' : Nat} (h : Refuses index left strays w w')
    (h' : Refuses index left' strays' w' w'') :
    Refuses index (left + left') (strays + strays') w w'' where
  txErrors_eq j := by
    have hfirst := h.txErrors_eq j
    have hsecond := h'.txErrors_eq j
    by_cases hj : j = index
    · rw [if_pos hj] at hfirst hsecond ⊢
      rw [if_pos hj] at hfirst hsecond ⊢
      calc w''.txErrors j + UInt64.ofNat (strays + strays')
          = w''.txErrors j + UInt64.ofNat strays' + UInt64.ofNat strays := by
            rw [Nat.add_comm, UInt64.ofNat_add, UInt64.add_assoc]
        _ = w'.txErrors j + UInt64.ofNat strays + UInt64.ofNat left' := by
            rw [hsecond, UInt64.add_assoc, UInt64.add_assoc, UInt64.add_comm (.ofNat left')]
        _ = w.txErrors j + UInt64.ofNat (left + left') := by
            rw [hfirst, UInt64.ofNat_add, UInt64.add_assoc]
    · rw [if_neg hj] at hfirst hsecond ⊢
      rw [if_neg hj] at hfirst hsecond ⊢
      exact hsecond.trans hfirst
  txQueueCount_eq j := (h'.txQueueCount_eq j).trans (h.txQueueCount_eq j)

/-- What happens afterwards refuses nothing more. -/
theorem thenNone (h : Refuses index left strays w w') (h' : Refuses index 0 0 w' w'') :
    Refuses index left strays w w'' := h.trans h'

/-- An interface is replaced by one with the same errors and as many transmit queues. -/
theorem set {i i' : Interface β} {k : Nat} (hi : w.interfaces[k]? = some i)
    (hset : w'.interfaces = w.interfaces.set k i')
    (herrors : i'.counters.txErrors = i.counters.txErrors)
    (hqueues : i'.txQueues.length = i.txQueues.length) : Refuses index 0 0 w w' := by
  apply of_eq <;> intro j
  · rw [txErrors_def, hset, view_set hi, txErrors_def]
    split
    · next hj => rw [hj, hi, herrors]; rfl
    · rfl
  · rw [txQueueCount, hset, view_set hi, txQueueCount]
    split
    · next hj => rw [hj, hi, hqueues]; rfl
    · rfl

theorem modifyInterface {k : Nat} {f : Interface β → Interface β}
    (hcounters : ∀ i, (f i).counters = i.counters)
    (hqueues : ∀ i, (f i).txQueues.length = i.txQueues.length) (w : World β σ) :
    Refuses index 0 0 w (w.modifyInterface k f) := by
  cases hi : w.interfaces[k]? with
  | none =>
    apply of_interfaces
    rw [World.modifyInterface, List.modify_eq_set_getElem?, hi]
    rfl
  | some i =>
    have hset : (w.modifyInterface k f).interfaces = w.interfaces.set k (f i) := by
      rw [World.modifyInterface, List.modify_eq_set_getElem?, hi]
      rfl
    exact set hi hset (congrArg InterfaceCounters.txErrors (hcounters i)) (hqueues i)

theorem markFaulted (w : World β σ) (k : Nat) : Refuses index 0 0 w (w.markFaulted k) := by
  rw [World.markFaulted]
  apply modifyInterface <;> exact fun _ => rfl

theorem receive (w : World β σ) (k : Nat) (queue : QueueId) (max : Nat) :
    Refuses index 0 0 w (w.receive k queue max).2 := by
  rw [World.receive]
  split
  · exact .of_interfaces rfl
  · next i hi => exact .set hi rfl rfl rfl

theorem takeTransmitted (w : World β σ) (k : Nat) (queue : QueueId) :
    Refuses index 0 0 w (w.takeTransmitted k queue).2 := by
  rw [World.takeTransmitted]
  split
  · exact .of_interfaces rfl
  · next i hi => exact .set hi rfl rfl (List.length_modify _ _ _)

variable [FrameBuffer β]

theorem of_frees {freed : List β} (h : w.Frees w' freed) : Refuses index 0 0 w w' :=
  .of_interfaces h.interfaces_eq

theorem inject (w : World β σ) (k : Nat) (queue : QueueId) (burst : List β) :
    Refuses index 0 0 w (w.inject k queue burst).2 := by
  rw [World.inject]
  split
  · exact .of_interfaces rfl
  · next i hi =>
    apply set hi rfl
    case herrors =>
      rw [Interface.inject]
      split <;> rfl
    case hqueues => rw [i.txQueues_inject]

/-- Of a burst that is transmitted all is left that is not accepted. -/
theorem transmit (w : World β σ) (index : Nat) (queue : QueueId) (burst : List β) :
    Refuses index (w.transmit index queue burst).2.1.length
      (Interface.strays (w.txQueueCount index) queue burst) w
      (w.transmit index queue burst).2.2 := by
  rw [World.transmit]
  split
  · next hnone =>
    have hcount : w.txQueueCount index = 0 := by rw [txQueueCount, hnone]; rfl
    rw [hcount, Interface.strays_of_le (Nat.zero_le _)]
    exact ⟨fun _ => rfl, fun _ => rfl⟩
  · next i hi =>
    have herrors := i.txErrors_transmit w.registers queue burst w.wallNs
    have hqueues := i.length_txQueues_transmit w.registers queue burst w.wallNs
    constructor <;> intro j <;> simp only [release]
    · rw [txErrors_def, view_set hi, txErrors_def, txQueueCount, hi]
      split
      · next hj => rw [hj, hi]; exact herrors
      · rfl
    · rw [txQueueCount, view_set hi, txQueueCount]
      split
      · next hj => rw [hj, hi, hqueues]; rfl
      · rfl

end Refuses

end World

end EtherRelay
