import EtherRelay.Proofs.Buffer.Lending
import EtherRelay.Proofs.World.Frees
import EtherRelay.Proofs.World.Queues

/-!
# Where the lent buffers are

A lent buffer waits in a receive queue, is kept by an interface that transmitted it, or is
outside the interfaces. `World.Lends` says how many are outside. Each operation of the world
moves buffers between these places or gives them back, and loses none.
-/

namespace EtherRelay

variable {σ : Type}

/-- One summand can be replaced without touching the rest of a sum. -/
theorem sum_map_eq_add {γ : Type} {xs : List γ} {k : Nat} {old : γ} (h : xs[k]? = some old)
    (f : γ → Nat) : ∃ rest, (xs.map f).sum = rest + f old ∧
      ∀ new, ((xs.set k new).map f).sum = rest + f new := by
  induction xs generalizing k with
  | nil => cases h
  | cons x xs ih =>
      cases k with
      | zero =>
          cases h
          refine ⟨(xs.map f).sum, ?_, ?_⟩
          · rw [List.map_cons, List.sum_cons, Nat.add_comm]
          · intro new
            rw [List.set_cons_zero, List.map_cons, List.sum_cons, Nat.add_comm]
      | succ k =>
          obtain ⟨rest, hold, hnew⟩ := ih (List.getElem?_cons_succ.symm.trans h)
          refine ⟨f x + rest, ?_, ?_⟩
          · rw [List.map_cons, List.sum_cons, hold, Nat.add_assoc]
          · intro new
            rw [List.set_cons_succ, List.map_cons, List.sum_cons, hnew, Nat.add_assoc]

/-- Replacing one summand changes a sum by the difference. -/
theorem sum_map_set {γ : Type} {xs : List γ} {k : Nat} {old : γ} (h : xs[k]? = some old)
    (f : γ → Nat) (new : γ) :
    ((xs.set k new).map f).sum + f old = (xs.map f).sum + f new := by
  obtain ⟨rest, hold, hnew⟩ := sum_map_eq_add h f
  rw [hold, hnew]
  omega

namespace Interface

/-- The pooled buffers that wait in the receive queues. -/
def waiting (i : Interface Buffer) : Nat := (i.rxQueues.map pooledIn).sum

/-- The pooled buffers that the interface keeps after transmission. -/
def retained (i : Interface Buffer) : Nat :=
  (i.txQueues.map fun tx => pooledIn tx.transmitted).sum

variable (i : Interface Buffer) (registers : Hardware.Registers) (queue : QueueId)
variable (burst : List Buffer)

theorem waiting_receive (max : Nat) :
    (i.receive queue max).2.waiting + pooledIn (i.receive queue max).1 = i.waiting := by
  cases hw : i.rxQueues[queue.toNat]? with
  | none =>
      have hset : (i.receive queue max).2.rxQueues = i.rxQueues :=
        List.set_eq_of_length_le (List.getElem?_eq_none_iff.mp hw)
      have hnil : (i.receive queue max).1 = [] := by
        rw [receive, i.pending_eq_nil hw, List.take_nil]
      rw [waiting, hset, hnil, pooledIn_nil, Nat.add_zero, waiting]
  | some held =>
      have hsum := sum_map_set hw pooledIn (held.drop max)
      have hsplit := pooledIn_append (held.take max) (held.drop max)
      rw [List.take_append_drop] at hsplit
      rw [waiting, receive, i.pending_eq hw, waiting]
      dsimp only
      omega

theorem waiting_inject :
    (i.inject registers queue burst).interface.waiting +
        pooledIn (i.inject registers queue burst).refused = i.waiting + pooledIn burst := by
  cases hw : i.rxQueues[queue.toNat]? with
  | none =>
      obtain ⟨_, hrefused, hqueues⟩ := i.inject_missing registers queue burst hw
      rw [waiting, hqueues, hrefused, waiting]
  | some held =>
      obtain ⟨_, hrefused, hqueues⟩ := i.inject_existing registers queue burst hw
      have hsum := sum_map_set hw pooledIn (held ++ burst.take (i.rxDepth - held.length))
      have hsplit := pooledIn_append (burst.take (i.rxDepth - held.length))
        (burst.drop (i.rxDepth - held.length))
      rw [List.take_append_drop] at hsplit
      rw [pooledIn_append] at hsum
      rw [waiting, hqueues, hrefused, waiting]
      omega

theorem retained_transmit (ns : Nat) :
    (i.transmit registers ns queue burst).interface.retained +
        pooledIn (i.transmit registers ns queue burst).givenUp +
        pooledIn (i.transmit registers ns queue burst).refused =
      i.retained + pooledIn burst := by
  cases ht : i.txQueues[queue.toNat]? with
  | none =>
      obtain ⟨_, hrefused, hgiven, hqueues⟩ := i.transmit_missing registers queue burst ns ht
      rw [retained, hqueues, hrefused, hgiven, retained, pooledIn_nil, Nat.add_zero]
  | some tx =>
      obtain ⟨_, hrefused, hgiven, hqueues⟩ := i.transmit_existing registers queue burst ns ht
      generalize min (tx.limit.getD burst.length) burst.length = n at hrefused hgiven hqueues
      have hsplit := pooledIn_append (burst.take n) (burst.drop n)
      rw [List.take_append_drop] at hsplit
      rw [retained, hqueues, hrefused, hgiven, retained]
      split
      · have hsum := sum_map_set ht (fun tx => pooledIn tx.transmitted)
          { tx with transmitted := tx.transmitted ++ burst.take n }
        rw [pooledIn_append] at hsum
        rw [pooledIn_nil]
        omega
      · omega

theorem retained_takeTransmitted :
    (i.takeTransmitted queue).2.retained + pooledIn (i.takeTransmitted queue).1 =
      i.retained := by
  rw [takeTransmitted_fst, retained, takeTransmitted, retainedOn, retained]
  dsimp only
  rw [List.modify_eq_set_getElem?]
  cases ht : i.txQueues[queue.toNat]? with
  | none => rfl
  | some tx =>
      have hsum := sum_map_set ht (fun tx => pooledIn tx.transmitted)
        { tx with transmitted := [] }
      rw [pooledIn_nil, Nat.add_zero] at hsum
      exact hsum

theorem retained_setTxLimit (limit : Option Nat) :
    (i.setTxLimit queue limit).retained = i.retained := by
  rw [retained, setTxLimit, List.modify_eq_set_getElem?, retained]
  cases ht : i.txQueues[queue.toNat]? with
  | none => rfl
  | some tx =>
      have hsum := sum_map_set ht (fun tx => pooledIn tx.transmitted) { tx with limit }
      exact Nat.add_right_cancel hsum

theorem waiting_create (id : InterfaceId) (rxQueues txQueues rxDepth : Nat) :
    (create id rxQueues txQueues rxDepth : Interface Buffer).waiting = 0 := by
  rw [waiting, create, List.map_replicate, pooledIn_nil]
  exact List.sum_replicate_nat.trans (Nat.mul_zero rxQueues)

theorem retained_create (id : InterfaceId) (rxQueues txQueues rxDepth : Nat) :
    (create id rxQueues txQueues rxDepth : Interface Buffer).retained = 0 := by
  rw [retained, create, List.map_replicate, pooledIn_nil]
  exact List.sum_replicate_nat.trans (Nat.mul_zero txQueues)

end Interface

namespace World

/-- The pooled buffers that wait in receive queues. -/
def waiting (w : World Buffer σ) : Nat := (w.interfaces.map Interface.waiting).sum

/-- The pooled buffers that interfaces keep after transmission. -/
def retained (w : World Buffer σ) : Nat := (w.interfaces.map Interface.retained).sum

/-- Of the buffers that the pool of this capacity has lent, `outside` are not at an interface. -/
def Lends (w : World Buffer σ) (capacity outside : Nat) : Prop :=
  w.pool.Lends capacity (w.waiting + w.retained + outside)

namespace Lends

variable {w w' : World Buffer σ} {capacity n : Nat}

theorem release {buffers : List Buffer} (h : w.Lends capacity (n + pooledIn buffers)) :
    (w.release buffers).Lends capacity n := by
  rw [Lends, ← Nat.add_assoc] at h
  exact h.releaseAll

theorem frees {freed : List Buffer} (h : w.Lends capacity (n + pooledIn freed)) (hf : w.Frees w' freed) :
    w'.Lends capacity n := by
  rw [Lends, ← Nat.add_assoc] at h
  rw [Lends, waiting, retained, hf.interfaces_eq, hf.pool_eq]
  exact h.releaseAll

theorem frees_nil (h : w.Lends capacity n) (hf : w.Frees w' []) : w'.Lends capacity n :=
  frees (by rwa [pooledIn_nil, Nat.add_zero]) hf

/-- One of many holders acts, and the others keep what they hold. -/
theorem actAt {γ : Type} {index : Nat} {xs : List γ} {x x' : γ} {Keep : γ → Prop} {pooled : γ → Nat}
    (hw : w.Lends capacity (n + (xs.map pooled).sum)) (hxs : ∀ y ∈ xs, Keep y)
    (hx : xs[index]? = some x)
    (hact : ∀ m, Keep x → w.Lends capacity (m + pooled x) →
      Keep x' ∧ w'.Lends capacity (m + pooled x')) :
    (∀ y ∈ xs.set index x', Keep y) ∧
      w'.Lends capacity (n + ((xs.set index x').map pooled).sum) := by
  obtain ⟨rest, hold, hnew⟩ := sum_map_eq_add hx pooled
  rw [hold, ← Nat.add_assoc] at hw
  obtain ⟨hkeep, hlends⟩ := hact (n + rest) (hxs x (List.mem_of_getElem? hx)) hw
  constructor
  · intro y hy
    rcases List.mem_or_eq_of_mem_set hy with hold | rfl
    · exact hxs y hold
    · exact hkeep
  · rw [hnew, ← Nat.add_assoc]
    exact hlends

theorem elsewhere (h : w.Lends capacity n) (hinterfaces : w'.interfaces = w.interfaces)
    (hpool : w'.pool = w.pool) : w'.Lends capacity n := by
  rw [Lends, waiting, retained, hinterfaces, hpool]
  exact h

theorem alloc (h : w.Lends capacity n) :
    World.Lends { w with pool := w.pool.alloc.2 } capacity
      (n + pooledIn w.pool.alloc.1.toList) := by
  rw [Lends, ← Nat.add_assoc]
  exact Pool.Lends.alloc h

theorem allocFrame (h : w.Lends capacity n) (frame : Bytes) :
    World.Lends { w with pool := (w.pool.allocFrame frame).2 } capacity
      (n + pooledIn (w.pool.allocFrame frame).1.toList) := by
  rw [Lends, ← Nat.add_assoc]
  exact Pool.Lends.allocFrame h frame

/-- A new interface has no buffers. -/
theorem attach (h : w.Lends capacity n) (id : InterfaceId) (rxQueues txQueues rxDepth : Nat) :
    World.Lends { w with interfaces := w.interfaces ++ [.create id rxQueues txQueues rxDepth] }
      capacity n := by
  rw [Lends, waiting, retained]
  simp only [List.map_append, List.map_cons, List.map_nil, List.sum_append, List.sum_singleton,
    Interface.waiting_create, Interface.retained_create, Nat.add_zero]
  exact h

/-- One interface trades buffers with the outside. -/
theorem replace {index before after : Nat} {i i' : Interface Buffer}
    (h : w.Lends capacity (n + before)) (hi : w.interfaces[index]? = some i)
    (hset : w'.interfaces = w.interfaces.set index i') (hpool : w'.pool = w.pool)
    (hsame : i'.waiting + i'.retained + after = i.waiting + i.retained + before) :
    w'.Lends capacity (n + after) := by
  have hwaiting := sum_map_set hi Interface.waiting i'
  have hretained := sum_map_set hi Interface.retained i'
  have htotal : w'.waiting + w'.retained + (n + after) =
      w.waiting + w.retained + (n + before) := by
    rw [waiting, retained, hset, waiting, retained]
    omega
  rw [Lends, htotal, hpool]
  exact h

variable (index : Nat) (queue : QueueId)

theorem receive (h : w.Lends capacity n) (max : Nat) :
    (w.receive index queue max).2.Lends capacity (n + pooledIn (w.receive index queue max).1) := by
  rw [World.receive]
  split
  · exact h
  · next i hi =>
    have hwaiting := i.waiting_receive queue max
    have hretained : (i.receive queue max).2.retained = i.retained := rfl
    have hsame : (i.receive queue max).2.waiting + (i.receive queue max).2.retained +
        pooledIn (i.receive queue max).1 = i.waiting + i.retained + 0 := by omega
    exact replace h hi rfl rfl hsame

theorem inject {burst : List Buffer} (h : w.Lends capacity (n + pooledIn burst)) :
    (w.inject index queue burst).2.Lends capacity n := by
  rw [World.inject]
  split
  · exact h.release
  · next i hi =>
    have hwaiting := i.waiting_inject w.registers queue burst
    have hretained : (i.inject w.registers queue burst).interface.retained = i.retained := by
      rw [Interface.retained, i.txQueues_inject, Interface.retained]
    have hsame : (i.inject w.registers queue burst).interface.waiting +
        (i.inject w.registers queue burst).interface.retained +
        pooledIn (i.inject w.registers queue burst).refused =
          i.waiting + i.retained + pooledIn burst := by omega
    exact release (replace h hi rfl rfl hsame)

theorem transmit {burst : List Buffer} (h : w.Lends capacity (n + pooledIn burst)) :
    (w.transmit index queue burst).2.2.Lends capacity
      (n + pooledIn (w.transmit index queue burst).2.1) := by
  rw [World.transmit]
  split
  · exact h
  · next i hi =>
    have hretained := i.retained_transmit w.registers queue burst w.wallNs
    have hwaiting : (i.transmit w.registers w.wallNs queue burst).interface.waiting =
        i.waiting := by
      rw [Interface.waiting, i.rxQueues_transmit, Interface.waiting]
    have hsame : (i.transmit w.registers w.wallNs queue burst).interface.waiting +
        (i.transmit w.registers w.wallNs queue burst).interface.retained +
        (pooledIn (i.transmit w.registers w.wallNs queue burst).refused +
          pooledIn (i.transmit w.registers w.wallNs queue burst).givenUp) =
        i.waiting + i.retained + pooledIn burst := by omega
    refine release ?_
    rw [Nat.add_assoc]
    exact replace h hi rfl rfl hsame

theorem takeTransmitted (h : w.Lends capacity n) :
    (w.takeTransmitted index queue).2.Lends capacity
      (n + pooledIn (w.takeTransmitted index queue).1) := by
  rw [World.takeTransmitted]
  split
  · exact h
  · next i hi =>
    have hretained := i.retained_takeTransmitted queue
    have hwaiting : (i.takeTransmitted queue).2.waiting = i.waiting := rfl
    have hsame : (i.takeTransmitted queue).2.waiting + (i.takeTransmitted queue).2.retained +
        pooledIn (i.takeTransmitted queue).1 = i.waiting + i.retained + 0 := by omega
    exact replace h hi rfl rfl hsame

/-- Settings of an interface are not buffers. -/
theorem modifyInterface {f : Interface Buffer → Interface Buffer} (h : w.Lends capacity n)
    (hwaiting : ∀ i, (f i).waiting = i.waiting) (hretained : ∀ i, (f i).retained = i.retained) :
    (w.modifyInterface index f).Lends capacity n := by
  cases hi : w.interfaces[index]? with
  | none =>
      have hkept : w.interfaces.modify index f = w.interfaces := by
        rw [List.modify_eq_set_getElem?, hi]
        rfl
      rw [World.modifyInterface, hkept]
      exact h
  | some i =>
      have hset : w.interfaces.modify index f = w.interfaces.set index (f i) := by
        rw [List.modify_eq_set_getElem?, hi]
        rfl
      have hsame : (f i).waiting + (f i).retained + 0 = i.waiting + i.retained + 0 := by
        rw [hwaiting, hretained]
      have hmoved : (w.modifyInterface index f).Lends capacity (n + 0) :=
        replace h hi hset rfl hsame
      exact hmoved

theorem setTxLimit (h : w.Lends capacity n) (limit : Option Nat) :
    (w.modifyInterface index fun i => i.setTxLimit queue limit).Lends capacity n :=
  h.modifyInterface index (fun _ => rfl) (fun i => i.retained_setTxLimit queue limit)

theorem markFaulted (h : w.Lends capacity n) : (w.markFaulted index).Lends capacity n :=
  h.modifyInterface index (fun _ => rfl) (fun _ => rfl)

end Lends

end World

end EtherRelay
