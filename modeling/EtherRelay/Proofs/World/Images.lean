import EtherRelay.Proofs.World.Queues

/-!
# Worlds that differ in what the frames hold

`World.Carries f S w w'` says that at the interfaces `S` the world `w'` has the image under `f` of
each frame of `w`, and that these interfaces are alike in all that a forwarding context can tell:
their queues, limits and logs, and how many frames they counted. The bytes that were counted or
captured may differ, and so may everything else around the interfaces.

An operation on both worlds gives the same answer in both, up to `f`, and leaves them related.
-/

namespace EtherRelay

variable {α β σ τ : Type} {f : α → β}

/-- The queue with each kept frame replaced by its image. -/
def TxQueue.map (f : α → β) (tx : TxQueue α) : TxQueue β where
  limit := tx.limit
  transmitted := tx.transmitted.map f

/-- Replacing one of a list before or after its images are taken. -/
theorem map_modify {γ δ : Type} {g : γ → δ} {k : γ → γ} {k' : δ → δ} (h : ∀ x, k' (g x) = g (k x))
    (xs : List γ) (n : Nat) : (xs.map g).modify n k' = (xs.modify n k).map g := by
  apply List.ext_getElem?
  intro j
  rw [List.getElem?_map, List.getElem?_modify, List.getElem?_modify, List.getElem?_map]
  cases xs[j]? with
  | none => rfl
  | some x =>
      split
      · exact congrArg some (h x)
      · rfl

/-- The same numbers of frames were counted. -/
structure InterfaceCounters.SameFrames (c c' : InterfaceCounters) : Prop where
  rxPackets_eq : c'.rxPackets = c.rxPackets
  rxErrors_eq : c'.rxErrors = c.rxErrors
  txPackets_eq : c'.txPackets = c.txPackets
  txErrors_eq : c'.txErrors = c.txErrors

namespace Interface

/-- The interface with each frame replaced by its image. -/
def map (f : α → β) (i : Interface α) : Interface β where
  id := i.id
  rxQueues := i.rxQueues.map (List.map f)
  rxDepth := i.rxDepth
  txQueues := i.txQueues.map (TxQueue.map f)
  retains := i.retains
  transmitLog := i.transmitLog
  counters := i.counters
  hardware := i.hardware
  capture := i.capture
  faultyCall := i.faultyCall
  faulted := i.faulted

/-- The interface `i'` holds the images of the frames of `i`, and is like it in all that does not
depend on what frames hold. -/
structure Carries (f : α → β) (i : Interface α) (i' : Interface β) : Prop where
  id_eq : i'.id = i.id
  rxQueues_eq : i'.rxQueues = i.rxQueues.map (List.map f)
  rxDepth_eq : i'.rxDepth = i.rxDepth
  txQueues_eq : i'.txQueues = i.txQueues.map (TxQueue.map f)
  retains_eq : i'.retains = i.retains
  transmitLog_eq : i'.transmitLog = i.transmitLog
  counters_same : i.counters.SameFrames i'.counters
  faultyCall_eq : i'.faultyCall = i.faultyCall

theorem carries_map (i : Interface α) (f : α → β) : i.Carries f (i.map f) :=
  ⟨rfl, rfl, rfl, rfl, rfl, rfl, ⟨rfl, rfl, rfl, rfl⟩, rfl⟩

theorem carries_refl (i : Interface α) : i.Carries (fun b => b) i where
  id_eq := rfl
  rxQueues_eq := by simp
  rxDepth_eq := rfl
  txQueues_eq := by
    have hmap : TxQueue.map (fun b : α => b) = fun tx => tx := by
      funext tx
      exact congrArg (TxQueue.mk tx.limit) (List.map_id' _)
    rw [hmap, List.map_id']
  retains_eq := rfl
  transmitLog_eq := rfl
  counters_same := ⟨rfl, rfl, rfl, rfl⟩
  faultyCall_eq := rfl

/-- Images under a map that undoes another one. -/
theorem carries_map_of_leftInverse {g : β → α} (h : Function.LeftInverse g f) (i : Interface α) :
    (i.map f).Carries g i where
  id_eq := rfl
  rxQueues_eq := by simp [map, Function.comp_def, h _]
  rxDepth_eq := rfl
  txQueues_eq := by simp [map, TxQueue.map, Function.comp_def, h _]
  retains_eq := rfl
  transmitLog_eq := rfl
  counters_same := ⟨rfl, rfl, rfl, rfl⟩
  faultyCall_eq := rfl

namespace Carries

variable {i : Interface α} {i' : Interface β}

theorem pending_eq (h : i.Carries f i') (queue : QueueId) :
    i'.pending queue = (i.pending queue).map f := by
  rw [pending, h.rxQueues_eq, List.getD_eq_getElem?_getD, List.getElem?_map, pending,
    List.getD_eq_getElem?_getD]
  cases i.rxQueues[queue.toNat]? <;> rfl

theorem retainedOn_eq (h : i.Carries f i') (queue : QueueId) :
    i'.retainedOn queue = (i.retainedOn queue).map f := by
  rw [retainedOn, h.txQueues_eq, List.getElem?_map, retainedOn]
  cases i.txQueues[queue.toNat]? <;> rfl

theorem failsOn_eq (h : i.Carries f i') (call : InterfaceCall) :
    i'.failsOn call = i.failsOn call := by
  rw [failsOn, h.faultyCall_eq, failsOn]

theorem receive (h : i.Carries f i') (queue : QueueId) (max : Nat) :
    (i'.receive queue max).1 = (i.receive queue max).1.map f ∧
      (i.receive queue max).2.Carries f (i'.receive queue max).2 := by
  have hpending := h.pending_eq queue
  refine ⟨?_, { h with rxQueues_eq := ?_ }⟩
  · rw [Interface.receive, Interface.receive, hpending, List.map_take]
  · rw [Interface.receive, Interface.receive, h.rxQueues_eq, hpending, List.map_set,
      List.map_drop]

variable [FrameBuffer α] [FrameBuffer β] (registers registers' : Hardware.Registers)
variable (queue : QueueId) (burst : List α)

theorem inject (h : i.Carries f i') :
    (i'.inject registers' queue (burst.map f)).accepted =
        (i.inject registers queue burst).accepted ∧
      (i.inject registers queue burst).interface.Carries f
        (i'.inject registers' queue (burst.map f)).interface := by
  have hsame := h.counters_same
  rw [Interface.inject, Interface.inject, h.rxQueues_eq, List.getElem?_map]
  cases i.rxQueues[queue.toNat]? with
  | none =>
      simp only [Option.map_none, List.length_map, true_and]
      refine { h with rxQueues_eq := rfl, counters_same := ?_ }
      exact ⟨hsame.rxPackets_eq, by simp [hsame.rxErrors_eq], hsame.txPackets_eq,
        hsame.txErrors_eq⟩
  | some waiting =>
      simp only [Option.map_some, h.rxDepth_eq, List.length_map, ← List.map_take,
        ← List.map_drop, ← List.map_append, true_and]
      refine { h with rxQueues_eq := ?_, rxDepth_eq := rfl, counters_same := ?_ }
      · rw [List.map_set]
      · exact ⟨by simp [hsame.rxPackets_eq], by simp [hsame.rxErrors_eq], hsame.txPackets_eq,
          hsame.txErrors_eq⟩

theorem transmit (h : i.Carries f i') (ns ns' : Nat) :
    (i'.transmit registers' ns' queue (burst.map f)).accepted =
        (i.transmit registers ns queue burst).accepted ∧
      (i'.transmit registers' ns' queue (burst.map f)).refused =
        (i.transmit registers ns queue burst).refused.map f ∧
      (i.transmit registers ns queue burst).interface.Carries f
        (i'.transmit registers' ns' queue (burst.map f)).interface := by
  have hsame := h.counters_same
  rw [Interface.transmit, Interface.transmit, h.txQueues_eq, List.getElem?_map]
  cases i.txQueues[queue.toNat]? with
  | none => exact ⟨rfl, rfl, h⟩
  | some tx =>
      simp only [Option.map_some, TxQueue.map, List.length_map, ← List.map_take, ← List.map_drop,
        ← List.map_append, h.retains_eq, h.transmitLog_eq, true_and]
      refine { h with
        txQueues_eq := ?_, retains_eq := rfl, transmitLog_eq := rfl, counters_same := ?_ }
      · split
        · rw [List.map_set]
          rfl
        · rfl
      · exact ⟨hsame.rxPackets_eq, hsame.rxErrors_eq, by simp [hsame.txPackets_eq],
          by simp [hsame.txErrors_eq]⟩

omit [FrameBuffer α] [FrameBuffer β] in
theorem setTxLimit (h : i.Carries f i') (limit : Option Nat) :
    (i.setTxLimit queue limit).Carries f (i'.setTxLimit queue limit) := by
  refine { h with txQueues_eq := ?_ }
  rw [Interface.setTxLimit, Interface.setTxLimit, h.txQueues_eq]
  refine map_modify ?_ _ _
  exact fun _ => rfl

omit [FrameBuffer α] [FrameBuffer β] in
theorem takeTransmitted (h : i.Carries f i') :
    (i'.takeTransmitted queue).1 = (i.takeTransmitted queue).1.map f ∧
      (i.takeTransmitted queue).2.Carries f (i'.takeTransmitted queue).2 := by
  refine ⟨h.retainedOn_eq queue, { h with txQueues_eq := ?_ }⟩
  rw [Interface.takeTransmitted, Interface.takeTransmitted, h.txQueues_eq]
  refine map_modify ?_ _ _
  exact fun _ => rfl

end Carries

end Interface

namespace World

variable {S : Nat → Prop}

/-- At each of the interfaces `S`, the world `w'` carries the images of the frames of `w`. -/
def Carries (f : α → β) (S : Nat → Prop) (w : World α σ) (w' : World β τ) : Prop :=
  ∀ j, S j → Option.Rel (Interface.Carries f) w.interfaces[j]? w'.interfaces[j]?

/-- The world with the frames of its interfaces replaced by their images. -/
def map (f : α → β) (w : World α σ) : World β σ where
  interfaces := w.interfaces.map (Interface.map f)
  registers := w.registers
  sink := w.sink
  clock := w.clock
  wallNs := w.wallNs
  pool := w.pool
  log := w.log
  workerLog := w.workerLog

theorem carries_map_of_leftInverse {g : β → α} (h : Function.LeftInverse g f) (w : World α σ) :
    (w.map f).Carries g S w := by
  intro j _
  rw [map, List.getElem?_map]
  generalize w.interfaces[j]? = i?
  cases i? with
  | none => exact .none
  | some i => exact .some (Interface.carries_map_of_leftInverse h i)

theorem carries_refl (w : World α σ) : w.Carries (fun b => b) S w := by
  intro j _
  generalize w.interfaces[j]? = i?
  cases i? with
  | none => exact .none
  | some i => exact .some i.carries_refl

namespace Carries

variable {w w₁ : World α σ} {w' w₁' : World β τ} {index : Nat}

/-- An interface is missing in both worlds or there in both. -/
theorem missing_or_there (h : w.Carries f S w') (hS : S index) :
    (w.interfaces[index]? = none ∧ w'.interfaces[index]? = none) ∨
      ∃ i i', w.interfaces[index]? = some i ∧ w'.interfaces[index]? = some i' ∧
        i.Carries f i' := by
  have hrel := h index hS
  generalize w.interfaces[index]? = i? at hrel
  generalize w'.interfaces[index]? = i'? at hrel
  cases hrel with
  | none => exact .inl ⟨rfl, rfl⟩
  | some hi => exact .inr ⟨_, _, rfl, rfl, hi⟩

/-- A step that leaves the interfaces `S` as they are, in either world. -/
theorem elsewhere (h : w.Carries f S w') (hw : ∀ j, S j → w₁.interfaces[j]? = w.interfaces[j]?)
    (hw' : ∀ j, S j → w₁'.interfaces[j]? = w'.interfaces[j]?) : w₁.Carries f S w₁' := by
  intro j hj
  rw [hw j hj, hw' j hj]
  exact h j hj

theorem of_interfaces (h : w.Carries f S w') (hw : w₁.interfaces = w.interfaces)
    (hw' : w₁'.interfaces = w'.interfaces) : w₁.Carries f S w₁' :=
  h.elsewhere (fun _ _ => by rw [hw]) (fun _ _ => by rw [hw'])

/-- What both worlds show of an interface. -/
theorem view_eq {γ : Type} {view : Interface α → γ} {view' : Interface β → γ} {d : γ}
    (h : w.Carries f S w') (hS : S index)
    (hview : ∀ {i i'}, Interface.Carries f i i' → view' i' = view i) :
    (w'.interfaces[index]?.map view').getD d = (w.interfaces[index]?.map view).getD d := by
  rcases h.missing_or_there hS with ⟨hi, hi'⟩ | ⟨i, i', hi, hi', hcarries⟩
  · rw [hi, hi']
    rfl
  · rw [hi, hi']
    exact hview hcarries

theorem failsOn_eq (h : w.Carries f S w') (hS : S index) (call : InterfaceCall) :
    w'.failsOn index call = w.failsOn index call :=
  h.view_eq hS fun hi => hi.failsOn_eq call

theorem pending_eq (h : w.Carries f S w') (hS : S index) (queue : QueueId) :
    w'.pending index queue = (w.pending index queue).map f := by
  rcases h.missing_or_there hS with ⟨hi, hi'⟩ | ⟨i, i', hi, hi', hcarries⟩
  · rw [pending, hi', pending, hi]
    rfl
  · rw [w'.pending_eq hi', w.pending_eq hi, hcarries.pending_eq]

theorem retainedOn_eq (h : w.Carries f S w') (hS : S index) (queue : QueueId) :
    w'.retainedOn index queue = (w.retainedOn index queue).map f := by
  rcases h.missing_or_there hS with ⟨hi, hi'⟩ | ⟨i, i', hi, hi', hcarries⟩
  · rw [retainedOn, hi', retainedOn, hi]
    rfl
  · rw [w'.retainedOn_eq hi', w.retainedOn_eq hi, hcarries.retainedOn_eq]

theorem transmitLog_eq (h : w.Carries f S w') (hS : S index) :
    w'.interfaces[index]?.map Interface.transmitLog =
      w.interfaces[index]?.map Interface.transmitLog := by
  rcases h.missing_or_there hS with ⟨hi, hi'⟩ | ⟨i, i', hi, hi', hcarries⟩
  · rw [hi, hi']
    rfl
  · rw [hi, hi', Option.map_some, Option.map_some, hcarries.transmitLog_eq]

/-- Both worlds replace an interface. -/
theorem set {i : Interface α} {i' : Interface β} (h : w.Carries f S w') (hi : i.Carries f i')
    (hw : w₁.interfaces = w.interfaces.set index i)
    (hw' : w₁'.interfaces = w'.interfaces.set index i') : w₁.Carries f S w₁' := by
  intro j hj
  rw [hw, hw', List.getElem?_set', List.getElem?_set']
  split
  · next heq =>
    subst heq
    rcases h.missing_or_there hj with ⟨hold, hold'⟩ | ⟨_, _, hold, hold', _⟩
    · rw [hold, hold']
      exact .none
    · rw [hold, hold']
      exact .some hi
  · exact h j hj

/-- Both worlds change one interface alike. -/
theorem modifyInterface {k : Interface α → Interface α} {k' : Interface β → Interface β}
    (h : w.Carries f S w') (index : Nat)
    (hk : ∀ {i i'}, Interface.Carries f i i' → (k i).Carries f (k' i')) :
    (w.modifyInterface index k).Carries f S (w'.modifyInterface index k') := by
  intro j hj
  rw [World.modifyInterface, World.modifyInterface, List.getElem?_modify, List.getElem?_modify]
  rcases h.missing_or_there hj with ⟨hi, hi'⟩ | ⟨i, i', hi, hi', hcarries⟩
  · rw [hi, hi']
    exact .none
  · rw [hi, hi']
    refine .some ?_
    split
    · exact hk hcarries
    · exact hcarries

theorem markFaulted (h : w.Carries f S w') (index : Nat) :
    (w.markFaulted index).Carries f S (w'.markFaulted index) :=
  h.modifyInterface index fun hi => { hi with }

theorem receive (h : w.Carries f S w') (index : Nat) (hS : S index) (queue : QueueId)
    (max : Nat) :
    (w'.receive index queue max).1 = (w.receive index queue max).1.map f ∧
      (w.receive index queue max).2.Carries f S (w'.receive index queue max).2 := by
  rcases h.missing_or_there hS with ⟨hi, hi'⟩ | ⟨i, i', hi, hi', hcarries⟩
  · simp only [World.receive, hi, hi']
    exact ⟨rfl, h⟩
  · simp only [World.receive, hi, hi']
    obtain ⟨hframes, hafter⟩ := hcarries.receive queue max
    exact ⟨hframes, h.set hafter rfl rfl⟩

theorem takeTransmitted (h : w.Carries f S w') (index : Nat) (hS : S index) (queue : QueueId) :
    (w'.takeTransmitted index queue).1 = (w.takeTransmitted index queue).1.map f ∧
      (w.takeTransmitted index queue).2.Carries f S (w'.takeTransmitted index queue).2 := by
  rcases h.missing_or_there hS with ⟨hi, hi'⟩ | ⟨i, i', hi, hi', hcarries⟩
  · simp only [World.takeTransmitted, hi, hi']
    exact ⟨rfl, h⟩
  · simp only [World.takeTransmitted, hi, hi']
    obtain ⟨hframes, hafter⟩ := hcarries.takeTransmitted queue
    exact ⟨hframes, h.set hafter rfl rfl⟩

variable [FrameBuffer α] [FrameBuffer β]

theorem inject (h : w.Carries f S w') (index : Nat) (hS : S index) (queue : QueueId)
    (burst : List α) :
    (w'.inject index queue (burst.map f)).1 = (w.inject index queue burst).1 ∧
      (w.inject index queue burst).2.Carries f S (w'.inject index queue (burst.map f)).2 := by
  rcases h.missing_or_there hS with ⟨hi, hi'⟩ | ⟨i, i', hi, hi', hcarries⟩
  · simp only [World.inject, hi, hi', true_and]
    exact h
  · simp only [World.inject, hi, hi']
    obtain ⟨haccepted, hafter⟩ := hcarries.inject w.registers w'.registers queue burst
    exact ⟨haccepted, h.set hafter rfl rfl⟩

theorem transmit (h : w.Carries f S w') (index : Nat) (hS : S index) (queue : QueueId)
    (burst : List α) :
    (w'.transmit index queue (burst.map f)).1 = (w.transmit index queue burst).1 ∧
      (w'.transmit index queue (burst.map f)).2.1 = (w.transmit index queue burst).2.1.map f ∧
      (w.transmit index queue burst).2.2.Carries f S
        (w'.transmit index queue (burst.map f)).2.2 := by
  rcases h.missing_or_there hS with ⟨hi, hi'⟩ | ⟨i, i', hi, hi', hcarries⟩
  · simp only [World.transmit, hi, hi', true_and]
    exact h
  · simp only [World.transmit, hi, hi']
    obtain ⟨haccepted, hrefused, hafter⟩ :=
      hcarries.transmit w.registers w'.registers queue burst w.wallNs w'.wallNs
    exact ⟨haccepted, hrefused, h.set hafter rfl rfl⟩

end Carries

theorem carries_map (w : World α σ) (f : α → β) : w.Carries f S (w.map f) := by
  intro j _
  rw [map, List.getElem?_map]
  generalize w.interfaces[j]? = i?
  cases i? with
  | none => exact .none
  | some i => exact .some (i.carries_map f)

theorem pending_map (f : α → β) (w : World α σ) (index : Nat) (queue : QueueId) :
    (w.map f).pending index queue = (w.pending index queue).map f :=
  (w.carries_map f).pending_eq (S := fun _ => True) trivial queue

theorem retainedOn_map (f : α → β) (w : World α σ) (index : Nat) (queue : QueueId) :
    (w.map f).retainedOn index queue = (w.retainedOn index queue).map f :=
  (w.carries_map f).retainedOn_eq (S := fun _ => True) trivial queue

end World

end EtherRelay
