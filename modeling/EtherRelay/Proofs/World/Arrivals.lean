import EtherRelay.Proofs.Capture.Tapping
import EtherRelay.Proofs.Hardware.Counting
import EtherRelay.Proofs.World.Queues

/-!
# What becomes of frames that arrive

A receive queue holds a bounded number of frames. Of a burst it accepts the first ones, as many as
there is room for, and misses the others; a queue that does not exist accepts none. The interface
counts both, in totals over all its queues. `Interface.Handles` says what some calls did: which
frames each queue accepted, which were taken out of it, and how many were missed.

The main statement follows a new interface through any calls. Every queue stays within its depth and
hands out the frames that it accepted, in order; the counters agree with what was accepted and
missed; and a burst that arrives in two parts leaves the interface as if it had arrived at once.
-/

namespace EtherRelay

namespace Interface

variable {β : Type}

/-- The frames of one queue. -/
def onQueue (queue : QueueId) (frames : List (QueueId × β)) : List β :=
  (frames.filter fun e => e.1 == queue).map Prod.snd

@[simp] theorem onQueue_nil (queue : QueueId) : onQueue queue ([] : List (QueueId × β)) = [] := rfl

@[simp] theorem onQueue_append (queue : QueueId) (frames frames' : List (QueueId × β)) :
    onQueue queue (frames ++ frames') = onQueue queue frames ++ onQueue queue frames' := by
  rw [onQueue, List.filter_append, List.map_append, onQueue, onQueue]

/-- Frames that all belong to one queue. -/
theorem onQueue_map (queue queue' : QueueId) (frames : List β) :
    onQueue queue (frames.map fun b => (queue', b)) = if queue = queue' then frames else [] := by
  by_cases h : queue' = queue
  · simp [onQueue, List.filter_map, Function.comp_def, h]
  · simp [onQueue, List.filter_map, Function.comp_def, h, Ne.symm h]

/-- How many frames a call lets arrive. -/
def Call.arriving : Call β → Nat
  | .inject _ burst => burst.length
  | _ => 0

/-- How many frames several calls let arrive. -/
def arrivingAll (calls : List (Call β)) : Nat := (calls.map Call.arriving).sum

/-- The frames that a call takes out of a receive queue. -/
def taken (s : Wired β) : Call β → List (QueueId × β)
  | .receive queue max => (s.1.receive queue max).1.map fun b => (queue, b)
  | _ => []

section

variable [FrameBuffer β]

/-- The frames of a call that a receive queue accepts. -/
def arrived (s : Wired β) : Call β → List (QueueId × β)
  | .inject queue burst =>
    (burst.take (s.1.inject s.2 queue burst).accepted).map fun b => (queue, b)
  | _ => []

/-- How many frames of a call are missed. -/
def missed (s : Wired β) : Call β → Nat
  | .inject queue burst => (s.1.inject s.2 queue burst).refused.length
  | _ => 0

/-- The frames that several calls take out of receive queues, in order. -/
def takenAll (s : Wired β) : List (Call β) → List (QueueId × β)
  | [] => []
  | c :: calls => taken s c ++ takenAll (call s c) calls

/-- The frames of several calls that receive queues accept, in order. -/
def arrivedAll (s : Wired β) : List (Call β) → List (QueueId × β)
  | [] => []
  | c :: calls => arrived s c ++ arrivedAll (call s c) calls

/-- How many frames of several calls are missed. -/
def missedAll (s : Wired β) : List (Call β) → Nat
  | [] => 0
  | c :: calls => missed s c + missedAll (call s c) calls

/-- What a burst that arrives at a queue comes to. -/
structure Admits (i : Interface β) (queue : QueueId) (burst : List β) (o : Outcome β) : Prop where
  /-- A queue that exists accepts the first frames, as many as there is room for. -/
  existing : ∀ waiting, i.rxQueues[queue.toNat]? = some waiting →
    o.accepted = min burst.length (i.rxDepth - waiting.length) ∧
      o.refused = burst.drop o.accepted ∧
      o.interface.rxQueues = i.rxQueues.set queue.toNat (waiting ++ burst.take o.accepted)
  /-- A queue that does not exist accepts none. -/
  missing : i.rxQueues[queue.toNat]? = none →
    o.accepted = 0 ∧ o.refused = burst ∧ o.interface.rxQueues = i.rxQueues

/-- Between `i` and `i'` receive queues accepted the frames `arrived`, lost the frames `taken` to
those who received them, and missed so many. -/
structure Handles (i i' : Interface β) (arrived taken : List (QueueId × β)) (missed : Nat) :
    Prop where
  rxDepth_eq : i'.rxDepth = i.rxDepth
  /-- No queue outgrows the depth. -/
  depth_le : (∀ queue, (i.pending queue).length ≤ i.rxDepth) →
    ∀ queue, (i'.pending queue).length ≤ i'.rxDepth
  /-- What was taken and what still waits is what waited and what was accepted. -/
  fifo : ∀ queue, onQueue queue taken ++ i'.pending queue =
    i.pending queue ++ onQueue queue arrived
  rxPackets_eq : i'.counters.rxPackets = i.counters.rxPackets + UInt64.ofNat arrived.length
  rxBytes_eq : i'.counters.rxBytes =
    i.counters.rxBytes + UInt64.ofNat (byteCount (arrived.map Prod.snd))
  rxErrors_eq : i'.counters.rxErrors = i.counters.rxErrors + UInt64.ofNat missed

/-! ## One burst -/

variable (i : Interface β) (registers : Hardware.Registers) (queue : QueueId) (burst : List β)

theorem inject_admits : i.Admits queue burst (i.inject registers queue burst) := by
  constructor
  case existing =>
    intro waiting hwaiting
    obtain ⟨haccepted, hrefused, hqueues⟩ := i.inject_existing registers queue burst hwaiting
    refine ⟨?_, ?_, ?_⟩
    · rw [haccepted, Nat.min_comm]
    · rw [hrefused, haccepted, List.drop_eq_drop_iff]
      omega
    · rw [hqueues, haccepted, ← List.take_eq_take_min]
  case missing =>
    intro hnone
    exact i.inject_missing registers queue burst hnone

/-- The frames of a burst that are not accepted are missed. -/
theorem accepted_add_refused :
    (i.inject registers queue burst).accepted + (i.inject registers queue burst).refused.length =
      burst.length := by
  have hadmits := i.inject_admits registers queue burst
  cases h : i.rxQueues[queue.toNat]? with
  | none =>
    obtain ⟨haccepted, hrefused, -⟩ := hadmits.missing h
    rw [haccepted, hrefused, Nat.zero_add]
  | some waiting =>
    obtain ⟨haccepted, hrefused, -⟩ := hadmits.existing waiting h
    rw [hrefused, List.length_drop]
    omega

theorem byteCount_append (frames frames' : List β) :
    byteCount (frames ++ frames') = byteCount frames + byteCount frames' := by
  induction frames with
  | nil => exact (Nat.zero_add _).symm
  | cons b frames ih =>
    show (FrameBuffer.frame b).length + byteCount (frames ++ frames') = _
    rw [ih, ← Nat.add_assoc]
    rfl

/-- The interface counts what a burst comes to. -/
theorem counters_inject_eq :
    let o := i.inject registers queue burst
    o.interface.rxDepth = i.rxDepth ∧
      o.interface.counters.rxPackets = i.counters.rxPackets + UInt64.ofNat o.accepted ∧
      o.interface.counters.rxBytes =
        i.counters.rxBytes + UInt64.ofNat (byteCount (burst.take o.accepted)) ∧
      o.interface.counters.rxErrors = i.counters.rxErrors + UInt64.ofNat o.refused.length := by
  intro o
  cases h : i.rxQueues[queue.toNat]? with
  | none =>
    simp only [o, inject, h, List.take_zero]
    exact ⟨trivial, (UInt64.add_zero _).symm, (UInt64.add_zero _).symm, trivial⟩
  | some waiting =>
    simp only [o, inject, h, List.length_take, ← List.take_eq_take_min, and_self]

theorem inject_handles :
    i.Handles (i.inject registers queue burst).interface
      (arrived (i, registers) (.inject queue burst)) [] (missed (i, registers) (.inject queue burst)) := by
  obtain ⟨hdepth, hpackets, hbytes, herrors⟩ := i.counters_inject_eq registers queue burst
  have hpending := i.pending_inject registers queue burst
  have hle : (i.inject registers queue burst).accepted ≤ burst.length := by
    have := i.accepted_add_refused registers queue burst
    omega
  constructor
  case rxDepth_eq => exact hdepth
  case depth_le =>
    intro hfit queue'
    rw [hpending, hdepth]
    split
    · rw [List.length_append, List.length_take, Nat.min_eq_left hle]
      cases h : i.rxQueues[queue.toNat]? with
      | none =>
        rw [((i.inject_admits registers queue burst).missing h).1]
        exact hfit queue
      | some waiting =>
        have haccepted := ((i.inject_admits registers queue burst).existing waiting h).1
        have hwaiting := hfit queue
        rw [i.pending_eq h] at hwaiting ⊢
        omega
    · exact hfit queue'
  case fifo =>
    intro queue'
    rw [hpending, arrived, onQueue_map, onQueue_nil, List.nil_append]
    split
    · next h => rw [h]
    · rw [List.append_nil]
  case rxPackets_eq =>
    rw [hpackets, arrived, List.length_map, List.length_take, Nat.min_eq_left hle]
  case rxBytes_eq =>
    rw [hbytes, arrived, List.map_map]
    exact congrArg (fun frames => _ + UInt64.ofNat (byteCount frames)) (List.map_id _).symm
  case rxErrors_eq => exact herrors

/-! ## Any number of calls -/

namespace Handles

variable {i i' i'' : Interface β} {arrived arrived' taken taken' : List (QueueId × β)}
variable {missed missed' : Nat}

theorem refl (i : Interface β) : i.Handles i [] [] 0 where
  rxDepth_eq := rfl
  depth_le h := h
  fifo _ := (List.append_nil _).symm
  rxPackets_eq := (UInt64.add_zero _).symm
  rxBytes_eq := (UInt64.add_zero _).symm
  rxErrors_eq := (UInt64.add_zero _).symm

theorem trans (h : i.Handles i' arrived taken missed)
    (h' : i'.Handles i'' arrived' taken' missed') :
    i.Handles i'' (arrived ++ arrived') (taken ++ taken') (missed + missed') := by
  constructor
  case rxDepth_eq => exact h'.rxDepth_eq.trans h.rxDepth_eq
  case depth_le =>
    intro hfit
    exact h'.depth_le (h.depth_le hfit)
  case fifo =>
    intro queue
    rw [onQueue_append, List.append_assoc, h'.fifo, ← List.append_assoc, h.fifo, onQueue_append,
      List.append_assoc]
  case rxPackets_eq =>
    rw [h'.rxPackets_eq, h.rxPackets_eq, List.length_append, UInt64.ofNat_add, UInt64.add_assoc]
  case rxBytes_eq =>
    rw [h'.rxBytes_eq, h.rxBytes_eq, List.map_append, byteCount_append, UInt64.ofNat_add,
      UInt64.add_assoc]
  case rxErrors_eq =>
    rw [h'.rxErrors_eq, h.rxErrors_eq, UInt64.ofNat_add, UInt64.add_assoc]

/-- A step that leaves the receive side alone. -/
theorem of_eq (hqueues : i'.rxQueues = i.rxQueues) (hdepth : i'.rxDepth = i.rxDepth)
    (hpackets : i'.counters.rxPackets = i.counters.rxPackets)
    (hbytes : i'.counters.rxBytes = i.counters.rxBytes)
    (herrors : i'.counters.rxErrors = i.counters.rxErrors) : i.Handles i' [] [] 0 := by
  have hpending : ∀ queue, i'.pending queue = i.pending queue := by
    intro queue
    rw [pending, hqueues, pending]
  constructor
  case rxDepth_eq => exact hdepth
  case depth_le =>
    intro hfit queue
    rw [hpending, hdepth]
    exact hfit queue
  case fifo =>
    intro queue
    rw [hpending, onQueue_nil, List.nil_append, List.append_nil]
  case rxPackets_eq => exact hpackets.trans (UInt64.add_zero _).symm
  case rxBytes_eq => exact hbytes.trans (UInt64.add_zero _).symm
  case rxErrors_eq => exact herrors.trans (UInt64.add_zero _).symm

/-- Frames are taken from the front of a queue. -/
theorem receive (i : Interface β) (registers : Hardware.Registers) (queue : QueueId) (max : Nat) :
    i.Handles (i.receive queue max).2 [] (Interface.taken (i, registers) (.receive queue max)) 0 := by
  have hpending := i.pending_receive queue
  constructor
  case rxDepth_eq => rfl
  case depth_le =>
    intro hfit queue'
    rw [hpending]
    split
    · next h =>
      rw [List.length_drop]
      exact Nat.le_trans (Nat.sub_le _ _) (hfit queue)
    · exact hfit queue'
  case fifo =>
    intro queue'
    rw [hpending, Interface.taken, onQueue_map, onQueue_nil, List.append_nil]
    split
    · next h =>
      rw [h]
      exact List.take_append_drop _ _
    · rfl
  case rxPackets_eq => exact (UInt64.add_zero _).symm
  case rxBytes_eq => exact (UInt64.add_zero _).symm
  case rxErrors_eq => exact (UInt64.add_zero _).symm

end Handles

/-- What one call does to the receive side. -/
theorem call_handles (s : Wired β) (c : Call β) :
    s.1.Handles (call s c).1 (arrived s c) (taken s c) (missed s c) := by
  obtain ⟨i, registers⟩ := s
  cases c with
  | inject queue burst => exact i.inject_handles registers queue burst
  | receive queue max => exact .receive i registers queue max
  | transmit ns queue burst =>
    apply Handles.of_eq
    case hqueues => exact i.rxQueues_transmit registers queue burst ns
    all_goals
      simp only [call, transmit]
      split <;> rfl
  | setTxLimit queue limit => exact .of_eq rfl rfl rfl rfl rfl
  | takeTransmitted queue => exact .of_eq rfl rfl rfl rfl rfl
  | flush => exact .of_eq rfl rfl rfl rfl rfl

theorem callAll_handles (s : Wired β) (calls : List (Call β)) :
    s.1.Handles (callAll s calls).1 (arrivedAll s calls) (takenAll s calls)
      (missedAll s calls) := by
  induction calls generalizing s with
  | nil => exact .refl s.1
  | cons c calls ih => exact (call_handles s c).trans (ih (call s c))

theorem arriving_eq (s : Wired β) (c : Call β) : c.arriving = (arrived s c).length + missed s c := by
  cases c with
  | inject queue burst =>
    have hsplit := s.1.accepted_add_refused s.2 queue burst
    rw [arrived, List.length_map, List.length_take, missed, Call.arriving]
    omega
  | _ => rfl

theorem arrivingAll_eq (s : Wired β) (calls : List (Call β)) :
    arrivingAll calls = (arrivedAll s calls).length + missedAll s calls := by
  induction calls generalizing s with
  | nil => rfl
  | cons c calls ih =>
    have hone := arriving_eq s c
    have hrest := ih (call s c)
    rw [arrivedAll, List.length_append, missedAll]
    show c.arriving + arrivingAll calls = _
    omega

/-! ## Frame by frame, and in two parts -/

section

variable (i : Interface β) (registers : Hardware.Registers) (queue : QueueId)

/-- Frames arrive as long as there is room, and the others are missed. -/
theorem foldl_next (depth : Nat) (a : Arriving β) (burst : List β) :
    burst.foldl (Arriving.next depth) a =
      { waiting := a.waiting ++ burst.take (depth - a.waiting.length)
        accepted := a.accepted + (burst.take (depth - a.waiting.length)).length
        bytes := a.bytes + byteCount (burst.take (depth - a.waiting.length))
        missed := a.missed ++ burst.drop (depth - a.waiting.length) } := by
  induction burst generalizing a with
  | nil => simp [byteCount]
  | cons b burst ih =>
    rw [List.foldl_cons, ih, Arriving.next]
    split
    · next hfull =>
      have hnone : depth - a.waiting.length = 0 := Nat.sub_eq_zero_of_le hfull
      simp only [hnone, List.take_zero, List.drop_zero, List.append_assoc, List.singleton_append]
    · next hroom =>
      have hone : depth - a.waiting.length = depth - (a.waiting.length + 1) + 1 := by omega
      have hbytes (frames : List β) : byteCount (b :: frames) =
          (FrameBuffer.frame b).length + byteCount frames := rfl
      rw [hone]
      simp only [List.length_append, List.length_cons, List.length_nil, Nat.zero_add,
        List.take_succ_cons, List.drop_succ_cons, List.append_assoc, List.singleton_append, hbytes]
      congr 1 <;> omega

theorem injectEach_eq (burst : List β) :
    i.injectEach registers queue burst = i.inject registers queue burst := by
  rw [injectEach, inject]
  split
  · rfl
  · simp only [foldl_next, List.nil_append, Nat.zero_add]

/-- A burst that arrives in two parts. -/
theorem inject_append (xs ys : List β) :
    let first := i.inject registers queue xs
    let second := first.interface.inject first.registers queue ys
    i.inject registers queue (xs ++ ys) =
      { second with
        accepted := first.accepted + second.accepted
        refused := first.refused ++ second.refused } := by
  intro first second
  cases h : i.rxQueues[queue.toNat]? with
  | none =>
    have hfirst : first.interface.rxQueues[queue.toNat]? = none := by
      simp only [first, inject, h]
    simp only [second, inject, hfirst]
    simp only [first, inject, h, List.length_append, UInt64.ofNat_add, UInt64.add_assoc]
  | some waiting =>
    -- The first part leaves as much room as it does not take up.
    have hfirst : first.interface.rxQueues[queue.toNat]? =
        some (waiting ++ xs.take (i.rxDepth - waiting.length)) := by
      simp only [first, inject, h]
      exact List.getElem?_set_self (List.getElem?_eq_some_iff.mp h).1
    have hroom : i.rxDepth - (waiting ++ xs.take (i.rxDepth - waiting.length)).length =
        i.rxDepth - waiting.length - xs.length := by
      rw [List.length_append, List.length_take]
      omega
    have hdepth : first.interface.rxDepth = i.rxDepth := by
      simp only [first, inject, h]
    simp only [second, inject, hfirst, hdepth, hroom]
    simp only [first, inject, h, List.take_append, List.drop_append, List.length_append,
      byteCount_append, UInt64.ofNat_add, UInt64.add_assoc, UInt32.ofNat_add, List.set_set,
      List.append_assoc]
    cases i.hardware with
    | none => rfl
    | some layout => simp only [Hardware.Registers.countFrames_countFrames]

end

/-! ## New interfaces -/

/-- What is true of the receive side of a new interface after some calls. -/
structure Inbox (s : Wired β) (calls : List (Call β)) : Prop where
  depth_le : ∀ queue, ((callAll s calls).1.pending queue).length ≤ s.1.rxDepth
  /-- The frames taken from a queue and those that still wait there are those that it accepted. -/
  fifo : ∀ queue, onQueue queue (takenAll s calls) ++ (callAll s calls).1.pending queue =
    onQueue queue (arrivedAll s calls)
  /-- All that arrives is accepted or missed, and counted as such. -/
  arriving_eq : arrivingAll calls = (arrivedAll s calls).length + missedAll s calls
  rxPackets_eq : (callAll s calls).1.counters.rxPackets =
    UInt64.ofNat (arrivedAll s calls).length
  rxErrors_eq : (callAll s calls).1.counters.rxErrors = UInt64.ofNat (missedAll s calls)
  total_eq : (callAll s calls).1.counters.rxPackets + (callAll s calls).1.counters.rxErrors =
    UInt64.ofNat (arrivingAll calls)
  rxBytes_eq : (callAll s calls).1.counters.rxBytes =
    UInt64.ofNat (byteCount ((arrivedAll s calls).map Prod.snd))
  /-- The next burst is accepted as far as there is room for it. -/
  admits : ∀ queue burst, (callAll s calls).1.Admits queue burst
    ((callAll s calls).1.inject (callAll s calls).2 queue burst)
  /-- That is what comes of looking at its frames one by one. -/
  each : ∀ queue burst, (callAll s calls).1.injectEach (callAll s calls).2 queue burst =
    (callAll s calls).1.inject (callAll s calls).2 queue burst
  /-- It may as well arrive in two parts. -/
  parts : ∀ queue xs ys, callAll s (calls ++ [.inject queue (xs ++ ys)]) =
    callAll s (calls ++ [.inject queue xs, .inject queue ys])

theorem call_inject_append (s : Wired β) (queue : QueueId) (xs ys : List β) :
    call s (.inject queue (xs ++ ys)) = call (call s (.inject queue xs)) (.inject queue ys) := by
  rw [call, s.1.inject_append s.2 queue xs ys]
  rfl

/-- With empty queues and nothing counted yet the accounts are those of the calls alone. -/
theorem inbox_of_empty {s : Wired β} (hempty : ∀ queue, s.1.pending queue = [])
    (hcounters : s.1.counters = {}) (calls : List (Call β)) : Inbox s calls := by
  obtain ⟨hdepth, hfit, hfifo, hpackets, hbytes, herrors⟩ := callAll_handles s calls
  have harriving := arrivingAll_eq s calls
  rw [hcounters] at hpackets hbytes herrors
  constructor
  case depth_le =>
    intro queue
    rw [← hdepth]
    apply hfit
    intro queue
    rw [hempty]
    exact Nat.zero_le _
  case fifo =>
    intro queue
    rw [hfifo, hempty, List.nil_append]
  case arriving_eq => exact harriving
  case rxPackets_eq => exact hpackets.trans (UInt64.zero_add _)
  case rxErrors_eq => exact herrors.trans (UInt64.zero_add _)
  case total_eq =>
    rw [hpackets, herrors, harriving, UInt64.ofNat_add]
    show 0 + _ + (0 + _) = _
    rw [UInt64.zero_add, UInt64.zero_add]
  case rxBytes_eq => exact hbytes.trans (UInt64.zero_add _)
  case admits => exact fun queue burst => inject_admits _ _ queue burst
  case each => exact fun queue burst => injectEach_eq _ _ queue burst
  case parts =>
    intro queue xs ys
    rw [callAll, List.foldl_append, callAll, List.foldl_append]
    exact call_inject_append _ queue xs ys

/-- Whatever a new interface is equipped with and whatever is done with it, its receive queues are
bounded queues, and its counters agree with what arrived. -/
theorem callAll_accounts (id : InterfaceId) (rxQueues txQueues rxDepth : Nat) (retains : Bool)
    (hardware : Option Hardware.Layout) (capture : Option (Capture.Exporter BoundedDevice))
    (faultyCall : Option InterfaceCall) (registers : Hardware.Registers) (calls : List (Call β)) :
    Inbox ({ create id rxQueues txQueues rxDepth with retains, hardware, capture, faultyCall },
      registers) calls := by
  apply inbox_of_empty
  case hempty => exact pending_create id rxQueues txQueues rxDepth
  case hcounters => rfl

/-- Three frames arrive at a queue for two, and one at a queue that does not exist. -/
example :
    let calls : List (Call Buffer) :=
      [.inject 0 [.ofFrame [1], .ofFrame [2, 3], .ofFrame [4]], .receive 0 1,
        .inject 7 [.ofFrame [5]]]
    let s : Wired Buffer := (create ⟨0, "eth0"⟩ 2 2 2, {})
    (callAll s calls).1.pending 0 = [.ofFrame [2, 3]] ∧
      (callAll s calls).1.counters.values = [2, 3, 2, 0, 0, 0] := by
  decide

end

end Interface

end EtherRelay
