import EtherRelay.Interface
import EtherRelay.Proofs.Capture.Reading

/-!
# What an interface captures

An interface hands each frame that it accepts for transmission to its exporter, whatever the queue,
and counts it. The main statement says of an exporter of its own, over a device that takes
everything, that the capture holds exactly the accepted frames in the order in which they were
accepted: it is read back as such, its blocks are well formed, and apart from the times it does not
depend on when the capture was flushed.
-/

namespace EtherRelay

open Capture (Seen Exporter Block Framed stream blocks headerItems splitBlocks clearTime
  read_stream framed_of_mem_blocks splitBlocks_stream clearTime_blocks)

namespace Capture.Exporter

open Device (Budget)

variable {ω : Type} [Device ω] {B : Budget ω} {e : Exporter ω} {frames : List Seen}

/-- On a device without a limit nothing is lost: flushed or closed, it has the complete capture. -/
theorem Stands.complete (h : e.Stands B none frames) :
    B.Took e.close (stream frames) none ∧
      B.Took e.flush.2.writer.device (stream frames) none := by
  rcases h.flush_cases with
    ⟨b, hdrain, hflush, ⟨hb, hnil, -⟩ | ⟨⟨⟨_, hlimit, _⟩, -⟩, -⟩⟩ |
      ⟨_, b, -, -, ⟨⟨_, hlimit, _⟩, -⟩, -⟩
  · have htook := hb.took hnil
    rw [close, Buffered.close, hdrain, hflush]
    exact ⟨htook, B.flush htook⟩
  · nomatch hlimit
  · nomatch hlimit

/-- The operations that track these frames. -/
def tracking (frames : List Seen) : List Operation := frames.map fun s => .track s.ns s.frame

@[simp] theorem tracks_tracking (frames : List Seen) : tracks (tracking frames) = frames := by
  rw [tracks, tracking, List.filterMap_map]
  exact List.filterMap_some

theorem tracked_performAll (e : Exporter ω) (operations : List Operation) :
    (e.performAll operations).tracked =
      e.tracked + UInt64.ofNat (tracks operations).length := by
  induction operations generalizing e with
  | nil => exact (UInt64.add_zero _).symm
  | cons o operations ih =>
    rw [performAll, List.foldl_cons]
    refine (ih (e.perform o)).trans ?_
    cases o with
    | track ns frame =>
      have hcons : tracks (.track ns frame :: operations) = ⟨ns, frame⟩ :: tracks operations := rfl
      have hone : UInt64.ofNat ((tracks operations).length + 1) =
          1 + UInt64.ofNat (tracks operations).length := by
        rw [Nat.add_comm, UInt64.ofNat_add]
        rfl
      rw [hcons, List.length_cons, hone, ← UInt64.add_assoc]
      rfl
    | flush => rfl

/-- Whether a flush succeeds is up to the device alone. -/
theorem Stands.flush_ok {e : Exporter BoundedDevice} {failFlush : Bool}
    (h : e.Stands (BoundedDevice.budget failFlush) none frames) :
    e.flush.1 = .ok () ↔ failFlush = false := by
  rcases h.flush_cases with
    ⟨b, -, hflush, ⟨hb, hnil, -⟩ | ⟨⟨⟨_, hlimit, _⟩, -⟩, -⟩⟩ |
      ⟨_, b, -, -, ⟨⟨_, hlimit, _⟩, -⟩, -⟩
  · obtain ⟨-, hfailFlush, -⟩ := hb.took hnil
    have hdevice : (Device.flush b.device).1 =
        if b.device.failFlush then .error .flushFailed else .ok () := rfl
    rw [hflush, hdevice, hfailFlush]
    cases failFlush with
    | false => exact iff_of_true rfl rfl
    | true => exact iff_of_false (fun h => nomatch h) (fun h => nomatch h)
  · nomatch hlimit
  · nomatch hlimit

end Capture.Exporter

namespace Interface

variable {β : Type} [FrameBuffer β]

/-! ## Calls -/

/-- What is done with an interface that captures; transmitting takes the time. -/
inductive Call (β : Type) where
  | inject (queue : QueueId) (burst : List β)
  | receive (queue : QueueId) (max : Nat)
  | transmit (ns : Nat) (queue : QueueId) (burst : List β)
  | setTxLimit (queue : QueueId) (limit : Option Nat)
  | takeTransmitted (queue : QueueId)
  | flush
  deriving Repr

/-- An interface and the registers in which its frames are counted as well. -/
abbrev Wired (β : Type) := Interface β × Hardware.Registers

/-- The interface after a call; what the call answers is not looked at. -/
def call (s : Wired β) : Call β → Wired β
  | .inject queue burst =>
    let o := s.1.inject s.2 queue burst
    (o.interface, o.registers)
  | .receive queue max => ((s.1.receive queue max).2, s.2)
  | .transmit ns queue burst =>
    let o := s.1.transmit s.2 ns queue burst
    (o.interface, o.registers)
  | .setTxLimit queue limit => (s.1.setTxLimit queue limit, s.2)
  | .takeTransmitted queue => ((s.1.takeTransmitted queue).2, s.2)
  | .flush => ({ s.1 with capture := s.1.capture.map fun exporter => exporter.flush.2 }, s.2)

/-- The interface after several calls. -/
def callAll (s : Wired β) (calls : List (Call β)) : Wired β := calls.foldl call s

/-- The frames that a call transmits: as many from the front of the burst as it answers. -/
def sent (s : Wired β) : Call β → List Seen
  | .transmit ns queue burst =>
    (burst.take (s.1.transmit s.2 ns queue burst).accepted).map fun b => ⟨ns, FrameBuffer.frame b⟩
  | _ => []

/-- The frames that several calls transmit, in the order in which they are accepted. -/
def sentAll (s : Wired β) : List (Call β) → List Seen
  | [] => []
  | c :: calls => sent s c ++ sentAll (call s c) calls

/-! ## The exporter of an interface -/

/-- Transmitting hands the accepted frames to the exporter and counts them. -/
theorem transmit_tracks (i : Interface β) (registers : Hardware.Registers) (ns : Nat)
    (queue : QueueId) (burst : List β) :
    let seen := sent (i, registers) (.transmit ns queue burst)
    let after := (i.transmit registers ns queue burst).interface
    after.capture = i.capture.map (·.performAll (Exporter.tracking seen)) ∧
      after.counters.txPackets = i.counters.txPackets + UInt64.ofNat seen.length := by
  intro seen after
  cases htx : i.txQueues[queue.toNat]? with
  | none =>
    have hseen : seen = [] := by
      simp only [seen, sent, transmit, htx, List.take_zero, List.map_nil]
    have hafter : after = i := by
      simp only [after, transmit, htx]
    rw [hseen, hafter]
    exact ⟨Option.map_id'.symm, (UInt64.add_zero _).symm⟩
  | some tx =>
    have htake : ∀ n, burst.take (burst.take n).length = burst.take n := by
      intro n
      rw [List.length_take, ← List.take_take, List.take_length]
    simp only [after, seen, sent, transmit, htx, htake, List.length_map, Exporter.performAll,
      Exporter.tracking, List.foldl_map]
    exact ⟨rfl, trivial⟩

/-- The exporter of an interface was given these frames, and so many were transmitted. -/
def Taps (B : Device.Budget BoundedDevice) (i : Interface β) (frames : List Seen) : Prop :=
  ∃ e, i.capture = some e ∧ e.Stands B none frames ∧ e.tracked = i.counters.txPackets

variable {B : Device.Budget BoundedDevice} {s : Wired β} {frames : List Seen}

omit [FrameBuffer β] in
/-- Other calls leave the exporter alone. -/
theorem Taps.of_eq {i j : Interface β} (h : Taps B i frames) (hcapture : j.capture = i.capture)
    (hcount : j.counters.txPackets = i.counters.txPackets) : Taps B j (frames ++ []) := by
  obtain ⟨e, he, hstands, htracked⟩ := h
  rw [List.append_nil]
  exact ⟨e, hcapture.trans he, hstands, htracked.trans hcount.symm⟩

theorem inject_untapped (i : Interface β) (registers : Hardware.Registers) (queue : QueueId)
    (burst : List β) :
    (i.inject registers queue burst).interface.capture = i.capture ∧
      (i.inject registers queue burst).interface.counters.txPackets = i.counters.txPackets := by
  rw [inject]
  split
  · exact ⟨rfl, rfl⟩
  · exact ⟨rfl, rfl⟩

/-- A call hands what it transmits to the exporter. -/
theorem Taps.call (h : Taps B s.1 frames) (c : Call β) :
    Taps B (call s c).1 (frames ++ sent s c) := by
  obtain ⟨i, registers⟩ := s
  cases c with
  | transmit ns queue burst =>
    obtain ⟨e, hcapture, hstands, htracked⟩ := h
    obtain ⟨hperform, hcount⟩ := transmit_tracks i registers ns queue burst
    have hseen := hstands.performAll
      (Exporter.tracking (sent (i, registers) (.transmit ns queue burst)))
    have htotal := e.tracked_performAll
      (Exporter.tracking (sent (i, registers) (.transmit ns queue burst)))
    rw [Exporter.tracks_tracking] at hseen htotal
    refine ⟨_, ?_, hseen, ?_⟩
    · exact hperform.trans (by rw [hcapture, Option.map_some])
    · rw [htotal, htracked]
      exact hcount.symm
  | flush =>
    obtain ⟨e, hcapture, hstands, htracked⟩ := h
    refine ⟨e.flush.2, congrArg (Option.map _) hcapture, ?_, htracked⟩
    exact (List.append_nil frames).symm ▸ hstands.flush
  | inject queue burst =>
    obtain ⟨hcapture, hcount⟩ := inject_untapped i registers queue burst
    exact h.of_eq hcapture hcount
  | receive queue max => exact h.of_eq rfl rfl
  | setTxLimit queue limit => exact h.of_eq rfl rfl
  | takeTransmitted queue => exact h.of_eq rfl rfl

theorem Taps.callAll (h : Taps B s.1 frames) (calls : List (Call β)) :
    Taps B (callAll s calls).1 (frames ++ sentAll s calls) := by
  induction calls generalizing s frames with
  | nil => rwa [sentAll, List.append_nil]
  | cons c calls ih =>
    rw [sentAll, ← List.append_assoc]
    exact ih (h.call c)

/-! ## Times and flushes -/

/-- The bound of each transmit queue. -/
def limits (i : Interface β) : List (Option Nat) := i.txQueues.map TxQueue.limit

/-- The bounds after a call. -/
def limitsAfter (limits : List (Option Nat)) : Call β → List (Option Nat)
  | .setTxLimit queue limit => limits.modify queue.toNat fun _ => limit
  | _ => limits

/-- The frames that a call transmits, as the bounds of the queues say. -/
def admitted (limits : List (Option Nat)) : Call β → List Bytes
  | .transmit _ queue burst =>
    match limits[queue.toNat]? with
    | none => []
    | some limit => (burst.take (limit.getD burst.length)).map FrameBuffer.frame
  | _ => []

/-- The frames that several calls transmit, as the bounds of the queues say. -/
def admittedAll (limits : List (Option Nat)) : List (Call β) → List Bytes
  | [] => []
  | c :: calls => admitted limits c ++ admittedAll (limitsAfter limits c) calls

omit [FrameBuffer β] in
theorem limits_modify (queues : List (TxQueue β)) (q : Nat) {f : TxQueue β → TxQueue β}
    {g : Option Nat → Option Nat} (h : ∀ tx, (f tx).limit = g tx.limit) :
    (queues.modify q f).map TxQueue.limit = (queues.map TxQueue.limit).modify q g := by
  apply List.ext_getElem?
  intro j
  simp only [List.getElem?_map, List.getElem?_modify]
  by_cases hj : q = j
  · simp only [if_pos hj]
    cases queues[j]? with
    | none => rfl
    | some tx => exact congrArg some (h tx)
  · simp only [if_neg hj]
    cases queues[j]? <;> rfl

omit [FrameBuffer β] in
theorem limits_set {queues : List (TxQueue β)} {q : Nat} {tx tx' : TxQueue β}
    (htx : queues[q]? = some tx) (h : tx'.limit = tx.limit) :
    (queues.set q tx').map TxQueue.limit = queues.map TxQueue.limit := by
  obtain ⟨hq, rfl⟩ := List.getElem?_eq_some_iff.mp htx
  have hq' : q < (queues.map TxQueue.limit).length := by rwa [List.length_map]
  have hself : (queues.map TxQueue.limit)[q] = tx'.limit := by
    rw [List.getElem_map, h]
  rw [List.map_set, ← hself, List.set_getElem_self]

theorem limits_call (s : Wired β) (c : Call β) :
    limits (call s c).1 = limitsAfter (limits s.1) c := by
  obtain ⟨i, registers⟩ := s
  cases c with
  | transmit ns queue burst =>
    simp only [call, transmit, limitsAfter]
    split
    · rfl
    · next tx htx =>
      simp only [limits]
      split
      · exact limits_set htx rfl
      · rfl
  | inject queue burst =>
    simp only [call, inject, limitsAfter]
    split <;> rfl
  | setTxLimit queue limit => exact limits_modify i.txQueues queue.toNat fun _ => rfl
  | takeTransmitted queue =>
    have hsame := limits_modify i.txQueues queue.toNat (g := fun limit => limit)
      (f := fun tx => { tx with transmitted := [] }) fun _ => rfl
    exact hsame.trans (List.modify_id _ _)
  | receive queue max => rfl
  | flush => rfl

theorem frames_sent (s : Wired β) (c : Call β) :
    (sent s c).map Seen.frame = admitted (limits s.1) c := by
  obtain ⟨i, registers⟩ := s
  cases c with
  | transmit ns queue burst =>
    have hframes : ∀ n, ((burst.take n).map fun b => (⟨ns, FrameBuffer.frame b⟩ : Seen)).map
        Seen.frame = (burst.take n).map FrameBuffer.frame := by
      intro n
      rw [List.map_map]
      rfl
    simp only [sent, admitted, limits, List.getElem?_map, hframes]
    cases htx : i.txQueues[queue.toNat]? with
    | none => simp only [transmit, htx, Option.map_none, List.take_zero, List.map_nil]
    | some tx =>
      simp only [transmit, htx, Option.map_some, List.length_take, ← List.take_take,
        List.take_length]
      cases tx.limit <;> rfl
  | _ => rfl

theorem frames_sentAll (s : Wired β) (calls : List (Call β)) :
    (sentAll s calls).map Seen.frame = admittedAll (limits s.1) calls := by
  induction calls generalizing s with
  | nil => rfl
  | cons c calls ih =>
    rw [sentAll, List.map_append, frames_sent, ih, limits_call, admittedAll]

/-- A call without its time; nothing is left of a flush. -/
def Call.timeless : Call β → Option (Call β)
  | .transmit _ queue burst => some (.transmit 0 queue burst)
  | .flush => none
  | c => some c

/-- What is transmitted depends neither on times nor on flushes. -/
theorem admittedAll_timeless (limits : List (Option Nat)) (calls : List (Call β)) :
    admittedAll limits (calls.filterMap Call.timeless) = admittedAll limits calls := by
  induction calls generalizing limits with
  | nil => rfl
  | cons c calls ih =>
    cases c with
    | flush => exact ih limits
    | inject queue burst => exact ih limits
    | receive queue max => exact ih limits
    | takeTransmitted queue => exact ih limits
    | setTxLimit queue limit => exact ih _
    | transmit ns queue burst =>
      exact congrArg (admitted limits (.transmit ns queue burst) ++ ·) (ih limits)

theorem frames_sentAll_congr (s : Wired β) {calls calls' : List (Call β)}
    (h : calls'.filterMap Call.timeless = calls.filterMap Call.timeless) :
    (sentAll s calls').map Seen.frame = (sentAll s calls).map Seen.frame := by
  rw [frames_sentAll, frames_sentAll, ← admittedAll_timeless, h, admittedAll_timeless]

/-! ## The capture -/

/-- A file is the capture of these frames: it reads as the two headers and these frames, byte for
byte and in order, and it is made of well-formed blocks, which the lengths around them tell apart
as long as these lengths fit into four bytes. -/
structure Captures (file : Bytes) (frames : List Seen) : Prop where
  eq_stream : file = stream frames
  read_eq : Capture.read file = some (headerItems ++ frames.map Seen.item)
  framed : ∀ b ∈ blocks frames, Framed b.bytes
  splitBlocks_eq : (∀ s ∈ frames, s.frame.length + 36 ≤ UInt32.size) →
    splitBlocks file.length file = ((blocks frames).map Block.bytes, [])

theorem captures_stream (h : ∀ s ∈ frames, s.frame.length < UInt32.size) :
    Captures (stream frames) frames where
  eq_stream := rfl
  read_eq := read_stream h
  framed _ hb := framed_of_mem_blocks hb
  splitBlocks_eq := splitBlocks_stream

/-- Two files of well-formed blocks that differ in the times of the packets alone. -/
def SameButTimes (file file' : Bytes) : Prop :=
  ∃ bs bs' : List Bytes, bs.flatten = file ∧ bs'.flatten = file' ∧
    (∀ b ∈ bs ++ bs', Framed b) ∧ bs'.map clearTime = bs.map clearTime

theorem sameButTimes_stream {frames' : List Seen}
    (h : frames'.map Seen.frame = frames.map Seen.frame) :
    SameButTimes (stream frames) (stream frames') := by
  refine ⟨(blocks frames).map Block.bytes, (blocks frames').map Block.bytes, rfl, rfl, ?_, ?_⟩
  · intro bytes hbytes
    rw [← List.map_append] at hbytes
    obtain ⟨b, hb, rfl⟩ := List.mem_map.mp hbytes
    rcases List.mem_append.mp hb with hb | hb
    · exact framed_of_mem_blocks hb
    · exact framed_of_mem_blocks hb
  · rw [List.map_map, List.map_map]
    exact clearTime_blocks h

/-- What an interface transmits is what it captures. Its exporter is its own, and the device under
it takes everything, in whatever portions. Whatever is done with the interface, the exporter has
tracked as many frames as were transmitted; given up or flushed, it has written the capture of
the accepted frames in the order in which they were accepted; the device alone decides whether a
flush succeeds; and the same calls at other times, with other flushes between them, lead to
a file that differs in the times of the packets alone. -/
theorem callAll_captures {device : BoundedDevice} (hroom : device.room = none)
    (hkeeps : device.keeps = true) (hempty : device.content = []) {i : Interface β}
    (hcapture : i.capture = some (.create device)) (hnone : i.counters.txPackets = 0)
    (registers : Hardware.Registers) {calls : List (Call β)}
    (hlength : ∀ s ∈ sentAll (i, registers) calls, s.frame.length < UInt32.size) :
    ∃ e, (callAll (i, registers) calls).1.capture = some e ∧
      e.tracked = (callAll (i, registers) calls).1.counters.txPackets ∧
      Captures e.close.content (sentAll (i, registers) calls) ∧
      (e.flush.1 = .ok () ↔ device.failFlush = false) ∧
      e.flush.2.writer.device.content = e.close.content ∧
      ∀ calls' : List (Call β),
        calls'.filterMap Call.timeless = calls.filterMap Call.timeless →
        ∃ e', (callAll (i, registers) calls').1.capture = some e' ∧
          SameButTimes e.close.content e'.close.content := by
  have hdevice : (BoundedDevice.budget device.failFlush).Took device [] none :=
    ⟨hkeeps, rfl, hempty, by rw [hroom]; rfl⟩
  have htaps : Taps (BoundedDevice.budget device.failFlush) i [] :=
    ⟨_, hcapture, Exporter.create_stands hdevice, hnone.symm⟩
  have hclose : ∀ {e : Exporter BoundedDevice} {frames : List Seen},
      e.Stands (BoundedDevice.budget device.failFlush) none frames →
      e.close.content = stream frames ∧ e.flush.2.writer.device.content = stream frames := by
    intro e frames hstands
    obtain ⟨⟨-, -, hcontent, -⟩, ⟨-, -, hflushed, -⟩⟩ := hstands.complete
    exact ⟨hcontent, hflushed⟩
  obtain ⟨e, he, hstands, htracked⟩ := Taps.callAll (s := (i, registers)) htaps calls
  obtain ⟨hcontent, hflushed⟩ := hclose hstands
  refine ⟨e, he, htracked, ?_, hstands.flush_ok, hflushed.trans hcontent.symm, ?_⟩
  · rw [hcontent]
    exact captures_stream hlength
  · intro calls' hsame
    obtain ⟨e', he', hstands', -⟩ := Taps.callAll (s := (i, registers)) htaps calls'
    refine ⟨e', he', ?_⟩
    rw [hcontent, (hclose hstands').1]
    exact sameButTimes_stream (frames_sentAll_congr (i, registers) hsame)

/-- An interface of two transmit queues with an exporter of its own, whose device takes the first
bytes in small portions. -/
def tapped : Interface Buffer :=
  { Interface.create ⟨0, "eth0"⟩ 1 2 with capture := some (.create { portions := [5, 0, 7] }) }

/-- One queue accepts one frame at a time, the other any number, and a third one does not exist. -/
def tappedCalls : List (Call Buffer) :=
  [.setTxLimit 1 (some 1), .transmit 1000 1 [.ofFrame [1, 2, 3], .ofFrame [4]], .flush,
    .transmit 2600 0 [.ofFrame [5]], .transmit 3000 7 [.ofFrame [6]]]

theorem callAll_captures_tapped :
    tapped.capture = some (.create { portions := [5, 0, 7] }) ∧
      tapped.counters.txPackets = 0 ∧
      sentAll (tapped, {}) tappedCalls = [⟨1000, [1, 2, 3]⟩, ⟨2600, [5]⟩] ∧
      ∃ e, (callAll (tapped, {}) tappedCalls).1.capture = some e ∧ e.tracked = 2 ∧
        e.flush.1 = .ok () ∧
        Capture.read e.close.content =
          some (headerItems ++ [.packet 0 1 3 [1, 2, 3], .packet 0 3 1 [5]]) := by
  have hsent : sentAll (tapped, {}) tappedCalls = [⟨1000, [1, 2, 3]⟩, ⟨2600, [5]⟩] := by rfl
  have hlength : ∀ s ∈ sentAll (tapped, {}) tappedCalls, s.frame.length < UInt32.size := by
    rw [hsent]
    decide
  obtain ⟨e, he, htracked, hfile, hflush, -⟩ := callAll_captures rfl rfl rfl
    (show tapped.capture = some (.create { portions := [5, 0, 7] }) from rfl) rfl {} hlength
  refine ⟨rfl, rfl, hsent, e, he, htracked, hflush.mpr rfl, ?_⟩
  rw [hfile.read_eq, hsent]
  rfl

end Interface

end EtherRelay
