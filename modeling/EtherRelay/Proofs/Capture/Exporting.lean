import EtherRelay.Capture.Exporter
import EtherRelay.Proofs.Capture.Buffering

/-!
# What a successful flush of a capture says

An exporter never tells that a frame could not be written; only a flush does. The capture of the
frames tracked so far, complete to the last byte, is `stream`. The main statement says of a device
that takes `k` bytes in total what a flush leaves in it, which is always the front of `stream`, and
when exactly the flush succeeds: if the whole capture fits, and also if the last frame is as large
as the buffer and the device refused a byte of this frame itself, since then nothing is left that
the flush could fail on. So a successful flush alone does not say that nothing was lost.
-/

namespace EtherRelay.Capture

open Device (Budget)

/-- A frame that was tracked, and when. -/
structure Seen where
  /-- Nanoseconds since the start of the capture. -/
  ns : Nat
  frame : Bytes
  deriving Repr, DecidableEq

namespace Seen

/-- The block of a frame. -/
def block (s : Seen) : Block := .packet (Exporter.nearestMicrosecond s.ns) s.frame

/-- The pieces in front of the frame itself. -/
def front (s : Seen) : List Bytes :=
  [Wire.bigEndian 4 6, Wire.bigEndian 4 s.block.length, Wire.bigEndian 4 0,
    Wire.bigEndian 4 (Exporter.nearestMicrosecond s.ns / UInt32.size),
    Wire.bigEndian 4 (Exporter.nearestMicrosecond s.ns), Wire.bigEndian 4 s.frame.length,
    Wire.bigEndian 4 s.frame.length]

/-- The pieces behind the frame itself. -/
def back (s : Seen) : List Bytes :=
  [Block.padding s.frame.length, Wire.bigEndian 4 s.block.length]

theorem pieces_block (s : Seen) : s.block.pieces = s.front ++ s.frame :: s.back := rfl

/-- The bytes of a block in front of its frame. -/
def frontLength : Nat := 28

@[simp] theorem length_flatten_front (s : Seen) : s.front.flatten.length = frontLength := by
  simp [front, frontLength]

theorem length_padding_lt (n : Nat) : (Block.padding n).length < 4 := by
  rw [Block.padding, List.length_replicate]
  omega

theorem front_short (s : Seen) : ∀ p ∈ s.front, p.length < Buffered.capacity := by
  simp [front, Buffered.capacity]

theorem back_short (s : Seen) : ∀ p ∈ s.back, p.length < Buffered.capacity := by
  have := length_padding_lt s.frame.length
  simp only [back, Buffered.capacity, List.forall_mem_cons, Wire.length_bigEndian]
  refine ⟨by omega, by omega, fun _ h => nomatch h⟩

theorem bytes_block (s : Seen) :
    s.block.bytes = s.front.flatten ++ s.frame ++ s.back.flatten := by
  rw [Block.bytes, pieces_block, List.flatten_append, List.flatten_cons, List.append_assoc]

end Seen

/-- The blocks of the capture of some frames. -/
def blocks (frames : List Seen) : List Block :=
  [.sectionHeader, .interfaceDescription] ++ frames.map Seen.block

/-- The complete capture of some frames. -/
def stream (frames : List Seen) : Bytes := (blocks frames).flatMap Block.bytes

theorem stream_concat (frames : List Seen) (s : Seen) :
    stream (frames ++ [s]) = stream frames ++ s.block.bytes := by
  simp [stream, blocks]

theorem flatten_headers : Exporter.headers.flatten = stream [] := by
  simp [Exporter.headers, stream, blocks, Block.bytes]

/-- The last frame is as large as the buffer, and the `k`-th byte of the capture is the last one in
front of a byte of this frame. -/
def CutShort (k : Nat) (frames : List Seen) : Prop :=
  ∃ earlier last, frames = earlier ++ [last] ∧ Buffered.capacity ≤ last.frame.length ∧
    (stream earlier).length + Seen.frontLength ≤ k ∧
    k < (stream earlier).length + Seen.frontLength + last.frame.length

theorem cutShort_concat {k : Nat} {frames : List Seen} {s : Seen} :
    CutShort k (frames ++ [s]) ↔ Buffered.capacity ≤ s.frame.length ∧
      (stream frames).length + Seen.frontLength ≤ k ∧
      k < (stream frames).length + Seen.frontLength + s.frame.length := by
  constructor
  · rintro ⟨earlier, last, heq, h⟩
    obtain ⟨rfl, hlast⟩ := List.append_inj' heq rfl
    obtain rfl := List.singleton_inj.mp hlast
    exact h
  · intro h
    exact ⟨frames, s, rfl, h⟩

namespace Exporter

variable {ω : Type} [Device ω] {B : Budget ω} {e : Exporter ω} {limit : Option Nat}
variable {frames : List Seen}

/-! ## States -/

variable (B) in
/-- How an exporter stands that was given these frames. A jammed one will not flush any more. A
severed one will, until the next frame; the limit of the device tells when an exporter is
severed. -/
inductive Stands (e : Exporter ω) (limit : Option Nat) (frames : List Seen) : Prop where
  | whole (state : e.writer.Whole B limit (stream frames))
      (uncut : ∀ k, limit = some k → ¬ CutShort k frames)
  | jammed (state : e.writer.Jammed B limit (stream frames))
      (uncut : ∀ k, limit = some k → ¬ CutShort k frames)
  | severed (state : e.writer.Severed B limit (stream frames))
      (cut : ∀ k, limit = some k → CutShort k frames)

/-- The headers fit into the buffer, so nothing is handed to the device yet. -/
theorem writer_create (device : ω) : (create device).writer = { device, pending := stream [] } := by
  have hshort : headers.flatten.length < Buffered.capacity := by decide
  rw [create, Buffered.writePieces_fits (by simpa using hshort), flatten_headers]
  rfl

/-- A new exporter has lost nothing. -/
theorem create_stands {device : ω} (h : B.Took device [] limit) :
    (create device).Stands B limit [] := by
  refine .whole ?_ ?_
  · rw [writer_create]
    exact ⟨[], h, rfl⟩
  · rintro k - ⟨earlier, last, heq, -⟩
    exact List.append_ne_nil_of_right_ne_nil earlier (List.cons_ne_nil last []) heq.symm

/-- The device refuses a byte in front of the frame itself. -/
theorem uncut_of_spent {d : ω} {s : Seen}
    (h : B.Spent d limit (stream frames ++ s.front.flatten)) :
    ∀ k, limit = some k → ¬ CutShort k (frames ++ [s]) := by
  rintro k rfl hcut
  obtain ⟨_, hk, hlt, -⟩ := h
  obtain rfl := Option.some.inj hk
  rw [List.length_append, Seen.length_flatten_front] at hlt
  have := (cutShort_concat.mp hcut).2.1
  omega

variable {s : Seen} {b : Buffered ω}

/-- A writer that was jammed in front of the frame stays jammed. -/
theorem jammed_of_front (h : b.Jammed B limit (stream frames ++ s.front.flatten))
    (hwriter : e.writer = b) : e.Stands B limit (frames ++ [s]) := by
  refine .jammed ?_ (uncut_of_spent h.1)
  rw [hwriter, stream_concat, Seen.bytes_block, List.append_assoc, ← List.append_assoc]
  exact h.append _

/-- A writer that took the frame itself: short pieces behind it cannot sever the writer. -/
theorem stands_back (h : b.Whole B limit (stream frames ++ s.front.flatten ++ s.frame))
    (hlong : Buffered.capacity ≤ s.frame.length → b.pending = [])
    (hwriter : e.writer = (b.writePieces s.back).2) : e.Stands B limit (frames ++ [s]) := by
  have hstream : stream frames ++ s.front.flatten ++ s.frame ++ s.back.flatten =
      stream (frames ++ [s]) := by
    rw [stream_concat, Seen.bytes_block]
    simp only [List.append_assoc]
  have uncut : ∀ k, limit = some k → ¬ CutShort k (frames ++ [s]) := by
    rintro k rfl hcut
    obtain ⟨hle, -, hlt⟩ := cutShort_concat.mp hcut
    have htook := B.length_le (h.took (hlong hle))
    rw [List.length_append, List.length_append, Seen.length_flatten_front] at htook
    omega
  rcases h.writePieces s.back_short with ⟨b', hback, hb'⟩ | ⟨_, b', hback, hb'⟩
  · refine .whole ?_ uncut
    rwa [hwriter, hback, ← hstream]
  · refine .jammed ?_ uncut
    rwa [hwriter, hback, ← hstream]

theorem Stands.track (h : e.Stands B limit frames) (ns : Nat) (frame : Bytes) :
    (e.track ns frame).Stands B limit (frames ++ [⟨ns, frame⟩]) := by
  generalize hs : (⟨ns, frame⟩ : Seen) = s
  have hwriter : (e.track ns frame).writer =
      (e.writer.writePieces (s.front ++ s.frame :: s.back)).2 := by
    rw [← hs]
    rfl
  cases h with
  | whole h _ =>
    rcases h.writePieces s.front_short with ⟨b, hfront, hb⟩ | ⟨_, b, hfront, hb⟩
    · rw [Buffered.writePieces_append_of_ok hfront] at hwriter
      rcases hb.write s.frame with
        ⟨b', hframe, hb', hlong⟩ | ⟨_, b', hframe, hb'⟩ | ⟨_, b', hframe, hb', hlong, hle⟩
      · rw [Buffered.writePieces_cons_of_ok hframe] at hwriter
        exact stands_back hb' hlong hwriter
      · rw [Buffered.writePieces_cons_of_error hframe] at hwriter
        exact jammed_of_front hb' hwriter
      · rw [Buffered.writePieces_cons_of_error hframe] at hwriter
        refine .severed ?_ fun k hk => cutShort_concat.mpr ⟨hlong, ?_, ?_⟩
        · rw [hwriter, stream_concat, Seen.bytes_block, ← List.append_assoc,
            ← List.append_assoc]
          exact hb'.append _
        · have := hle k hk
          rwa [List.length_append, Seen.length_flatten_front] at this
        · obtain ⟨⟨_, hk', hlt, -⟩, -⟩ := hb'
          obtain rfl := Option.some.inj (hk.symm.trans hk')
          rwa [List.length_append, List.length_append, Seen.length_flatten_front] at hlt
    · rw [Buffered.writePieces_append_of_error hfront] at hwriter
      exact jammed_of_front hb hwriter
  | jammed h _ =>
    obtain ⟨_, b, hpieces, hb⟩ := h.writePieces (s.front ++ s.frame :: s.back)
    rw [hpieces] at hwriter
    exact jammed_of_front (hb.append _) hwriter
  | severed h _ =>
    -- the first piece is short, so it is pending when the rest is written
    have hkind : Wire.bigEndian 4 6 ≠ [] := by decide
    obtain ⟨b, hfirst, hb⟩ := h.write hkind (by decide)
    obtain ⟨_, b', hpieces, hb'⟩ := hb.writePieces (s.front.tail ++ s.frame :: s.back)
    have hfront : s.front = Wire.bigEndian 4 6 :: s.front.tail := rfl
    rw [hfront, List.cons_append, Buffered.writePieces_cons_of_ok hfirst, hpieces] at hwriter
    exact jammed_of_front (hb'.append _) hwriter

/-- What a flush comes to: the device gets the front of the capture, and whether the flush succeeds
is up to the device if nothing stays pending. -/
theorem Stands.flush_cases (h : e.Stands B limit frames) :
    (∃ b, e.writer.drain = (.ok (), b) ∧
      e.flush = ((Device.flush b.device).1,
        { e with writer := { b with device := (Device.flush b.device).2 } }) ∧
      ((b.Whole B limit (stream frames) ∧ b.pending = [] ∧
          ∀ k, limit = some k → ¬ CutShort k frames) ∨
        (b.Severed B limit (stream frames) ∧ ∀ k, limit = some k → CutShort k frames))) ∨
    ∃ err b, e.writer.drain = (.error err, b) ∧ e.flush = (.error err, { e with writer := b }) ∧
      b.Jammed B limit (stream frames) ∧ ∀ k, limit = some k → ¬ CutShort k frames := by
  cases h with
  | whole h uncut =>
    rcases h.drain with ⟨b, hdrain, hnil, hb⟩ | ⟨err, b, hdrain, hb⟩
    · left
      refine ⟨b, hdrain, ?_, .inl ⟨hb, hnil, uncut⟩⟩
      simp only [Exporter.flush, Buffered.flush_of_drained hdrain]
    · right
      refine ⟨err, b, hdrain, ?_, hb, uncut⟩
      simp only [Exporter.flush, Buffered.flush_of_failed hdrain]
  | jammed h uncut =>
    obtain ⟨err, b, hdrain, hb⟩ := h.drain
    right
    refine ⟨err, b, hdrain, ?_, hb, uncut⟩
    simp only [Exporter.flush, Buffered.flush_of_failed hdrain]
  | severed h cut =>
    have hdrain := Buffered.drain_of_pending_eq_nil h.2
    left
    refine ⟨e.writer, hdrain, ?_, .inr ⟨h, cut⟩⟩
    simp only [Exporter.flush, Buffered.flush_of_drained hdrain]

theorem Stands.flush (h : e.Stands B limit frames) : e.flush.2.Stands B limit frames := by
  rcases h.flush_cases with ⟨b, -, hflush, ⟨hb, -, uncut⟩ | ⟨hb, cut⟩⟩ | ⟨_, b, -, hflush, hb, uncut⟩
  · rw [hflush]
    exact .whole hb.flushDevice uncut
  · rw [hflush]
    exact .severed hb.flushDevice cut
  · rw [hflush]
    exact .jammed hb uncut

/-- Draining the buffer keeps the account. -/
theorem Stands.took_drain (h : e.Stands B limit frames) :
    ∃ taken, B.Took e.writer.drain.2.device taken limit := by
  rcases h.flush_cases with
    ⟨b, hdrain, -, ⟨hb, hnil, -⟩ | ⟨⟨⟨_, _, _, hb⟩, _⟩, -⟩⟩ | ⟨_, b, hdrain, -, ⟨⟨_, _, _, hb⟩, _⟩, -⟩
  · rw [hdrain]
    exact ⟨_, hb.took hnil⟩
  · rw [hdrain]
    exact ⟨_, hb⟩
  · rw [hdrain]
    exact ⟨_, hb⟩

/-- The device took as much of the capture as it ever takes. -/
theorem Stands.took_flush {k : Nat} (h : e.Stands B (some k) frames) :
    B.Took e.flush.2.writer.device ((stream frames).take k) (some k) := by
  have front : ∀ {d : ω}, B.Spent d (some k) (stream frames) →
      B.Took d ((stream frames).take k) (some k) := by
    rintro d ⟨_, hk, -, htook⟩
    obtain rfl := Option.some.inj hk
    exact htook
  rcases h.flush_cases with
    ⟨b, -, hflush, ⟨hb, hnil, -⟩ | ⟨hb, -⟩⟩ | ⟨_, b, -, hflush, hb, -⟩
  · have htook := hb.took hnil
    rw [hflush, List.take_of_length_le (B.length_le htook)]
    exact B.flush htook
  · rw [hflush]
    exact B.flush (front hb.1)
  · rw [hflush]
    exact front hb.1

/-- A flush fails for good reason only: because the device cannot flush, or because a part of the
capture is still pending. -/
theorem Stands.flush_ok_iff {k : Nat} (h : e.Stands B (some k) frames) :
    e.flush.1 = .ok () ↔ (Device.flush e.writer.drain.2.device).1 = .ok () ∧
      ((stream frames).length ≤ k ∨ CutShort k frames) := by
  rcases h.flush_cases with
    ⟨b, hdrain, hflush, ⟨hb, hnil, -⟩ | ⟨-, cut⟩⟩ | ⟨_, b, hdrain, hflush, hb, uncut⟩
  · have hfits := B.length_le (hb.took hnil)
    rw [hflush, hdrain]
    exact (and_iff_left (.inl hfits)).symm
  · rw [hflush, hdrain]
    exact (and_iff_left (.inr (cut k rfl))).symm
  · rw [hflush]
    constructor
    · intro hok
      nomatch hok
    · rintro ⟨-, hfits | hcut⟩
      · obtain ⟨⟨_, hk, hlt, -⟩, -⟩ := hb
        obtain rfl := Option.some.inj hk
        exact absurd hfits (Nat.not_le.mpr hlt)
      · exact absurd hcut (uncut k rfl)

/-! ## Runs -/

/-- What is done with an exporter. -/
inductive Operation where
  | track (ns : Nat) (frame : Bytes)
  | flush
  deriving Repr, DecidableEq

/-- The frame that an operation tracks. -/
def Operation.seen : Operation → Option Seen
  | .track ns frame => some ⟨ns, frame⟩
  | .flush => none

/-- The frames that operations track. -/
def tracks (operations : List Operation) : List Seen := operations.filterMap Operation.seen

/-- Do one thing; what a flush answers is not looked at. -/
def perform (e : Exporter ω) : Operation → Exporter ω
  | .track ns frame => e.track ns frame
  | .flush => e.flush.2

/-- Do several things in order. -/
def performAll (e : Exporter ω) (operations : List Operation) : Exporter ω :=
  operations.foldl perform e

theorem Stands.perform (h : e.Stands B limit frames) (o : Operation) :
    (e.perform o).Stands B limit (frames ++ tracks [o]) := by
  cases o with
  | track ns frame => exact h.track ns frame
  | flush =>
    rw [tracks, List.filterMap_cons_none rfl, List.filterMap_nil, List.append_nil]
    exact h.flush

theorem Stands.performAll (h : e.Stands B limit frames) (operations : List Operation) :
    (e.performAll operations).Stands B limit (frames ++ tracks operations) := by
  induction operations generalizing e frames with
  | nil => rwa [tracks, List.filterMap_nil, List.append_nil]
  | cons o operations ih =>
    have hsplit : tracks (o :: operations) = tracks [o] ++ tracks operations :=
      List.filterMap_append (l := [o])
    rw [hsplit, ← List.append_assoc]
    exact ih (h.perform o)

/-- What a flush leaves in the device, and what its success says. However a device that takes `k`
bytes in total cuts them into portions, and whatever was tracked and flushed before, a flush leaves
the first `k` bytes of the capture of all frames tracked so far in it. If the device itself can
flush, the flush succeeds just if the whole capture fits, or if the device refused a byte of the
last frame itself and this frame is as large as the buffer. -/
theorem performAll_flush_iff (B : Budget ω) {device : ω} {k : Nat}
    (h : B.Took device [] (some k)) (operations : List Operation) :
    let e := (create device).performAll operations
    let frames := tracks operations
    B.Took e.flush.2.writer.device ((stream frames).take k) (some k) ∧
      (e.flush.1 = .ok () ↔ (Device.flush e.writer.drain.2.device).1 = .ok () ∧
        ((stream frames).length ≤ k ∨ CutShort k frames)) := by
  have hstands := (create_stands h).performAll operations
  exact ⟨hstands.took_flush, hstands.flush_ok_iff⟩

/-- A device with room for 90 bytes, which takes the first ones in small portions. -/
def narrow : BoundedDevice := { room := some 90, portions := [10, 0, 3] }

/-- A frame is flushed, and another one does not fit any more. -/
def oneTooMany : List Operation := [.track 0 [1, 2, 3], .flush, .track 5000 [4]]

theorem performAll_flush_iff_narrow :
    (BoundedDevice.budget false).Took narrow [] (some 90) ∧
      ((create narrow).performAll oneTooMany).flush.1 ≠ .ok () ∧
      ((create narrow).performAll oneTooMany).flush.2.writer.device.content =
        (stream [⟨0, [1, 2, 3]⟩, ⟨5000, [4]⟩]).take 90 := by
  have hnarrow : (BoundedDevice.budget false).Took narrow [] (some 90) := ⟨rfl, rfl, rfl, rfl⟩
  obtain ⟨⟨-, -, hcontent, -⟩, hok⟩ :=
    performAll_flush_iff (BoundedDevice.budget false) hnarrow oneTooMany
  refine ⟨hnarrow, fun h => ?_, hcontent⟩
  rcases (hok.mp h).2 with hfits | hcut
  · exact absurd hfits (by decide +kernel)
  · have hcut : CutShort 90 ([⟨0, [1, 2, 3]⟩] ++ [⟨5000, [4]⟩]) := hcut
    exact absurd (cutShort_concat.mp hcut).1 (by decide)

/-- A frame that goes around the buffer. -/
def largeFrame : Bytes := List.replicate Buffered.capacity 0

/-- A successful flush does not say that nothing was lost: the device has room for the headers and
the first bytes of the frame, and of the others the writer keeps none. -/
theorem flush_ok_of_large_lost :
    ((create ({ room := some 100 } : BoundedDevice)).track 0 largeFrame).flush.1 = .ok () ∧
      ((create ({ room := some 100 } : BoundedDevice)).track 0
        largeFrame).flush.2.writer.device.content ≠ stream [⟨0, largeFrame⟩] := by
  have hdevice : (BoundedDevice.budget false).Took { room := some 100 } [] (some 100) :=
    ⟨rfl, rfl, rfl, rfl⟩
  have hstands := (create_stands hdevice).track 0 largeFrame
  have hlength : (stream []).length = 48 := by decide
  have hlarge : largeFrame.length = 8192 := List.length_replicate
  have hcut : CutShort 100 ([] ++ [⟨0, largeFrame⟩]) := by
    rw [cutShort_concat, hlength, hlarge]
    decide
  have hlost : 100 < (stream ([] ++ [⟨0, largeFrame⟩])).length := by
    rw [stream_concat, Seen.bytes_block]
    simp only [List.length_append, hlarge]
    omega
  obtain ⟨_, -, hfailFlush, -⟩ := hstands.took_drain
  obtain ⟨-, -, hcontent, -⟩ := hstands.took_flush
  rw [List.nil_append] at hcontent hlost
  constructor
  · refine hstands.flush_ok_iff.mpr ⟨?_, .inr hcut⟩
    simp only [Device.flush, BoundedDevice.flush, hfailFlush]
    rfl
  · intro hcomplete
    rw [hcontent] at hcomplete
    have htaken := congrArg List.length hcomplete
    rw [List.length_take] at htaken
    omega

end Exporter

end EtherRelay.Capture
