import EtherRelay.Proofs.Capture.Tapping
import EtherRelay.Proofs.Wire.Watching

/-!
# Captures that are cut off

A device that refuses every byte from some point on does not stop an exporter: it goes on to put
blocks behind one that was written in part, to send large frames around its buffer, and to flush.
The main statement says that none of this ever reaches the device. At every moment of a run, also
in the middle of an operation and while the exporter is given up, the device has taken a front part
of the complete capture of the frames that are tracked in the run.
-/

namespace EtherRelay.Capture

open Device (Budget Watched)

variable {ω : Type}

/-! ## Watching does not change anything -/

namespace Buffered

/-- The writer without the watch. -/
def unwatch (b : Buffered (Watched ω)) : Buffered ω := ⟨b.device.device, b.pending⟩

variable [Device ω] (b : Buffered (Watched ω))

theorem drain_unwatch : b.unwatch.drain = (b.drain.1, b.drain.2.unwatch) := by
  have hall := b.device.writeAll_device b.pending
  simp only [drain, unwatch, hall]

theorem write_unwatch (bytes : Bytes) :
    b.unwatch.write bytes = ((b.write bytes).1, (b.write bytes).2.unwatch) := by
  have hspare : b.unwatch.spare = b.spare := rfl
  have around : ∀ b : Buffered (Watched ω), Device.writeAll b.unwatch.device bytes =
      ((Device.writeAll b.device bytes).1, (Device.writeAll b.device bytes).2.1,
        (Device.writeAll b.device bytes).2.2.device) := fun b => b.device.writeAll_device bytes
  simp only [write, hspare]
  by_cases hfits : b.spare < bytes.length
  · simp only [if_pos hfits, drain_unwatch]
    rcases b.drain with ⟨_ | _, b'⟩
    · rfl
    · by_cases hlong : capacity ≤ bytes.length
      · simp only [if_pos hlong, around]
        rfl
      · simp only [if_neg hlong]
        rfl
  · simp only [if_neg hfits]
    by_cases hlong : capacity ≤ bytes.length
    · simp only [if_pos hlong, around]
      rfl
    · simp only [if_neg hlong]
      rfl

theorem writePieces_unwatch (pieces : List Bytes) :
    b.unwatch.writePieces pieces = ((b.writePieces pieces).1, (b.writePieces pieces).2.unwatch) := by
  induction pieces generalizing b with
  | nil => rfl
  | cons piece pieces ih =>
    rw [writePieces, write_unwatch, writePieces]
    rcases b.write piece with ⟨_ | _, b'⟩
    · rfl
    · exact ih b'

theorem flush_unwatch : b.unwatch.flush = (b.flush.1, b.flush.2.unwatch) := by
  rw [flush, drain_unwatch, flush]
  rcases b.drain with ⟨_ | _, b'⟩
  · rfl
  · rfl

end Buffered

namespace Exporter

/-- The exporter without the watch. -/
def unwatch (e : Exporter (Watched ω)) : Exporter ω := ⟨e.writer.unwatch, e.tracked⟩

theorem tracked_unwatch (e : Exporter (Watched ω)) : e.unwatch.tracked = e.tracked := rfl

variable [Device ω] (e : Exporter (Watched ω))

theorem create_unwatch (device : ω) :
    (create ({ device } : Watched ω)).unwatch = create device := by
  have hempty : ({ device := { device } } : Buffered (Watched ω)).unwatch = { device } := rfl
  have hheaders := Buffered.writePieces_unwatch { device := { device } } headers
  rw [hempty] at hheaders
  simp only [create, unwatch, hheaders]

theorem close_unwatch : e.unwatch.close = e.close.device := by
  have hdrain := e.writer.drain_unwatch
  exact congrArg (fun b => b.2.device) hdrain

theorem perform_unwatch (o : Operation) : (e.perform o).unwatch = e.unwatch.perform o := by
  cases o with
  | track ns frame =>
    have hpieces := e.writer.writePieces_unwatch (Block.packet (nearestMicrosecond ns) frame).pieces
    exact congrArg (fun b => (⟨b.2, e.tracked + 1⟩ : Exporter ω)) hpieces.symm
  | flush =>
    have hflush := e.writer.flush_unwatch
    exact congrArg (fun b => (⟨b.2, e.tracked⟩ : Exporter ω)) hflush.symm

theorem performAll_unwatch (operations : List Operation) :
    (e.performAll operations).unwatch = e.unwatch.performAll operations := by
  induction operations generalizing e with
  | nil => rfl
  | cons o operations ih =>
    refine (ih (e.perform o)).trans ?_
    rw [perform_unwatch]
    rfl

end Exporter

/-! ## What reaches the device -/

namespace Exporter

variable [Device ω] {B : Budget ω} {e : Exporter ω} {frames : List Seen} {k : Nat}

/-- Given up, the exporter has handed over as much of the capture as the device ever takes. -/
theorem Stands.took_close (h : e.Stands B (some k) frames) :
    B.Took e.close ((stream frames).take k) (some k) := by
  rcases h.flush_cases with
    ⟨b, hdrain, -, ⟨hb, hnil, -⟩ | ⟨⟨⟨_, hk, -, htook⟩, -⟩, -⟩⟩ |
      ⟨_, b, hdrain, -, ⟨⟨_, hk, -, htook⟩, -⟩, -⟩
  · have htook := hb.took hnil
    rw [close, Buffered.close, hdrain, List.take_of_length_le (B.length_le htook)]
    exact htook
  · obtain rfl := Option.some.inj hk
    rw [close, Buffered.close, hdrain]
    exact htook
  · obtain rfl := Option.some.inj hk
    rw [close, Buffered.close, hdrain]
    exact htook

/-- An operation without its time. -/
def Operation.timeless : Operation → Operation
  | .track _ frame => .track 0 frame
  | .flush => .flush

theorem frames_tracks_timeless (operations : List Operation) :
    (tracks (operations.map Operation.timeless)).map Seen.frame =
      (tracks operations).map Seen.frame := by
  induction operations with
  | nil => rfl
  | cons o operations ih =>
    cases o with
    | track ns frame => exact congrArg (frame :: ·) ih
    | flush => exact ih

/-- Whatever a device that takes `k` bytes in total does with a capture, it never gets anything but
the front of the capture. Watched all through a run, it has taken a front part of the complete
capture of the frames of this run in each of its states; once the exporter is given up, that is as
much of the capture as it takes at all. On a device that takes everything, the same operations,
perhaps at other times, make a file that differs from the complete capture in the times of the
packets alone, and not at all at the same times. Tracking has no answer that could tell of a
failure, and it counts every frame on either device. -/
theorem performAll_truncates (B : Budget ω) {device : ω} {k : Nat}
    (h : B.Took device [] (some k)) {ω' : Type} [Device ω'] (B' : Budget ω') {whole : ω'}
    (h' : B'.Took whole [] none) {operations operations' : List Operation}
    (hsame : operations'.map Operation.timeless = operations.map Operation.timeless) :
    let e := (create ({ device } : Watched ω)).performAll operations
    let e' := (create whole).performAll operations'
    let capture := stream (tracks operations)
    e.unwatch = (create device).performAll operations ∧ e.close.device = e.unwatch.close ∧
      (∀ d ∈ e.close.states, ∃ taken, taken <+: capture ∧ B.Took d taken (some k)) ∧
      B.Took e.unwatch.close (capture.take k) (some k) ∧
      (∃ file, B'.Took e'.close file none ∧ Interface.SameButTimes capture file ∧
        (operations' = operations → file = capture)) ∧
      e.tracked = UInt64.ofNat (tracks operations).length ∧ e'.tracked = e.tracked := by
  intro e e' capture
  have hwatched : (Watched.budget B).Took { device } [] (some k) := ⟨h, fun _ hd => nomatch hd⟩
  have hstands : e.Stands (Watched.budget B) (some k) (tracks operations) :=
    (create_stands hwatched).performAll operations
  have hstands' : e'.Stands B' none (tracks operations') :=
    (create_stands h').performAll operations'
  have hclose := hstands.took_close
  have hframes : (tracks operations').map Seen.frame = (tracks operations).map Seen.frame := by
    rw [← frames_tracks_timeless, hsame, frames_tracks_timeless]
  have hunwatch : e.unwatch = (create device).performAll operations := by
    rw [performAll_unwatch, create_unwatch]
  have htracked : e.tracked = UInt64.ofNat (tracks operations).length := by
    rw [tracked_performAll]
    exact UInt64.zero_add _
  have htracked' : e'.tracked = UInt64.ofNat (tracks operations').length := by
    rw [tracked_performAll]
    exact UInt64.zero_add _
  refine ⟨hunwatch, (close_unwatch e).symm, ?_, ?_, ?_, htracked, ?_⟩
  · intro d hd
    obtain ⟨taken, htaken, htook⟩ := hclose.of_mem_states hd
    exact ⟨taken, htaken.trans (List.take_prefix k capture), htook⟩
  · rw [close_unwatch]
    exact hclose.1
  · refine ⟨stream (tracks operations'), hstands'.complete.1, ?_, fun heq => by rw [heq]⟩
    exact Interface.sameButTimes_stream hframes
  · have hcount := congrArg List.length hframes
    rw [List.length_map, List.length_map] at hcount
    rw [htracked, htracked', hcount]

/-- A device with room for the first eight bytes of a large frame behind a small one. -/
def cramped : BoundedDevice := { room := some 120, portions := [10, 0, 3] }

/-- A frame is cut short on its way around the buffer, another one is put behind it, and the
exporter is flushed again and again. -/
def pressing : List Operation :=
  [.track 0 [1, 2, 3], .flush, .track 2000 largeFrame, .track 5000 [4], .flush, .flush]

theorem performAll_truncates_cramped :
    (BoundedDevice.budget false).Took cramped [] (some 120) ∧
      (BoundedDevice.budget true).Took { failFlush := true } [] none ∧
      ((create cramped).performAll pressing).close.content = (stream (tracks pressing)).take 120 ∧
      (∀ d ∈ ((create ({ device := cramped } : Watched BoundedDevice)).performAll
        pressing).close.states, d.content <+: stream (tracks pressing)) ∧
      ((create ({ failFlush := true } : BoundedDevice)).performAll pressing).close.content =
        stream (tracks pressing) ∧
      ((create cramped).performAll pressing).tracked = 3 := by
  have hcramped : (BoundedDevice.budget false).Took cramped [] (some 120) := ⟨rfl, rfl, rfl, rfl⟩
  have hwhole : (BoundedDevice.budget true).Took { failFlush := true } [] none :=
    ⟨rfl, rfl, rfl, rfl⟩
  obtain ⟨hunwatch, -, hmoments, htook, ⟨file, hfile, -, hsame⟩, htracked, -⟩ :=
    performAll_truncates (BoundedDevice.budget false) hcramped (BoundedDevice.budget true) hwhole
      (rfl : pressing.map Operation.timeless = pressing.map Operation.timeless)
  obtain rfl := hsame rfl
  have hcount : (tracks pressing).length = 3 := rfl
  obtain ⟨-, -, hcontent, -⟩ := htook
  obtain ⟨-, -, hcomplete, -⟩ := hfile
  rw [hunwatch] at hcontent
  rw [hcount] at htracked
  refine ⟨hcramped, hwhole, hcontent, ?_, hcomplete, ?_⟩
  · intro d hd
    obtain ⟨taken, htaken, -, -, rfl, -⟩ := hmoments d hd
    exact htaken
  · rw [← hunwatch, tracked_unwatch, htracked]
    rfl

end Exporter

end EtherRelay.Capture
