import EtherRelay.Proofs.Wire.Budget

/-!
# Devices under watch

A caller only sees a device between two of its own calls. A watched device keeps every state that
it was ever in, so that something can be said of each moment in the middle of a call as well. It
answers as the device that is watched, and what is known of the bytes that this device takes is
known of all its states: each of them has taken a front part of what the last one has taken.
-/

namespace EtherRelay.Device

/-- A device and the states that it was in before, latest first. -/
structure Watched (ω : Type) where
  device : ω
  past : List ω := []
  deriving Repr, DecidableEq

namespace Watched

variable {ω : Type}

/-- Every state that the device was in so far. -/
def states (w : Watched ω) : List ω := w.device :: w.past

variable [Device ω]

instance : Device (Watched ω) where
  write w bytes :=
    let (r, device) := Device.write w.device bytes
    (r, ⟨device, w.states⟩)
  flush w :=
    let (r, device) := Device.flush w.device
    (r, ⟨device, w.states⟩)

/-- Watching a device does not change what it takes. -/
theorem writeAll_device (w : Watched ω) (bytes : Bytes) :
    Device.writeAll w.device bytes =
      ((Device.writeAll w bytes).1, (Device.writeAll w bytes).2.1,
        (Device.writeAll w bytes).2.2.device) := by
  induction hn : bytes.length using Nat.strongRecOn generalizing w bytes with
  | ind n ih =>
    cases bytes with
    | nil => simp only [Device.writeAll]
    | cons b bytes =>
      have hwatched : Device.write w (b :: bytes) =
          ((Device.write w.device (b :: bytes)).1,
            ⟨(Device.write w.device (b :: bytes)).2, w.states⟩) := rfl
      rw [Device.writeAll, Device.writeAll, hwatched]
      rcases Device.write w.device (b :: bytes) with ⟨_ | _ | m, d⟩
      · rfl
      · rfl
      · refine ih (bytes.drop m).length ?_ ⟨d, w.states⟩ (bytes.drop m) rfl
        rw [← hn, List.length_drop, List.length_cons]
        omega

variable {w : Watched ω} {taken : Bytes} {limit : Option Nat}

/-- Each state of a device has taken a front part of these bytes. -/
def Took (B : Budget ω) (w : Watched ω) (taken : Bytes) (limit : Option Nat) : Prop :=
  B.Took w.device taken limit ∧ ∀ d ∈ w.past, ∃ part, part <+: taken ∧ B.Took d part limit

variable {B : Budget ω}

theorem Took.of_mem_states (h : w.Took B taken limit) {d : ω} (hd : d ∈ w.states) :
    ∃ part, part <+: taken ∧ B.Took d part limit := by
  rcases List.mem_cons.mp hd with rfl | hd
  · exact ⟨taken, List.prefix_refl taken, h.1⟩
  · exact h.2 d hd

/-- What was taken before stays in front of what is taken next. -/
theorem Took.next (h : w.Took B taken limit) {d : ω} (more : Bytes)
    (hd : B.Took d (taken ++ more) limit) :
    Took B ⟨d, w.states⟩ (taken ++ more) limit := by
  refine ⟨hd, fun d' hd' => ?_⟩
  obtain ⟨part, hpart, htook⟩ := h.of_mem_states hd'
  exact ⟨part, hpart.trans (List.prefix_append taken more), htook⟩

/-- A watched device has the budget of the device. -/
def budget (B : Budget ω) : Budget (Watched ω) where
  Took := Took B
  length_le h := B.length_le h.1
  write_full := by
    rintro w taken bytes h hne
    obtain ⟨e, d, hwrite, hd⟩ := B.write_full h.1 hne
    refine ⟨e, ⟨d, w.states⟩, ?_, ?_⟩
    · simp only [Device.write, hwrite]
    · have hnext := h.next [] (by rwa [List.append_nil])
      rwa [List.append_nil] at hnext
  write_open := by
    rintro w taken bytes limit h hopen hne
    obtain ⟨n, d, hpos, hn, hwrite, hd⟩ := B.write_open h.1 hopen hne
    refine ⟨n, ⟨d, w.states⟩, hpos, hn, ?_, h.next (bytes.take n) hd⟩
    simp only [Device.write, hwrite]
  flush := by
    rintro w taken limit h
    have hnext := h.next [] (by rw [List.append_nil]; exact B.flush h.1)
    rwa [List.append_nil] at hnext

end Watched

end EtherRelay.Device
