import EtherRelay.Wire.Device

/-!
# Devices with a budget

A device may take less than it is offered. A device with a budget takes bytes, in portions of its
own choosing, until it has taken a fixed number of them in total, and refuses every byte from then
on. Without a limit it never refuses.

The portions do not matter to whoever offers the rest again: `Device.Budget.writeAll_cases` says
that either everything is taken, or just as much as the budget still allows. `BoundedDevice` has a
budget, whatever its room and its portions are.
-/

namespace EtherRelay

/-- An account of what the devices of a type take. `Took d taken limit` says that `d` has taken
the bytes `taken` so far, of `limit` bytes in total. -/
structure Device.Budget (ω : Type) [Device ω] where
  Took : ω → (taken : Bytes) → (limit : Option Nat) → Prop
  length_le : ∀ {d : ω} {taken : Bytes} {k : Nat}, Took d taken (some k) → taken.length ≤ k
  /-- A device that took all it ever takes refuses every byte and stays as it is. -/
  write_full : ∀ {d : ω} {taken bytes : Bytes}, Took d taken (some taken.length) → bytes ≠ [] →
    ∃ e d', Device.write d bytes = (.error e, d') ∧ Took d' taken (some taken.length)
  /-- Any other device takes at least one byte. -/
  write_open : ∀ {d : ω} {taken bytes : Bytes} {limit : Option Nat}, Took d taken limit →
    limit ≠ some taken.length → bytes ≠ [] →
    ∃ n d', 0 < n ∧ n ≤ bytes.length ∧ Device.write d bytes = (.ok n, d') ∧
      Took d' (taken ++ bytes.take n) limit
  flush : ∀ {d : ω} {taken : Bytes} {limit : Option Nat}, Took d taken limit →
    Took (Device.flush d).2 taken limit

namespace Device.Budget

variable {ω : Type} [Device ω] (B : Budget ω) {d : ω} {taken : Bytes} {limit : Option Nat}

/-- Offering the rest again and again, either everything is taken, or the device has taken all
that it ever takes and a part of the bytes is left. -/
theorem writeAll_cases (h : B.Took d taken limit) (bytes : Bytes) :
    (∃ d', Device.writeAll d bytes = (.ok (), [], d') ∧ B.Took d' (taken ++ bytes) limit) ∨
    ∃ e part rest d', Device.writeAll d bytes = (.error e, rest, d') ∧ part ++ rest = bytes ∧
      rest ≠ [] ∧ limit = some (taken ++ part).length ∧ B.Took d' (taken ++ part) limit := by
  induction hn : bytes.length using Nat.strongRecOn generalizing bytes taken d with
  | ind n ih =>
    cases bytes with
    | nil =>
      left
      refine ⟨d, ?_, ?_⟩
      · rw [Device.writeAll]
      · rwa [List.append_nil]
    | cons b bytes =>
      by_cases hfull : limit = some taken.length
      · subst hfull
        obtain ⟨e, d', hwrite, hd'⟩ := B.write_full h (List.cons_ne_nil b bytes)
        right
        refine ⟨e, [], b :: bytes, d', ?_, rfl, List.cons_ne_nil b bytes, ?_, ?_⟩
        · rw [Device.writeAll, hwrite]
        · rw [List.append_nil]
        · rwa [List.append_nil]
      · obtain ⟨m, d', hpos, -, hwrite, hd'⟩ := B.write_open h hfull (List.cons_ne_nil b bytes)
        obtain ⟨m, rfl⟩ := Nat.exists_eq_succ_of_ne_zero (Nat.ne_of_gt hpos)
        have hrest : (bytes.drop m).length < n := by
          rw [← hn, List.length_drop, List.length_cons]
          omega
        have hwriteAll : Device.writeAll d (b :: bytes) = Device.writeAll d' (bytes.drop m) := by
          rw [Device.writeAll, hwrite]
        have hsplit : ∀ part, (taken ++ (b :: bytes).take (m + 1)) ++ part =
            taken ++ (b :: (bytes.take m ++ part)) := by
          intro part
          simp
        rw [hwriteAll]
        rcases ih _ hrest hd' (bytes.drop m) rfl with
          ⟨d'', hall, htook⟩ | ⟨e, part, rest, d'', hall, hpart, hne, hlimit, htook⟩
        · left
          refine ⟨d'', hall, ?_⟩
          rwa [hsplit, List.take_append_drop] at htook
        · right
          rw [hsplit] at hlimit htook
          refine ⟨e, _, rest, d'', hall, ?_, hne, hlimit, htook⟩
          rw [List.cons_append, List.append_assoc, hpart, List.take_append_drop]

/-- What is taken can be counted on a device inside. -/
def comap {δ : Type} [Device δ] (inner : δ → ω)
    (hwrite : ∀ d bytes, (Device.write d bytes).1 = (Device.write (inner d) bytes).1 ∧
      inner (Device.write d bytes).2 = (Device.write (inner d) bytes).2)
    (hflush : ∀ d, inner (Device.flush d).2 = (Device.flush (inner d)).2) : Budget δ where
  Took d := B.Took (inner d)
  length_le h := B.length_le h
  write_full := by
    intro d taken bytes h hne
    obtain ⟨e, d', hinner, hd'⟩ := B.write_full h hne
    obtain ⟨hanswer, hafter⟩ := hwrite d bytes
    rw [hinner] at hanswer hafter
    exact ⟨e, (Device.write d bytes).2, Prod.ext hanswer rfl, hafter ▸ hd'⟩
  write_open := by
    intro d taken bytes limit h hopen hne
    obtain ⟨n, d', hpos, hle, hinner, hd'⟩ := B.write_open h hopen hne
    obtain ⟨hanswer, hafter⟩ := hwrite d bytes
    rw [hinner] at hanswer hafter
    exact ⟨n, (Device.write d bytes).2, hpos, hle, Prod.ext hanswer rfl, hafter ▸ hd'⟩
  flush := by
    intro d taken limit h
    rw [hflush d]
    exact B.flush h

end Device.Budget

namespace BoundedDevice

variable {d : BoundedDevice} {bytes : Bytes}

/-- What the next write takes is the front of what it is offered, and not empty as long as there is
room. -/
theorem exists_fitting_portion (d : BoundedDevice) (bytes : Bytes) :
    ∃ n, d.fitting (d.portion bytes) = bytes.take n ∧ n ≤ bytes.length ∧
      (∀ room, d.room = some room → n ≤ room) ∧ (bytes ≠ [] → d.room ≠ some 0 → 0 < n) := by
  have hportion : ∃ n, d.portion bytes = bytes.take n ∧ n ≤ bytes.length ∧
      (bytes ≠ [] → 0 < n) := by
    rw [portion]
    split
    · exact ⟨bytes.length, List.take_length.symm, Nat.le_refl _, List.length_pos_iff.mpr⟩
    · next most _ _ =>
      refine ⟨min (max 1 most) bytes.length, ?_, Nat.min_le_right _ _, fun hne => ?_⟩
      · rw [← List.take_take, List.take_length]
      · have := List.length_pos_iff.mpr hne
        omega
  obtain ⟨n, hn, hle, hpos⟩ := hportion
  cases hroom : d.room with
  | none =>
    refine ⟨n, ?_, hle, ?_, fun hne _ => hpos hne⟩
    · simp only [fitting, hroom, hn]
    · rintro _ ⟨⟩
  | some room =>
    refine ⟨min room n, ?_, by omega, fun _ h => ?_, fun hne hopen => ?_⟩
    · simp only [fitting, hroom, hn, List.take_take]
    · obtain rfl := Option.some.inj h
      exact Nat.min_le_left _ _
    · have hzero : room ≠ 0 := fun h => hopen (congrArg some h)
      have := hpos hne
      omega

/-- The budget of the devices whose content can be read back and that are alike in whether they can
flush. -/
def budget (failFlush : Bool) : Device.Budget BoundedDevice where
  Took d taken limit := d.keeps = true ∧ d.failFlush = failFlush ∧ d.content = taken ∧
    limit = d.room.map (taken.length + ·)
  length_le := by
    rintro d taken k ⟨_, _, _, hlimit⟩
    obtain ⟨room, _, rfl⟩ := Option.map_eq_some_iff.mp hlimit.symm
    exact Nat.le_add_right _ _
  write_full := by
    rintro d _ bytes ⟨hkeeps, hflush, rfl, hlimit⟩ hne
    obtain ⟨room, hroom, hzero⟩ := Option.map_eq_some_iff.mp hlimit.symm
    obtain ⟨n, hfitting, _, hle, _⟩ := exists_fitting_portion d bytes
    obtain rfl : n = 0 := by
      have := hle room hroom
      omega
    refine ⟨.full, d, ?_, hkeeps, hflush, rfl, hlimit⟩
    simp [Device.write, BoundedDevice.write, hfitting, hne]
  write_open := by
    rintro d _ bytes limit ⟨hkeeps, hflush, rfl, rfl⟩ hopen hne
    obtain ⟨n, hfitting, hlength, hle, hpos⟩ := exists_fitting_portion d bytes
    have hroom : d.room ≠ some 0 := fun h => hopen (by rw [h]; rfl)
    have htaken : (bytes.take n).isEmpty = false := by
      rw [List.isEmpty_eq_false_iff, ← List.length_pos_iff, List.length_take]
      exact Nat.lt_min.mpr ⟨hpos hne hroom, List.length_pos_iff.mpr hne⟩
    have hwrite : d.write bytes = (.ok n, { d with
        room := d.room.map (· - n)
        portions := d.portions.tail
        content := d.content ++ bytes.take n }) := by
      simp [BoundedDevice.write, hfitting, htaken, hkeeps, List.length_take_of_le hlength]
    refine ⟨n, _, hpos hne hroom, hlength, hwrite, hkeeps, hflush, rfl, ?_⟩
    cases hd : d.room with
    | none => rfl
    | some room =>
      have := hle room hd
      simp only [Option.map_some, Option.some.injEq, List.length_append,
        List.length_take_of_le hlength]
      omega
  flush h := h

end BoundedDevice

end EtherRelay
