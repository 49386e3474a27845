import EtherRelay.Capture.Buffered
import EtherRelay.Proofs.Wire.Budget

/-!
# What a buffered writer loses

The bytes that a buffered writer was given are either taken by the device or pending, in this order,
as long as no write fails. A device that took all it ever takes can make a write fail in two ways.
If the flush in front of the write fails, bytes stay pending, and every later flush fails as well:
the writer is *jammed*. If a write around the buffer fails, nothing is pending, and the next flush
has nothing left to fail on: the writer is *severed*.

Each operation is described by the states it leads to, one lemma for each state it starts from.
-/

namespace EtherRelay

namespace Device.Budget

variable {ω : Type} [Device ω] (B : Budget ω) {d : ω} {limit : Option Nat} {s t : Bytes}

/-- The device took all that it ever takes, which is only the front of `s`. -/
def Spent (d : ω) (limit : Option Nat) (s : Bytes) : Prop :=
  ∃ k, limit = some k ∧ k < s.length ∧ B.Took d (s.take k) limit

variable {B}

theorem Spent.append (h : B.Spent d limit s) (t : Bytes) : B.Spent d limit (s ++ t) := by
  obtain ⟨k, hlimit, hk, htook⟩ := h
  refine ⟨k, hlimit, ?_, ?_⟩
  · rw [List.length_append]
    omega
  · rwa [List.take_append_of_le_length (Nat.le_of_lt hk)]

/-- Nothing more is taken. -/
theorem Spent.writeAll (h : B.Spent d limit s) (ht : t ≠ []) :
    ∃ e d', Device.writeAll d t = (.error e, t, d') ∧ B.Spent d' limit s := by
  obtain ⟨k, rfl, hk, htook⟩ := h
  have hlength : (s.take k).length = k := List.length_take_of_le (Nat.le_of_lt hk)
  have hfull : B.Took d (s.take k) (some (s.take k).length) := by rwa [hlength]
  obtain ⟨e, d', hwrite, hd'⟩ := B.write_full hfull ht
  refine ⟨e, d', ?_, k, rfl, hk, by rwa [hlength] at hd'⟩
  cases t with
  | nil => exact absurd rfl ht
  | cons b t => rw [Device.writeAll, hwrite]

end Device.Budget

namespace Capture.Buffered

open Device (Budget)

variable {ω : Type} [Device ω] {B : Budget ω} {b b' : Buffered ω} {limit : Option Nat}
variable {s t bytes : Bytes} {pieces : List Bytes}

/-! ## States -/

variable (B) in
/-- Nothing of `s` is lost: what the device did not take is pending. -/
def Whole (b : Buffered ω) (limit : Option Nat) (s : Bytes) : Prop :=
  ∃ taken, B.Took b.device taken limit ∧ taken ++ b.pending = s

variable (B) in
/-- The device takes nothing more, and bytes are pending that it would have to take. -/
def Jammed (b : Buffered ω) (limit : Option Nat) (s : Bytes) : Prop :=
  B.Spent b.device limit s ∧ b.pending ≠ []

variable (B) in
/-- The device takes nothing more, and nothing is pending. -/
def Severed (b : Buffered ω) (limit : Option Nat) (s : Bytes) : Prop :=
  B.Spent b.device limit s ∧ b.pending = []

theorem Whole.flushDevice (h : b.Whole B limit s) :
    Whole B { b with device := (Device.flush b.device).2 } limit s := by
  obtain ⟨taken, htook, hs⟩ := h
  exact ⟨taken, B.flush htook, hs⟩

theorem Severed.flushDevice (h : b.Severed B limit s) :
    Severed B { b with device := (Device.flush b.device).2 } limit s := by
  obtain ⟨⟨k, hlimit, hk, htook⟩, hnil⟩ := h
  exact ⟨⟨k, hlimit, hk, B.flush htook⟩, hnil⟩

theorem Jammed.append (h : b.Jammed B limit s) (t : Bytes) : b.Jammed B limit (s ++ t) :=
  ⟨h.1.append t, h.2⟩

theorem Severed.append (h : b.Severed B limit s) (t : Bytes) : b.Severed B limit (s ++ t) :=
  ⟨h.1.append t, h.2⟩

/-- Without pending bytes the device has taken everything. -/
theorem Whole.took (h : b.Whole B limit s) (hpending : b.pending = []) :
    B.Took b.device s limit := by
  obtain ⟨taken, htook, rfl⟩ := h
  rwa [hpending, List.append_nil]

/-! ## Draining the buffer -/

/-- The device takes all pending bytes, or it has taken all that it ever takes. -/
theorem Whole.drain (h : b.Whole B limit s) :
    (∃ b', b.drain = (.ok (), b') ∧ b'.pending = [] ∧ b'.Whole B limit s) ∨
    ∃ e b', b.drain = (.error e, b') ∧ b'.Jammed B limit s := by
  obtain ⟨taken, htook, rfl⟩ := h
  rcases B.writeAll_cases htook b.pending with
    ⟨d, hall, hd⟩ | ⟨e, part, rest, d, hall, hpart, hne, hlimit, hd⟩
  · left
    refine ⟨⟨d, []⟩, ?_, rfl, taken ++ b.pending, hd, List.append_nil _⟩
    rw [Buffered.drain, hall]
  · right
    refine ⟨e, ⟨d, rest⟩, ?_, ⟨_, hlimit, ?_, ?_⟩, hne⟩
    · rw [Buffered.drain, hall]
    · have := List.length_pos_iff.mpr hne
      simp only [← hpart, List.length_append]
      omega
    · rwa [← hpart, ← List.append_assoc, List.take_left]

theorem Jammed.drain (h : b.Jammed B limit s) :
    ∃ e b', b.drain = (.error e, b') ∧ b'.Jammed B limit s := by
  obtain ⟨e, d, hall, hd⟩ := h.1.writeAll h.2
  refine ⟨e, ⟨d, b.pending⟩, ?_, hd, h.2⟩
  rw [Buffered.drain, hall]

theorem drain_of_pending_eq_nil (h : b.pending = []) : b.drain = (.ok (), b) := by
  obtain ⟨device, pending⟩ := b
  obtain rfl : pending = [] := h
  rw [Buffered.drain, Device.writeAll]

theorem flush_of_drained (h : b.drain = (.ok (), b')) :
    b.flush = ((Device.flush b'.device).1, { b' with device := (Device.flush b'.device).2 }) := by
  simp only [Buffered.flush, h]

theorem flush_of_failed {e : DeviceError} (h : b.drain = (.error e, b')) :
    b.flush = (.error e, b') := by
  simp only [Buffered.flush, h]

/-! ## Writing -/

/-- A write that fits is put behind the pending bytes. -/
theorem write_fits (hspare : bytes.length ≤ b.spare) (hshort : bytes.length < capacity) :
    b.write bytes = (.ok (), { b with pending := b.pending ++ bytes }) := by
  simp only [Buffered.write, if_neg (Nat.not_lt.mpr hspare), if_neg (Nat.not_le.mpr hshort)]

/-- A short write that does not fit is pending alone, once the buffer is drained. -/
theorem write_drained (hspare : b.spare < bytes.length) (hshort : bytes.length < capacity)
    (hdrain : b.drain = (.ok (), b')) :
    b.write bytes = (.ok (), { b' with pending := b'.pending ++ bytes }) := by
  simp only [Buffered.write, if_pos hspare, hdrain, if_neg (Nat.not_le.mpr hshort)]

theorem write_failed {e : DeviceError} (hspare : b.spare < bytes.length)
    (hdrain : b.drain = (.error e, b')) : b.write bytes = (.error e, b') := by
  simp only [Buffered.write, if_pos hspare, hdrain]

omit [Device ω] in
/-- Only an empty buffer has room for as much as it can hold. -/
theorem pending_eq_nil_of_spare (hspare : ¬ b.spare < bytes.length)
    (hlong : capacity ≤ bytes.length) : b.pending = [] := by
  have hpos : 0 < capacity := by decide
  rw [← List.length_eq_zero_iff]
  rw [spare] at hspare
  omega

/-- A write as large as the buffer goes around it. -/
theorem write_around (hlong : capacity ≤ bytes.length) (hdrain : b.drain = (.ok (), b')) :
    b.write bytes =
      ((Device.writeAll b'.device bytes).1,
        { b' with device := (Device.writeAll b'.device bytes).2.2 }) := by
  by_cases hspare : b.spare < bytes.length
  · simp only [Buffered.write, if_pos hspare, hdrain, if_pos hlong]
  · have hnil := pending_eq_nil_of_spare hspare hlong
    obtain rfl : b = b' := by
      rw [drain_of_pending_eq_nil hnil] at hdrain
      exact congrArg Prod.snd hdrain
    simp only [Buffered.write, if_neg hspare, if_pos hlong]

/-- A write keeps everything, and around the buffer leaves nothing pending; or the flush in front
of it jams the writer; or it goes around the buffer and the device takes only a part. -/
theorem Whole.write (h : b.Whole B limit s) (bytes : Bytes) :
    (∃ b', b.write bytes = (.ok (), b') ∧ b'.Whole B limit (s ++ bytes) ∧
      (capacity ≤ bytes.length → b'.pending = [])) ∨
    (∃ e b', b.write bytes = (.error e, b') ∧ b'.Jammed B limit s) ∨
    ∃ e b', b.write bytes = (.error e, b') ∧ b'.Severed B limit (s ++ bytes) ∧
      capacity ≤ bytes.length ∧ ∀ k, limit = some k → s.length ≤ k := by
  by_cases hlong : capacity ≤ bytes.length
  · rcases h.drain with ⟨b', hdrain, hnil, hb'⟩ | ⟨e, b', hdrain, hb'⟩
    · rw [write_around hlong hdrain]
      rcases B.writeAll_cases (hb'.took hnil) bytes with
        ⟨d, hall, hd⟩ | ⟨e, part, rest, d, hall, hpart, hne, hlimit, hd⟩
      · left
        rw [hall]
        refine ⟨_, rfl, ⟨s ++ bytes, hd, ?_⟩, fun _ => hnil⟩
        rw [hnil, List.append_nil]
      · right
        right
        rw [hall]
        refine ⟨e, _, rfl, ⟨⟨_, hlimit, ?_, ?_⟩, hnil⟩, hlong, ?_⟩
        · have := List.length_pos_iff.mpr hne
          simp only [← hpart, List.length_append]
          omega
        · rwa [← hpart, ← List.append_assoc, List.take_left]
        · intro k hk
          rw [hlimit, Option.some.injEq, List.length_append] at hk
          omega
    · right
      left
      by_cases hspare : b.spare < bytes.length
      · exact ⟨e, b', write_failed hspare hdrain, hb'⟩
      · -- draining an empty buffer cannot fail
        rw [drain_of_pending_eq_nil (pending_eq_nil_of_spare hspare hlong)] at hdrain
        nomatch congrArg Prod.fst hdrain
  · have hshort := Nat.lt_of_not_le hlong
    have keep : ∀ {b : Buffered ω}, b.Whole B limit s →
        Whole B { b with pending := b.pending ++ bytes } limit (s ++ bytes) := by
      rintro b ⟨taken, htook, rfl⟩
      exact ⟨taken, htook, (List.append_assoc _ _ _).symm⟩
    by_cases hspare : b.spare < bytes.length
    · rcases h.drain with ⟨b', hdrain, -, hb'⟩ | ⟨e, b', hdrain, hb'⟩
      · left
        exact ⟨_, write_drained hspare hshort hdrain, keep hb', fun h => absurd h hlong⟩
      · right
        left
        exact ⟨e, b', write_failed hspare hdrain, hb'⟩
    · left
      exact ⟨_, write_fits (Nat.le_of_not_lt hspare) hshort, keep h, fun h => absurd h hlong⟩

/-- A jammed writer stays jammed, whether there is room in its buffer or not. -/
theorem Jammed.write (h : b.Jammed B limit s) (bytes : Bytes) :
    ∃ r b', b.write bytes = (r, b') ∧ b'.Jammed B limit s := by
  by_cases hspare : b.spare < bytes.length
  · obtain ⟨e, b', hdrain, hb'⟩ := h.drain
    exact ⟨_, b', write_failed hspare hdrain, hb'⟩
  · have hshort : bytes.length < capacity := by
      apply Nat.lt_of_not_le
      intro hlong
      exact h.2 (pending_eq_nil_of_spare hspare hlong)
    refine ⟨_, _, write_fits (Nat.le_of_not_lt hspare) hshort, h.1, ?_⟩
    exact List.append_ne_nil_of_left_ne_nil h.2 bytes

/-- A short write brings a severed writer to notice that its device takes nothing more. -/
theorem Severed.write (h : b.Severed B limit s) (hne : bytes ≠ [])
    (hshort : bytes.length < capacity) :
    ∃ b', b.write bytes = (.ok (), b') ∧ b'.Jammed B limit s := by
  have hspare : bytes.length ≤ b.spare := by
    rw [spare, h.2, List.length_nil]
    omega
  refine ⟨_, write_fits hspare hshort, h.1, ?_⟩
  exact List.append_ne_nil_of_right_ne_nil b.pending hne

/-! ## Writing pieces -/

theorem writePieces_cons_of_ok {piece : Bytes} (h : b.write piece = (.ok (), b')) :
    b.writePieces (piece :: pieces) = b'.writePieces pieces := by
  rw [writePieces, h]

theorem writePieces_cons_of_error {piece : Bytes} {e : DeviceError}
    (h : b.write piece = (.error e, b')) :
    b.writePieces (piece :: pieces) = (.error e, b') := by
  rw [writePieces, h]

theorem writePieces_append_of_ok {xs ys : List Bytes} (h : b.writePieces xs = (.ok (), b')) :
    b.writePieces (xs ++ ys) = b'.writePieces ys := by
  induction xs generalizing b with
  | nil =>
    obtain rfl : b = b' := congrArg Prod.snd h
    rfl
  | cons x xs ih =>
    rcases hx : b.write x with ⟨_ | _, b₁⟩
    · rw [writePieces_cons_of_error hx] at h
      nomatch congrArg Prod.fst h
    · rw [writePieces_cons_of_ok hx] at h
      rw [List.cons_append, writePieces_cons_of_ok hx]
      exact ih h

theorem writePieces_append_of_error {xs ys : List Bytes} {e : DeviceError}
    (h : b.writePieces xs = (.error e, b')) : b.writePieces (xs ++ ys) = (.error e, b') := by
  induction xs generalizing b with
  | nil => nomatch congrArg Prod.fst h
  | cons x xs ih =>
    rcases hx : b.write x with ⟨_ | _, b₁⟩
    · rw [writePieces_cons_of_error hx] at h
      rw [List.cons_append, writePieces_cons_of_error hx, h]
    · rw [writePieces_cons_of_ok hx] at h
      rw [List.cons_append, writePieces_cons_of_ok hx]
      exact ih h

/-- Pieces that fit are put behind the pending bytes. -/
theorem writePieces_fits (h : b.pending.length + pieces.flatten.length < capacity) :
    b.writePieces pieces = (.ok (), { b with pending := b.pending ++ pieces.flatten }) := by
  induction pieces generalizing b with
  | nil => rw [writePieces, List.flatten_nil, List.append_nil]
  | cons piece pieces ih =>
    rw [List.flatten_cons, List.length_append] at h
    have hspare : piece.length ≤ b.spare := by
      rw [spare]
      omega
    have hwrite := write_fits hspare (by omega)
    rw [writePieces_cons_of_ok hwrite, ih (by rw [List.length_append]; omega),
      List.flatten_cons, List.append_assoc]

theorem Jammed.writePieces (h : b.Jammed B limit s) (pieces : List Bytes) :
    ∃ r b', b.writePieces pieces = (r, b') ∧ b'.Jammed B limit s := by
  induction pieces generalizing b with
  | nil => exact ⟨_, _, rfl, h⟩
  | cons piece pieces ih =>
    obtain ⟨r, b', hwrite, hb'⟩ := h.write piece
    cases r with
    | error e => exact ⟨_, _, writePieces_cons_of_error hwrite, hb'⟩
    | ok _ =>
      rw [writePieces_cons_of_ok hwrite]
      exact ih hb'

/-- Short pieces never go around the buffer, so they cannot sever the writer. -/
theorem Whole.writePieces (h : b.Whole B limit s) (hshort : ∀ p ∈ pieces, p.length < capacity) :
    (∃ b', b.writePieces pieces = (.ok (), b') ∧ b'.Whole B limit (s ++ pieces.flatten)) ∨
    ∃ e b', b.writePieces pieces = (.error e, b') ∧ b'.Jammed B limit (s ++ pieces.flatten) := by
  induction pieces generalizing b s with
  | nil =>
    left
    refine ⟨b, rfl, ?_⟩
    rwa [List.flatten_nil, List.append_nil]
  | cons piece pieces ih =>
    obtain ⟨hpiece, hpieces⟩ := List.forall_mem_cons.mp hshort
    rw [List.flatten_cons, ← List.append_assoc]
    rcases h.write piece with
      ⟨b', hwrite, hb', -⟩ | ⟨e, b', hwrite, hb'⟩ | ⟨_, _, _, _, hlong, _⟩
    · rw [writePieces_cons_of_ok hwrite]
      exact ih hb' hpieces
    · right
      exact ⟨e, b', writePieces_cons_of_error hwrite, (hb'.append piece).append _⟩
    · exact absurd hlong (Nat.not_le.mpr hpiece)

end Capture.Buffered

end EtherRelay
