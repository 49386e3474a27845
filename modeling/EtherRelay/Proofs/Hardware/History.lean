import EtherRelay.Proofs.Hardware.Sharing
import Mathlib.Data.UInt

/-!
# What registers tell of their history

A register file is three tables, and operations change them by the arithmetic of blocks. A history
is only the list of what was bumped and written, latest first. The main statement computes from it
what each register reads, what its running counter has come to, and how often a latch register was
written.

A register reads what was written to it last, or the sum of its bumps as of the last latch of its
block, whichever came later. Latches count only if the register had been bumped by then.
-/

namespace EtherRelay.Hardware

namespace Registers

/-- A single change of a register file. -/
inductive Change where
  | bump (offset delta : UInt32)
  | write (offset value : UInt32)
  deriving Repr, DecidableEq

/-- Whether a write latches. Every other write just puts a value there. -/
def isLatching (offset value : UInt32) : Bool := value == latchValue && isLatch offset

theorem isLatching_latch (index : UInt8) :
    isLatching (Layout.ofIndex index).latch latchValue = true := by
  rw [isLatching, beq_self_eq_true, Bool.true_and, Layout.isLatch_latch]

namespace Change

/-- The register that is bumped or written. -/
def place : Change → UInt32
  | bump offset _ | write offset _ => offset

def isBump : Change → Bool
  | bump .. => true
  | write .. => false

/-- Whether the change latches by the register at this offset. -/
def latchesAt (offset : UInt32) : Change → Bool
  | bump .. => false
  | write place value => isLatching place value && place == offset

theorem latchesAt_write {place value : UInt32} (h : isLatching place value = true)
    (offset : UInt32) : (write place value).latchesAt offset = (place == offset) := by
  rw [latchesAt, h, Bool.true_and]

/-- The change neither bumps the register nor puts a value there. -/
def Spares (offset : UInt32) : Change → Prop
  | bump place _ => place ≠ offset
  | write place value => isLatching place value = true ∨ place ≠ offset

/-- Latches are those of numbered blocks. -/
def Allowed : Change → Prop
  | bump .. => True
  | write offset value =>
    isLatching offset value = true → ∃ index, offset = (Layout.ofIndex index).latch

end Change

/-- What can be asked of a register file. -/
inductive Operation where
  | bump (offset delta : UInt32)
  /-- Count frames in four registers, wherever they are. -/
  | countFrames (totals : Totals UInt32) (frames bytes : UInt32)
  | write (offset value : UInt32)
  /-- Take a snapshot of a numbered block. -/
  | latchAndRead (index : UInt8) (extended : Bool)
  deriving Repr, DecidableEq

/-- The changes that an operation makes, latest first. -/
def Operation.changes : Operation → List Change
  | bump offset delta => [.bump offset delta]
  | countFrames totals frames bytes =>
    [.bump totals.goodBytes bytes, .bump totals.bytes bytes, .bump totals.goodPackets frames,
      .bump totals.packets frames]
  | write offset value => [.write offset value]
  | latchAndRead index _ => [.write (Layout.ofIndex index).latch latchValue]

/-- The changes that operations make, latest first. -/
def history (ops : List Operation) : List Change :=
  ops.reverse.flatMap Operation.changes

/-- Perform an operation. -/
def perform (r : Registers) : Operation → Registers
  | .bump offset delta => r.bump offset delta
  | .countFrames totals frames bytes => r.countFrames totals frames bytes
  | .write offset value => (r.write offset value).2
  | .latchAndRead index extended => (Snapshot.take r (.ofIndex index) extended).2

/-- Perform operations in order. -/
def performAll (r : Registers) (ops : List Operation) : Registers := ops.foldl perform r

/-! ## What a history says -/

/-- By how much a running counter was bumped each time, latest first. -/
def bumps (offset : UInt32) (changes : List Change) : List UInt32 :=
  changes.filterMap fun
    | .bump place delta => if place = offset then some delta else none
    | .write .. => none

/-- The value that a register shows after these changes, latest first. -/
def lastValue (offset : UInt32) : List Change → UInt32
  | [] => 0
  | .bump .. :: before => lastValue offset before
  | .write place value :: before =>
    if isLatching place value then
      if place / blockStride = offset / blockStride ∧ bumps offset before ≠ [] then
        (bumps offset before).sum
      else lastValue offset before
    else if place = offset then value
    else lastValue offset before

/-- How often a latch register was latched. -/
def latchesOf (offset : UInt32) (changes : List Change) : Nat :=
  changes.countP (Change.latchesAt offset)

/-- What can be told of a register file from the operations that were performed on it, and what
later operations leave alone. -/
structure Recounts (ops : List Operation) (r : Registers) : Prop where
  read_eq : ∀ offset, r.read offset = lastValue offset (history ops)
  /-- A snapshot shows the registers as they are after its own latch. -/
  take_eq : ∀ index extended, (Snapshot.take r (.ofIndex index) extended).1 =
    .assemble (.ofIndex index) extended ((Snapshot.reads (.ofIndex index) extended).map
      (lastValue · (history (ops ++ [.latchAndRead index extended]))))
  /-- A running counter has come to the sum of its bumps, whatever was latched and written. -/
  total_eq : ∀ offset, r.total offset = (bumps offset (history ops)).sum
  latchCount_eq : ∀ offset, r.latchCount offset = UInt64.ofNat (latchesOf offset (history ops))
  /-- Bumps show nowhere until a latch. -/
  read_of_bumps : ∀ more, (∀ c ∈ history more, c.isBump = true) → ∀ offset,
    (r.performAll more).read offset = r.read offset
  /-- Latches and other writes change no running counter. -/
  total_of_writes : ∀ more, (∀ c ∈ history more, c.Allowed) →
    (∀ c ∈ history more, c.isBump = false) → ∀ offset,
    (r.performAll more).total offset = r.total offset
  /-- What is done elsewhere does not show in a block. -/
  read_of_elsewhere : ∀ more offset, (∀ c ∈ history more, c.Allowed) →
    (∀ c ∈ history more, c.place / blockStride ≠ offset / blockStride) →
    (r.performAll more).read offset = r.read offset
  /-- After a latch of its block, further latches change nothing about a register that is neither
  bumped nor written. -/
  read_of_spares : ∀ index extended more offset, Layout.Within index offset →
    (∀ c ∈ history more, c.Allowed) → (∀ c ∈ history more, c.Spares offset) →
    (r.performAll (.latchAndRead index extended :: more)).read offset =
      (r.perform (.latchAndRead index extended)).read offset

/-! ## Histories in parts -/

theorem history_append (ops more : List Operation) :
    history (ops ++ more) = history more ++ history ops := by
  rw [history, List.reverse_append, List.flatMap_append, history, history]

theorem history_latchAndRead (index : UInt8) (extended : Bool) :
    history [.latchAndRead index extended] =
      [.write (Layout.ofIndex index).latch latchValue] := by
  simp only [history, List.reverse_singleton, List.flatMap_singleton, Operation.changes]

theorem history_cons (o : Operation) (ops : List Operation) :
    history (o :: ops) = history ops ++ o.changes := by
  rw [history, List.reverse_cons, List.flatMap_append, history, List.flatMap_singleton]

section

variable (offset : UInt32) (changes : List Change)

theorem bumps_bump (place delta : UInt32) :
    bumps offset (.bump place delta :: changes) =
      if place = offset then delta :: bumps offset changes else bumps offset changes := by
  rw [bumps, List.filterMap_cons]
  by_cases h : place = offset <;> simp [h, bumps]

theorem bumps_write (place value : UInt32) :
    bumps offset (.write place value :: changes) = bumps offset changes := rfl

variable {offset changes} {more : List Change}

theorem bumps_append_of_writes (h : ∀ c ∈ more, c.isBump = false) :
    bumps offset (more ++ changes) = bumps offset changes := by
  induction more with
  | nil => rfl
  | cons c more ih =>
      obtain ⟨hc, hmore⟩ := List.forall_mem_cons.mp h
      cases c with
      | bump place delta => cases hc
      | write place value => exact ih hmore

theorem bumps_append_of_spares (h : ∀ c ∈ more, c.Spares offset) :
    bumps offset (more ++ changes) = bumps offset changes := by
  induction more with
  | nil => rfl
  | cons c more ih =>
      obtain ⟨hc, hmore⟩ := List.forall_mem_cons.mp h
      cases c with
      | bump place delta =>
          rw [List.cons_append, bumps_bump, if_neg hc]
          exact ih hmore
      | write place value => exact ih hmore

theorem lastValue_append_of_bumps (h : ∀ c ∈ more, c.isBump = true) :
    lastValue offset (more ++ changes) = lastValue offset changes := by
  induction more with
  | nil => rfl
  | cons c more ih =>
      obtain ⟨hc, hmore⟩ := List.forall_mem_cons.mp h
      cases c with
      | bump place delta => exact ih hmore
      | write place value => cases hc

theorem lastValue_append_of_elsewhere
    (h : ∀ c ∈ more, c.place / blockStride ≠ offset / blockStride) :
    lastValue offset (more ++ changes) = lastValue offset changes := by
  induction more with
  | nil => rfl
  | cons c more ih =>
      obtain ⟨hc, hmore⟩ := List.forall_mem_cons.mp h
      cases c with
      | bump place delta => exact ih hmore
      | write place value =>
          have hplace : place ≠ offset := fun hsame => hc (congrArg (· / blockStride) hsame)
          rw [List.cons_append, lastValue]
          by_cases hlatch : isLatching place value = true
          · rw [if_pos hlatch, if_neg fun hboth => hc hboth.1]
            exact ih hmore
          · rw [if_neg hlatch, if_neg hplace]
            exact ih hmore

/-- Changes that spare a register leave its value, or show what its running counter has come to. -/
theorem lastValue_append_of_spares (h : ∀ c ∈ more, c.Spares offset) :
    lastValue offset (more ++ changes) = lastValue offset changes ∨
      bumps offset changes ≠ [] ∧
        lastValue offset (more ++ changes) = (bumps offset changes).sum := by
  induction more with
  | nil => exact .inl rfl
  | cons c more ih =>
      obtain ⟨hc, hmore⟩ := List.forall_mem_cons.mp h
      cases c with
      | bump place delta => exact ih hmore
      | write place value =>
          rw [List.cons_append, lastValue, bumps_append_of_spares hmore]
          by_cases hlatch : isLatching place value = true
          · rw [if_pos hlatch]
            split
            · next hboth => exact .inr ⟨hboth.2, rfl⟩
            · exact ih hmore
          · rw [if_neg hlatch, if_neg (hc.resolve_left hlatch)]
            exact ih hmore

end

/-! ## The invariant -/

variable {r : Registers}

/-- Make a change. -/
def change (r : Registers) : Change → Registers
  | .bump offset delta => r.bump offset delta
  | .write offset value => (r.write offset value).2

theorem perform_latchAndRead (r : Registers) (index : UInt8) (extended : Bool) :
    r.perform (.latchAndRead index extended) =
      (r.write (Layout.ofIndex index).latch latchValue).2 := by
  simp only [perform, Snapshot.take]

theorem perform_eq (r : Registers) (o : Operation) :
    r.perform o = o.changes.foldr (fun c r => r.change c) r := by
  cases o with
  | bump offset delta => rfl
  | countFrames totals frames bytes => rfl
  | write offset value => rfl
  | latchAndRead index extended =>
      simp only [perform_latchAndRead, Operation.changes, List.foldr, change]

theorem performAll_cons (r : Registers) (o : Operation) (ops : List Operation) :
    r.performAll (o :: ops) = (r.perform o).performAll ops := rfl

theorem performAll_eq (r : Registers) (ops : List Operation) :
    r.performAll ops = (history ops).foldr (fun c r => r.change c) r := by
  induction ops generalizing r with
  | nil => rfl
  | cons o ops ih => rw [history_cons, List.foldr_append, ← perform_eq, ← ih]; rfl

/-- The three tables are what the history says. -/
structure Shows (r : Registers) (changes : List Change) : Prop where
  distinct : r.accumulators.Distinct
  get?_eq : ∀ offset, r.accumulators.get? offset =
    if bumps offset changes = [] then none else some (bumps offset changes).sum
  read_eq : ∀ offset, r.read offset = lastValue offset changes
  latchCount_eq : ∀ offset, r.latchCount offset = UInt64.ofNat (latchesOf offset changes)

theorem shows_empty : ({} : Registers).Shows [] where
  distinct := List.nodup_nil
  get?_eq _ := rfl
  read_eq _ := rfl
  latchCount_eq _ := rfl

namespace Shows

variable {changes more : List Change}

theorem total_eq (h : r.Shows changes) (offset : UInt32) :
    r.total offset = (bumps offset changes).sum := by
  rw [total, h.get?_eq]
  split
  · next hnone => rw [hnone]; rfl
  · rfl

theorem bump (h : r.Shows changes) (place delta : UInt32) :
    (r.bump place delta).Shows (.bump place delta :: changes) where
  distinct := h.distinct.set _ _
  get?_eq offset := by
    rw [Registers.bump, Table.get?_set, bumps_bump]
    by_cases hplace : place = offset
    · have htotal := h.total_eq offset
      rw [total] at htotal
      rw [if_pos hplace, if_pos hplace, if_neg (List.cons_ne_nil _ _), List.sum_cons, hplace,
        htotal, UInt32.add_comm]
    · rw [if_neg hplace, if_neg hplace]
      exact h.get?_eq offset
  read_eq offset := h.read_eq offset
  latchCount_eq offset := h.latchCount_eq offset

theorem latch (h : r.Shows changes) (index : UInt8) :
    ((r.countLatch (Layout.ofIndex index).latch).reveal (Layout.block index)).Shows
      (.write (Layout.ofIndex index).latch latchValue :: changes) := by
  have hlatching := isLatching_latch index
  refine ⟨h.distinct, h.get?_eq, ?_, ?_⟩
  · intro offset
    have hshown := get?_reveal (r := r.countLatch (Layout.ofIndex index).latch) h.distinct
      (Layout.block index) offset
    have hentry : (r.countLatch (Layout.ofIndex index).latch).accumulators.get? offset =
        if bumps offset changes = [] then none else some (bumps offset changes).sum :=
      h.get?_eq offset
    have hvisible : (r.countLatch (Layout.ofIndex index).latch).visible = r.visible := rfl
    rw [lastValue, if_pos hlatching, ← h.read_eq, Registers.read, hshown,
      Layout.contains_block_eq, hentry, hvisible]
    by_cases hblock : (Layout.ofIndex index).latch / blockStride = offset / blockStride
    · by_cases hbumps : bumps offset changes = []
      · simp only [hblock, hbumps, decide_true, if_true, Option.none_or, ne_eq, not_true,
          and_false, if_false, Registers.read]
      · simp only [hblock, hbumps, decide_true, if_true, if_false, Option.some_or,
          Option.getD_some, ne_eq, not_false_eq_true, and_self]
    · simp only [hblock, decide_false, Bool.false_eq_true, if_false, false_and, Registers.read]
  · intro offset
    have hcount : ((r.latches.set (Layout.ofIndex index).latch
        (r.latchCount (Layout.ofIndex index).latch + 1)).get? offset).getD 0 =
        if (Layout.ofIndex index).latch = offset then r.latchCount offset + 1
        else r.latchCount offset := by
      rw [Table.get?_set]
      split
      · next hsame => rw [hsame, Option.getD_some]
      · rfl
    have hlatches : latchesOf offset (.write (Layout.ofIndex index).latch latchValue :: changes) =
        latchesOf offset changes + if (Layout.ofIndex index).latch = offset then 1 else 0 := by
      rw [latchesOf, List.countP_cons, Change.latchesAt_write hlatching, ← latchesOf]
      simp only [beq_iff_eq]
    rw [latchCount, reveal, countLatch, hcount, hlatches, h.latchCount_eq]
    split
    · exact (UInt64.ofNat_add _ _).symm
    · rw [Nat.add_zero]

/-- A write that does not latch shows in its own register alone. -/
theorem put (h : r.Shows changes) {place value : UInt32}
    (hplain : isLatching place value = false) :
    (r.write place value).2.Shows (.write place value :: changes) := by
  have hput : ¬(value = latchValue ∧ isLatch place = true) := by
    rintro ⟨rfl, hlatch⟩
    rw [isLatching, beq_self_eq_true, hlatch] at hplain
    cases hplain
  rw [Registers.write, if_neg hput]
  refine ⟨h.distinct, h.get?_eq, ?_, ?_⟩
  · intro offset
    rw [lastValue, if_neg (by simp [hplain]), Registers.read, Table.get?_set, ← h.read_eq]
    split <;> rfl
  · intro offset
    rw [latchesOf, List.countP_cons_of_neg (by simp [Change.latchesAt, hplain]), ← latchesOf]
    exact h.latchCount_eq offset

/-- Every change is one that the history tells of. -/
theorem change (h : r.Shows changes) {c : Change} (hallowed : c.Allowed) :
    (r.change c).Shows (c :: changes) := by
  cases c with
  | bump place delta => exact h.bump place delta
  | write place value =>
      rw [Registers.change]
      by_cases hlatching : isLatching place value = true
      · obtain ⟨index, rfl⟩ := hallowed hlatching
        obtain rfl : value = latchValue := by
          rw [isLatching, Bool.and_eq_true, beq_iff_eq] at hlatching
          exact hlatching.1
        rw [Layout.write_latch]
        exact h.latch index
      · exact h.put (Bool.not_eq_true _ ▸ hlatching)

theorem changeAll (h : r.Shows changes) (hallowed : ∀ c ∈ more, c.Allowed) :
    (more.foldr (fun c r => r.change c) r).Shows (more ++ changes) := by
  induction more with
  | nil => exact h
  | cons c more ih =>
      obtain ⟨hc, hmore⟩ := List.forall_mem_cons.mp hallowed
      exact (ih hmore).change hc

theorem perform (h : r.Shows changes) {o : Operation} (hallowed : ∀ c ∈ o.changes, c.Allowed) :
    (r.perform o).Shows (o.changes ++ changes) := by
  rw [perform_eq]
  exact h.changeAll hallowed

theorem performAll (h : r.Shows changes) {ops : List Operation}
    (hallowed : ∀ c ∈ history ops, c.Allowed) :
    (r.performAll ops).Shows (history ops ++ changes) := by
  rw [performAll_eq]
  exact h.changeAll hallowed

theorem latchAndRead (h : r.Shows changes) (index : UInt8) (extended : Bool) :
    (r.perform (.latchAndRead index extended)).Shows
      (.write (Layout.ofIndex index).latch latchValue :: changes) :=
  h.perform (List.forall_mem_singleton.mpr fun _ => ⟨index, rfl⟩)

theorem recounts {ops : List Operation} (h : r.Shows (history ops)) : r.Recounts ops := by
  refine
    { read_eq := h.read_eq
      take_eq := ?_
      total_eq := h.total_eq
      latchCount_eq := h.latchCount_eq
      read_of_bumps := ?_
      total_of_writes := ?_
      read_of_elsewhere := ?_
      read_of_spares := ?_ }
  · intro index extended
    have hread := (h.latchAndRead index extended).read_eq
    rw [perform_latchAndRead] at hread
    simp only [Snapshot.take_eq_assemble, history_append, history_latchAndRead,
      List.singleton_append, ← hread]
  · intro more hbumps offset
    have hallowed : ∀ c ∈ history more, c.Allowed := by
      intro c hc
      have hbump := hbumps c hc
      cases c with
      | bump place delta => trivial
      | write place value => cases hbump
    rw [(h.performAll hallowed).read_eq, h.read_eq, lastValue_append_of_bumps hbumps]
  · intro more hallowed hwrites offset
    rw [(h.performAll hallowed).total_eq, h.total_eq, bumps_append_of_writes hwrites]
  · intro more offset hallowed helsewhere
    rw [(h.performAll hallowed).read_eq, h.read_eq, lastValue_append_of_elsewhere helsewhere]
  · intro index extended more offset hwithin hallowed hspares
    have hlatched := h.latchAndRead index extended
    rw [performAll_cons, (hlatched.performAll hallowed).read_eq, hlatched.read_eq]
    refine (lastValue_append_of_spares hspares).elim id ?_
    rintro ⟨hbumps, hsum⟩
    rw [hsum, lastValue, if_pos (isLatching_latch index),
      if_pos ⟨Layout.latch_div hwithin, hbumps⟩, bumps_write]

end Shows

/-- What registers read is determined by their history. Whatever is done to fresh registers, with
latches of numbered blocks only, every register reads what the history says. -/
theorem performAll_recounts (ops : List Operation) (hallowed : ∀ c ∈ history ops, c.Allowed) :
    (performAll {} ops).Recounts ops := by
  have hshows := shows_empty.performAll hallowed
  rw [List.append_nil] at hshows
  exact hshows.recounts

/-- Frames are counted in a block and latched; then a value is put over one of the totals, and the
block is latched again. -/
def countAndLatch : List Operation :=
  [.countFrames (Layout.ofIndex 1).tx 3 300, .latchAndRead 1 false,
    .write (Layout.ofIndex 1).tx.bytes 7, .write (Layout.ofIndex 1).latch latchValue]

theorem countAndLatch_recounts : (performAll {} countAndLatch).Recounts countAndLatch := by
  refine performAll_recounts countAndLatch ?_
  simp only [countAndLatch, history, Operation.changes, List.reverse_cons, List.reverse_nil,
    List.nil_append, List.cons_append, List.flatMap_cons, List.flatMap_nil, List.append_nil,
    List.forall_mem_cons]
  exact ⟨fun _ => ⟨1, rfl⟩, fun hlatch => absurd hlatch (by decide), fun _ => ⟨1, rfl⟩, trivial,
    trivial, trivial, trivial, fun _ hc => nomatch hc⟩

end Registers

end EtherRelay.Hardware
