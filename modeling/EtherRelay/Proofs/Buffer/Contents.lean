import EtherRelay.Proofs.Buffer.Lending

/-!
# What lent buffers hold

The storages of a pool go from owner to owner and are never cleared. A buffer tells its frame from
what earlier owners left by its length alone, so the room for the frame has to be known exactly:
`Buffer.Fits` says that the storage has the pool's headroom, and behind it the room that the pool
promises.

The main statement follows a pool and all the buffers that are out through any requests. Beside each
buffer stands what was appended to it since it was lent, and the buffer holds just that. Every
storage is in stock or lent out, and no bound of a slice is ever missed. A request fails just if
there is no room for it, and a buffer that turns out too small is back in stock with the answer.
-/

namespace EtherRelay

/-! ## One buffer -/

namespace Buffer

variable {b b' : Buffer} {bytes data : Bytes} {headroom dataRoom : Nat}

/-- The storage has the given rooms, and the frame stays in its own. -/
structure Fits (b : Buffer) (headroom dataRoom : Nat) : Prop where
  headroom_eq : b.headroom = headroom
  length_storage : b.storage.length = headroom + dataRoom
  length_le : b.length ≤ dataRoom

/-- The buffer is one of a pool's and holds the data. -/
structure Lent (b : Buffer) (headroom dataRoom : Nat) (data : Bytes) : Prop extends
    Fits b headroom dataRoom where
  pooled : b.pooled = true
  data_eq : b.data = data

theorem append?_eq_none : b.append? bytes = none ↔ b.tailroom < bytes.length := by
  rw [append?]
  split
  · next h => simp [h]
  · next h => simp [h]

theorem append?_eq_some : b.append? bytes = some b' ↔ bytes.length ≤ b.tailroom ∧
    { b with
      storage := b.storage.take (b.headroom + b.length) ++ bytes ++
        b.storage.drop (b.headroom + b.length + bytes.length)
      length := b.length + bytes.length } = b' := by
  rw [append?]
  split
  · next h => simp [h]
  · next h => simp [Nat.not_lt.mp h]

theorem length_data (hframe : b.headroom + b.length ≤ b.storage.length) :
    b.data.length = b.length := by
  rw [data, List.length_take, List.length_drop]
  omega

/-- Appending writes behind the frame and leaves the frame as it is. -/
theorem data_append? (hframe : b.headroom + b.length ≤ b.storage.length)
    (h : b.append? bytes = some b') : b'.data = b.data ++ bytes := by
  obtain ⟨-, rfl⟩ := append?_eq_some.mp h
  have hfront : (b.storage.take b.headroom).length = b.headroom := List.length_take_of_le (by omega)
  have hkept : b.storage.take (b.headroom + b.length) = b.storage.take b.headroom ++ b.data :=
    List.take_add
  rw [Buffer.data, hkept, List.append_assoc, List.append_assoc, List.drop_left' hfront,
    ← List.append_assoc b.data]
  apply List.take_left'
  rw [List.length_append, length_data hframe]

namespace Fits

/-- Every byte of the storage belongs to one of the rooms. -/
theorem rooms (h : b.Fits headroom dataRoom) :
    b.headroom + b.length + b.tailroom = b.storage.length := by
  obtain ⟨hheadroom, hstorage, hlength⟩ := h
  rw [tailroom]
  omega

theorem length_add_tailroom (h : b.Fits headroom dataRoom) : b.length + b.tailroom = dataRoom := by
  have := h.rooms
  obtain ⟨hheadroom, hstorage, -⟩ := h
  omega

theorem append? (h : b.Fits headroom dataRoom) (happend : b.append? bytes = some b') :
    b'.Fits headroom dataRoom := by
  have hrooms := h.rooms
  obtain ⟨hheadroom, hstorage, hlength⟩ := h
  obtain ⟨hroom, rfl⟩ := append?_eq_some.mp happend
  constructor
  · exact hheadroom
  · simp only [List.length_append, List.length_take, List.length_drop]
    omega
  · show b.length + bytes.length ≤ dataRoom
    omega

end Fits

namespace Lent

theorem tailroom_eq (h : b.Lent headroom dataRoom data) : b.tailroom = dataRoom - data.length := by
  have hrooms := h.rooms
  have hroom := h.length_add_tailroom
  rw [← h.data_eq, length_data (by omega)]
  omega

theorem append? (h : b.Lent headroom dataRoom data) (happend : b.append? bytes = some b') :
    b'.Lent headroom dataRoom (data ++ bytes) where
  toFits := h.toFits.append? happend
  pooled := by
    obtain ⟨-, rfl⟩ := append?_eq_some.mp happend
    exact h.pooled
  data_eq := by
    have := h.rooms
    rw [data_append? (by omega) happend, h.data_eq]

end Lent

end Buffer

/-! ## The stock -/

namespace Pool

variable {p : Pool} {b : Buffer} {frame : Bytes} {headroom dataRoom capacity n : Nat}

/-- What is in stock has the rooms that the pool was made for. -/
structure Stocks (p : Pool) (headroom dataRoom : Nat) : Prop where
  headroom_eq : p.headroom = headroom
  rooms : ∀ storage ∈ p.free, storage.length = headroom + dataRoom

theorem create_stocks (capacity headroom dataRoom : Nat) :
    (create capacity headroom dataRoom).Stocks headroom dataRoom where
  headroom_eq := rfl
  rooms storage hmem := by
    rw [List.eq_of_mem_replicate hmem, List.length_replicate]

/-- Either the stock is empty, or its first storage becomes an empty buffer. -/
inductive Allocs (p : Pool) (headroom dataRoom : Nat) : Option Buffer × Pool → Prop where
  | exhausted (hfree : p.free = []) : Allocs p headroom dataRoom (none, p.countExhausted)
  | lent {b rest} (hfree : p.free = b.storage :: rest) (hb : b.Lent headroom dataRoom []) :
    Allocs p headroom dataRoom (some b, { p with free := rest }.countAllocated)

@[simp] theorem stats_giveBack (p : Pool) (storage : Bytes) : (p.giveBack storage).stats = p.stats := by
  rw [giveBack]
  split <;> rfl

namespace Stocks

theorem allocs (h : p.Stocks headroom dataRoom) : Allocs p headroom dataRoom p.alloc := by
  cases hfree : p.free with
  | nil =>
    simp only [Pool.alloc, takeStorage, hfree]
    exact .exhausted hfree
  | cons storage rest =>
    simp only [Pool.alloc, takeStorage, hfree]
    refine .lent hfree ⟨⟨h.headroom_eq, ?_, Nat.zero_le _⟩, rfl, rfl⟩
    apply h.rooms
    rw [hfree]
    exact List.mem_cons_self

theorem of_allocs (h : p.Stocks headroom dataRoom) {answer : Option Buffer × Pool}
    (halloc : Allocs p headroom dataRoom answer) : answer.2.Stocks headroom dataRoom := by
  cases halloc with
  | exhausted hfree => exact ⟨h.headroom_eq, h.rooms⟩
  | lent hfree hb =>
    refine ⟨h.headroom_eq, ?_⟩
    intro storage hmem
    apply h.rooms
    rw [hfree]
    exact List.mem_cons_of_mem _ hmem

theorem release (h : p.Stocks headroom dataRoom) (hb : b.Fits headroom dataRoom) :
    (p.release b).Stocks headroom dataRoom := by
  rw [Pool.release]
  split
  · rw [giveBack]
    split
    · refine ⟨h.headroom_eq, ?_⟩
      intro storage hmem
      cases List.mem_append.mp hmem with
      | inl hmem => exact h.rooms storage hmem
      | inr hmem => rw [List.mem_singleton.mp hmem, hb.length_storage]
    · exact ⟨h.headroom_eq, h.rooms⟩
  · exact h

end Stocks

/-- A frame gets a buffer unless the stock is empty or the frame is too long. For a frame that is
too long a buffer goes out and comes back. -/
inductive AllocsFrame (p : Pool) (headroom dataRoom : Nat) (frame : Bytes) :
    Option Buffer × Pool → Prop where
  | exhausted (hfree : p.free = []) (hp : p.countExhausted.Stocks headroom dataRoom) :
    AllocsFrame p headroom dataRoom frame (none, p.countExhausted)
  | lent {b p'} (hfree : p.free ≠ []) (hshort : frame.length ≤ dataRoom)
    (hb : b.Lent headroom dataRoom frame) (hp : p'.Stocks headroom dataRoom) :
    AllocsFrame p headroom dataRoom frame (some b, p')
  | returned {p'} (hfree : p.free ≠ []) (hlong : dataRoom < frame.length)
    (hstats : p'.stats = { p.stats with allocated := p.allocated + 1, freed := p.freed + 1 })
    (hp : p'.Stocks headroom dataRoom) :
    AllocsFrame p headroom dataRoom frame (none, p')

theorem Stocks.allocsFrame (h : p.Stocks headroom dataRoom) (frame : Bytes) :
    AllocsFrame p headroom dataRoom frame (p.allocFrame frame) := by
  have halloc := h.allocs
  have hstocks := h.of_allocs halloc
  rw [allocFrame]
  generalize p.alloc = answer at halloc hstocks
  cases halloc with
  | exhausted hfree => exact .exhausted hfree hstocks
  | @lent b rest hfree hb =>
    have hstock : p.free ≠ [] := by
      rw [hfree]
      exact List.cons_ne_nil _ _
    have htailroom : b.tailroom = dataRoom := hb.tailroom_eq
    dsimp only
    cases happend : b.append? frame with
    | none =>
      have hlong := Buffer.append?_eq_none.mp happend
      apply AllocsFrame.returned hstock (htailroom ▸ hlong) _ (hstocks.release hb.toFits)
      rw [Pool.release, if_pos hb.pooled, stats_giveBack]
      rfl
    | some b' =>
      have hshort := (Buffer.append?_eq_some.mp happend).1
      exact .lent hstock (htailroom ▸ hshort) (hb.append? happend) hstocks

end Pool

/-! ## Everything that is out -/

/-- A buffer that is out, and what was appended to it since it was lent. -/
structure Loan where
  buffer : Buffer
  appended : List Bytes := []

/-- A pool and all that it has lent. -/
structure Lender where
  pool : Pool
  loans : List Loan

namespace Lender

/-- What may be asked for. Loans go by their position. -/
inductive Request where
  | alloc
  | allocFrame (frame : Bytes)
  | append (loan : Nat) (bytes : Bytes)
  | drop (loan : Nat)

/-- Keep a new buffer among the loans. -/
def lend (s : Lender) (appended : List Bytes) : Option Buffer × Pool → Bool × Lender
  | (none, pool) => (false, { s with pool })
  | (some buffer, pool) => (true, { pool, loans := s.loans ++ [⟨buffer, appended⟩] })

/-- Do what is asked for. The answer says whether it was done. -/
def step (s : Lender) : Request → Bool × Lender
  | .alloc => s.lend [] s.pool.alloc
  | .allocFrame frame => s.lend [frame] (s.pool.allocFrame frame)
  | .append i bytes =>
    match s.loans[i]? with
    | none => (false, s)
    | some loan =>
      match loan.buffer.append? bytes with
      | none => (false, s)
      | some buffer => (true, { s with loans := s.loans.set i ⟨buffer, loan.appended ++ [bytes]⟩ })
  | .drop i =>
    match s.loans[i]? with
    | none => (false, s)
    | some loan => (true, { pool := s.pool.release loan.buffer, loans := s.loans.eraseIdx i })

/-- Do all that is asked for, in order. -/
def run (s : Lender) (requests : List Request) : Lender :=
  requests.foldl (fun s request => (s.step request).2) s

variable {s : Lender} {capacity headroom dataRoom : Nat}

/-- Every storage of the pool is in stock or lent out, and every buffer holds what was appended to
it. -/
structure Kept (capacity headroom dataRoom : Nat) (s : Lender) : Prop where
  lends : s.pool.Lends capacity s.loans.length
  stocks : s.pool.Stocks headroom dataRoom
  lent : ∀ loan ∈ s.loans, loan.buffer.Lent headroom dataRoom loan.appended.flatten

namespace Kept

theorem lend (h : Kept capacity headroom dataRoom s) {answer : Option Buffer × Pool}
    {appended : List Bytes}
    (hlends : answer.2.Lends capacity (s.loans.length + pooledIn answer.1.toList))
    (hstocks : answer.2.Stocks headroom dataRoom)
    (hlent : ∀ b ∈ answer.1, b.Lent headroom dataRoom appended.flatten) :
    Kept capacity headroom dataRoom (s.lend appended answer).2 := by
  obtain ⟨_ | b, pool⟩ := answer
  · exact ⟨hlends, hstocks, h.lent⟩
  · have hb : b.Lent headroom dataRoom appended.flatten := hlent b rfl
    constructor
    case lends =>
      have hone : pooledIn [b] = 1 := by simp [pooledIn, hb.pooled]
      rw [Option.toList_some, hone] at hlends
      rw [Lender.lend, List.length_append]
      exact hlends
    case stocks => exact hstocks
    case lent =>
      intro loan hmem
      cases List.mem_append.mp hmem with
      | inl hmem => exact h.lent loan hmem
      | inr hmem =>
        rw [List.mem_singleton.mp hmem]
        exact hb

theorem alloc (h : Kept capacity headroom dataRoom s) :
    Kept capacity headroom dataRoom (s.step .alloc).2 := by
  have hlends := h.lends.alloc
  have hstocks := h.stocks.of_allocs h.stocks.allocs
  have halloc := h.stocks.allocs
  rw [step]
  generalize s.pool.alloc = answer at halloc hlends hstocks
  cases halloc with
  | exhausted hfree => exact h.lend hlends hstocks fun b hb => nomatch hb
  | lent hfree hlent =>
    apply h.lend hlends hstocks
    intro b hb
    obtain rfl := Option.mem_some.mp hb
    exact hlent

theorem allocFrame (h : Kept capacity headroom dataRoom s) (frame : Bytes) :
    Kept capacity headroom dataRoom (s.step (.allocFrame frame)).2 := by
  have hlends := h.lends.allocFrame frame
  have halloc := h.stocks.allocsFrame frame
  rw [step]
  generalize s.pool.allocFrame frame = answer at halloc hlends
  cases halloc with
  | exhausted hfree hstocks => exact h.lend hlends hstocks fun b hb => nomatch hb
  | lent hfree hshort hlent hstocks =>
    apply h.lend hlends hstocks
    intro b hb
    obtain rfl := Option.mem_some.mp hb
    rw [List.flatten_singleton]
    exact hlent
  | returned hfree hlong hstats hstocks => exact h.lend hlends hstocks fun b hb => nomatch hb

theorem append (h : Kept capacity headroom dataRoom s) (i : Nat) (bytes : Bytes) :
    Kept capacity headroom dataRoom (s.step (.append i bytes)).2 := by
  rw [step]
  split
  · exact h
  · next loan hloan =>
    split
    · exact h
    · next buffer happend =>
      constructor
      case lends =>
        rw [List.length_set]
        exact h.lends
      case stocks => exact h.stocks
      case lent =>
        intro loan' hmem
        cases List.mem_or_eq_of_mem_set hmem with
        | inl hmem => exact h.lent loan' hmem
        | inr heq =>
          rw [heq, List.flatten_append, List.flatten_singleton]
          exact (h.lent loan (List.mem_of_getElem? hloan)).append? happend

theorem drop (h : Kept capacity headroom dataRoom s) (i : Nat) :
    Kept capacity headroom dataRoom (s.step (.drop i)).2 := by
  rw [step]
  split
  · exact h
  · next loan hloan =>
    have hlent := h.lent loan (List.mem_of_getElem? hloan)
    constructor
    case lends =>
      apply Pool.Lends.release
      have hone : pooledIn [loan.buffer] = 1 := by simp [pooledIn, hlent.pooled]
      obtain ⟨hi, -⟩ := List.getElem?_eq_some_iff.mp hloan
      rw [hone, List.length_eraseIdx_of_lt hi, Nat.sub_add_cancel (by omega)]
      exact h.lends
    case stocks => exact h.stocks.release hlent.toFits
    case lent =>
      intro loan' hmem
      exact h.lent loan' (List.mem_of_mem_eraseIdx hmem)

theorem step (h : Kept capacity headroom dataRoom s) (request : Request) :
    Kept capacity headroom dataRoom (s.step request).2 := by
  cases request with
  | alloc => exact h.alloc
  | allocFrame frame => exact h.allocFrame frame
  | append i bytes => exact h.append i bytes
  | drop i => exact h.drop i

theorem run (h : Kept capacity headroom dataRoom s) (requests : List Request) :
    Kept capacity headroom dataRoom (s.run requests) := by
  induction requests generalizing s with
  | nil => exact h
  | cons request requests ih => exact ih (h.step request)

end Kept

/-- What the request for a buffer with a frame that is too long does. -/
structure Oversized (capacity : Nat) (s : Lender) (answer : Bool × Lender) : Prop where
  refused : answer.1 = false
  loans_eq : answer.2.loans = s.loans
  inUse_eq : answer.2.pool.inUse = s.pool.inUse
  /-- A buffer that was there went out and came back. -/
  returned : s.loans.length < capacity → answer.2.pool.stats =
    { s.pool.stats with allocated := s.pool.allocated + 1, freed := s.pool.freed + 1 }
  exhausted : s.loans.length = capacity → answer.2.pool.stats =
    { s.pool.stats with exhausted := s.pool.exhausted + 1 }

/-- Who holds what of a pool of `capacity` storages, and what becomes of the next request. -/
structure Isolates (capacity headroom dataRoom : Nat) (s : Lender) : Prop where
  /-- A buffer holds what was appended to it since it was lent. -/
  data_eq : ∀ loan ∈ s.loans, loan.buffer.data = loan.appended.flatten
  headroom_eq : ∀ loan ∈ s.loans, loan.buffer.headroom = headroom
  length_add_tailroom : ∀ loan ∈ s.loans, loan.buffer.length + loan.buffer.tailroom = dataRoom
  /-- No slice is out of the range of its storage. -/
  rooms : ∀ loan ∈ s.loans, loan.buffer.headroom + loan.buffer.length + loan.buffer.tailroom =
    loan.buffer.storage.length
  length_free : s.pool.free.length + s.loans.length = capacity
  inUse_eq : s.pool.inUse.toNat = s.loans.length
  append_fails : ∀ i loan bytes, s.loans[i]? = some loan →
    ((s.step (.append i bytes)).1 = false ↔ loan.buffer.tailroom < bytes.length)
  append_failed : ∀ i bytes, (s.step (.append i bytes)).1 = false →
    (s.step (.append i bytes)).2 = s
  alloc_fails : (s.step .alloc).1 = false ↔ s.loans.length = capacity
  allocFrame_fails : ∀ frame, (s.step (.allocFrame frame)).1 = false ↔
    s.loans.length = capacity ∨ dataRoom < frame.length
  oversized : ∀ frame, dataRoom < frame.length →
    Oversized capacity s (s.step (.allocFrame frame))

theorem lend_fails (s : Lender) (appended : List Bytes) (answer : Option Buffer × Pool) :
    (s.lend appended answer).1 = false ↔ answer.1 = none := by
  obtain ⟨_ | b, pool⟩ := answer <;> simp [lend]

theorem append_fails (s : Lender) {i : Nat} {loan : Loan} (hloan : s.loans[i]? = some loan)
    (bytes : Bytes) :
    (s.step (.append i bytes)).1 = false ↔ loan.buffer.tailroom < bytes.length := by
  rw [← Buffer.append?_eq_none]
  simp only [step, hloan]
  split
  · next happend => simp [happend]
  · next happend => simp [happend]

theorem append_failed (s : Lender) (i : Nat) (bytes : Bytes)
    (h : (s.step (.append i bytes)).1 = false) : (s.step (.append i bytes)).2 = s := by
  rw [step] at h ⊢
  split at h
  · rfl
  · split at h
    · rfl
    · cases h

namespace Kept

theorem free_eq_nil_iff (h : Kept capacity headroom dataRoom s) :
    s.pool.free = [] ↔ s.loans.length = capacity := by
  have hlength := h.lends.length_free
  rw [← List.length_eq_zero_iff]
  omega

theorem allocFrame_fails (h : Kept capacity headroom dataRoom s) (frame : Bytes) :
    (s.step (.allocFrame frame)).1 = false ↔
      s.loans.length = capacity ∨ dataRoom < frame.length := by
  have halloc := h.stocks.allocsFrame frame
  rw [Lender.step, lend_fails, ← h.free_eq_nil_iff]
  generalize s.pool.allocFrame frame = answer at halloc
  cases halloc with
  | exhausted hfree _ => simp [hfree]
  | lent hfree hshort _ _ => simp [hfree, hshort]
  | returned _ hlong _ _ => simp [hlong]

theorem oversized (h : Kept capacity headroom dataRoom s) {frame : Bytes}
    (hlong : dataRoom < frame.length) : Oversized capacity s (s.step (.allocFrame frame)) := by
  have hafter := (h.allocFrame frame).lends.inUse_eq
  have halloc := h.stocks.allocsFrame frame
  have hnil := h.free_eq_nil_iff
  rw [Lender.step] at hafter ⊢
  generalize s.pool.allocFrame frame = answer at halloc hafter ⊢
  cases halloc with
  | exhausted hfree _ =>
    constructor
    case refused | loans_eq | inUse_eq => rfl
    case returned => exact fun hstock => absurd (hnil.mp hfree) (Nat.ne_of_lt hstock)
    case exhausted => exact fun _ => rfl
  | lent _ hshort _ _ => exact absurd hshort (Nat.not_le.mpr hlong)
  | returned hfree _ hstats _ =>
    constructor
    case refused | loans_eq => rfl
    case inUse_eq => exact UInt64.toNat_inj.mp (hafter.trans h.lends.inUse_eq.symm)
    case returned => exact fun _ => hstats
    case exhausted => exact fun hout => absurd (hnil.mpr hout) hfree

theorem isolates (h : Kept capacity headroom dataRoom s) :
    Isolates capacity headroom dataRoom s where
  data_eq loan hloan := (h.lent loan hloan).data_eq
  headroom_eq loan hloan := (h.lent loan hloan).headroom_eq
  length_add_tailroom loan hloan := (h.lent loan hloan).length_add_tailroom
  rooms loan hloan := (h.lent loan hloan).rooms
  length_free := h.lends.length_free
  inUse_eq := h.lends.inUse_eq
  append_fails i loan bytes hloan := s.append_fails hloan bytes
  append_failed := s.append_failed
  alloc_fails := by
    rw [Lender.step, lend_fails]
    exact h.lends.alloc_eq_none
  allocFrame_fails := h.allocFrame_fails
  oversized frame hlong := h.oversized hlong

end Kept

/-- Whatever is done with a pool, its buffers keep to themselves. -/
theorem run_isolates (capacity : UInt64) (headroom dataRoom : Nat) (requests : List Request) :
    Isolates capacity.toNat headroom dataRoom
      (run ⟨.create capacity.toNat headroom dataRoom, []⟩ requests) := by
  have hstart : Kept capacity.toNat headroom dataRoom
      ⟨.create capacity.toNat headroom dataRoom, []⟩ := by
    constructor
    case lends => exact Pool.create_lends capacity headroom dataRoom
    case stocks => exact Pool.create_stocks capacity.toNat headroom dataRoom
    case lent =>
      intro loan hmem
      cases hmem
  exact (hstart.run requests).isolates

/-- What an earlier owner left behind stays in the storage and out of the frame. -/
example :
    let s := run ⟨.create 1 0 4, []⟩ [.allocFrame [1, 2, 3], .drop 0, .alloc, .append 0 [9]]
    s.loans.map (·.buffer.storage) = [[9, 2, 3, 0]] ∧ s.loans.map (·.buffer.data) = [[9]] := by
  decide

end Lender

end EtherRelay
