import EtherRelay.Proofs.World.Conservation

/-!
# Statistics of a shared pool

The workers of a relay share their pool without a lock. To allocate is to take a storage and then to
count it, to release is to count and then to put the storage back, and to read the statistics is to
load the three counters one after the other. Between any two of these accesses the others go on.

The main statement is about every report that such loads put together. With `out` buffers out at the
second load and `between` allocations counted since the first one, the report has `out - between`
buffers in use. That is never more than the capacity, but it wraps if more buffers were allocated in
between than are still out. One buffer that goes out and comes back between the loads is enough.
-/

namespace EtherRelay

namespace SharedPool

/-- How far a worker is with an allocation or a release. -/
inductive Stage where
  | idle
  /-- It took a storage that is not counted yet. -/
  | took (storage : Bytes)
  /-- It found the stock empty, which is not counted yet. -/
  | missed
  /-- It counted a release, and the storage is not back yet. -/
  | released (storage : Bytes)

/-- The storages that a worker has on their way. -/
def Stage.storages : Stage → Nat
  | .idle | .missed => 0
  | .took _ | .released _ => 1

/-- What was counted so far, without a limit to the counts. -/
structure Totals where
  allocations : Nat := 0
  releases : Nat := 0
  misses : Nat := 0

/-- What the first load found. -/
structure FirstLoad where
  allocated : UInt64
  /-- The allocations that were counted by then. -/
  allocations : Nat

/-- What two loads found. -/
structure SecondLoad extends FirstLoad where
  freed : UInt64
  /-- The releases that were counted by then. -/
  releases : Nat
  /-- The allocations that were counted since the first load. -/
  between : Nat
  /-- The buffers that were out by then. -/
  out : Nat

/-- What all three loads found. -/
structure Report extends SecondLoad where
  capacity : Nat
  exhausted : UInt64
  /-- The failures that were counted by then. -/
  misses : Nat

/-- What is told of the pool. -/
def Report.stats (r : Report) : PoolStats where
  capacity := r.capacity
  allocated := r.allocated
  freed := r.freed
  exhausted := r.exhausted

/-- How far the reading of the statistics is. -/
inductive Reading where
  | idle
  | first (load : FirstLoad)
  | second (load : SecondLoad)

/-- An access that nothing can interrupt. -/
inductive Access where
  /-- The worker begins an allocation. -/
  | take (worker : Nat)
  /-- The worker begins to release one of the buffers that are out. -/
  | drop (worker buffer : Nat)
  /-- The worker finishes what it began. -/
  | finish (worker : Nat)
  /-- The next counter is loaded. -/
  | load

end SharedPool

open SharedPool in
/-- A pool with its workers and one who reads its statistics. -/
structure SharedPool where
  pool : Pool
  workers : List Stage
  /-- The buffers that are out, whoever has them. -/
  out : List Buffer := []
  totals : Totals := {}
  reading : Reading := .idle
  reports : List Report := []

namespace SharedPool

/-- A pool whose workers have not begun anything. -/
def start (pool : Pool) (workers : Nat) : SharedPool where
  pool := pool
  workers := List.replicate workers .idle

def take (s : SharedPool) (worker : Nat) : SharedPool :=
  let (storage?, pool) := s.pool.takeStorage
  { s with pool, workers := s.workers.set worker (storage?.elim .missed .took) }

def drop (s : SharedPool) (worker buffer : Nat) (b : Buffer) : SharedPool :=
  { s with
    pool := s.pool.countFreed
    workers := s.workers.set worker (.released b.storage)
    out := s.out.eraseIdx buffer
    totals := { s.totals with releases := s.totals.releases + 1 } }

def finish (s : SharedPool) (worker : Nat) : Stage → SharedPool
  | .idle => s
  | .took storage =>
    { s with
      pool := s.pool.countAllocated
      workers := s.workers.set worker .idle
      out := s.out ++ [{ storage, headroom := s.pool.headroom, pooled := true }]
      totals := { s.totals with allocations := s.totals.allocations + 1 } }
  | .missed =>
    { s with
      pool := s.pool.countExhausted
      workers := s.workers.set worker .idle
      totals := { s.totals with misses := s.totals.misses + 1 } }
  | .released storage =>
    { s with
      pool := s.pool.giveBack storage
      workers := s.workers.set worker .idle }

def load (s : SharedPool) : SharedPool :=
  match s.reading with
  | .idle =>
    { s with
      reading := .first
        { allocated := s.pool.allocated, allocations := s.totals.allocations } }
  | .first load =>
    { s with
      reading := .second
        { load with
          freed := s.pool.freed
          releases := s.totals.releases
          between := s.totals.allocations - load.allocations
          out := s.out.length } }
  | .second load =>
    { s with
      reading := .idle
      reports := s.reports ++
        [{ load with
           capacity := s.pool.capacity
           exhausted := s.pool.exhausted
           misses := s.totals.misses }] }

/-- Make one access. A worker finishes what it began before it begins anything else. -/
def step (s : SharedPool) : Access → SharedPool
  | .take worker =>
    match s.workers[worker]? with
    | some .idle => s.take worker
    | _ => s
  | .drop worker buffer =>
    match s.workers[worker]?, s.out[buffer]? with
    | some .idle, some b => s.drop worker buffer b
    | _, _ => s
  | .finish worker =>
    match s.workers[worker]? with
    | some stage => s.finish worker stage
    | none => s
  | .load => s.load

/-- Make accesses in order. -/
def run (s : SharedPool) (accesses : List Access) : SharedPool := accesses.foldl step s

variable {s s' : SharedPool}

/-! ## Undisturbed -/

section Undisturbed

variable {worker : Nat}

/-- The accesses of an allocation, one right after the other. -/
theorem run_take_finish (hidle : s.workers[worker]? = some .idle) :
    (s.run [.take worker, .finish worker]).pool = s.pool.alloc.2 ∧
      (s.run [.take worker, .finish worker]).out = s.out ++ s.pool.alloc.1.toList := by
  have hbegun : (s.take worker).workers[worker]? =
      some (s.pool.takeStorage.1.elim .missed .took) :=
    List.getElem?_set_self (List.getElem?_eq_some_iff.mp hidle).1
  simp only [run, List.foldl, step, hidle, hbegun]
  rw [take, Pool.alloc]
  obtain ⟨_ | storage, pool⟩ := s.pool.takeStorage
  · exact ⟨rfl, (List.append_nil _).symm⟩
  · exact ⟨rfl, rfl⟩

/-- The accesses of a release, one right after the other. -/
theorem run_drop_finish {buffer : Nat} {b : Buffer} (hidle : s.workers[worker]? = some .idle)
    (hb : s.out[buffer]? = some b) (hpooled : b.pooled = true) :
    (s.run [.drop worker buffer, .finish worker]).pool = s.pool.release b ∧
      (s.run [.drop worker buffer, .finish worker]).out = s.out.eraseIdx buffer := by
  have hbegun : (s.drop worker buffer b).workers[worker]? = some (.released b.storage) :=
    List.getElem?_set_self (List.getElem?_eq_some_iff.mp hidle).1
  simp only [run, List.foldl, step, hidle, hb, hbegun]
  rw [Pool.release, if_pos hpooled]
  exact ⟨rfl, rfl⟩

/-- The three loads, one right after the other. -/
theorem run_loads_stats (hidle : s.reading = .idle) :
    (s.run [.load, .load, .load]).reports.map Report.stats =
      s.reports.map Report.stats ++ [s.pool.stats] := by
  simp only [run, List.foldl, step, load, hidle, List.map_append]
  rfl

end Undisturbed

/-! ## What the counters show -/

/-- Every storage is in stock, with a worker or out, and the counters show the totals. -/
structure Counts (capacity : Nat) (s : SharedPool) : Prop where
  capacity_eq : s.pool.capacity = capacity
  storages : s.pool.free.length + (s.workers.map Stage.storages).sum + s.out.length = capacity
  allocated_eq : s.pool.allocated = .ofNat s.totals.allocations
  freed_eq : s.pool.freed = .ofNat s.totals.releases
  exhausted_eq : s.pool.exhausted = .ofNat s.totals.misses
  out_eq : s.totals.releases + s.out.length = s.totals.allocations

/-- What two loads of a pool found. -/
structure SecondLoad.Accounts (capacity : Nat) (load : SecondLoad) : Prop where
  allocated_eq : load.allocated = .ofNat load.allocations
  freed_eq : load.freed = .ofNat load.releases
  out_eq : load.releases + load.out = load.allocations + load.between
  out_le : load.out ≤ capacity
  allocations_le : load.allocations ≤ load.releases + capacity

/-- What was found so far, at a time with the given totals. -/
inductive Found (capacity : Nat) (totals : Totals) : Reading → Prop where
  | idle : Found capacity totals .idle
  | first {load : FirstLoad} (allocated_eq : load.allocated = .ofNat load.allocations)
    (le_allocations : load.allocations ≤ totals.allocations)
    (le_releases : load.allocations ≤ totals.releases + capacity) :
    Found capacity totals (.first load)
  | second {load : SecondLoad} (h : load.Accounts capacity) : Found capacity totals (.second load)

/-- What a report says of a pool. -/
structure Report.Accounts (capacity : Nat) (r : Report) : Prop extends
    SecondLoad.Accounts capacity r.toSecondLoad where
  capacity_eq : r.stats.capacity = capacity
  exhausted_eq : r.stats.exhausted = .ofNat r.misses
  /-- What is in use is what is out, less the allocations that the first load missed. -/
  inUse_add : r.stats.inUse + .ofNat r.between = .ofNat r.out
  /-- Unless it missed more than what is out, nothing wraps. -/
  inUse_eq : r.between ≤ r.out → r.stats.inUse.toNat = r.out - r.between
  freed_le : r.between ≤ r.out → r.allocations < UInt64.size → r.stats.freed ≤ r.stats.allocated

/-- The counters, the loads that were made, and all reports. -/
structure Kept (capacity : Nat) (s : SharedPool) : Prop where
  counts : Counts capacity s
  found : Found capacity s.totals s.reading
  reports : ∀ r ∈ s.reports, r.Accounts capacity

variable {capacity worker : Nat}

theorem Report.accounts {r : Report} (hlt : capacity < UInt64.size)
    (h : SecondLoad.Accounts capacity r.toSecondLoad) (hcapacity : r.capacity = capacity)
    (hexhausted : r.exhausted = .ofNat r.misses) : r.Accounts capacity := by
  have hallocated := h.allocated_eq
  have hfreed := h.freed_eq
  have hout := h.out_eq
  have hle := h.out_le
  have hadd : r.stats.inUse + .ofNat r.between = .ofNat r.out := by
    have hsum := congrArg UInt64.ofNat hout
    rw [UInt64.ofNat_add, UInt64.ofNat_add, ← hallocated, ← hfreed] at hsum
    show r.allocated - r.freed + .ofNat r.between = .ofNat r.out
    grind
  constructor
  case toAccounts => exact h
  case capacity_eq => exact hcapacity
  case exhausted_eq => exact hexhausted
  case inUse_add => exact hadd
  case inUse_eq =>
    intro hbetween
    have hsplit : UInt64.ofNat r.out = .ofNat (r.out - r.between) + .ofNat r.between := by
      rw [← UInt64.ofNat_add, Nat.sub_add_cancel hbetween]
    rw [(UInt64.add_left_inj _).mp (hadd.trans hsplit)]
    exact UInt64.toNat_ofNat_of_lt' (by omega)
  case freed_le =>
    intro hbetween hsize
    show r.freed ≤ r.allocated
    rw [hallocated, hfreed, UInt64.le_iff_toNat_le, UInt64.toNat_ofNat_of_lt' hsize,
      UInt64.toNat_ofNat_of_lt' (by omega)]
    omega

/-! ## Runs -/

namespace Counts

theorem take (h : Counts capacity s) (hidle : s.workers[worker]? = some .idle) :
    Counts capacity (s.take worker) := by
  have hsum := sum_map_set hidle Stage.storages
  have hstorages := h.storages
  simp only [SharedPool.take, Pool.takeStorage]
  cases hfree : s.pool.free with
  | nil =>
    have hmissed : (((s.workers.set worker .missed).map Stage.storages)).sum =
        (s.workers.map Stage.storages).sum := hsum .missed
    refine { h with storages := ?_ }
    show s.pool.free.length + ((s.workers.set worker .missed).map Stage.storages).sum +
      s.out.length = capacity
    omega
  | cons storage rest =>
    have htook : ((s.workers.set worker (.took storage)).map Stage.storages).sum =
        (s.workers.map Stage.storages).sum + 1 := hsum (.took storage)
    rw [hfree, List.length_cons] at hstorages
    refine { h with storages := ?_ }
    show rest.length + ((s.workers.set worker (.took storage)).map Stage.storages).sum +
      s.out.length = capacity
    omega

theorem drop (h : Counts capacity s) (hidle : s.workers[worker]? = some .idle) {buffer : Nat}
    {b : Buffer} (hb : s.out[buffer]? = some b) : Counts capacity (s.drop worker buffer b) := by
  have hreleased : ((s.workers.set worker (.released b.storage)).map Stage.storages).sum =
      (s.workers.map Stage.storages).sum + 1 :=
    sum_map_set hidle Stage.storages (.released b.storage)
  obtain ⟨hbuffer, -⟩ := List.getElem?_eq_some_iff.mp hb
  have hout : (s.out.eraseIdx buffer).length + 1 = s.out.length := by
    rw [List.length_eraseIdx_of_lt hbuffer]
    omega
  have hstorages := h.storages
  have houtEq := h.out_eq
  constructor
  case capacity_eq => exact h.capacity_eq
  case allocated_eq => exact h.allocated_eq
  case exhausted_eq => exact h.exhausted_eq
  case storages =>
    show s.pool.free.length + ((s.workers.set worker (.released b.storage)).map
      Stage.storages).sum + (s.out.eraseIdx buffer).length = capacity
    omega
  case freed_eq =>
    show s.pool.freed + 1 = .ofNat (s.totals.releases + 1)
    rw [h.freed_eq, UInt64.ofNat_add]
    rfl
  case out_eq =>
    show s.totals.releases + 1 + (s.out.eraseIdx buffer).length = s.totals.allocations
    omega

theorem finish (h : Counts capacity s) {stage : Stage} (hstage : s.workers[worker]? = some stage) :
    Counts capacity (s.finish worker stage) := by
  have hsum : ((s.workers.set worker .idle).map Stage.storages).sum + stage.storages =
      (s.workers.map Stage.storages).sum := sum_map_set hstage Stage.storages .idle
  have hstorages := h.storages
  cases stage with
  | idle => exact h
  | took storage =>
    rw [Stage.storages] at hsum
    constructor
    case capacity_eq => exact h.capacity_eq
    case freed_eq => exact h.freed_eq
    case exhausted_eq => exact h.exhausted_eq
    case storages =>
      simp only [SharedPool.finish, Pool.countAllocated, List.length_append, List.length_singleton]
      omega
    case allocated_eq =>
      show s.pool.allocated + 1 = .ofNat (s.totals.allocations + 1)
      rw [h.allocated_eq, UInt64.ofNat_add]
      rfl
    case out_eq =>
      simp only [SharedPool.finish, List.length_append, List.length_singleton, ← h.out_eq]
      omega
  | missed =>
    rw [Stage.storages] at hsum
    refine { h with storages := ?_, exhausted_eq := ?_ }
    · simp only [SharedPool.finish, Pool.countExhausted]
      omega
    · show s.pool.exhausted + 1 = .ofNat (s.totals.misses + 1)
      rw [h.exhausted_eq, UInt64.ofNat_add]
      rfl
  | released storage =>
    rw [Stage.storages] at hsum
    have hroom : s.pool.free.length < s.pool.stockRoom := by
      rw [Pool.stockRoom, h.capacity_eq]
      omega
    rw [SharedPool.finish, Pool.giveBack, if_pos hroom]
    refine { h with storages := ?_ }
    simp only [List.length_append, List.length_singleton]
    omega

end Counts

/-- What was found stays true while the totals grow. -/
theorem Found.mono {totals totals' : Totals} {reading : Reading}
    (h : Found capacity totals reading) (hallocations : totals.allocations ≤ totals'.allocations)
    (hreleases : totals.releases ≤ totals'.releases) : Found capacity totals' reading := by
  cases h with
  | idle => exact .idle
  | first hallocated hle hcapacity =>
    exact .first hallocated (Nat.le_trans hle hallocations) (by omega)
  | second h => exact .second h

namespace Kept

theorem take (h : Kept capacity s) (hidle : s.workers[worker]? = some .idle) :
    Kept capacity (s.take worker) where
  counts := h.counts.take hidle
  found := h.found
  reports := h.reports

theorem drop (h : Kept capacity s) (hidle : s.workers[worker]? = some .idle) {buffer : Nat}
    {b : Buffer} (hb : s.out[buffer]? = some b) : Kept capacity (s.drop worker buffer b) where
  counts := h.counts.drop hidle hb
  found := h.found.mono (Nat.le_refl _) (Nat.le_succ _)
  reports := h.reports

theorem finish (h : Kept capacity s) {stage : Stage} (hstage : s.workers[worker]? = some stage) :
    Kept capacity (s.finish worker stage) := by
  have hcounts := h.counts.finish hstage
  cases stage with
  | idle => exact h
  | took storage => exact ⟨hcounts, h.found.mono (Nat.le_succ _) (Nat.le_refl _), h.reports⟩
  | missed => exact ⟨hcounts, h.found.mono (Nat.le_refl _) (Nat.le_refl _), h.reports⟩
  | released storage => exact ⟨hcounts, h.found, h.reports⟩

theorem load (hlt : capacity < UInt64.size) (h : Kept capacity s) : Kept capacity s.load := by
  have hstorages := h.counts.storages
  have hout := h.counts.out_eq
  have hcapacity : s.totals.allocations ≤ s.totals.releases + capacity := by omega
  have hfound := h.found
  rw [SharedPool.load]
  split
  · exact ⟨{ h.counts with }, .first h.counts.allocated_eq (Nat.le_refl _) hcapacity, h.reports⟩
  · next load hreading =>
    rw [hreading] at hfound
    cases hfound with
    | first hallocated hle hcapacity =>
      refine ⟨{ h.counts with }, .second ?_, h.reports⟩
      constructor
      case allocated_eq => exact hallocated
      case freed_eq => exact h.counts.freed_eq
      case out_eq =>
        show s.totals.releases + s.out.length =
          load.allocations + (s.totals.allocations - load.allocations)
        omega
      case out_le =>
        show s.out.length ≤ capacity
        omega
      case allocations_le => exact hcapacity
  · next load hreading =>
    rw [hreading] at hfound
    cases hfound with
    | second hload =>
      refine ⟨{ h.counts with }, .idle, ?_⟩
      intro r hmem
      cases List.mem_append.mp hmem with
      | inl hmem => exact h.reports r hmem
      | inr hmem =>
        rw [List.mem_singleton.mp hmem]
        exact Report.accounts hlt hload h.counts.capacity_eq h.counts.exhausted_eq

theorem step (hlt : capacity < UInt64.size) (h : Kept capacity s) (access : Access) :
    Kept capacity (s.step access) := by
  cases access with
  | take worker =>
    simp only [SharedPool.step]
    split
    · next hidle => exact h.take hidle
    · exact h
  | drop worker buffer =>
    simp only [SharedPool.step]
    split
    · next hidle hb => exact h.drop hidle hb
    · exact h
  | finish worker =>
    simp only [SharedPool.step]
    split
    · next hstage => exact h.finish hstage
    · exact h
  | load => exact h.load hlt

theorem run (hlt : capacity < UInt64.size) (h : Kept capacity s) (accesses : List Access) :
    Kept capacity (s.run accesses) := by
  induction accesses generalizing s with
  | nil => exact h
  | cons access accesses ih => exact ih (h.step hlt access)

end Kept

theorem start_kept (capacity headroom dataRoom workers : Nat) :
    Kept capacity (start (.create capacity headroom dataRoom) workers) := by
  refine ⟨⟨rfl, ?_, rfl, rfl, rfl, rfl⟩, .idle, ?_⟩
  · simp [start, Pool.create, Stage.storages]
  · intro r hmem
    cases hmem

/-- Whatever the workers do between the loads, a report misses no more than what was allocated
there. -/
theorem run_loads (capacity : UInt64) (headroom dataRoom workers : Nat) (accesses : List Access)
    (r : Report)
    (hr : r ∈ ((start (.create capacity.toNat headroom dataRoom) workers).run accesses).reports) :
    r.Accounts capacity.toNat :=
  ((start_kept capacity.toNat headroom dataRoom workers).run capacity.toNat_lt_size
    accesses).reports r hr

/-- One of two buffers is out at the first load. The other one is allocated before the second load,
and one of them comes back. -/
theorem run_loads_missed :
    let accesses : List Access := [.take 0, .finish 0, .load, .take 1, .finish 1, .drop 1 0, .load,
      .finish 1, .load]
    ∃ r ∈ ((start (.create 2 0 4) 2).run accesses).reports,
      r.stats = ⟨2, 1, 1, 0⟩ ∧ r.between = 1 ∧ r.out = 1 ∧ r.Accounts 2 := by
  intro accesses
  refine ⟨_, .head _, rfl, rfl, rfl, ?_⟩
  apply run_loads 2 0 4 2 accesses
  exact .head _

/-- The only buffer of a pool goes out and comes back between the first load and the second. -/
theorem exists_wrapped :
    ∃ r ∈ ((start (.create 1 0 4) 1).run [.load, .take 0, .finish 0, .drop 0 0, .finish 0, .load,
      .load]).reports,
      r.stats = ⟨1, 0, 1, 0⟩ ∧ ¬r.stats.freed ≤ r.stats.allocated ∧
        ¬r.stats.inUse.toNat ≤ r.stats.capacity :=
  ⟨_, .head _, rfl, by decide, by decide⟩

end SharedPool

end EtherRelay
