import EtherRelay.Proofs.Counters.Writers
import EtherRelay.Proofs.Relay.Independence

/-!
# How soon workers stop

A worker looks at the stop flag once a round, and a round consists of tasks: one poll for the
receive and the transmit worker, one drain and perhaps one sample for the stats worker. `isDue` says
that a worker is past its look at the flag and may still begin a task, `isDoing` that it began one
and is not done. Once the flag is raised, every task that is begun was due, and none becomes due
again. So each worker begins no task more than once, whatever the others do meanwhile, and none at
all that it was in the middle of.

A worker that left its loop does nothing any more.
-/

namespace EtherRelay

variable {β σ : Type}

/-! ## Tasks -/

/-- What a worker does between two looks at the stop flag. -/
inductive Task where
  | receive
  | transmit
  /-- Take probes out of the stats ring and report each of them. -/
  | drain
  /-- Sample the counters and publish them. -/
  | sample
  deriving Repr, DecidableEq

namespace Task

/-- The worker that does it. -/
def role : Task → WorkerRole
  | receive => .receive
  | transmit => .transmit
  | drain | sample => .stats

/-- The counter of the times it moved frames. -/
def bursts? : Task → Option Counter
  | receive => some .rxBursts
  | transmit => some .txBursts
  | drain | sample => none

end Task

def ReceivePlace.isPolling : ReceivePlace → Bool
  | .polling => true
  | _ => false

def TransmitPlace.isPolling : TransmitPlace β → Bool
  | .polling => true
  | _ => false

def TransmitPlace.isSending : TransmitPlace β → Bool
  | .sending _ => true
  | _ => false

def StatsPlace.isPolling : StatsPlace β → Bool
  | .polling => true
  | _ => false

def StatsPlace.isDraining : StatsPlace β → Bool
  | .draining (_ :: _) | .reporting .. => true
  | _ => false

def StatsPlace.isPublishing : StatsPlace β → Bool
  | .publishing _ => true
  | _ => false

/-- Whether the worker comes by the sample before the end of its round. -/
def StatsPlace.isBeforeSample : StatsPlace β → Bool
  | .polling | .draining _ | .reporting .. => true
  | _ => false

/-- Whether the worker has no more probes in hand and a sample is due. -/
def StatsWorker.isSampling (s : StatsWorker β) (now : Nat) : Bool :=
  match s.place with
  | .draining [] => decide (s.nextSampleNs ≤ now)
  | _ => false

namespace Workers

/-- Whether a worker may begin a task before it looks at the stop flag again. -/
def isDue (k : Workers β) : Task → Bool
  | .receive => k.receive.place.isPolling
  | .transmit => k.transmit.place.isPolling
  | .drain => k.stats.place.isPolling
  | .sample => k.stats.place.isBeforeSample

/-- Whether the next action of a worker begins a task. -/
def begins (k : Workers β) (now : Nat) : Task → Bool
  | .sample => k.stats.isSampling now
  | task => k.isDue task

/-- Whether a task was begun and is not done yet. A receive poll is a single action. -/
def isDoing (k : Workers β) : Task → Bool
  | .receive => false
  | .transmit => k.transmit.place.isSending
  | .drain => k.stats.place.isDraining
  | .sample => k.stats.place.isPublishing

/-- A task that is being done is not due. -/
theorem isDoing_add_isDue_le (k : Workers β) (task : Task) :
    (k.isDoing task).toNat + (k.isDue task).toNat ≤ 1 := by
  cases task with
  | receive =>
      rw [isDoing, Bool.toNat_false, Nat.zero_add]
      exact Bool.toNat_le _
  | transmit =>
      rw [isDoing, isDue]
      cases k.transmit.place <;> exact Nat.le_of_ble_eq_true rfl
  | drain =>
      rw [isDoing, isDue]
      match k.stats.place with
      | .draining [] | .draining (_ :: _) => exact Nat.le_of_ble_eq_true rfl
      | .ready | .polling | .reporting .. | .publishing _ | .finished | .crashed =>
          exact Nat.le_of_ble_eq_true rfl
  | sample =>
      rw [isDoing, isDue]
      cases k.stats.place <;> exact Nat.le_of_ble_eq_true rfl

end Workers

variable [FrameBuffer β]

/-! ## The workers -/

namespace ReceiveWorker

variable (stop : Bool) (r : ReceiveWorker) (lane : Lane β) (w : World β σ)

theorem isPolling_step : (r.step true lane w).1.place.isPolling = false := by
  cases hp : r.place with
  | polling =>
      simp only [step, hp]
      split <;> rfl
  | _ => simp only [step, hp, if_true, ReceivePlace.isPolling]

/-- Outside a poll the worker does nothing but write to the log. -/
theorem step_idle (h : r.place.isPolling = false) :
    (r.step stop lane w).2.1 = lane ∧ ∃ log, (r.step stop lane w).2.2 = { w with log } := by
  cases hp : r.place with
  | ready =>
      cases stop with
      | true => exact ⟨by simp only [step, hp, if_true], _, by simp only [step, hp, if_true]; rfl⟩
      | false => exact ⟨by simp [step, hp], w.log, by simp [step, hp]⟩
  | polling =>
      rw [hp] at h
      cases h
  | finished | crashed => exact ⟨by rw [step, hp], w.log, by rw [step, hp]⟩

theorem get_step {k : Counter} (h : k.writer ≠ .receive) :
    (r.step stop lane w).2.1.counters.get k = lane.counters.get k := by
  cases hp : r.place with
  | polling =>
      simp only [step, hp]
      split
      · rfl
      · exact r.stage.get_poll lane w h
  | _ => rw [(r.step_idle stop lane w (by rw [hp]; rfl)).1]

/-- A burst is counted in no action but a poll, and only one. -/
theorem get_rxBursts_step :
    ∃ d, d ≤ r.place.isPolling.toNat ∧ (r.step stop lane w).2.1.counters.get .rxBursts =
      lane.counters.get .rxBursts + UInt64.ofNat d := by
  cases hp : r.place with
  | polling =>
      simp only [step, hp]
      split
      · exact ⟨0, Nat.zero_le _, (UInt64.add_zero _).symm⟩
      · exact r.stage.get_rxBursts_poll lane w
  | _ =>
      refine ⟨0, Nat.zero_le _, ?_⟩
      rw [(r.step_idle stop lane w (by rw [hp]; rfl)).1]
      exact (UInt64.add_zero _).symm

end ReceiveWorker

namespace TransmitWorker

variable (stop : Bool) (t : TransmitWorker β) (lane : Lane β) (w : World β σ)

theorem isPolling_step : (t.step true lane w).1.place.isPolling = false := by
  cases hp : t.place with
  | polling | sending =>
      simp only [step, hp]
      split <;> rfl
  | _ => simp only [step, hp, if_true, TransmitPlace.isPolling]

/-- Outside a poll the worker does nothing but write to the log. -/
theorem step_idle (h : t.place.isPolling = false) (h' : t.place.isSending = false) :
    (t.step stop lane w).2.1 = lane ∧ ∃ log, (t.step stop lane w).2.2 = { w with log } := by
  cases hp : t.place with
  | ready =>
      cases stop with
      | true => exact ⟨by simp only [step, hp, if_true], _, by simp only [step, hp, if_true]; rfl⟩
      | false => exact ⟨by simp [step, hp], w.log, by simp [step, hp]⟩
  | polling =>
      rw [hp] at h
      cases h
  | sending burst =>
      rw [hp] at h'
      cases h'
  | finished | crashed => exact ⟨by rw [step, hp], w.log, by rw [step, hp]⟩

theorem get_step {k : Counter} (h : k.writer ≠ .transmit) :
    (t.step stop lane w).2.1.counters.get k = lane.counters.get k := by
  cases hp : t.place with
  | polling =>
      simp only [step, hp]
      rfl
  | sending burst =>
      simp only [step, hp]
      split
      · rfl
      · exact t.stage.get_send lane w burst h
  | _ => rw [(t.step_idle stop lane w (by rw [hp]; rfl) (by rw [hp]; rfl)).1]

/-- A burst is counted when it is sent, and it was taken up before that. -/
theorem get_txBursts_step :
    ∃ d, d + (t.step stop lane w).1.place.isSending.toNat ≤
        t.place.isSending.toNat + t.place.isPolling.toNat ∧
      (t.step stop lane w).2.1.counters.get .txBursts =
        lane.counters.get .txBursts + UInt64.ofNat d := by
  cases hp : t.place with
  | ready =>
      refine ⟨0, ?_, ?_⟩ <;> simp only [step, hp] <;> split
      · exact Nat.le_refl 0
      · exact Nat.le_refl 0
      · exact (UInt64.add_zero _).symm
      · exact (UInt64.add_zero _).symm
  | polling =>
      refine ⟨0, ?_, ?_⟩ <;> simp only [step, hp]
      · rw [Nat.zero_add]
        exact Bool.toNat_le _
      · exact (UInt64.add_zero _).symm
  | sending burst =>
      simp only [step, hp]
      split
      · exact ⟨0, Nat.zero_le _, (UInt64.add_zero _).symm⟩
      · exact ⟨1, Nat.le_refl 1, t.stage.get_txBursts_send lane w burst⟩
  | finished | crashed =>
      refine ⟨0, ?_, ?_⟩ <;> simp only [step, hp]
      · exact Nat.le_refl 0
      · exact (UInt64.add_zero _).symm

end TransmitWorker

namespace StatsWorker

variable [Sink σ] (stop : Bool) (s : StatsWorker β) (lane : Lane β) (w : World β σ)

omit [Sink σ] in
/-- At the end of a drain a sample is taken, or the worker goes down at it, or the round ends. -/
theorem sampleIfDue_ends :
    (w.wallNs < s.nextSampleNs ∧ s.sampleIfDue lane w = ({ s with place := .ready }, lane, w)) ∨
      s.nextSampleNs ≤ w.wallNs ∧
        (s.sampleIfDue lane w).2.1.counters = lane.counters ∧
        ((s.sampleIfDue lane w).1.place = .crashed ∨
          ∃ sample, (s.sampleIfDue lane w).1.place = .publishing sample) := by
  rw [sampleIfDue]
  dsimp only
  split
  · next hearly => exact .inl ⟨hearly, rfl⟩
  · next hdue =>
    refine .inr ⟨Nat.le_of_not_lt hdue, ?_⟩
    split
    · exact ⟨rfl, .inl rfl⟩
    · split
      · exact ⟨rfl, .inl rfl⟩
      · exact ⟨rfl, .inr ⟨_, rfl⟩⟩

theorem isPolling_step : (s.step true lane w).1.place.isPolling = false := by
  cases hp : s.place with
  | draining rest =>
      cases rest with
      | nil =>
          simp only [step, hp]
          obtain ⟨_, heq⟩ | ⟨_, _, hplace | ⟨sample, hplace⟩⟩ := s.sampleIfDue_ends lane w
          · rw [heq]
            rfl
          · rw [hplace]
            rfl
          · rw [hplace]
            rfl
      | cons probe rest =>
          simp only [step, hp]
          split <;> rfl
  | _ => simp only [step, hp, if_true, StatsPlace.isPolling]

/-- A sample that is begun was ahead in this round, and is not ahead any more. -/
theorem isSampling_add_step_le :
    (s.isSampling w.wallNs).toNat + (s.step true lane w).1.place.isBeforeSample.toNat ≤
      s.place.isBeforeSample.toNat := by
  cases hp : s.place with
  | draining rest =>
      cases rest with
      | nil =>
          simp only [step, hp, isSampling]
          obtain ⟨hearly, heq⟩ | ⟨hdue, _, hplace | ⟨sample, hplace⟩⟩ :=
            s.sampleIfDue_ends lane w
          · rw [heq, decide_eq_false (Nat.not_le_of_lt hearly)]
            exact Nat.zero_le _
          · rw [hplace]
            exact Bool.toNat_le _
          · rw [hplace]
            exact Bool.toNat_le _
      | cons probe rest =>
          simp only [step, hp, isSampling]
          rw [Bool.toNat_false, Nat.zero_add]
          exact Bool.toNat_le _
  | _ =>
      simp only [step, hp, if_true, isSampling, StatsPlace.isBeforeSample]
      exact Nat.le_of_ble_eq_true rfl

/-- Outside its tasks the worker does nothing but write to the log. -/
theorem step_idle (hpolling : s.place.isPolling = false) (hdraining : s.place.isDraining = false)
    (hpublishing : s.place.isPublishing = false) (hsampling : s.isSampling w.wallNs = false) :
    (s.step stop lane w).2.1 = lane ∧ ∃ log, (s.step stop lane w).2.2 = { w with log } := by
  cases hp : s.place with
  | ready =>
      cases stop with
      | true => exact ⟨by simp only [step, hp, if_true], _, by simp only [step, hp, if_true]; rfl⟩
      | false => exact ⟨by simp [step, hp], w.log, by simp [step, hp]⟩
  | draining rest =>
      cases rest with
      | nil =>
          obtain ⟨_, heq⟩ | ⟨hdue, _⟩ := s.sampleIfDue_ends lane w
          · exact ⟨by simp only [step, hp, heq], w.log, by simp only [step, hp, heq]⟩
          · simp [isSampling, hp] at hsampling
            exact absurd hdue (Nat.not_le_of_lt hsampling)
      | cons probe rest =>
          rw [hp] at hdraining
          cases hdraining
  | polling =>
      rw [hp] at hpolling
      cases hpolling
  | reporting latency probe rest =>
      rw [hp] at hdraining
      cases hdraining
  | publishing sample =>
      rw [hp] at hpublishing
      cases hpublishing
  | finished | crashed => exact ⟨by rw [step, hp], w.log, by rw [step, hp]⟩

theorem get_step {k : Counter} (h : k.writer ≠ .stats) :
    (s.step stop lane w).2.1.counters.get k = lane.counters.get k := by
  have hfailures : k ≠ .publishFailures := by
    rintro rfl
    exact h rfl
  cases hp : s.place with
  | ready =>
      simp only [step, hp]
      split <;> rfl
  | draining rest =>
      cases rest with
      | nil =>
          simp only [step, hp]
          obtain ⟨_, heq⟩ | ⟨_, hcounters, _⟩ := s.sampleIfDue_ends lane w
          · rw [heq]
          · rw [hcounters]
      | cons probe rest =>
          have hread := Monitor.get_inspect lane w h probe
          simp only [step, hp]
          split <;> next heq => rwa [heq] at hread
  | reporting | publishing =>
      simp only [step, hp]
      exact Monitor.get_publish lane w hfailures _
  | _ => simp only [step, hp, Monitor.load]

end StatsWorker

/-! ## Rounds -/

variable [Sink σ]

namespace Workers

variable (stop : Bool) (k : Workers β) (lane : Lane β) (w : World β σ)

/-- Every counter is left alone by all workers but one. -/
theorem get_step {counter : Counter} {role : WorkerRole} (h : counter.writer ≠ role) :
    (k.step stop lane w role).2.1.counters.get counter = lane.counters.get counter := by
  cases role with
  | receive => exact k.receive.get_step stop lane w h
  | transmit => exact k.transmit.get_step stop lane w h
  | stats => exact k.stats.get_step stop lane w h

/-- A worker changes nothing but the log where it neither begins a task nor goes on with one. -/
theorem step_idle {role : WorkerRole} (h : ∀ task : Task, task.role = role →
    k.isDoing task = false ∧ k.begins w.wallNs task = false) :
    (k.step stop lane w role).2.1 = lane ∧
      ∃ log, (k.step stop lane w role).2.2 = { w with log } := by
  cases role with
  | receive => exact k.receive.step_idle stop lane w (h .receive rfl).2
  | transmit =>
      exact k.transmit.step_idle stop lane w (h .transmit rfl).2 (h .transmit rfl).1
  | stats =>
      exact k.stats.step_idle stop lane w (h .drain rfl).2 (h .drain rfl).1 (h .sample rfl).1
        (h .sample rfl).2

/-- A worker that left its loop stays as it is, and changes nothing. -/
theorem step_of_isDone {role : WorkerRole} (h : k.isDone role = true) :
    k.step stop lane w role = (k, lane, w) := by
  cases role with
  | receive =>
      cases hp : k.receive.place <;> simp_all [isDone, ReceiveWorker.isDone, step,
        ReceiveWorker.step]
  | transmit =>
      cases hp : k.transmit.place <;> simp_all [isDone, TransmitWorker.isDone, step,
        TransmitWorker.step]
  | stats =>
      cases hp : k.stats.place <;> simp_all [isDone, StatsWorker.isDone, step, StatsWorker.step]

/-- What the workers may still do while the flag is raised: from `k` on they began each task so many
times, and counted no more bursts than they began or were in the middle of. -/
structure Spends (k : Workers β) (lane : Lane β) (begun : Task → Nat) (k' : Workers β)
    (lane' : Lane β) : Prop where
  begun_add_isDue_le : ∀ task, begun task + (k'.isDue task).toNat ≤ (k.isDue task).toNat
  counts : ∀ task counter, task.bursts? = some counter →
    ∃ d, d + (k'.isDoing task).toNat ≤ (k.isDoing task).toNat + begun task ∧
      lane'.counters.get counter = lane.counters.get counter + UInt64.ofNat d

namespace Spends

variable {k k' k'' : Workers β} {lane lane' lane'' : Lane β} {begun begun' : Task → Nat}

omit [FrameBuffer β] in
theorem refl (k : Workers β) (lane : Lane β) : k.Spends lane 0 k lane where
  begun_add_isDue_le _ := Nat.le_of_eq (Nat.zero_add _)
  counts _ _ _ := ⟨0, Nat.le_of_eq (Nat.add_comm _ _), (UInt64.add_zero _).symm⟩

omit [FrameBuffer β] in
theorem trans (h : k.Spends lane begun k' lane') (h' : k'.Spends lane' begun' k'' lane'') :
    k.Spends lane (begun + begun') k'' lane'' where
  begun_add_isDue_le task := by
    have hfirst := h.begun_add_isDue_le task
    have hsecond := h'.begun_add_isDue_le task
    rw [Pi.add_apply]
    omega
  counts task counter hcounter := by
    obtain ⟨d, hd, hget⟩ := h.counts task counter hcounter
    obtain ⟨d', hd', hget'⟩ := h'.counts task counter hcounter
    refine ⟨d + d', ?_, ?_⟩
    · rw [Pi.add_apply]
      omega
    · rw [hget', hget, UInt64.ofNat_add, UInt64.add_assoc]

end Spends

/-- The tasks of the other workers are where they were. -/
theorem task_step_of_ne {task : Task} {role : WorkerRole} (h : task.role ≠ role) :
    (k.step stop lane w role).1.isDue task = k.isDue task ∧
      (k.step stop lane w role).1.isDoing task = k.isDoing task := by
  cases role <;> cases task <;> first | exact ⟨rfl, rfl⟩ | exact absurd rfl h

/-- A task that the worker begins was due, and is not due after that. -/
theorem begins_add_isDue_step_le (task : Task) :
    (k.begins w.wallNs task).toNat + ((k.step true lane w task.role).1.isDue task).toNat ≤
      (k.isDue task).toNat := by
  cases task with
  | receive =>
      have hpolled : (k.step true lane w .receive).1.isDue .receive = false :=
        k.receive.isPolling_step lane w
      rw [Task.role, hpolled]
      exact Nat.le_refl _
  | transmit =>
      have hpolled : (k.step true lane w .transmit).1.isDue .transmit = false :=
        k.transmit.isPolling_step lane w
      rw [Task.role, hpolled]
      exact Nat.le_refl _
  | drain =>
      have hpolled : (k.step true lane w .stats).1.isDue .drain = false :=
        k.stats.isPolling_step lane w
      rw [Task.role, hpolled]
      exact Nat.le_refl _
  | sample => exact k.stats.isSampling_add_step_le lane w

/-- A burst is counted in a poll that the worker begins or is in the middle of. -/
theorem get_bursts_step {task : Task} {counter : Counter} (h : task.bursts? = some counter) :
    ∃ d, d + ((k.step stop lane w task.role).1.isDoing task).toNat ≤
        (k.isDoing task).toNat + (k.begins w.wallNs task).toNat ∧
      (k.step stop lane w task.role).2.1.counters.get counter =
        lane.counters.get counter + UInt64.ofNat d := by
  cases task with
  | receive =>
      cases h
      obtain ⟨d, hd, hget⟩ := k.receive.get_rxBursts_step stop lane w
      refine ⟨d, ?_, hget⟩
      change d + 0 ≤ 0 + k.receive.place.isPolling.toNat
      omega
  | transmit =>
      cases h
      exact k.transmit.get_txBursts_step stop lane w
  | drain | sample => cases h

theorem writer_of_bursts? {task : Task} {counter : Counter} (h : task.bursts? = some counter) :
    counter.writer = task.role := by
  cases task <;> cases h <;> rfl

/-- One action begins no more than its worker was about to. -/
theorem step_spends (role : WorkerRole) :
    k.Spends lane (fun task => if task.role = role then (k.begins w.wallNs task).toNat else 0)
      (k.step true lane w role).1 (k.step true lane w role).2.1 where
  begun_add_isDue_le task := by
    by_cases htask : task.role = role
    · subst htask
      rw [if_pos rfl]
      exact k.begins_add_isDue_step_le lane w task
    · rw [if_neg htask, Nat.zero_add, (k.task_step_of_ne true lane w htask).1]
  counts task counter hcounter := by
    by_cases htask : task.role = role
    · subst htask
      rw [if_pos rfl]
      exact k.get_bursts_step true lane w hcounter
    · refine ⟨0, ?_, ?_⟩
      · rw [if_neg htask, Nat.zero_add, Nat.add_zero, (k.task_step_of_ne true lane w htask).2]
      · have hwriter : counter.writer ≠ role := writer_of_bursts? hcounter ▸ htask
        rw [k.get_step true lane w hwriter]
        exact (UInt64.add_zero _).symm

end Workers

/-! ## Interleavings -/

namespace Context

variable {c : Context β} {k : Workers β}

/-- A worker that left its loop changes nothing at all. -/
theorem stepWorker_of_isDone (hbody : c.body = .running k) {role : WorkerRole}
    (h : k.isDone role = true) (w : World β σ) : c.stepWorker role w = (c, w) := by
  rw [stepWorker_eq hbody]
  simp only [k.step_of_isDone _ _ _ h, World.byWorker, List.append_nil]
  rw [← hbody]

/-- A worker changes nothing but its log where it neither begins a task nor goes on with one. -/
theorem stepWorker_idle (hbody : c.body = .running k) (w : World β σ) {role : WorkerRole}
    (h : ∀ task : Task, task.role = role →
      k.isDoing task = false ∧ k.begins w.wallNs task = false) :
    (c.stepWorker role w).1.lane = c.lane ∧
      ∃ log, (c.stepWorker role w).2 = { w with workerLog := log } := by
  obtain ⟨hlane, log, hworld⟩ :=
    k.step_idle c.lifecycle.stopRequested c.lane { w with log := [] } h
  rw [stepWorker_eq hbody]
  refine ⟨hlane, w.workerLog ++ log, ?_⟩
  simp only [World.byWorker, hworld]

end Context

namespace Station

/-- Whether a move has a worker of context `n` begin a task. -/
def begins (n : Nat) (task : Task) (s : Station β σ) : Move β → Bool
  | .act context role => match s.relay.contexts[context]?.map Context.body with
    | some (.running k) => context == n && task.role == role && k.begins s.world.wallNs task
    | _ => false
  | _ => false

/-- How often a worker of context `n` begins a task in the course of some moves. -/
def begun (n : Nat) (task : Task) : Station β σ → List (Move β) → Nat
  | _, [] => 0
  | s, move :: moves => (s.begins n task move).toNat + begun n task (s.step move) moves

variable {s : Station β σ} {n : Nat} {c : Context β} {k : Workers β}

/-- Whatever is done, a context is left as it is, or asked to stop, or one of its workers acts. -/
theorem context_step (hc : s.relay.contexts[n]? = some c) (move : Move β) :
    (∃ role, move = .act n role ∧
      (s.step move).relay.contexts[n]? = some (c.stepWorker role s.world).1) ∨
    (∀ task, s.begins n task move = false) ∧
      ((s.step move).relay.contexts[n]? = some c ∨
        (s.step move).relay.contexts[n]? = some c.requestStop) := by
  cases move with
  | act m role =>
      by_cases hm : m = n
      · subst hm
        refine .inl ⟨role, rfl, ?_⟩
        simp only [step, hc]
        exact List.getElem?_set_self (List.getElem?_eq_some_iff.mp hc).1
      · refine .inr ⟨?_, .inl ?_⟩
        · intro task
          rw [begins]
          split
          · rw [beq_eq_false_iff_ne.mpr hm, Bool.false_and, Bool.false_and]
          · rfl
        · rw [step]
          split
          · exact hc
          · exact (List.getElem?_set_ne hm).trans hc
  | stop m =>
      refine .inr ⟨fun _ => rfl, ?_⟩
      by_cases hm : m = n
      · subst hm
        refine .inr ?_
        simp [step, hc]
      · refine .inl ?_
        simp [step, hc, hm]
  | device kind interface =>
      refine .inr ⟨fun _ => rfl, ?_⟩
      rw [contexts_device]
      split
      · rw [List.getElem?_map, hc, Option.map_some, Context.afterRemoval]
        split
        · exact .inr rfl
        · exact .inl rfl
      · exact .inl hc
  | inject | setTxLimit | takeTransmitted | pass => exact .inr ⟨fun _ => rfl, .inl hc⟩

/-- A move begins tasks of a context that was asked to stop only as far as they were due. -/
theorem step_spends (hc : s.relay.contexts[n]? = some c) (hbody : c.body = .running k)
    (hstop : c.lifecycle.stopRequested = true) (move : Move β) :
    ∃ c' k', (s.step move).relay.contexts[n]? = some c' ∧ c'.body = .running k' ∧
      c'.lifecycle.stopRequested = true ∧
      k.Spends c.lane (fun task => (s.begins n task move).toNat) k' c'.lane := by
  obtain ⟨role, rfl, hc'⟩ | ⟨hbegins, hc'⟩ := context_step hc move
  · have hspends := k.step_spends c.lane { s.world with log := [] } role
    have hbegun : (fun task : Task => (s.begins n task (.act n role)).toNat) =
        fun task => if task.role = role then (k.begins s.world.wallNs task).toNat else 0 := by
      funext task
      simp only [begins, hc, Option.map_some, hbody, beq_self_eq_true, Bool.true_and]
      by_cases hrole : task.role = role
      · rw [beq_iff_eq.mpr hrole, Bool.true_and, if_pos hrole]
      · rw [beq_eq_false_iff_ne.mpr hrole, Bool.false_and, if_neg hrole, Bool.toNat_false]
    rw [← hstop] at hspends
    rw [hbegun]
    rw [Context.stepWorker_eq hbody] at hc'
    exact ⟨_, _, hc', rfl, hstop, hspends⟩
  · have hnone : (fun task : Task => (s.begins n task move).toNat) = 0 := by
      funext task
      rw [hbegins task]
      rfl
    rw [hnone]
    obtain hc' | hc' := hc'
    · exact ⟨c, k, hc', hbody, hstop, .refl k c.lane⟩
    · exact ⟨c.requestStop, k, hc', hbody, rfl, .refl k c.lane⟩

theorem run_spends (hc : s.relay.contexts[n]? = some c) (hbody : c.body = .running k)
    (hstop : c.lifecycle.stopRequested = true) (moves : List (Move β)) :
    ∃ c' k', (s.run moves).relay.contexts[n]? = some c' ∧
      k.Spends c.lane (fun task => begun n task s moves) k' c'.lane := by
  induction moves generalizing s c k with
  | nil => exact ⟨c, k, hc, .refl k c.lane⟩
  | cons move moves ih =>
      obtain ⟨c₁, k₁, hc₁, hbody₁, hstop₁, hfirst⟩ := step_spends hc hbody hstop move
      obtain ⟨c₂, k₂, hc₂, hrest⟩ := ih hc₁ hbody₁ hstop₁
      exact ⟨c₂, k₂, hc₂, hfirst.trans hrest⟩

/-- A worker that left its loop never comes back. -/
theorem run_isDone (hc : s.relay.contexts[n]? = some c) (hbody : c.body = .running k)
    {role : WorkerRole} (hdone : k.isDone role = true) (moves : List (Move β)) :
    ∃ c' k', (s.run moves).relay.contexts[n]? = some c' ∧ c'.body = .running k' ∧
      k'.isDone role = true := by
  induction moves generalizing s c k with
  | nil => exact ⟨c, k, hc, hbody, hdone⟩
  | cons move moves ih =>
      obtain ⟨other, rfl, hc'⟩ | ⟨_, hc' | hc'⟩ := context_step hc move
      · by_cases hrole : role = other
        · subst hrole
          rw [Context.stepWorker_of_isDone hbody hdone] at hc'
          exact ih hc' hbody hdone
        · rw [Context.stepWorker_eq hbody] at hc'
          refine ih hc' rfl ?_
          rw [k.isDone_step_of_ne _ _ _ hrole]
          exact hdone
      · exact ih hc' hbody hdone
      · exact ih hc' hbody hdone

/-- Once a context is asked to stop, each of its workers polls at most once more, be it a poll that
it is in the middle of, and the stats worker samples at most once more; so each of the two burst
counters grows by one at most. A worker that left its loop does not change anything any more, and
one that is in no task and begins none changes nothing but the log. -/
theorem run_stops (hc : s.relay.contexts[n]? = some c) (hbody : c.body = .running k)
    (moves : List (Move β)) :
    (c.lifecycle.stopRequested = true →
      (∀ task, (k.isDoing task).toNat + begun n task s moves ≤ 1) ∧
      ∃ c', (s.run moves).relay.contexts[n]? = some c' ∧
        ∀ counter ∈ [Counter.rxBursts, .txBursts], ∃ d, d ≤ 1 ∧
          c'.lane.counters.get counter = c.lane.counters.get counter + UInt64.ofNat d) ∧
    (∀ role, k.isDone role = true → (s.run moves).step (.act n role) = s.run moves) ∧
    ∀ c' k' role, (s.run moves).relay.contexts[n]? = some c' → c'.body = .running k' →
      (∀ task : Task, task.role = role →
        k'.isDoing task = false ∧ k'.begins (s.run moves).world.wallNs task = false) →
      (c'.stepWorker role (s.run moves).world).1.lane = c'.lane ∧
        ∃ log, (c'.stepWorker role (s.run moves).world).2 =
          { (s.run moves).world with workerLog := log } := by
  refine ⟨?_, ?_, ?_⟩
  · intro hstop
    obtain ⟨c', k', hc', hspends⟩ := run_spends hc hbody hstop moves
    have hbound : ∀ task, (k.isDoing task).toNat + begun n task s moves ≤ 1 := by
      intro task
      have honce := k.isDoing_add_isDue_le task
      have hbegun := hspends.begun_add_isDue_le task
      omega
    have hcounts : ∀ (task : Task) counter, task.bursts? = some counter → ∃ d, d ≤ 1 ∧
        c'.lane.counters.get counter = c.lane.counters.get counter + UInt64.ofNat d := by
      intro task counter hcounter
      obtain ⟨d, hd, hget⟩ := hspends.counts task counter hcounter
      exact ⟨d, Nat.le_trans (Nat.le_of_add_right_le hd) (hbound task), hget⟩
    refine ⟨hbound, c', hc', ?_⟩
    intro counter hcounter
    simp only [List.mem_cons, List.not_mem_nil, or_false] at hcounter
    obtain rfl | rfl := hcounter
    · exact hcounts .receive _ rfl
    · exact hcounts .transmit _ rfl
  · intro role hdone
    obtain ⟨c', k', hc', hbody', hdone'⟩ := run_isDone hc hbody hdone moves
    obtain ⟨hn, hget⟩ := List.getElem?_eq_some_iff.mp hc'
    rw [step, hc']
    dsimp only
    rw [Context.stepWorker_of_isDone hbody' hdone', ← hget, List.set_getElem_self]
  · intro c' k' role _ hbody' hidle
    exact Context.stepWorker_idle hbody' (s.run moves).world hidle

/-- A context with frames on their way is asked to stop: its transmit worker has seen it and left,
the other two are past their look at the flag. -/
def stopping : Station Buffer MemorySink :=
  twoLanes.run [.inject 0 0 [.ofFrame [1], .ofFrame [2], .ofFrame [3]], .act 0 .receive,
    .act 0 .receive, .act 0 .transmit, .act 0 .transmit, .act 0 .receive, .act 0 .stats, .stop 0,
    .act 0 .transmit, .act 0 .transmit]

/-- The statement for that context, whatever happens next. -/
theorem run_stops_stopping :
    ∃ c k, stopping.relay.contexts[0]? = some c ∧ c.body = .running k ∧
      c.lifecycle.stopRequested = true ∧ k.isDue .receive = true ∧ k.isDone .transmit = true ∧
      ∀ moves : List (Move Buffer),
        (∀ task, (k.isDoing task).toNat + begun 0 task stopping moves ≤ 1) ∧
        (∃ c', (stopping.run moves).relay.contexts[0]? = some c' ∧
          ∀ counter ∈ [Counter.rxBursts, .txBursts], ∃ d, d ≤ 1 ∧
            c'.lane.counters.get counter = c.lane.counters.get counter + UInt64.ofNat d) ∧
        (stopping.run moves).step (.act 0 .transmit) = stopping.run moves := by
  obtain ⟨c, hc⟩ : ∃ c, stopping.relay.contexts[0]? = some c := ⟨_, rfl⟩
  obtain ⟨k, hbody⟩ : ∃ k, c.body = .running k := by
    cases hc
    exact ⟨_, rfl⟩
  have hstop : c.lifecycle.stopRequested = true := by
    cases hc
    rfl
  have hdue : k.isDue .receive = true := by
    cases hc
    cases hbody
    rfl
  have hdone : k.isDone .transmit = true := by
    cases hc
    cases hbody
    rfl
  refine ⟨c, k, hc, hbody, hstop, hdue, hdone, ?_⟩
  intro moves
  obtain ⟨hstops, hleft, _⟩ := run_stops hc hbody moves
  obtain ⟨hbound, hcounts⟩ := hstops hstop
  exact ⟨hbound, hcounts, hleft .transmit hdone⟩

/-- The receive worker polls once more, and leaves. -/
example :
    let moves : List (Move Buffer) := List.replicate 3 (.act 0 .receive)
    begun 0 .receive stopping moves = 1 ∧
      (stopping.run moves).relay.contexts[0]?.map (fun c => c.lane.counters.rxBursts) = some 2 := by
  decide +kernel

end Station

end EtherRelay
