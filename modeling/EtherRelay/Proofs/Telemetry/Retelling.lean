import EtherRelay.Proofs.Context.Mirrors
import EtherRelay.Proofs.Telemetry.Apart

/-!
# Retold stages

A stage that runs on a sink that keeps everything shows what the same stage does on any other sink.
What the other sink was offered are the records that the first one kept, in their order, and what it
refused is known from its answers to them. `retell` turns an outcome on the first sink into the
outcome on the other one, and each stage commutes with it: the refusals show in their own count and
nowhere else.
-/

namespace EtherRelay

variable {β σ : Type}

/-! ## Records that are offered one after another -/

namespace Sink

variable [Sink σ] (s : σ)

/-- Offer lines one after another. -/
def offerAll (s : σ) (lines : List String) : σ := lines.foldl (fun s line => (publish s line).2) s

/-- Whether a sink refuses a line now. -/
def refuses (s : σ) (line : String) : Bool := !(publish s line).1.isOk

/-- How many lines are refused if they are offered one after another. -/
def refusals (s : σ) : List String → Nat
  | [] => 0
  | line :: lines => (refuses s line).toNat + refusals (publish s line).2 lines

theorem offerAll_concat (lines : List String) (line : String) :
    offerAll s (lines ++ [line]) = (publish (offerAll s lines) line).2 :=
  List.foldl_append

theorem refusals_concat (lines : List String) (line : String) :
    refusals s (lines ++ [line]) = refusals s lines + (refuses (offerAll s lines) line).toNat := by
  induction lines generalizing s with
  | nil => exact Nat.add_comm _ _
  | cons first lines ih => rw [List.cons_append, refusals, ih, refusals, Nat.add_assoc]; rfl

end Sink

/-! ## Outcomes on another sink -/

namespace Lane

variable [Sink σ] (s : σ)

/-- The records of `x` are offered to `s` in place of a sink that keeps all of them. -/
def retell (s : σ) (x : Lane β × World β MemorySink) : Lane β × World β σ :=
  recast (x.1.counters.publishFailures + UInt64.ofNat (Sink.refusals s x.2.sink.records))
    (Sink.offerAll s x.2.sink.records) x

/-- What is not retold is neither looked at nor changed by a step that commutes with `recast`. -/
theorem rests_of_recast {x y : Lane β × World β MemorySink}
    (h : y = recast x.1.counters.publishFailures x.2.sink y) :
    y.1.counters.publishFailures = x.1.counters.publishFailures ∧ y.2.sink = x.2.sink :=
  ⟨congrArg (fun y => y.1.counters.publishFailures) h, congrArg (fun y => y.2.sink) h⟩

theorem retell_of_recast {x y : Lane β × World β MemorySink}
    (h : y = recast x.1.counters.publishFailures x.2.sink y) :
    retell s y = recast (retell s x).1.counters.publishFailures (retell s x).2.sink y := by
  obtain ⟨hfailures, hsink⟩ := rests_of_recast h
  rw [retell, hfailures, hsink]
  rfl

/-- What else the step answers is the same. -/
theorem map_retell {α γ : Type} {x : Lane β × World β MemorySink}
    {y : α × γ × Lane β × World β MemorySink}
    (h : y.2.2 = recast x.1.counters.publishFailures x.2.sink y.2.2) :
    y.map id (Prod.map id (recast (retell s x).1.counters.publishFailures (retell s x).2.sink)) =
      y.map id (Prod.map id (retell s)) :=
  congrArg (fun z => (y.1, y.2.1, z)) (retell_of_recast s h).symm

end Lane

variable [FrameBuffer β]

section Polls

variable [Sink σ] (s : σ) (lane : Lane β) (w : World β MemorySink)

theorem Receiver.poll_retell (r : Receiver) :
    r.poll (Lane.retell s (lane, w)).1 (Lane.retell s (lane, w)).2 =
      (r.poll lane w).map id (Prod.map id (Lane.retell s)) :=
  (r.poll_recast lane w _ _).trans (Lane.map_retell (x := (lane, w)) s (r.poll_rests lane w))

theorem Transmitter.poll_retell (t : Transmitter) :
    t.poll (Lane.retell s (lane, w)).1 (Lane.retell s (lane, w)).2 =
      (t.poll lane w).map id (Prod.map id (Lane.retell s)) :=
  (t.poll_recast lane w _ _).trans (Lane.map_retell (x := (lane, w)) s (t.poll_rests lane w))

end Polls

namespace Monitor

omit [FrameBuffer β] in
/-- The sink is offered the line of the record, and a refusal is counted. -/
theorem publish_eq [Sink σ] (lane : Lane β) (w : World β σ) (record : Record) :
    publish lane w record =
      (lane.withFailures (lane.counters.publishFailures +
          UInt64.ofNat (Sink.refuses w.sink record.line).toNat),
        w.withSink (Sink.publish w.sink record.line).2) := by
  rw [publish, World.publish, Sink.refuses]
  obtain ⟨_ | _, sink⟩ := Sink.publish w.sink record.line
  · rfl
  · exact congrArg (·, w.withSink sink) (congrArg lane.withFailures (UInt64.add_zero _).symm)

variable [Sink σ] (s : σ) (m : Monitor) (lane : Lane β) {w : World β MemorySink}

omit [FrameBuffer β] in
/-- A refusal is counted, and nothing else differs. -/
theorem publish_retell (h : w.sink.closed = false) (record : Record) :
    publish (Lane.retell s (lane, w)).1 (Lane.retell s (lane, w)).2 record =
      Lane.retell s (publish lane w record) := by
  have hrecords : (w.sink.publish record.line).2.records = w.sink.records ++ [record.line] := by
    simp [MemorySink.publish, h]
  rw [publish_open _ _ h, publish_eq, Lane.retell, Lane.retell]
  dsimp only
  rw [hrecords, Sink.refusals_concat, Sink.offerAll_concat, UInt64.ofNat_add, ← UInt64.add_assoc]
  rfl

theorem inspect_retell (w : World β MemorySink) (probe : β) :
    inspect (Lane.retell s (lane, w)).1 (Lane.retell s (lane, w)).2 probe =
      (inspect lane w probe).map id (Lane.retell s) := by
  have hretold := Lane.retell_of_recast (x := (lane, w)) s (inspect_rests lane w probe)
  exact (inspect_recast lane w _ _ probe).trans (congrArg (fun y => (_, y)) hretold.symm)

theorem drainProbe_retell (h : w.sink.closed = false) (probe : β) :
    drainProbe (Lane.retell s (lane, w)).1 (Lane.retell s (lane, w)).2 probe =
      Lane.retell s (drainProbe lane w probe) := by
  have hsink : (inspect lane w probe).2.2.sink = w.sink :=
    (Lane.rests_of_recast (x := (lane, w)) (inspect_rests lane w probe)).2
  rw [drainProbe, drainProbe, inspect_retell]
  generalize inspect lane w probe = read at hsink
  obtain ⟨_ | latency, lane', w'⟩ := read
  · rfl
  · have hopen : w'.sink.closed = false := hsink ▸ h
    have hpublish := publish_retell s lane' hopen (latency.record lane'.context)
    exact congrArg (fun y : Lane β × World β σ => (y.1, y.2.release [probe])) hpublish

/-- Probes are read one after another. -/
theorem drainAll_retell (h : w.sink.closed = false) (burst : List β) :
    burst.foldl (fun (lane, w) probe => drainProbe lane w probe) (Lane.retell s (lane, w)) =
      Lane.retell s (burst.foldl (fun (lane, w) probe => drainProbe lane w probe) (lane, w)) := by
  induction burst generalizing lane w with
  | nil => rfl
  | cons probe burst ih =>
      have hopen := (drainProbe_traces lane w h probe).closed_eq.trans h
      have hprobe := congrArg (burst.foldl fun (lane, w) probe => drainProbe lane w probe)
        (drainProbe_retell s lane h probe)
      exact hprobe.trans (ih _ hopen)

theorem drain_retell (h : w.sink.closed = false) :
    m.drain (Lane.retell s (lane, w)).1 (Lane.retell s (lane, w)).2 =
      (m.drain lane w).map id (Lane.retell s) := by
  have hload : m.load (Lane.retell s (lane, w)).1 =
      ((m.load lane).1, (Lane.retell s ((m.load lane).2, w)).1) := rfl
  have hworld : (Lane.retell s (lane, w)).2 = (Lane.retell s ((m.load lane).2, w)).2 := rfl
  rw [drain, drain, hload, hworld]
  exact congrArg (Prod.mk _) (drainAll_retell s (m.load lane).2 h (m.load lane).1)

omit [FrameBuffer β] in
/-- A sample offers no record. -/
theorem retell_sample_fst (w : World β MemorySink) :
    (Lane.retell s (lane, (m.sample lane w).2.2)).1 = (Lane.retell s (lane, w)).1 := by
  rw [Lane.retell, Lane.retell, m.sample_sink]
  rfl

omit [FrameBuffer β] in
/-- A sample shows the refusals of the other sink. -/
theorem sample_retell (w : World β MemorySink) :
    m.sample (Lane.retell s (lane, w)).1 (Lane.retell s (lane, w)).2 =
      ((m.sample lane w).1.withFailures (Lane.retell s (lane, w)).1.counters.publishFailures,
        (m.sample lane w).2.1, (Lane.retell s (lane, (m.sample lane w).2.2)).2) := by
  refine (m.sample_recast lane w _ _).trans ?_
  rw [Lane.retell, Lane.retell]
  dsimp only
  rw [m.sample_sink]
  rfl

omit [FrameBuffer β] in
theorem publishSample_retell (h : w.sink.closed = false) :
    m.publishSample (Lane.retell s (lane, w)).1 (Lane.retell s (lane, w)).2 =
      ((m.publishSample lane w).1.withFailures
          (Lane.retell s (lane, w)).1.counters.publishFailures,
        (m.publishSample lane w).2.1, Lane.retell s (m.publishSample lane w).2.2) := by
  have hopen : (m.sample lane w).2.2.sink.closed = false := (m.sample_sink lane w).symm ▸ h
  have hpublish := publish_retell s lane hopen ((m.sample lane w).1.record lane.context)
  rw [publishSample, publishSample, sample_retell, ← m.retell_sample_fst]
  dsimp only
  rw [Sample.record_withFailures]
  exact congrArg (fun y => (_, _, y)) hpublish

end Monitor

/-! ## Pipelines -/

namespace Pipeline

variable [Sink σ] (s : σ) (p : Pipeline β) (w : World β MemorySink)

/-- A pipeline and its world on another sink. -/
def retell (s : σ) (x : Pipeline β × World β MemorySink) : Pipeline β × World β σ :=
  let (lane, w) := Lane.retell s (x.1.lane, x.2)
  ({ x.1 with lane }, w)

theorem receive_retell :
    (retell s (p, w)).1.receive (retell s (p, w)).2 = (p.receive w).map id (retell s) := by
  obtain ⟨lane, receiver, transmitter, monitor, stopRequested, statsPeriodNs⟩ := p
  cases receiver with
  | none => rfl
  | some r =>
      simp only [receive, retell, r.poll_retell]
      generalize r.poll lane w = polled
      rfl

theorem transmit_retell :
    (retell s (p, w)).1.transmit (retell s (p, w)).2 = (p.transmit w).map id (retell s) := by
  obtain ⟨lane, receiver, transmitter, monitor, stopRequested, statsPeriodNs⟩ := p
  cases transmitter with
  | none => rfl
  | some t =>
      simp only [transmit, retell, t.poll_retell]
      generalize t.poll lane w = polled
      rfl

theorem drain_retell (h : w.sink.closed = false) :
    (retell s (p, w)).1.drain (retell s (p, w)).2 = (p.drain w).map id (retell s) := by
  obtain ⟨lane, receiver, transmitter, monitor, stopRequested, statsPeriodNs⟩ := p
  cases monitor with
  | none => rfl
  | some m =>
      simp only [drain, retell, m.drain_retell s lane h]
      generalize m.drain lane w = drained
      rfl

omit [FrameBuffer β] in
theorem sample_retell :
    (retell s (p, w)).1.sample (retell s (p, w)).2 =
      (p.sample w).map
        (Option.map (Sample.withFailures · (retell s (p, w)).1.lane.counters.publishFailures))
        (retell s) := by
  obtain ⟨lane, receiver, transmitter, monitor, stopRequested, statsPeriodNs⟩ := p
  cases monitor with
  | none => rfl
  | some m =>
      simp only [sample, retell, m.sample_retell, Prod.map, Option.map_some, m.retell_sample_fst]

omit [FrameBuffer β] in
theorem publishSample_retell (h : w.sink.closed = false) :
    (retell s (p, w)).1.publishSample (retell s (p, w)).2 =
      (p.publishSample w).map
        (Option.map (Sample.withFailures · (retell s (p, w)).1.lane.counters.publishFailures))
        (retell s) := by
  obtain ⟨lane, receiver, transmitter, monitor, stopRequested, statsPeriodNs⟩ := p
  cases monitor with
  | none => rfl
  | some m =>
      simp only [publishSample, retell, m.publishSample_retell s lane h]
      rfl

end Pipeline

end EtherRelay
