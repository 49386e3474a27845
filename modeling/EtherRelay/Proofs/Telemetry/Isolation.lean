import EtherRelay.Proofs.Counters.Writers
import EtherRelay.Proofs.Telemetry.Retelling

/-!
# What a refused record changes

A course makes any calls on a pipeline, with anything happening around it in between, and keeps what
the calls answered. The main statement compares two courses of the same calls: one on a sink that
keeps every record, the other on a sink that refuses any choice of them. They end with the same
rings, buffers, interfaces and counters, and the calls answered the same, up to the count of refused
records. The second sink was offered the very lines that the first one kept.
-/

namespace EtherRelay

variable {β σ : Type}

/-! ## Sinks with a script -/

/-- A sink that was told beforehand which records to refuse. -/
structure ScriptedSink where
  /-- What it answers to the record of that number, if it refuses it. -/
  script : Nat → Option PublishError
  /-- How many records it was offered. -/
  offered : Nat := 0
  records : List String := []

namespace ScriptedSink

def publish (s : ScriptedSink) (record : String) : Except PublishError Unit × ScriptedSink :=
  match s.script s.offered with
  | some e => (.error e, { s with offered := s.offered + 1 })
  | none => (.ok (), { s with offered := s.offered + 1, records := s.records ++ [record] })

instance : Sink ScriptedSink where
  publish := publish

/-- The lines that are not refused, where the first one has the number `start`. -/
def taken (script : Nat → Option PublishError) (start : Nat) (lines : List String) : List String :=
  ((lines.zipIdx start).filter fun (_, i) => (script i).isNone).map Prod.fst

theorem offerAll_eq (s : ScriptedSink) (lines : List String) :
    Sink.offerAll s lines =
      { s with
        offered := s.offered + lines.length
        records := s.records ++ taken s.script s.offered lines } := by
  induction lines generalizing s with
  | nil => simp [Sink.offerAll, taken]
  | cons line lines ih =>
      have hrest := ih (Sink.publish s line).2
      cases hscript : s.script s.offered <;>
        simp_all [Sink.offerAll, Sink.publish, publish, taken, Nat.add_comm, Nat.add_left_comm]

theorem refusals_eq (s : ScriptedSink) (lines : List String) :
    Sink.refusals s lines =
      (List.range' s.offered lines.length).countP fun i => (s.script i).isSome := by
  induction lines generalizing s with
  | nil => rfl
  | cons line lines ih =>
      cases hscript : s.script s.offered <;>
        simp [Sink.refusals, Sink.refuses, Sink.publish, publish, hscript, ih, Except.isOk,
          Except.toBool, List.range'_succ, Nat.add_comm]

end ScriptedSink

namespace MemorySink

theorem length_publish (s : MemorySink) (line : String) :
    (Sink.publish s line).2.records.length + (Sink.refuses s line).toNat =
      s.records.length + 1 := by
  cases hclosed : s.closed <;>
    simp [Sink.refuses, Sink.publish, publish, hclosed, Except.isOk, Except.toBool]

/-- A sink in memory keeps the lines that it does not refuse. -/
theorem length_offerAll (s : MemorySink) (lines : List String) :
    (Sink.offerAll s lines).records.length + Sink.refusals s lines =
      s.records.length + lines.length := by
  induction lines generalizing s with
  | nil => rfl
  | cons line lines ih =>
      have hfirst := s.length_publish line
      have hrest : (Sink.offerAll s (line :: lines)).records.length + Sink.refusals _ lines = _ :=
        ih (Sink.publish s line).2
      rw [Sink.refusals, List.length_cons]
      omega

end MemorySink

/-! ## Stages on a sink that keeps everything -/

/-- On a sink that keeps everything a step refuses nothing, and adds one record for each probe that
it read and each of its `samples`. -/
structure Lane.Writes (samples : Nat) (lane : Lane β) (w : World β MemorySink) (lane' : Lane β)
    (w' : World β MemorySink) : Prop where
  closed_eq : w'.sink.closed = w.sink.closed
  failures_eq : lane'.counters.publishFailures = lane.counters.publishFailures
  length_eq : UInt64.ofNat w'.sink.records.length + lane.counters.probesDecoded =
    UInt64.ofNat w.sink.records.length + lane'.counters.probesDecoded + UInt64.ofNat samples

namespace Lane.Writes

variable {samples samples' : Nat} {lane lane' lane'' : Lane β} {w w' w'' : World β MemorySink}

/-- A step that offers no record and reads no probe. -/
theorem of_eq (hsink : w'.sink = w.sink)
    (hfailures : lane'.counters.publishFailures = lane.counters.publishFailures)
    (hdecoded : lane'.counters.probesDecoded = lane.counters.probesDecoded) :
    Writes 0 lane w lane' w' where
  closed_eq := by rw [hsink]
  failures_eq := hfailures
  length_eq := by rw [hsink, hdecoded]; exact (UInt64.add_zero _).symm

theorem trans (h : Writes samples lane w lane' w') (h' : Writes samples' lane' w' lane'' w'') :
    Writes (samples + samples') lane w lane'' w'' where
  closed_eq := h'.closed_eq.trans h.closed_eq
  failures_eq := h'.failures_eq.trans h.failures_eq
  length_eq := by
    have hfirst := h.length_eq
    have hsecond := h'.length_eq
    rw [UInt64.ofNat_add]
    grind

end Lane.Writes

/-- Probes are only admitted by the receiver, and read by the monitor. -/
theorem Receiver.poll_writes [FrameBuffer β] (r : Receiver) (lane : Lane β)
    (w : World β MemorySink) :
    Lane.Writes 0 lane w (r.poll lane w).2.2.1 (r.poll lane w).2.2.2 :=
  .of_eq (r.sink_poll lane w) (r.get_poll lane w (k := .publishFailures) (by decide))
    (r.get_poll lane w (k := .probesDecoded) (by decide))

theorem Transmitter.poll_writes [FrameBuffer β] (t : Transmitter) (lane : Lane β)
    (w : World β MemorySink) :
    Lane.Writes 0 lane w (t.poll lane w).2.2.1 (t.poll lane w).2.2.2 := by
  obtain ⟨hfailures, hsink⟩ := Lane.rests_of_recast (x := (lane, w)) (t.poll_rests lane w)
  have hdecoded := (t.poll_traces lane w).decoded_eq
  exact .of_eq hsink hfailures (hdecoded.trans (UInt64.add_zero _))

namespace Monitor

variable (m : Monitor) (lane : Lane β) {w : World β MemorySink}

theorem publish_writes (h : w.sink.closed = false) (record : Record) :
    Lane.Writes 1 lane w (publish lane w record).1 (publish lane w record).2 := by
  rw [publish_open _ _ h]
  refine ⟨?_, rfl, ?_⟩
  · simp [MemorySink.publish, h]
  · simp [MemorySink.publish, h, UInt64.ofNat_add]
    grind

variable [FrameBuffer β]

/-- A probe leaves a record just if it could be read. -/
theorem drainProbe_writes (h : w.sink.closed = false) (probe : β) :
    Lane.Writes 0 lane w (drainProbe lane w probe).1 (drainProbe lane w probe).2 := by
  rw [drainProbe, inspect]
  cases Probe.Stamps.decode (FrameBuffer.frame probe) with
  | error e => exact .of_eq rfl rfl rfl
  | ok stamps =>
      -- The record stands for the probe, which was counted just before.
      have hpublish := publish_writes ((lane.count 1 .probesDecoded).count
        stamps.latency.reordered .reorderedHops) h (stamps.latency.record lane.context)
      have hcounted : ((lane.count 1 .probesDecoded).count stamps.latency.reordered
        .reorderedHops).counters.probesDecoded = lane.counters.probesDecoded + UInt64.ofNat 1 := rfl
      have hlength := hpublish.length_eq
      rw [hcounted] at hlength
      refine ⟨hpublish.closed_eq, hpublish.failures_eq, ?_⟩
      dsimp only [World.release, Lane.count] at hlength ⊢
      grind

theorem drainAll_writes (h : w.sink.closed = false) (burst : List β) :
    Lane.Writes 0 lane w
      (burst.foldl (fun (lane, w) probe => drainProbe lane w probe) (lane, w)).1
      (burst.foldl (fun (lane, w) probe => drainProbe lane w probe) (lane, w)).2 := by
  induction burst generalizing lane w with
  | nil => exact .of_eq rfl rfl rfl
  | cons probe burst ih =>
      have hfirst := drainProbe_writes lane h probe
      exact hfirst.trans (ih _ (hfirst.closed_eq.trans h))

theorem drain_writes (h : w.sink.closed = false) :
    Lane.Writes 0 lane w (m.drain lane w).2.1 (m.drain lane w).2.2 :=
  (Lane.Writes.of_eq rfl rfl rfl : Lane.Writes 0 lane w (m.load lane).2 w).trans
    (drainAll_writes _ h _)

omit [FrameBuffer β] in
theorem publishSample_writes (h : w.sink.closed = false) :
    Lane.Writes 1 lane w (m.publishSample lane w).2.2.1 (m.publishSample lane w).2.2.2 := by
  have hsink := m.sample_sink lane w
  have hsampled : Lane.Writes 0 lane w lane (m.sample lane w).2.2 := .of_eq hsink rfl rfl
  exact hsampled.trans (publish_writes lane (hsink ▸ h) _)

end Monitor

/-! ## Courses -/

namespace Course

/-- A call on a pipeline, or anything that happens to the world but not to its sink. -/
inductive Call (β : Type) where
  | receive
  | transmit
  | drain
  | sample
  | publishSample
  | elsewhere (act : World β Unit → World β Unit)

/-- What a call answers. -/
inductive Answer where
  | polled (frames : Option Nat)
  | sampled (sample : Option Sample)
  | published (sample : Option Sample)
  deriving DecidableEq

/-- The answer without the count of refused records. -/
def Answer.withoutFailures : Answer → Answer
  | .polled frames => .polled frames
  | .sampled sample => .sampled (sample.map (·.withFailures 0))
  | .published sample => .published (sample.map (·.withFailures 0))

theorem Answer.withoutFailures_sampled (sample : Option Sample) (n : UInt64) :
    withoutFailures (.sampled (sample.map (·.withFailures n))) =
      withoutFailures (.sampled sample) := by
  cases sample <;> rfl

theorem Answer.withoutFailures_published (sample : Option Sample) (n : UInt64) :
    withoutFailures (.published (sample.map (·.withFailures n))) =
      withoutFailures (.published sample) := by
  cases sample <;> rfl

/-- Whether a sample was published. -/
def Answer.isPublished : Answer → Bool
  | .published (some _) => true
  | _ => false

end Course

/-- A pipeline in its world, with the answers that it gave so far. -/
structure Course (β σ : Type) where
  pipeline : Pipeline β
  world : World β σ
  answers : List Course.Answer := []

namespace Course

variable [FrameBuffer β]

/-- Make one call. -/
def step [Sink σ] (x : Course β σ) : Call β → Course β σ
  | .receive =>
    let (frames, pipeline, world) := x.pipeline.receive x.world
    { pipeline, world, answers := x.answers ++ [.polled frames] }
  | .transmit =>
    let (frames, pipeline, world) := x.pipeline.transmit x.world
    { pipeline, world, answers := x.answers ++ [.polled frames] }
  | .drain =>
    let (frames, pipeline, world) := x.pipeline.drain x.world
    { pipeline, world, answers := x.answers ++ [.polled frames] }
  | .sample =>
    let (sample, pipeline, world) := x.pipeline.sample x.world
    { pipeline, world, answers := x.answers ++ [.sampled sample] }
  | .publishSample =>
    let (sample, pipeline, world) := x.pipeline.publishSample x.world
    { pipeline, world, answers := x.answers ++ [.published sample] }
  | .elsewhere act => { x with world := (act (x.world.withSink ())).withSink x.world.sink }

/-- Make calls in order. -/
def run [Sink σ] (x : Course β σ) (calls : List (Call β)) : Course β σ := calls.foldl step x

/-- How many records were refused, as the pipeline counts them. -/
def failures (x : Course β σ) : UInt64 := x.pipeline.lane.counters.publishFailures

/-- How many probes were read, as the pipeline counts them. -/
def decoded (x : Course β σ) : UInt64 := x.pipeline.lane.counters.probesDecoded

/-- How many samples were published. -/
def published (x : Course β σ) : Nat := x.answers.countP Answer.isPublished

/-- A pipeline before any call, around a sink. -/
def start (pipeline : Pipeline β) (w : World β Unit) (s : σ) : Course β σ where
  pipeline := pipeline
  world := w.withSink s

/-- The same course from here on with a new sink that keeps everything. -/
def told (x : Course β σ) : Course β MemorySink where
  pipeline := x.pipeline
  world := x.world.withSink {}
  answers := x.answers

/-! ### On another sink -/

/-- The second course is the first one on another sink, which was `s` when the first one began. -/
structure Retells [Sink σ] (s : σ) (told : Course β MemorySink) (x : Course β σ) : Prop where
  state_eq : (x.pipeline, x.world) = Pipeline.retell s (told.pipeline, told.world)
  answers_eq : x.answers.map Answer.withoutFailures = told.answers.map Answer.withoutFailures

omit [FrameBuffer β] in
theorem retells_told [Sink σ] (x : Course β σ) : x.told.Retells x.world.sink x := by
  refine ⟨?_, rfl⟩
  rw [Pipeline.retell, Lane.retell, told]
  dsimp only [Lane.recast, World.withSink, Sink.refusals, Sink.offerAll, List.foldl_nil]
  exact congrArg (fun n => ({ x.pipeline with lane := x.pipeline.lane.withFailures n }, x.world))
    (UInt64.add_zero _).symm

theorem Retells.step [Sink σ] {s : σ} {told : Course β MemorySink} {x : Course β σ}
    (h : told.Retells s x) (hopen : told.world.sink.closed = false) (call : Call β) :
    (told.step call).Retells s (x.step call) := by
  obtain ⟨pipeline, world, answers⟩ := x
  obtain ⟨hstate, hanswers⟩ := h
  obtain rfl : pipeline = (Pipeline.retell s (told.pipeline, told.world)).1 :=
    congrArg Prod.fst hstate
  obtain rfl : world = (Pipeline.retell s (told.pipeline, told.world)).2 :=
    congrArg Prod.snd hstate
  cases call with
  | receive =>
      simp only [Course.step, Pipeline.receive_retell]
      exact ⟨rfl, by simp [hanswers]⟩
  | transmit =>
      simp only [Course.step, Pipeline.transmit_retell]
      exact ⟨rfl, by simp [hanswers]⟩
  | drain =>
      simp only [Course.step, Pipeline.drain_retell _ _ _ hopen]
      exact ⟨rfl, by simp [hanswers]⟩
  | sample =>
      simp only [Course.step, Pipeline.sample_retell]
      exact ⟨rfl, by simp [hanswers, Answer.withoutFailures_sampled]⟩
  | publishSample =>
      simp only [Course.step, Pipeline.publishSample_retell _ _ _ hopen]
      exact ⟨rfl, by simp [hanswers, Answer.withoutFailures_published]⟩
  | elsewhere act => exact ⟨rfl, hanswers⟩

/-! ### On a sink that keeps everything -/

/-- Between the first course and the second one nothing was refused, and each new record stands for
a probe that was read or for a sample that was published. -/
structure Writes (x y : Course β MemorySink) : Prop where
  closed_eq : y.world.sink.closed = x.world.sink.closed
  failures_eq : y.failures = x.failures
  length_eq : UInt64.ofNat y.world.sink.records.length + x.decoded + UInt64.ofNat x.published =
    UInt64.ofNat x.world.sink.records.length + y.decoded + UInt64.ofNat y.published

omit [FrameBuffer β] in
theorem Writes.trans {x y z : Course β MemorySink} (h : x.Writes y) (h' : y.Writes z) :
    x.Writes z where
  closed_eq := h'.closed_eq.trans h.closed_eq
  failures_eq := h'.failures_eq.trans h.failures_eq
  length_eq := by
    have hfirst := h.length_eq
    have hsecond := h'.length_eq
    grind

omit [FrameBuffer β] in
/-- A call whose answer tells whether a sample was published. -/
theorem writes_of_lane {x : Course β MemorySink} {pipeline : Pipeline β}
    {world : World β MemorySink} {answer : Answer}
    (h : Lane.Writes answer.isPublished.toNat x.pipeline.lane x.world pipeline.lane world) :
    x.Writes { pipeline, world, answers := x.answers ++ [answer] } where
  closed_eq := h.closed_eq
  failures_eq := h.failures_eq
  length_eq := by
    have hlength := h.length_eq
    have hpublished : published { pipeline, world, answers := x.answers ++ [answer] } =
        x.published + answer.isPublished.toNat := by
      cases hanswer : answer.isPublished <;> simp [published, hanswer]
    rw [hpublished, UInt64.ofNat_add, decoded, decoded]
    grind

theorem writes_step {x : Course β MemorySink} (h : x.world.sink.closed = false) (call : Call β) :
    x.Writes (x.step call) := by
  obtain ⟨⟨lane, receiver, transmitter, monitor, stopRequested, statsPeriodNs⟩, w, answers⟩ := x
  cases call with
  | receive =>
      cases receiver with
      | none => exact writes_of_lane (.of_eq rfl rfl rfl)
      | some r => exact writes_of_lane (r.poll_writes lane w)
  | transmit =>
      cases transmitter with
      | none => exact writes_of_lane (.of_eq rfl rfl rfl)
      | some t => exact writes_of_lane (t.poll_writes lane w)
  | drain =>
      cases monitor with
      | none => exact writes_of_lane (.of_eq rfl rfl rfl)
      | some m => exact writes_of_lane (m.drain_writes lane h)
  | sample =>
      cases monitor with
      | none => exact writes_of_lane (.of_eq rfl rfl rfl)
      | some m => exact writes_of_lane (.of_eq (m.sample_sink lane w) rfl rfl)
  | publishSample =>
      cases monitor with
      | none => exact writes_of_lane (.of_eq rfl rfl rfl)
      | some m => exact writes_of_lane (m.publishSample_writes lane h)
  | elsewhere act => exact ⟨rfl, rfl, rfl⟩

/-! ### Runs -/

/-- Both courses go on with the same calls. -/
theorem Retells.run [Sink σ] {s : σ} {told : Course β MemorySink} {x : Course β σ}
    (h : told.Retells s x) (hopen : told.world.sink.closed = false) (calls : List (Call β)) :
    (told.run calls).Retells s (x.run calls) ∧ told.Writes (told.run calls) := by
  induction calls generalizing told x with
  | nil => exact ⟨h, rfl, rfl, rfl⟩
  | cons call calls ih =>
      have hwrites := writes_step hopen call
      obtain ⟨hrest, hwritten⟩ := ih (h.step hopen call) (hwrites.closed_eq.trans hopen)
      exact ⟨hrest, hwrites.trans hwritten⟩

/-- Two courses that differ in their sinks and in the count of refused records at most. -/
structure Isolated (told : Course β MemorySink) (x : Course β σ) : Prop where
  pipeline_eq : x.pipeline =
    { told.pipeline with lane := told.pipeline.lane.withFailures x.failures }
  world_eq : x.world = told.world.withSink x.world.sink
  answers_eq : x.answers.map Answer.withoutFailures = told.answers.map Answer.withoutFailures

section

omit [FrameBuffer β]

variable [Sink σ] {s : σ} {told : Course β MemorySink} {x : Course β σ}

theorem Retells.isolated (h : told.Retells s x) : told.Isolated x := by
  obtain ⟨pipeline, world, answers⟩ := x
  obtain rfl : pipeline = (Pipeline.retell s (told.pipeline, told.world)).1 :=
    congrArg Prod.fst h.state_eq
  obtain rfl : world = (Pipeline.retell s (told.pipeline, told.world)).2 :=
    congrArg Prod.snd h.state_eq
  exact ⟨rfl, rfl, h.answers_eq⟩

theorem Retells.sink_eq (h : told.Retells s x) :
    x.world.sink = Sink.offerAll s told.world.sink.records :=
  congrArg (fun y => y.2.sink) h.state_eq

theorem Retells.failures_eq (h : told.Retells s x) :
    x.failures = told.failures + UInt64.ofNat (Sink.refusals s told.world.sink.records) :=
  congrArg (fun y => y.1.lane.counters.publishFailures) h.state_eq

omit [Sink σ] in
theorem Isolated.decoded_eq (h : told.Isolated x) : x.decoded = told.decoded :=
  congrArg (fun p => p.lane.counters.probesDecoded) h.pipeline_eq

omit [Sink σ] in
theorem Isolated.published_eq (h : told.Isolated x) : x.published = told.published := by
  have hanswers := congrArg (List.countP Answer.isPublished) h.answers_eq
  have hsame : ∀ answer : Answer, answer.withoutFailures.isPublished = answer.isPublished := by
    rintro (_ | _ | _ | _) <;> rfl
  simpa only [published, List.countP_map, Function.comp_def, hsame] using hanswers

end

/-! ### A sink in memory that may be closed -/

/-- A call, or the end of the sink. -/
inductive Turn (β : Type) where
  | call (call : Call β)
  | close

/-- Take one turn. -/
def take (x : Course β MemorySink) : Turn β → Course β MemorySink
  | .call call => x.step call
  | .close => { x with world := x.world.withSink x.world.sink.close }

/-- Take turns in order. -/
def takeAll (x : Course β MemorySink) (turns : List (Turn β)) : Course β MemorySink :=
  turns.foldl take x

/-- Every probe that was read and every sample that was published left a record, beside the `kept`
ones of earlier, or was refused. -/
def Accounts (kept : Nat) (x : Course β MemorySink) : Prop :=
  UInt64.ofNat x.world.sink.records.length + x.failures =
    UInt64.ofNat kept + x.decoded + UInt64.ofNat x.published

theorem Accounts.step {kept : Nat} {x : Course β MemorySink} (h : x.Accounts kept)
    (call : Call β) : (x.step call).Accounts kept := by
  obtain ⟨hretells, hwrites⟩ := (retells_told x).run rfl [call]
  have hisolated : (x.told.run [call]).Isolated (x.step call) := hretells.isolated
  have hsink : (x.step call).world.sink = _ := hretells.sink_eq
  have hfailures : (x.step call).failures = _ := hretells.failures_eq
  have hnone : (x.told.run [call]).failures = x.failures := hwrites.failures_eq
  have hlength : UInt64.ofNat (x.told.run [call]).world.sink.records.length + x.decoded +
      UInt64.ofNat x.published = 0 + (x.told.run [call]).decoded + _ := hwrites.length_eq
  have hoffered := congrArg UInt64.ofNat (MemorySink.length_offerAll x.world.sink
    (x.told.run [call]).world.sink.records)
  rw [UInt64.ofNat_add, UInt64.ofNat_add] at hoffered
  rw [Accounts] at h ⊢
  rw [hfailures, hsink, hisolated.decoded_eq, hisolated.published_eq, hnone]
  grind

theorem Accounts.takeAll {kept : Nat} {x : Course β MemorySink} (h : x.Accounts kept)
    (turns : List (Turn β)) : (x.takeAll turns).Accounts kept := by
  induction turns generalizing x with
  | nil => exact h
  | cons turn turns ih =>
      cases turn with
      | call call => exact ih (h.step call)
      | close => exact ih h

/-- Refusals stay in their count. On any sink a new pipeline goes through the same course as on one
that keeps everything, up to that count, and offers it the same lines. The count is the number of
lines that were refused, for each choice of them, and the others are kept as they are. A sink in
memory that is closed at any time has, with the refused ones, a record for every probe that was read
and every sample that was published. -/
theorem run_isolated {context : UInt16} {settings : Settings} {source destination : Binding}
    {drainBurst : Nat} {now : UInt64} {p : Pipeline β}
    (hp : Pipeline.create context settings source destination drainBurst now = .ok p)
    (w : World β Unit) :
    (∀ calls : List (Call β),
      let told := (start p w ({} : MemorySink)).run calls
      told.failures = 0 ∧
      (∀ (σ : Type) [Sink σ] (s : σ),
        let x := (start p w s).run calls
        told.Isolated x ∧ x.world.sink = Sink.offerAll s told.world.sink.records ∧
          x.failures = UInt64.ofNat (Sink.refusals s told.world.sink.records)) ∧
      (∀ script : Nat → Option PublishError,
        let x := (start p w ({ script } : ScriptedSink)).run calls
        x.world.sink.offered = told.world.sink.records.length ∧
        x.failures = UInt64.ofNat
          ((List.range x.world.sink.offered).countP fun i => (script i).isSome) ∧
        x.world.sink.records = ScriptedSink.taken script 0 told.world.sink.records)) ∧
    (∀ (s : MemorySink) (turns : List (Turn β)),
      let x := (start p w s).takeAll turns
      UInt64.ofNat x.world.sink.records.length + x.failures =
        UInt64.ofNat s.records.length + x.decoded + UInt64.ofNat x.published) := by
  have hcounters := (Pipeline.create_fresh hp).lane_fresh.counters_eq
  refine ⟨?_, ?_⟩
  · intro calls told
    have hruns : ∀ (σ : Type) [Sink σ] (s : σ), told.Retells s ((start p w s).run calls) ∧
        (start p w ({} : MemorySink)).Writes told :=
      fun _ _ s => (retells_told (start p w s)).run rfl calls
    have hfailures : told.failures = 0 := by
      rw [(hruns MemorySink {}).2.failures_eq, failures, start, hcounters]
    refine ⟨hfailures, ?_, ?_⟩
    · intro σ _ s x
      have hretells := (hruns σ s).1
      refine ⟨hretells.isolated, hretells.sink_eq, ?_⟩
      rw [hretells.failures_eq, hfailures, UInt64.zero_add]
    · intro script x
      have hretells := (hruns ScriptedSink { script }).1
      have hsink := hretells.sink_eq.trans (ScriptedSink.offerAll_eq _ _)
      have hoffered : x.world.sink.offered = told.world.sink.records.length :=
        (congrArg ScriptedSink.offered hsink).trans (Nat.zero_add _)
      refine ⟨hoffered, ?_, ?_⟩
      · rw [hretells.failures_eq, hfailures, UInt64.zero_add, hoffered,
          ScriptedSink.refusals_eq, List.range_eq_range']
      · exact congrArg ScriptedSink.records hsink
  · intro s turns x
    refine Accounts.takeAll ?_ turns
    rw [Accounts, failures, decoded, start, hcounters]
    exact (UInt64.add_zero _).symm

/-- The statement at the default settings, between two new interfaces: whatever is called and
whichever records are refused, nothing else differs, and the other records are kept. -/
theorem run_isolated_twoPorts :
    ∃ p : Pipeline Buffer, Pipeline.create 1 {} { interface := 0, queues := .single 0 }
        { interface := 1, queues := .single 0 } 32 0 = .ok p ∧
      ∀ (calls : List (Call Buffer)) (script : Nat → Option PublishError),
        let told := (start p (Trail.probedPorts.withSink ()) ({} : MemorySink)).run calls
        let x := (start p (Trail.probedPorts.withSink ()) ({ script } : ScriptedSink)).run calls
        told.Isolated x ∧
          x.world.sink.records = ScriptedSink.taken script 0 told.world.sink.records := by
  obtain ⟨p, hp⟩ : ∃ p : Pipeline Buffer,
      Pipeline.create 1 {} { interface := 0, queues := .single 0 }
        { interface := 1, queues := .single 0 } 32 0 = .ok p := ⟨_, rfl⟩
  refine ⟨p, hp, ?_⟩
  intro calls script
  obtain ⟨_, hany, hscripted⟩ := (run_isolated hp (Trail.probedPorts.withSink ())).1 calls
  exact ⟨(hany ScriptedSink { script }).1, (hscripted script).2.2⟩

/-- Of a latency, a sample and another latency the sample is refused. -/
example :
    let probe : Buffer := .ofFrame (Probe.Stamps.frame ⟨⟨5, 7⟩, ⟨3, 1⟩, ⟨2, 4⟩⟩)
    let poll : List (Call Buffer) :=
      [.elsewhere fun w => (w.inject 0 0 [probe]).2, .receive, .drain]
    let script : Nat → Option PublishError := fun i => if i = 1 then some .wouldBlock else none
    (Pipeline.create 1 {} { interface := 0, queues := .single 0 }
        { interface := 1, queues := .single 0 } 32 0).toOption.map (fun p =>
      let x := (start p (Trail.probedPorts.withSink ()) ({ script } : ScriptedSink)).run
        (poll ++ [.publishSample] ++ poll)
      (x.failures, x.world.sink.records)) =
      some (1, ["Latency_stats(ctx-1),hop(0)=2024,hop(1)=988\n",
        "Latency_stats(ctx-1),hop(0)=2024,hop(1)=988\n"]) := by
  decide +kernel

end Course

end EtherRelay
