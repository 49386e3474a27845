import EtherRelay.Proofs.Telemetry.Retelling
import EtherRelay.Proofs.Wire.Budget
import EtherRelay.Telemetry.Stream

/-!
# Writers that publish to their own sink

A call to a writer may publish to the sink that made the call, any number of times, and go on
according to the answers. `WriteCall` is such a call as a tree: it ends with an answer, or it
publishes and goes on from there.

The sink is locked while it writes, so a publish from inside a call finds the lock taken. It is
refused, the writer is left as it was, and what remains of a `ReentrantWriter` is a device,
`Quiet`, that makes the same calls with every publish refused beforehand. `Follows` is the
simulation between the two. What a sink writes and what it answers are then facts about
the device, and about its budget in particular.
-/

namespace EtherRelay

/-! ## Fronts of a stream -/

section

variable {stream record part rest : Bytes} {k : Nat}

/-- A record that fits behind the front of a stream lies within this front. -/
theorem take_append_of_fits (h : (stream.take k ++ record).length ≤ k) :
    (stream ++ record).take k = stream.take k ++ record := by
  rw [List.length_append, List.length_take] at h
  rw [List.take_append]
  cases record with
  | nil => rw [List.take_nil]
  | cons b bytes =>
    rw [List.length_cons] at h
    have hrecord : (b :: bytes).length ≤ k - stream.length := by
      rw [List.length_cons]
      omega
    rw [List.take_of_length_le hrecord]

/-- Of a record that does not fit, the front of the stream holds just the part that does. -/
theorem take_append_of_full (h : (stream.take k ++ part).length = k) :
    (stream ++ (part ++ rest)).take k = stream.take k ++ part := by
  rw [List.length_append, List.length_take] at h
  rw [List.take_append]
  by_cases hlen : k ≤ stream.length
  · have hnil : part = [] := List.length_eq_zero_iff.mp (by omega)
    rw [hnil, Nat.sub_eq_zero_of_le hlen, List.take_zero]
  · have hlength : k - stream.length = part.length := by omega
    rw [hlength, List.take_left]

end

/-! ## Devices that take records -/

namespace Device

variable {δ : Type} [Device δ]

/-- Take a whole record and flush; without the flush if the record is not taken. -/
def deliver (device : δ) (record : Bytes) : Except DeviceError Unit × δ :=
  match Device.writeAll device record with
  | (.error e, _, device) => (.error e, device)
  | (.ok (), _, device) => Device.flush device

/-- Take records one after another, whatever happens to each. -/
def deliverAll (device : δ) (records : List Bytes) : δ :=
  records.foldl (fun device record => (deliver device record).2) device

theorem deliverAll_concat (device : δ) (records : List Bytes) (record : Bytes) :
    deliverAll device (records ++ [record]) = (deliver (deliverAll device records) record).2 :=
  List.foldl_append

namespace Budget

variable (B : Budget δ) {d : δ} {record : Bytes} {k : Nat}

/-- The device has the longest part of the record that its budget allows. The record is delivered
if that is all of it and the flush after the last byte succeeds. -/
theorem deliver_took {stream : Bytes} (h : B.Took d (stream.take k) (some k)) (record : Bytes) :
    B.Took (deliver d record).2 ((stream ++ record).take k) (some k) ∧
      ((deliver d record).1 = .ok () ↔
        (stream ++ record).take k = stream.take k ++ record ∧
          (Device.flush (Device.writeAll d record).2.2).1 = .ok ()) := by
  rcases B.writeAll_cases h record with
    ⟨d', hall, htook⟩ | ⟨e, part, rest, d', hall, rfl, hrest, hlimit, htook⟩
  · have hwhole := take_append_of_fits (B.length_le htook)
    have hdeliver : deliver d record = Device.flush d' := by rw [deliver, hall]
    rw [hdeliver, hall, hwhole]
    exact ⟨B.flush htook, (and_iff_right rfl).symm⟩
  · have hpart : (stream ++ (part ++ rest)).take k = stream.take k ++ part :=
      take_append_of_full (Option.some.inj hlimit).symm
    have hdeliver : deliver d (part ++ rest) = (.error e, d') := by rw [deliver, hall]
    rw [hdeliver, hpart]
    refine ⟨htook, ?_⟩
    constructor
    · rintro ⟨⟩
    · rintro ⟨hwhole, -⟩
      have hall : part = part ++ rest := List.append_cancel_left hwhole
      rw [List.self_eq_append_right] at hall
      exact absurd hall hrest

/-- After any records, the device has the longest part of all of them together that its budget
allows. -/
theorem deliverAll_took (h : B.Took d [] (some k)) (records : List Bytes) :
    B.Took (deliverAll d records) (records.flatten.take k) (some k) := by
  induction records using List.reverseRecOn with
  | nil => rwa [List.flatten_nil, List.take_nil]
  | append_singleton records record ih =>
    rw [deliverAll_concat, List.flatten_append, List.flatten_singleton]
    exact (B.deliver_took ih record).1

end Budget

end Device

/-! ## Sinks that follow a device -/

namespace StreamSink

variable {ω δ : Type} [RecordWriter ω] [Device δ]

/-- The answer of a sink to a record that its writer took or failed at. -/
def answerOf : Except DeviceError Unit → Except PublishError Unit :=
  Except.mapError fun _ => .io

theorem answerOf_eq_ok {r : Except DeviceError Unit} : answerOf r = .ok () ↔ r = .ok () := by
  cases r with
  | ok => exact ⟨fun _ => rfl, fun _ => rfl⟩
  | error => constructor <;> rintro ⟨⟩

theorem answerOf_cases (r : Except DeviceError Unit) :
    answerOf r = .ok () ∨ answerOf r = .error .io := by
  cases r with
  | ok => exact .inl rfl
  | error => exact .inr rfl

/-- A sink whose lock is taken. -/
def locked (writer : ω) (_ : Bytes) : Except PublishError Unit × ω := (.error .wouldBlock, writer)

theorem publish_true : publish true = locked (ω := ω) := by
  funext writer record
  rw [publish, if_pos rfl, locked]

/-- A writer below a locked sink does what a device does. -/
structure Follows (R : ω → δ → Prop) : Prop where
  write : ∀ {w : ω} {d : δ}, R w d → ∀ bytes,
    (RecordWriter.write locked w bytes).1 = (Device.write d bytes).1 ∧
      R (RecordWriter.write locked w bytes).2 (Device.write d bytes).2
  flush : ∀ {w : ω} {d : δ}, R w d →
    (RecordWriter.flush w).1 = (Device.flush d).1 ∧ R (RecordWriter.flush w).2 (Device.flush d).2

namespace Follows

variable {R : ω → δ → Prop} {w : ω} {d : δ}

theorem writeAll (F : Follows R) (h : R w d) (bytes : Bytes) :
    (StreamSink.writeAll locked w bytes).1 = answerOf (Device.writeAll d bytes).1 ∧
      R (StreamSink.writeAll locked w bytes).2 (Device.writeAll d bytes).2.2 := by
  induction hn : bytes.length using Nat.strongRecOn generalizing bytes w d with
  | ind n ih =>
    cases bytes with
    | nil =>
      rw [StreamSink.writeAll, Device.writeAll]
      exact ⟨rfl, h⟩
    | cons b rest =>
      obtain ⟨hanswer, hafter⟩ := F.write h (b :: rest)
      rw [StreamSink.writeAll, Device.writeAll]
      -- Both loops look at the same answer, so they end together or offer the same rest.
      rcases hw : RecordWriter.write locked w (b :: rest) with ⟨answer, w'⟩
      rcases hd : Device.write d (b :: rest) with ⟨taken, d'⟩
      rw [hw, hd] at hanswer hafter
      obtain rfl : answer = taken := hanswer
      cases answer with
      | error e => exact ⟨rfl, hafter⟩
      | ok m =>
        cases m with
        | zero => exact ⟨rfl, hafter⟩
        | succ m =>
          have hshorter : (rest.drop m).length < n := by
            rw [← hn, List.length_drop, List.length_cons]
            omega
          exact ih _ hshorter hafter (rest.drop m) rfl

/-- A publish with the lock free is a delivery to the device that the writer follows. -/
theorem publish (F : Follows R) (h : R w d) (record : Bytes) :
    (StreamSink.publish false w record).1 = answerOf (Device.deliver d record).1 ∧
      R (StreamSink.publish false w record).2 (Device.deliver d record).2 := by
  obtain ⟨hanswer, hafter⟩ := F.writeAll h record
  rw [StreamSink.publish, if_neg Bool.false_ne_true, publish_true, Device.deliver]
  rcases hw : StreamSink.writeAll locked w record with ⟨answer, w'⟩
  rcases hd : Device.writeAll d record with ⟨taken, rest, d'⟩
  rw [hw, hd] at hanswer hafter
  obtain rfl : answer = answerOf taken := hanswer
  cases taken with
  | error e => exact ⟨rfl, hafter⟩
  | ok =>
    obtain ⟨hflush, hflushed⟩ := F.flush hafter
    dsimp only [answerOf, Except.mapError]
    rcases hw' : RecordWriter.flush w' with ⟨answer, w''⟩
    rcases hd' : Device.flush d' with ⟨flushed, d''⟩
    rw [hw', hd'] at hflush hflushed
    obtain rfl : answer = flushed := hflush
    cases answer with
    | error e => exact ⟨rfl, hflushed⟩
    | ok => exact ⟨rfl, hflushed⟩

end Follows

end StreamSink

/-- The bytes of a record. -/
def Sink.bytes (record : String) : Bytes := record.toUTF8.toList

namespace StreamSink.Follows

variable {ω δ : Type} [RecordWriter ω] [Device δ] {R : ω → δ → Prop} {w : ω} {d : δ}

theorem offer (F : Follows R) (h : R w d) (record : String) :
    (Sink.publish (⟨w⟩ : StreamSink ω) record).1 =
        answerOf (Device.deliver d (Sink.bytes record)).1 ∧
      R (Sink.publish (⟨w⟩ : StreamSink ω) record).2.writer
        (Device.deliver d (Sink.bytes record)).2 :=
  F.publish h (Sink.bytes record)

theorem offerAll (F : Follows R) (h : R w d) (records : List String) :
    R (Sink.offerAll (⟨w⟩ : StreamSink ω) records).writer
      (Device.deliverAll d (records.map Sink.bytes)) := by
  induction records using List.reverseRecOn with
  | nil => exact h
  | append_singleton records record ih =>
    rw [Sink.offerAll_concat, List.map_append, List.map_singleton, Device.deliverAll_concat]
    exact (F.offer ih record).2

end StreamSink.Follows

/-! ## Writers that publish from inside a write -/

/-- What a writer does in one call of `write`: it comes to its answer, or it stands at `before`
and publishes a record, and goes on by the answer and by the state in which it finds itself. -/
inductive WriteCall (ω : Type) where
  | answer (taken : Except DeviceError Nat) (after : ω)
  | publish (before : ω) (record : Bytes) (next : Except PublishError Unit → ω → WriteCall ω)

/-- A writer, given by its calls. -/
class ReentrantWriter (ω : Type) where
  write : ω → Bytes → WriteCall ω
  flush : ω → Except DeviceError Unit × ω

/-- A writer below a sink, with the answers that its own publishes were given so far. -/
structure Overheard (ω : Type) where
  writer : ω
  answers : List (Except PublishError Unit) := []

/-- A writer that does not publish, and goes on as if each publish were refused. -/
structure Quiet (ω : Type) where
  writer : ω

namespace WriteCall

variable {ω : Type}

/-- Make the call below a sink. -/
def perform (sink : Overheard ω → Bytes → Except PublishError Unit × Overheard ω) :
    WriteCall ω → List (Except PublishError Unit) → Except DeviceError Nat × Overheard ω
  | answer taken after, answers => (taken, { writer := after, answers })
  | publish before record next, answers =>
    let (reply, w) := sink { writer := before, answers } record
    perform sink (next reply w.writer) (w.answers ++ [reply])

/-- Make the call without a sink. -/
def refused : WriteCall ω → Except DeviceError Nat × Quiet ω
  | answer taken after => (taken, { writer := after })
  | publish before _ next => refused (next (.error .wouldBlock) before)

end WriteCall

section

variable {ω : Type} [ReentrantWriter ω]

instance : RecordWriter (Overheard ω) where
  write sink w bytes := (ReentrantWriter.write w.writer bytes).perform sink w.answers
  flush w :=
    let (answer, writer) := ReentrantWriter.flush w.writer
    (answer, { w with writer })

instance : Device (Quiet ω) where
  write w bytes := (ReentrantWriter.write w.writer bytes).refused
  flush w :=
    let (answer, writer) := ReentrantWriter.flush w.writer
    (answer, { writer })

end

namespace Overheard

variable {ω : Type}

/-- The writer is where the quiet one is, and all that it ever published was refused. -/
def AllRefused (w : Overheard ω) (d : Quiet ω) : Prop :=
  w.writer = d.writer ∧ ∀ answer ∈ w.answers, answer = .error .wouldBlock

/-- Below a locked sink a call ends as it does without a sink, and adds refusals alone. -/
theorem perform_locked (call : WriteCall ω) {answers : List (Except PublishError Unit)}
    (h : ∀ answer ∈ answers, answer = .error .wouldBlock) :
    (call.perform StreamSink.locked answers).1 = call.refused.1 ∧
      AllRefused (call.perform StreamSink.locked answers).2 call.refused.2 := by
  induction call generalizing answers with
  | answer taken after => exact ⟨rfl, rfl, h⟩
  | publish before record next ih =>
    apply ih (.error .wouldBlock) before
    intro answer hanswer
    rcases List.mem_append.mp hanswer with hold | hnew
    · exact h answer hold
    · exact List.mem_singleton.mp hnew

variable [ReentrantWriter ω]

/-- Whatever it publishes, a writer below its sink is the quiet one. -/
theorem follows_quiet : StreamSink.Follows (AllRefused (ω := ω)) where
  write := by
    rintro ⟨writer, answers⟩ ⟨_⟩ ⟨rfl, hanswers⟩ bytes
    exact perform_locked (ReentrantWriter.write writer bytes) hanswers
  flush := by
    rintro ⟨writer, answers⟩ ⟨_⟩ ⟨rfl, hanswers⟩
    exact ⟨rfl, rfl, hanswers⟩

/-- A sink above a writer that was told nothing yet. -/
def sink (w : ω) : StreamSink (Overheard ω) := { writer := { writer := w } }

/-- The quiet writer inside. -/
def quiet (w : Overheard ω) : Quiet ω := { writer := w.writer }

end Overheard

namespace Quiet

variable {ω : Type} [ReentrantWriter ω]

instance : RecordWriter (Quiet ω) where
  write _ := Device.write
  flush := Device.flush

/-- A sink above a writer that does not publish. -/
def sink (w : ω) : StreamSink (Quiet ω) := { writer := { writer := w } }

theorem follows_self : StreamSink.Follows (ω := Quiet ω) (Eq : Quiet ω → Quiet ω → Prop) where
  write := by
    rintro w _ rfl bytes
    exact ⟨rfl, rfl⟩
  flush := by
    rintro w _ rfl
    exact ⟨rfl, rfl⟩

end Quiet

namespace Overheard

variable {ω : Type} [ReentrantWriter ω] {w : ω} {k : Nat}

/-- The sink above a writer that takes `k` bytes in all, at the next record after any others.

The writer has the first `k` bytes of all records so far, in their order. The record is accepted
if the writer has all of it and the flush after its last byte succeeds, and fails otherwise. All
that the writer published from inside its calls was refused, and a writer that makes the same
calls without publishing is in the same state, with the same answers. The budget is asked for only
as far as those publishes are refused. -/
theorem publish_within_budget (B : Device.Budget (Quiet ω)) (h : B.Took ⟨w⟩ [] (some k))
    (earlier : List String) (record : String) :
    let before := Sink.offerAll (sink w) earlier
    let after := Sink.publish before record
    let stream := (earlier.map Sink.bytes).flatten
    B.Took before.writer.quiet (stream.take k) (some k) ∧
      B.Took after.2.writer.quiet ((stream ++ Sink.bytes record).take k) (some k) ∧
      (after.1 = .ok () ↔
        (stream ++ Sink.bytes record).take k = stream.take k ++ Sink.bytes record ∧
          (Device.flush
            (Device.writeAll before.writer.quiet (Sink.bytes record)).2.2).1 = .ok ()) ∧
      (after.1 = .ok () ∨ after.1 = .error .io) ∧
      (∀ answer ∈ after.2.writer.answers, answer = .error .wouldBlock) ∧
      after.1 = (Sink.publish (Sink.offerAll (Quiet.sink w) earlier) record).1 ∧
      after.2.writer.quiet =
        (Sink.publish (Sink.offerAll (Quiet.sink w) earlier) record).2.writer := by
  intro before after stream
  -- The writer and the one that does not publish follow one device, from record to record.
  have hstart : AllRefused { writer := w } (⟨w⟩ : Quiet ω) :=
    ⟨rfl, fun _ hanswer => absurd hanswer List.not_mem_nil⟩
  have hbefore := follows_quiet.offerAll hstart earlier
  have hquiet : (Sink.offerAll (Quiet.sink w) earlier).writer =
      Device.deliverAll ⟨w⟩ (earlier.map Sink.bytes) := Quiet.follows_self.offerAll rfl earlier
  obtain ⟨hanswer, hafter⟩ := follows_quiet.offer hbefore record
  obtain ⟨hquietAnswer, hquietAfter⟩ := Quiet.follows_self.offer hquiet record
  have hstands : before.writer.quiet = Device.deliverAll ⟨w⟩ (earlier.map Sink.bytes) :=
    congrArg Quiet.mk hbefore.1
  have htook := B.deliverAll_took h (earlier.map Sink.bytes)
  rw [← hstands] at htook hanswer hafter hquietAnswer hquietAfter
  obtain ⟨hdelivered, hok⟩ := B.deliver_took htook (Sink.bytes record)
  have hended : after.2.writer.quiet =
      (Device.deliver before.writer.quiet (Sink.bytes record)).2 := congrArg Quiet.mk hafter.1
  refine ⟨htook, ?_, ?_, ?_, hafter.2, ?_, ?_⟩
  · rwa [hended]
  · exact (iff_of_eq (congrArg (· = _) hanswer)).trans (StreamSink.answerOf_eq_ok.trans hok)
  · rw [show after.1 = _ from hanswer]
    exact StreamSink.answerOf_cases _
  · exact hanswer.trans hquietAnswer.symm
  · exact hended.trans hquietAfter.symm

end Overheard

namespace ChattyDevice

/-- Take bytes, with nothing left to publish before. -/
def take (c : ChattyDevice) (bytes : Bytes) : WriteCall ChattyDevice :=
  let (taken, device) := c.device.write bytes
  .answer taken { c with device }

instance : ReentrantWriter ChattyDevice where
  write c bytes :=
    match c.aside with
    | none => c.take bytes
    | some record =>
      .publish c record fun answer c => { c with answers := c.answers ++ [answer] }.take bytes
  flush := RecordWriter.flush

/-- The calls of a chatty device are what it does below a sink. -/
theorem write_eq_perform (sink : ChattyDevice → Bytes → Except PublishError Unit × ChattyDevice)
    (c : ChattyDevice) (bytes : Bytes) (answers : List (Except PublishError Unit)) :
    let call := (ReentrantWriter.write c bytes).perform
      (fun w record => ((sink w.writer record).1, { w with writer := (sink w.writer record).2 }))
      answers
    RecordWriter.write sink c bytes = (call.1, call.2.writer) := by
  obtain ⟨device, aside, own⟩ := c
  cases aside with
  | none => rfl
  | some record => rfl

/-- What a quiet chatty device takes is what the device inside takes. -/
theorem quiet_write (c : Quiet ChattyDevice) (bytes : Bytes) :
    (Device.write c bytes).1 = (Device.write c.writer.device bytes).1 ∧
      (Device.write c bytes).2.writer.device = (Device.write c.writer.device bytes).2 := by
  obtain ⟨⟨device, aside, own⟩⟩ := c
  cases aside with
  | none => exact ⟨rfl, rfl⟩
  | some record => exact ⟨rfl, rfl⟩

/-- The budget of a chatty device is the one of the device inside. -/
def budget (failFlush : Bool) : Device.Budget (Quiet ChattyDevice) :=
  (BoundedDevice.budget failFlush).comap (·.writer.device) quiet_write fun _ => rfl

end ChattyDevice

namespace Overheard

/-- A chatty device for five bytes, in portions of two and one at first, that publishes before each
write: the second of two records of three bytes fails. -/
theorem publish_within_budget_chatty :
    let chatty : ChattyDevice :=
      { device := { room := some 5, portions := [2, 1] }, aside := some [120] }
    let after := Sink.publish (Sink.offerAll (sink chatty) ["abc"]) "def"
    after.1 = .error .io ∧ after.2.writer.writer.device.content = [97, 98, 99, 100, 101] ∧
      ∀ answer ∈ after.2.writer.answers, answer = .error .wouldBlock := by
  intro chatty after
  have hstart : (ChattyDevice.budget false).Took ⟨chatty⟩ [] (some 5) := ⟨rfl, rfl, rfl, rfl⟩
  obtain ⟨-, htook, hok, hanswer, hrefused, -⟩ :=
    publish_within_budget (ChattyDevice.budget false) hstart ["abc"] "def"
  have habc : Sink.bytes "abc" = [97, 98, 99] := by decide +kernel
  have hdef : Sink.bytes "def" = [100, 101, 102] := by decide +kernel
  rw [List.map_singleton, List.flatten_singleton, habc, hdef] at hok htook
  refine ⟨?_, htook.2.2.1, hrefused⟩
  -- Six bytes do not fit, so the record is not taken as a whole.
  apply hanswer.resolve_left
  intro haccepted
  exact absurd (hok.mp haccepted).1 (by decide)

end Overheard

end EtherRelay
