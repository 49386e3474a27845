import EtherRelay.Telemetry.Sink
import EtherRelay.Wire.Device
/-!
# Sinks over a byte stream

A stream sink writes each record to its writer and then flushes it, under a lock that nobody
waits for: a publish that finds the lock taken is refused at once. A writer may itself publish
to the sink that is writing to it, so a write is given the sink as it stands.
-/

namespace EtherRelay

/-- A writer that may publish to the sink above it from inside a write. The first argument of
`write` is that sink. -/
class RecordWriter (ω : Type) where
  write : (ω → Bytes → Except PublishError Unit × ω) → ω → Bytes → Except DeviceError Nat × ω
  flush : ω → Except DeviceError Unit × ω

namespace StreamSink

variable {ω : Type} [RecordWriter ω]

/-- Write until the whole record is taken or the writer fails. -/
def writeAll (sink : ω → Bytes → Except PublishError Unit × ω) (writer : ω) (bytes : Bytes) :
    Except PublishError Unit × ω :=
  match bytes with
  | [] => (.ok (), writer)
  | b :: rest =>
    match RecordWriter.write sink writer (b :: rest) with
    | (.error _, writer) => (.error .io, writer)
    | (.ok 0, writer) => (.error .io, writer)
    | (.ok (n + 1), writer) => writeAll sink writer (rest.drop n)
termination_by bytes.length
decreasing_by
  simp only [List.length_drop, List.length_cons]
  omega

/-- Publish a record through the writer. While the record is written the lock is taken, and
when the answer is there it is free again. -/
def publish (locked : Bool) (writer : ω) (record : Bytes) : Except PublishError Unit × ω :=
  if locked then (.error .wouldBlock, writer)
  else
    match writeAll (publish true) writer record with
    | (.error e, writer) => (.error e, writer)
    | (.ok (), writer) =>
      match RecordWriter.flush writer with
      | (.error _, writer) => (.error .io, writer)
      | (.ok (), writer) => (.ok (), writer)
termination_by if locked then 0 else 1
decreasing_by simp_all

end StreamSink

/-- A device that publishes a record of its own before each write, and keeps the answers. -/
structure ChattyDevice where
  device : BoundedDevice := {}
  /-- What it publishes, if anything. -/
  aside : Option Bytes := none
  answers : List (Except PublishError Unit) := []

namespace ChattyDevice

instance : RecordWriter ChattyDevice where
  write sink c bytes :=
    let c := match c.aside with
      | none => c
      | some record =>
        let (answer, c) := sink c record
        { c with answers := c.answers ++ [answer] }
    let (r, device) := c.device.write bytes
    (r, { c with device })
  flush c :=
    let (r, device) := c.device.flush
    (r, { c with device })

end ChattyDevice

/-- A stream sink over a writer, its lock free. -/
structure StreamSink (ω : Type) where
  writer : ω

namespace StreamSink

variable {ω : Type} [RecordWriter ω]

/-- Publish the bytes of a record. -/
def send (s : StreamSink ω) (record : Bytes) : Except PublishError Unit × StreamSink ω :=
  let (answer, writer) := publish false s.writer record
  (answer, ⟨writer⟩)

end StreamSink

instance {ω : Type} [RecordWriter ω] : Sink (StreamSink ω) where
  publish s record := s.send record.toUTF8.toList

end EtherRelay
