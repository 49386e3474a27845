/-!
# Telemetry sinks

A sink takes records or refuses them; nobody retries or waits. The relay works with any
instance of `Sink`. `MemorySink` keeps what it takes until it is closed.
-/

namespace EtherRelay

/-- Why a record was not taken. -/
inductive PublishError where
  | wouldBlock
  | closed
  | io
  deriving Repr, DecidableEq

/-- The text shown for a refusal. -/
def PublishError.message : PublishError → String
  | .wouldBlock => "the sink is not ready to accept records"
  | .closed => "the sink has been closed"
  | .io => "failed to write to the sink"

/-- A place for the lines of records. -/
class Sink (σ : Type) where
  publish : σ → String → Except PublishError Unit × σ

/-- Keeps every record. -/
structure MemorySink where
  records : List String := []
  closed : Bool := false
  deriving Repr, DecidableEq

namespace MemorySink

/-- Keep a record, unless the sink is closed. -/
def publish (s : MemorySink) (record : String) : Except PublishError Unit × MemorySink :=
  if s.closed then (.error .closed, s)
  else (.ok (), { s with records := s.records ++ [record] })

/-- Refuse every later record. -/
def close (s : MemorySink) : MemorySink := { s with closed := true }

/-- The records of one measurement. -/
def recordsFor (s : MemorySink) (measurement : String) : List String :=
  s.records.filter fun record => (measurement ++ "(").toList.isPrefixOf record.toList

instance : Sink MemorySink where
  publish := publish

end MemorySink

/-- Takes every record and keeps none. -/
structure NullSink where
  deriving Repr, DecidableEq

instance : Sink NullSink where
  publish s _ := (.ok (), s)

end EtherRelay
