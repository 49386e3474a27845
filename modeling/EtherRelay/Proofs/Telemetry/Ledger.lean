import EtherRelay.Proofs.Context.Mirrors
import EtherRelay.Proofs.Telemetry.Tags
import EtherRelay.Telemetry.Datagram

/-!
# Sinks that treat all records alike

A sink may answer every record in the same way and keep all of them or none. Then no context
notices what others offer it: neither the answers nor the kept latency records of one context depend
on the records of another one.
-/

namespace EtherRelay

variable {σ : Type} [Sink σ]

/-- How a sink that treats all records alike answers, and what it kept. -/
structure Sink.Ledger (σ : Type) [Sink σ] where
  answer : σ → Except PublishError Unit
  keeps : σ → Bool
  records : σ → List String
  publish_answer : ∀ s line, (Sink.publish s line).1 = answer s
  answer_publish : ∀ s line, answer (Sink.publish s line).2 = answer s
  keeps_publish : ∀ s line, keeps (Sink.publish s line).2 = keeps s
  records_publish : ∀ s line,
    records (Sink.publish s line).2 = if keeps s then records s ++ [line] else records s

/-- A sink in memory refuses everything once it is closed. -/
def MemorySink.ledger : Sink.Ledger MemorySink where
  answer s := if s.closed then .error .closed else .ok ()
  keeps s := !s.closed
  records := MemorySink.records
  publish_answer s line := by
    simp only [Sink.publish, MemorySink.publish]
    split <;> rfl
  answer_publish s line := by
    simp only [Sink.publish, MemorySink.publish]
    split <;> rfl
  keeps_publish s line := by
    simp only [Sink.publish, MemorySink.publish]
    split <;> rfl
  records_publish s line := by
    cases hclosed : s.closed <;> simp [Sink.publish, MemorySink.publish, hclosed]

def NullSink.ledger : Sink.Ledger NullSink where
  answer _ := .ok ()
  keeps _ := false
  records _ := []
  publish_answer _ _ := rfl
  answer_publish _ _ := rfl
  keeps_publish _ _ := rfl
  records_publish _ _ := rfl

/-- The network carries all datagrams or none. What left is not looked at again. -/
def DatagramSink.ledger : Sink.Ledger DatagramSink where
  answer s := if s.routed then .ok () else .error .io
  keeps _ := false
  records _ := []
  publish_answer s line := by
    simp only [Sink.publish, DatagramSink.publish]
    split <;> rfl
  answer_publish s line := by
    simp only [Sink.publish, DatagramSink.publish]
    split <;> rfl
  keeps_publish _ _ := rfl
  records_publish _ _ := rfl

/-- Any sinks look alike to a context whose refused records are not counted. -/
def Outlook.anySink (σ : Type) [Sink σ] (context : UInt16) (reaches : Nat → Prop) : Outlook σ where
  context := context
  Counts k := k ≠ .publishFailures
  Reaches := reaches
  Agree _ _ := True
  agree_refl _ := trivial
  agree_latency _ _ := trivial
  agree_sample _ _ _ := trivial
  answer_eq h := absurd rfl h
  agree_offered _ _ _ := trivial

namespace Sink.Ledger

variable (l : Sink.Ledger σ) (context : UInt16) {s s' : σ}

/-- Two sinks that one context does not tell apart. -/
structure Agree (s s' : σ) : Prop where
  answer_eq : l.answer s' = l.answer s
  keeps_eq : l.keeps s' = l.keeps s
  latencies_eq : latenciesOf context (l.records s') = latenciesOf context (l.records s)

variable {l context}

/-- Both sinks are offered a record, and keep it alike if it is a latency of the context. -/
theorem Agree.publish (h : l.Agree context s s') {line line' : String}
    (hline : latenciesOf context [line'] = latenciesOf context [line]) :
    l.Agree context (Sink.publish s line).2 (Sink.publish s' line').2 where
  answer_eq := by rw [l.answer_publish, l.answer_publish, h.answer_eq]
  keeps_eq := by rw [l.keeps_publish, l.keeps_publish, h.keeps_eq]
  latencies_eq := by
    rw [l.records_publish, l.records_publish, h.keeps_eq]
    split
    · rw [latenciesOf_append, latenciesOf_append, hline, h.latencies_eq]
    · exact h.latencies_eq

/-- The first sink is offered a record that is not a latency of the context. -/
theorem Agree.publishOther (h : l.Agree context s s') {line : String}
    (hline : latenciesOf context [line] = []) : l.Agree context (Sink.publish s line).2 s' where
  answer_eq := by rw [l.answer_publish, h.answer_eq]
  keeps_eq := by rw [l.keeps_publish, h.keeps_eq]
  latencies_eq := by
    rw [l.records_publish]
    split
    · rw [latenciesOf_append, hline, List.append_nil, h.latencies_eq]
    · exact h.latencies_eq

theorem latenciesOf_sample (owner : UInt16) (sample : Sample) :
    latenciesOf context [(sample.record owner).line] = [] := by
  rw [latenciesOf, List.filter_cons_of_neg (by rw [isLatencyOf_sample]; decide), List.filter_nil]

theorem latenciesOf_latency {owner : UInt16} (h : owner ≠ context) (latency : Probe.Latency) :
    latenciesOf context [(latency.record owner).line] = [] := by
  rw [latenciesOf, List.filter_cons_of_neg (mt (isLatencyOf_latency context owner latency).mp h),
    List.filter_nil]

theorem Agree.offered (h : l.Agree context s s') {owner : UInt16} {s₁ : σ}
    (howner : owner ≠ context) (hoffered : Sink.Offered owner s s₁) : l.Agree context s₁ s' := by
  induction hoffered with
  | none => exact h
  | latency _ latency ih => exact ih.publishOther (latenciesOf_latency howner latency)
  | sample _ sample ih => exact ih.publishOther (latenciesOf_sample owner sample)

variable (l context)

/-- A context sees the answers of the sink and its own latency records. -/
def outlook (reaches : Nat → Prop) : Outlook σ where
  context := context
  Counts _ := True
  Reaches := reaches
  Agree := l.Agree context
  agree_refl _ := ⟨rfl, rfl, rfl⟩
  agree_latency _ h := h.publish rfl
  agree_sample sample sample' h :=
    h.publish ((latenciesOf_sample _ sample').trans (latenciesOf_sample _ sample).symm)
  answer_eq _ _ _ line line' h := by rw [l.publish_answer, l.publish_answer, h.answer_eq]
  agree_offered howner hoffered h := h.offered howner hoffered

end Sink.Ledger

end EtherRelay
