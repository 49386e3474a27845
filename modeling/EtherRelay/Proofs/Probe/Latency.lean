import EtherRelay.Proofs.Probe.Acceptance
import EtherRelay.Telemetry.Record
import EtherRelay.Telemetry.Sink
import Mathlib.Data.Int.ModEq

/-!
# The lines of latency records

The line for a probe follows from the bytes behind its header: each of the two latencies is the
exact difference of two neighbouring hops in nanoseconds, modulo `2 ^ 64`. A sink that keeps
everything finds these lines again by their measurement, and no line of a sample among them.
-/

namespace EtherRelay

namespace Probe

/-- The nanoseconds from one hop to the hop in front of it, as the bytes of a frame show them. -/
def latencyAt (frame : Bytes) (hop : Nat) : Nat :=
  (Hop.elapsedNs (hopAt frame hop) (hopAt frame (hop + 1)) % 2 ^ 64).toNat

/-- The line for the latencies that a frame shows. -/
def latencyLine (context : UInt16) (frame : Bytes) : String :=
  s!"Latency_stats(ctx-{context.toNat}),hop(0)={latencyAt frame 0},hop(1)={latencyAt frame 1}\n"

/-- The difference of two words, up to a multiple of `2 ^ 64`. -/
theorem toNat_sub_modEq (a b : UInt64) : ((a - b).toNat : ℤ) ≡ a.toNat - b.toNat [ZMOD 2 ^ 64] := by
  have ha := a.toNat_lt
  have hb := b.toNat_lt
  rw [UInt64.toNat_sub, Int.ModEq]
  omega

/-- Words are subtracted, scaled and added as the exact values are, modulo `2 ^ 64`. -/
theorem Hop.toNat_latencyNs (newer older : Hop) :
    (Hop.latencyNs newer older).toNat = (Hop.elapsedNs newer older % 2 ^ 64).toNat := by
  have hsync := (toNat_sub_modEq newer.sync older.sync).mul_right syncPeriodNs
  have htick := (toNat_sub_modEq newer.tick older.tick).mul_right tickPeriodNs
  have hsum := hsync.add htick
  have hscale : (UInt64.ofNat syncPeriodNs).toNat = syncPeriodNs := by decide
  have hscale' : (UInt64.ofNat tickPeriodNs).toNat = tickPeriodNs := by decide
  rw [latencyNs, UInt64.toNat_add, UInt64.toNat_mul, UInt64.toNat_mul, ← Nat.add_mod, hscale,
    hscale', elapsedNs, ← hsum]
  norm_cast

theorem toString_string (text : String) : toString text = text := rfl

theorem latencyAt_eq (frame : Bytes) (hop : Nat) :
    latencyAt frame hop = (Hop.latencyNs (hopAt frame hop) (hopAt frame (hop + 1))).toNat :=
  (Hop.toNat_latencyNs _ _).symm

/-- The record for a probe has the line that its bytes call for. -/
theorem line_of_decode {frame : Bytes} {stamps : Stamps} (h : Stamps.decode frame = .ok stamps)
    (context : UInt16) : (stamps.latency.record context).line = latencyLine context frame := by
  have hstamps := (((decode_classified frame).ok_iff stamps).mp h).2.2
  unfold latencyLine
  rw [hstamps, latencyAt_eq, latencyAt_eq]
  unfold Latency.record Record.line contextTag
  apply String.toList_inj.mp
  simp only [toString_string]
  simp [latencyMeasurement, String.join, Stamps.latency]

end Probe

/-! ## Records by measurement -/

/-- A line starts with its measurement and a parenthesis. -/
theorem Record.line_eq_append (r : Record) :
    ∃ rest, r.line.toList = (r.measurement ++ "(").toList ++ rest := by
  refine ⟨(r.tag ++ (")" ++ (String.join (r.fields.map fun e => "," ++ e.1 ++ "=" ++ e.2) ++
    "\n"))).toList, ?_⟩
  rw [← String.toList_append, ← String.append_assoc, ← String.append_assoc, ← String.append_assoc]
  rfl

namespace MemorySink

variable {s : MemorySink} {r : Record} {measurement : String}

/-- A record of the measurement comes last. -/
theorem recordsFor_publish (h : s.closed = false) (hr : r.measurement = measurement) :
    (s.publish r.line).2.recordsFor measurement = s.recordsFor measurement ++ [r.line] := by
  obtain ⟨rest, hline⟩ := r.line_eq_append
  have hfound : (measurement ++ "(").toList.isPrefixOf r.line.toList = true := by
    rw [hline, hr, List.isPrefixOf_iff_prefix]
    exact List.prefix_append _ _
  rw [publish, h, if_neg Bool.false_ne_true, recordsFor, List.filter_append,
    List.filter_cons, hfound, if_pos rfl, List.filter_nil, recordsFor]

/-- A sample is not mistaken for a latency. -/
theorem recordsFor_publish_stats (h : s.closed = false) (hr : r.measurement = statsMeasurement) :
    (s.publish r.line).2.recordsFor latencyMeasurement = s.recordsFor latencyMeasurement := by
  obtain ⟨rest, hline⟩ := r.line_eq_append
  have hfound : (latencyMeasurement ++ "(").toList.isPrefixOf r.line.toList = false := by
    rw [hline, hr]
    simp [latencyMeasurement, statsMeasurement, List.isPrefixOf]
  rw [publish, h, if_neg Bool.false_ne_true, recordsFor, List.filter_append,
    List.filter_cons, hfound, if_neg Bool.false_ne_true, List.filter_nil, List.append_nil,
    recordsFor]

end MemorySink

end EtherRelay
