import EtherRelay.Proofs.Probe.Latency

/-!
# Latency records by context

A latency record begins with its measurement and the tag of its context. The tag holds the whole id
of the context and ends with a parenthesis, so no record is mistaken for one of another context,
and no sample for a latency.
-/

namespace EtherRelay

/-- How the latency records of a context begin. -/
def latencyHeading (context : UInt16) : List Char :=
  (latencyMeasurement ++ "(" ++ contextTag context ++ ")").toList

/-- Whether a line is a latency record of this context. -/
def isLatencyOf (context : UInt16) (line : String) : Bool :=
  (latencyHeading context).isPrefixOf line.toList

/-- The latency records of one context, among records of all kinds. -/
def latenciesOf (context : UInt16) (records : List String) : List String :=
  records.filter (isLatencyOf context)

theorem latenciesOf_append (context : UInt16) (records records' : List String) :
    latenciesOf context (records ++ records') =
      latenciesOf context records ++ latenciesOf context records' :=
  List.filter_append _ _

/-- What stands in front of a mark is the same if one list begins like the other. -/
theorem eq_of_prefix_append_cons {α : Type} {mark : α} {xs ys rest : List α} (hx : mark ∉ xs)
    (hy : mark ∉ ys) (h : xs ++ [mark] <+: ys ++ mark :: rest) : xs = ys := by
  induction xs generalizing ys with
  | nil =>
      cases ys with
      | nil => rfl
      | cons y ys => exact absurd (List.cons_prefix_cons.mp h).1 (List.ne_of_not_mem_cons hy)
  | cons x xs ih =>
      cases ys with
      | nil => exact absurd (List.cons_prefix_cons.mp h).1.symm (List.ne_of_not_mem_cons hx)
      | cons y ys =>
          obtain ⟨rfl, htail⟩ := List.cons_prefix_cons.mp h
          rw [ih (List.not_mem_of_not_mem_cons hx) (List.not_mem_of_not_mem_cons hy) htail]

/-- The decimal digits of an id. -/
def idDigits (context : UInt16) : List Char := Nat.toDigits 10 context.toNat

theorem not_mem_idDigits (context : UInt16) : ')' ∉ idDigits context := by
  intro hmem
  exact absurd (Nat.isDigit_of_mem_toDigits (by decide) (by decide) hmem) (by decide)

theorem toDigits_ten_injective : Function.Injective (Nat.toDigits 10) := by
  intro m n h
  have hvalue := congrArg (fun digits => Nat.ofDigitChars 10 digits 0) h
  simpa only [Nat.ofDigitChars_ten_toDigits] using hvalue

theorem idDigits_injective : Function.Injective idDigits := by
  intro m n h
  exact UInt16.toNat_inj.mp (toDigits_ten_injective h)

theorem latencyHeading_eq (context : UInt16) :
    latencyHeading context = "Latency_stats(ctx-".toList ++ (idDigits context ++ [')']) := by
  simp [latencyHeading, latencyMeasurement, contextTag, idDigits, Probe.toString_string]

/-- The heading of a latency record names its own context and no other one. -/
theorem latencyHeading_prefix_iff (context owner : UInt16) (rest : List Char) :
    latencyHeading context <+: latencyHeading owner ++ rest ↔ owner = context := by
  constructor
  · intro h
    rw [latencyHeading_eq, latencyHeading_eq, List.append_assoc, List.prefix_append_right_inj,
      List.append_assoc] at h
    exact idDigits_injective
      (eq_of_prefix_append_cons (not_mem_idDigits _) (not_mem_idDigits _) h).symm
  · rintro rfl
    exact List.prefix_append _ _

/-- A line begins with its measurement and its tag. -/
theorem Record.line_eq_heading_append (r : Record) :
    ∃ rest, r.line.toList = (r.measurement ++ "(" ++ r.tag ++ ")").toList ++ rest := by
  refine ⟨(String.join (r.fields.map fun e => "," ++ e.1 ++ "=" ++ e.2) ++ "\n").toList, ?_⟩
  rw [← String.toList_append, ← String.append_assoc]
  rfl

theorem isLatencyOf_latency (context owner : UInt16) (latency : Probe.Latency) :
    isLatencyOf context (latency.record owner).line = true ↔ owner = context := by
  obtain ⟨rest, hline⟩ := (latency.record owner).line_eq_heading_append
  rw [isLatencyOf, List.isPrefixOf_iff_prefix, hline]
  exact latencyHeading_prefix_iff context owner rest

theorem isLatencyOf_sample (context owner : UInt16) (sample : Sample) :
    isLatencyOf context (sample.record owner).line = false := by
  obtain ⟨rest, hline⟩ := (sample.record owner).line_eq_append
  rw [isLatencyOf, hline, latencyHeading_eq]
  simp [Sample.record, statsMeasurement, List.isPrefixOf]

end EtherRelay
