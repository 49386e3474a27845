import EtherRelay.Forwarding.Monitor
import Mathlib.Algebra.Order.BigOperators.Group.List
import Mathlib.Algebra.Order.Ring.Nat
import Mathlib.Data.UInt

/-!
# Intervals between samples

A sample covers the time since the previous one. Its length in nanoseconds is computed from two
readings of a counter that may have wrapped in between, in words that are wide enough for the
product, rounded down and saturated.

The main statement follows a new monitor through any samples, while its clock moves on and the rest
of the world does what it likes. The intervals of the samples tile the time from the first reading
to the last: each is measured from the reading of the previous sample, and over consecutive samples
that cover less than a turn of the counter the lengths add up to the length of the whole, but for
less than a nanosecond per sample.
-/

namespace EtherRelay

namespace Clock

/-- The cycles from one reading to the next; the counter may have wrapped in between. -/
def cyclesBetween (interval : UInt64 × UInt64) : Nat := (interval.2 - interval.1).toNat

/-- The cycles of several intervals. -/
def cyclesOf (intervals : List (UInt64 × UInt64)) : Nat := (intervals.map cyclesBetween).sum

/-- The intervals between neighbouring readings. -/
def intervals (readings : List UInt64) : List (UInt64 × UInt64) := readings.zip readings.tail

/-- The length of an interval as it is measured. -/
def ns (hz : UInt64) (interval : UInt64 × UInt64) : UInt64 := deltaNs interval.1 interval.2 hz

/-- What a measured length says of an interval. -/
structure Measures (hz : UInt64) (interval : UInt64 × UInt64) (ns : UInt64) : Prop where
  /-- The product stays in its words. -/
  fits : ((interval.2 - interval.1).toBitVec.setWidth 128).umulOverflow
    (BitVec.ofNat 128 nsPerSecond) = false
  ns_eq : ns.toNat =
    if hz = 0 then 0 else min (cyclesBetween interval * nsPerSecond / hz.toNat) (2 ^ 64 - 1)

/-- The lengths of consecutive intervals and the length of the whole. -/
structure Sums (hz first last : UInt64) (lengths : List UInt64) : Prop where
  sum_le : (lengths.map UInt64.toNat).sum ≤ (deltaNs first last hz).toNat
  le_sum : (deltaNs first last hz).toNat ≤ (lengths.map UInt64.toNat).sum + (lengths.length - 1)

/-- The lengths are those of the intervals between the readings. -/
structure Tiles (hz : UInt64) (readings lengths : List UInt64) : Prop where
  measures : List.Forall₂ (Measures hz) (intervals readings) lengths
  length_eq : readings.length = lengths.length + 1
  /-- Any consecutive lengths add up as long as the counter makes less than a turn, and the time
  fits into 64 bits. -/
  sums : ∀ skip n first last, readings[skip]? = some first → readings[skip + n]? = some last →
    cyclesOf (((intervals readings).drop skip).take n) < 2 ^ 64 →
    cyclesOf (((intervals readings).drop skip).take n) * nsPerSecond / hz.toNat ≤ 2 ^ 64 - 1 →
    Sums hz first last ((lengths.drop skip).take n)

/-! ## One interval -/

/-- A count of 64 bits keeps its value in wide words. -/
theorem toNat_widened (n : UInt64) : (n.toBitVec.setWidth 128).toNat = n.toNat := by
  have hlt := n.toNat_lt
  rw [BitVec.toNat_setWidth, UInt64.toNat_toBitVec]
  omega

/-- So many nanoseconds need 94 bits. -/
theorem widened_mul (cycles : UInt64) :
    (cycles.toBitVec.setWidth 128).umulOverflow (BitVec.ofNat 128 nsPerSecond) = false ∧
      (cycles.toBitVec.setWidth 128 * BitVec.ofNat 128 nsPerSecond).toNat =
        cycles.toNat * nsPerSecond := by
  have hlt := cycles.toNat_lt
  have hwide := toNat_widened cycles
  constructor
  · rw [BitVec.umulOverflow, hwide, BitVec.toNat_ofNat, nsPerSecond, decide_eq_false_iff_not]
    omega
  · rw [BitVec.toNat_mul, hwide, BitVec.toNat_ofNat, nsPerSecond]
    omega

theorem toNat_wideNs (cycles hz : UInt64) :
    (wideNs cycles hz).toNat = cycles.toNat * nsPerSecond / hz.toNat := by
  rw [wideNs, BitVec.toNat_udiv, (widened_mul cycles).2, toNat_widened]

theorem toNat_ns (hz : UInt64) (interval : UInt64 × UInt64) :
    (ns hz interval).toNat =
      if hz = 0 then 0 else min (cyclesBetween interval * nsPerSecond / hz.toNat) (2 ^ 64 - 1) := by
  rw [ns, deltaNs]
  split
  · rfl
  · have hns := toNat_wideNs (interval.2 - interval.1) hz
    have hsize : UInt64.size = 2 ^ 64 := rfl
    dsimp only
    split
    · next hlt =>
      rw [UInt64.toNat_ofNat_of_lt' hlt, hns, cyclesBetween]
      omega
    · next hge =>
      rw [UInt64.toNat_ofNat_of_lt' (by decide), cyclesBetween]
      omega

theorem measures_ns (hz : UInt64) (interval : UInt64 × UInt64) :
    Measures hz interval (ns hz interval) where
  fits := (widened_mul _).1
  ns_eq := toNat_ns hz interval

/-! ## Neighbouring intervals -/

theorem intervals_cons (first next : UInt64) (readings : List UInt64) :
    intervals (first :: next :: readings) = (first, next) :: intervals (next :: readings) := rfl

theorem intervals_drop (readings : List UInt64) (skip : Nat) :
    (intervals readings).drop skip = intervals (readings.drop skip) := by
  rw [intervals, List.zip_eq_zipWith, List.drop_zipWith, List.drop_tail, ← List.tail_drop]
  rfl

theorem length_intervals (first : UInt64) (readings : List UInt64) :
    (intervals (first :: readings)).length = readings.length := by
  rw [intervals, List.length_zip, List.tail_cons, List.length_cons]
  omega

theorem cyclesOf_cons (interval : UInt64 × UInt64) (intervals : List (UInt64 × UInt64)) :
    cyclesOf (interval :: intervals) = cyclesBetween interval + cyclesOf intervals := by
  rw [cyclesOf, List.map_cons, List.sum_cons, cyclesOf]

variable {first last : UInt64} {readings : List UInt64} {n : Nat}

/-- However often the counter wraps, the cycles from the first reading to the last one are those of
the intervals between, modulo its turn. -/
theorem cyclesBetween_mod (hfirst : readings[0]? = some first) (hlast : readings[n]? = some last) :
    cyclesBetween (first, last) = cyclesOf ((intervals readings).take n) % 2 ^ 64 := by
  induction n generalizing readings first with
  | zero =>
    obtain rfl := Option.some.inj (hfirst.symm.trans hlast)
    rw [cyclesBetween, UInt64.sub_self]
    rfl
  | succ n ih =>
    match readings, hfirst, hlast with
    | _ :: next :: rest, rfl, hlast =>
      have hrest := ih rfl hlast
      have hsplit : last - first = (next - first) + (last - next) := by
        grind
      rw [cyclesBetween] at hrest
      rw [intervals_cons, List.take_succ_cons, cyclesOf_cons, cyclesBetween, hsplit,
        UInt64.toNat_add, hrest, Nat.add_mod_mod, cyclesBetween]

/-- Rounding each of several quotients down loses less than one for each of them but one. -/
theorem sum_div_bounds (factor divisor : Nat) (counts : List Nat) :
    (counts.map fun c => c * factor / divisor).sum ≤ counts.sum * factor / divisor ∧
      counts.sum * factor / divisor ≤
        (counts.map fun c => c * factor / divisor).sum + (counts.length - 1) := by
  rcases Nat.eq_zero_or_pos divisor with rfl | hpos
  · simp
  · induction counts with
    | nil => simp
    | cons c counts ih =>
      obtain ⟨hle, hge⟩ := ih
      have hsplit := Nat.add_div hpos (a := c * factor) (b := counts.sum * factor)
      rw [List.map_cons, List.sum_cons, List.sum_cons, List.length_cons, Nat.add_mul, hsplit]
      cases counts with
      | nil =>
        have hlt := Nat.mod_lt (c * factor) hpos
        simp [Nat.not_le.mpr hlt]
      | cons c' counts =>
        rw [List.length_cons] at hge ⊢
        constructor
        · split <;> omega
        · split <;> omega

/-- As long as the whole fits into 64 bits, no length saturates. -/
theorem map_toNat_ns {hz : UInt64} (hz0 : hz ≠ 0) {stretch : List (UInt64 × UInt64)}
    (h : cyclesOf stretch * nsPerSecond / hz.toNat ≤ 2 ^ 64 - 1) :
    (stretch.map (ns hz)).map UInt64.toNat =
      (stretch.map cyclesBetween).map fun c => c * nsPerSecond / hz.toNat := by
  rw [List.map_map, List.map_map]
  apply List.map_congr_left
  intro interval hmem
  have hone : cyclesBetween interval ≤ cyclesOf stretch :=
    List.single_le_sum (fun _ _ => Nat.zero_le _) _ (List.mem_map_of_mem hmem)
  have hle := Nat.div_le_div_right (c := hz.toNat) (Nat.mul_le_mul_right nsPerSecond hone)
  show (ns hz interval).toNat = cyclesBetween interval * nsPerSecond / hz.toNat
  rw [toNat_ns, if_neg hz0, Nat.min_eq_left (Nat.le_trans hle h)]

theorem sums_take (hz : UInt64) (hfirst : readings[0]? = some first)
    (hlast : readings[n]? = some last) (hturn : cyclesOf ((intervals readings).take n) < 2 ^ 64)
    (hfits : cyclesOf ((intervals readings).take n) * nsPerSecond / hz.toNat ≤ 2 ^ 64 - 1) :
    Sums hz first last (((intervals readings).map (ns hz)).take n) := by
  have hwhole := toNat_ns hz (first, last)
  rw [cyclesBetween_mod hfirst hlast, Nat.mod_eq_of_lt hturn, Nat.min_eq_left hfits, ns] at hwhole
  rw [← List.map_take]
  generalize (intervals readings).take n = stretch at hfits hwhole
  by_cases hz0 : hz = 0
  · rw [if_pos hz0] at hwhole
    have hnone : (stretch.map (ns hz)).map UInt64.toNat = stretch.map fun _ => 0 := by
      rw [List.map_map]
      apply List.map_congr_left
      intro interval _
      show (ns hz interval).toNat = 0
      rw [toNat_ns, if_pos hz0]
    constructor
    · rw [hnone]
      simp
    · rw [hwhole]
      exact Nat.zero_le _
  · rw [if_neg hz0] at hwhole
    obtain ⟨hle, hge⟩ := sum_div_bounds nsPerSecond hz.toNat (stretch.map cyclesBetween)
    rw [List.length_map] at hge
    constructor
    · rw [map_toNat_ns hz0 hfits, hwhole]
      exact hle
    · rw [map_toNat_ns hz0 hfits, hwhole, List.length_map]
      exact hge

/-- Measuring the intervals between neighbouring readings tiles the time from the first to the last
of them. -/
theorem tiles_intervals (hz first : UInt64) (readings : List UInt64) :
    Tiles hz (first :: readings) ((intervals (first :: readings)).map (ns hz)) := by
  constructor
  case measures =>
    rw [List.forall₂_map_right_iff, List.forall₂_same]
    intro interval _
    exact measures_ns hz interval
  case length_eq =>
    rw [List.length_map, length_intervals, List.length_cons]
  case sums =>
    intro skip n start stop hstart hstop hturn hfits
    rw [intervals_drop] at hturn hfits
    rw [← List.map_drop, intervals_drop]
    apply sums_take hz _ _ hturn hfits
    · rw [List.getElem?_drop]
      exact hstart
    · rw [List.getElem?_drop]
      exact hstop

example : deltaNs 18446744073709551606 10 1000000000 = 20 := by
  decide

end Clock

/-! ## The samples of a monitor -/

namespace Monitor

variable {β σ : Type}

theorem samplePort_clock (w : World β σ) (port : Binding) (extended : Bool) :
    (samplePort w port extended).2.clock = w.clock := by
  rw [samplePort]
  cases port.hardware with
  | none => rfl
  | some layout => rfl

/-- A sample covers the time since the previous reading and starts the next interval. -/
theorem sample_reads (m : Monitor) (lane : Lane β) (w : World β σ) :
    (m.sample lane w).1.deltaNs = Clock.deltaNs m.previousCycles w.clock.cycles w.clock.hz ∧
      (m.sample lane w).2.1.previousCycles = w.clock.cycles ∧
      (m.sample lane w).2.2.clock = w.clock := by
  have hclock := (samplePort_clock (samplePort w m.source m.extendedHardware).2 m.destination
    m.extendedHardware).trans (samplePort_clock w m.source m.extendedHardware)
  refine ⟨?_, ?_, hclock⟩
  · exact congrArg (fun clock => Clock.deltaNs m.previousCycles clock.cycles clock.hz) hclock
  · exact congrArg ManualClock.cycles hclock

theorem publish_clock [Sink σ] (lane : Lane β) (w : World β σ) (record : Record) :
    (publish lane w record).2.clock = w.clock := by
  have hclock : (w.publish record).2.clock = w.clock := rfl
  rw [publish]
  split
  · next heq =>
    rw [heq] at hclock
    exact hclock
  · next heq =>
    rw [heq] at hclock
    exact hclock

end Monitor

/-- A monitor and the clock that it reads. -/
structure Sampling where
  monitor : Monitor
  clock : ManualClock

namespace Sampling

variable {β σ : Type}

/-- What happens to them. Whatever else a sample looks at is free to change in between. -/
inductive Move (β σ : Type) where
  | advance (cycles : UInt64)
  | sample (lane : Lane β) (w : World β σ)
  | publish (lane : Lane β) (w : World β σ)

/-- What a counter shows at each of the samples. -/
def readings (now : UInt64) : List (Move β σ) → List UInt64
  | [] => []
  | .advance cycles :: moves => readings (now + cycles) moves
  | .sample .. :: moves | .publish .. :: moves => now :: readings now moves

/-- The move takes a sample of the time since the previous one, and the clock stands still. -/
structure Reads (s : Sampling) (taken : List Sample × Sampling) : Prop where
  deltas : taken.1.map Sample.deltaNs =
    [Clock.deltaNs s.monitor.previousCycles s.clock.cycles s.clock.hz]
  previous : taken.2.monitor.previousCycles = s.clock.cycles
  clock : taken.2.clock = s.clock

variable [Sink σ]

/-- Make a move; the answer holds the sample it takes. -/
def step (s : Sampling) : Move β σ → List Sample × Sampling
  | .advance cycles => ([], { s with clock := s.clock.advance cycles })
  | .sample lane w =>
    let (sample, monitor, w) := s.monitor.sample lane { w with clock := s.clock }
    ([sample], ⟨monitor, w.clock⟩)
  | .publish lane w =>
    let (sample, monitor, _, w) := s.monitor.publishSample lane { w with clock := s.clock }
    ([sample], ⟨monitor, w.clock⟩)

/-- The samples taken by a list of moves, oldest first. -/
def samples (s : Sampling) : List (Move β σ) → List Sample
  | [] => []
  | move :: moves => (s.step move).1 ++ (s.step move).2.samples moves

theorem step_sample_reads (s : Sampling) (lane : Lane β) (w : World β σ) :
    Reads s (s.step (.sample lane w)) := by
  obtain ⟨hdelta, hprevious, hclock⟩ := s.monitor.sample_reads lane { w with clock := s.clock }
  constructor
  · exact congrArg ([·]) hdelta
  · exact hprevious
  · exact hclock

theorem step_publish_reads (s : Sampling) (lane : Lane β) (w : World β σ) :
    Reads s (s.step (.publish lane w)) := by
  obtain ⟨hdelta, hprevious, hclock⟩ := s.monitor.sample_reads lane { w with clock := s.clock }
  constructor
  · exact congrArg ([·]) hdelta
  · exact hprevious
  · exact (Monitor.publish_clock _ _ _).trans hclock

/-- The samples cover the intervals between the readings. -/
theorem deltas_eq (s : Sampling) (moves : List (Move β σ)) :
    (s.samples moves).map Sample.deltaNs =
      (Clock.intervals (s.monitor.previousCycles :: readings s.clock.cycles moves)).map
        (Clock.ns s.clock.hz) := by
  induction moves generalizing s with
  | nil => rfl
  | cons move moves ih =>
    rw [samples, List.map_append, ih]
    cases move with
    | advance cycles => rfl
    | sample lane w =>
      obtain ⟨hdeltas, hprevious, hclock⟩ := s.step_sample_reads lane w
      rw [hdeltas, hprevious, hclock, readings, Clock.intervals_cons]
      rfl
    | publish lane w =>
      obtain ⟨hdeltas, hprevious, hclock⟩ := s.step_publish_reads lane w
      rw [hdeltas, hprevious, hclock, readings, Clock.intervals_cons]
      rfl

/-- The samples of a new monitor tile the time that its clock counts. -/
theorem run_tiles (settings : Settings) (source destination : Binding) (burstSize : Nat)
    (clock : ManualClock) (moves : List (Move β σ)) :
    Clock.Tiles clock.hz (clock.cycles :: readings clock.cycles moves)
      ((samples ⟨.create settings source destination clock.cycles burstSize, clock⟩ moves).map
        Sample.deltaNs) := by
  rw [deltas_eq]
  exact Clock.tiles_intervals _ _ _

end Sampling

end EtherRelay
