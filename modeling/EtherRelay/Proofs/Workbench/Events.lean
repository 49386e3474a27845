import EtherRelay.Proofs.Workbench.Course
import Mathlib.Algebra.Order.BigOperators.Group.List
import Mathlib.Algebra.Order.Ring.Nat

/-!
# Scheduled device events

The events of a configuration are gone through in the order of their times, and in the order of the
file if they are simultaneous. An event is delivered if it comes before the end of the run and its
port is declared; any other is skipped with one warning. `Course.Delivers` says of a site what the
events gone through so far have done to it: what was logged, how many resets were observed, and
which contexts were asked to stop. The traffic around the events does not count.

A run goes through all events, since every step takes one of them or a burst, and the time to the
next burst of a source does not shrink to nothing: `Course.left` is a measure of what is to come.
-/

namespace EtherRelay.Workbench

/-! ## What is said of an event -/

namespace DeviceEventPlan

/-- The interface to which an event is delivered. -/
def target? (ports : List InterfaceId) (durationMs : UInt64) (e : DeviceEventPlan) :
    Option InterfaceId :=
  if e.atMs < durationMs then ports.find? fun i => i.port == e.port else none

/-- What is reported of an event that is not delivered. -/
def warning (durationMs : UInt64) (e : DeviceEventPlan) : Event :=
  if e.atMs < durationMs then .deviceEventUnknownPort e.kind e.port
  else .deviceEventTooLate e.kind e.port

/-- All that is logged of an event. -/
def record (s : Site) (durationMs : UInt64) (e : DeviceEventPlan) : List Event :=
  match e.target? s.world.identities durationMs with
  | none => [e.warning durationMs]
  | some interface =>
    .deviceEventRaised e.kind interface :: Relay.notices s.relay.contexts e.kind interface

/-- The deliveries of events, in order. -/
def deliveries (ports : List InterfaceId) (durationMs : UInt64) (events : List DeviceEventPlan) :
    List (DeviceEventKind × InterfaceId) :=
  events.filterMap fun e => (e.target? ports durationMs).map fun i => (e.kind, i)

variable {ports : List InterfaceId} {durationMs : UInt64} {e : DeviceEventPlan}

theorem isSome_target? :
    (e.target? ports durationMs).isSome ↔
      e.atMs < durationMs ∧ e.port ∈ ports.map InterfaceId.port := by
  rw [target?, List.mem_map]
  split
  · next hearly => simp [hearly]
  · next hlate => simp [hlate]

theorem deliveries_append (events events' : List DeviceEventPlan) :
    deliveries ports durationMs (events ++ events') =
      deliveries ports durationMs events ++ deliveries ports durationMs events' :=
  List.filterMap_append

theorem deliveries_of_target_eq_none (h : e.target? ports durationMs = none) :
    deliveries ports durationMs [e] = [] := by
  rw [deliveries, List.filterMap_cons, h]
  rfl

theorem deliveries_of_target_eq_some {interface : InterfaceId}
    (h : e.target? ports durationMs = some interface) :
    deliveries ports durationMs [e] = [(e.kind, interface)] := by
  rw [deliveries, List.filterMap_cons, h]
  rfl

end DeviceEventPlan

namespace Course

open DeviceEventPlan

/-- What deliveries do to a context: it is asked to stop if an interface that it is bound to is
removed. -/
structure Heeds (heard : List (DeviceEventKind × InterfaceId)) (c c' : Context Buffer) : Prop
    extends c.SameEnds c' where
  stop_iff : c'.lifecycle.stopRequested = true ↔
    c.lifecycle.stopRequested = true ∨
      ∃ interface, (.removed, interface) ∈ heard ∧ c.isBoundTo interface = true

namespace Heeds

variable {heard heard' : List (DeviceEventKind × InterfaceId)} {c c' c'' : Context Buffer}

/-- A context heeds removals, and nothing else asks it to stop. -/
theorem of_stays (h : c.Stays c') (hnone : ∀ interface, (.removed, interface) ∉ heard) :
    Heeds heard c c' where
  toSameEnds := h.toSameEnds
  stop_iff := by
    rw [h.lifecycle_eq]
    simp [hnone]

theorem afterRemoval (interface : InterfaceId) (c : Context Buffer) :
    Heeds [(.removed, interface)] c (c.afterRemoval interface) where
  toSameEnds := (Context.Rests.afterRemoval c interface).toSameEnds
  stop_iff := by
    rw [Context.afterRemoval]
    split
    · next hbound => simp [Context.requestStop, Lifecycle.requestStop, hbound]
    · next hbound => simp [hbound]

theorem append (h : Heeds heard c c') (h' : Heeds heard' c' c'') :
    Heeds (heard ++ heard') c c'' where
  toSameEnds := h.toSameEnds.trans h'.toSameEnds
  stop_iff := by
    rw [h'.stop_iff, h.stop_iff]
    simp only [h.isBoundTo_eq, List.mem_append, or_and_right, exists_or, or_assoc]

end Heeds

/-- What events have made of a site whose relay had observed `n` resets. -/
structure Delivers (s : Site) (durationMs : UInt64) (n : Nat) (events : List DeviceEventPlan)
    (s' : Site) : Prop where
  identities_eq : s'.world.identities = s.world.identities
  log_eq : s'.world.log = s.world.log ++ events.flatMap fun e => e.record s durationMs
  resets_eq : s'.relay.resets =
    some (n + (deliveries s.world.identities durationMs events).countP fun d => d.1 = .reset)
  contexts : List.Forall₂ (Heeds (deliveries s.world.identities durationMs events))
    s.relay.contexts s'.relay.contexts

namespace Delivers

variable {s s' s'' : Site} {durationMs : UInt64} {n : Nat} {events : List DeviceEventPlan}
variable {e : DeviceEventPlan}

/-- Without an event nothing happens, whatever workers and sources do. -/
theorem of_stays (hstarted : s.relay.resets = some n) (h : s.Stays s') :
    Delivers s durationMs n [] s' where
  identities_eq := h.world.identities_eq
  log_eq := h.world.log_eq.trans (List.append_nil _).symm
  resets_eq := h.resets_eq.trans hstarted
  contexts := h.contexts.imp fun _ _ hstays => .of_stays hstays fun _ => List.not_mem_nil

/-- What further events do is what they do to the site as it is by then. -/
theorem append {events' : List DeviceEventPlan} {m : Nat} (h : Delivers s durationMs n events s')
    (hresets : s'.relay.resets = some m) (h' : Delivers s' durationMs m events' s'') :
    Delivers s durationMs n (events ++ events') s'' := by
  have hrecord (e : DeviceEventPlan) : e.record s' durationMs = e.record s durationMs := by
    rw [record, record, h.identities_eq]
    cases e.target? s.world.identities durationMs with
    | none => rfl
    | some interface =>
        exact congrArg (_ :: ·) (Relay.notices_congr
          (h.contexts.imp fun _ _ hheeds => hheeds.toSameEnds) e.kind interface)
  have hlater := h'.contexts
  rw [h.identities_eq] at hlater
  obtain rfl : m = _ := Option.some.inj (hresets.symm.trans h.resets_eq)
  refine ⟨h'.identities_eq.trans h.identities_eq, ?_, ?_, ?_⟩
  · rw [h'.log_eq, h.log_eq, List.flatMap_append, List.append_assoc]
    simp only [hrecord]
  · rw [h'.resets_eq, h.identities_eq, deliveries_append, List.countP_append, Nat.add_assoc]
  · rw [deliveries_append]
    exact forall₂_trans (fun _ _ _ => .append) h.contexts hlater

/-- An event that is not delivered leaves a warning. -/
theorem skip (hstarted : s.relay.resets = some n)
    (h : e.target? s.world.identities durationMs = none) :
    Delivers s durationMs n [e] { s with world := s.world.note (e.warning durationMs) } where
  identities_eq := rfl
  log_eq := by
    rw [List.flatMap_singleton, record, h]
    rfl
  resets_eq := by
    rw [deliveries_of_target_eq_none h]
    exact hstarted
  contexts := by
    rw [deliveries_of_target_eq_none h, List.forall₂_same]
    exact fun c _ => .of_stays (.refl c) fun _ => List.not_mem_nil

/-- The relay hears of an event that is delivered. -/
theorem hear (hstarted : s.relay.resets = some n) {interface : InterfaceId}
    (h : e.target? s.world.identities durationMs = some interface) :
    ∃ relay world, s.relay.deviceEvent e.kind interface
        (s.world.note (.deviceEventRaised e.kind interface)) = some (relay, world) ∧
      Delivers s durationMs n [e] { s with relay, world } := by
  obtain ⟨relay, world, hevent, hcontexts, hresets, hidentities, hlog⟩ :=
    Relay.deviceEvent_eq_some hstarted e.kind interface
      (s.world.note (.deviceEventRaised e.kind interface))
  refine ⟨relay, world, hevent, hidentities, ?_, ?_, ?_⟩
  · rw [List.flatMap_singleton, record, h]
    exact hlog.trans (List.append_assoc s.world.log _ _)
  · rw [deliveries_of_target_eq_some h, List.countP_singleton]
    simpa using hresets
  · rw [deliveries_of_target_eq_some h]
    dsimp only
    rw [hcontexts]
    cases e.kind with
    | removed =>
        rw [List.forall₂_map_right_iff, List.forall₂_same]
        exact fun c _ => .afterRemoval interface c
    | reset =>
        rw [List.forall₂_same]
        exact fun c _ => .of_stays (.refl c) fun _ => by simp

end Delivers

/-! ## Events and bursts -/

theorem delivers_raise (c : Course) (e : DeviceEventPlan) {durationMs : UInt64} {n : Nat}
    (hstarted : c.site.relay.resets = some n)
    (hdeadline : c.deadlineNs = durationMs.toNat * 1000000) :
    Delivers c.site durationMs n [e] (c.raise e).site := by
  have hearly : e.atMs.toNat * 1000000 < c.deadlineNs ↔ e.atMs < durationMs := by
    rw [hdeadline, Nat.mul_lt_mul_right (by decide), UInt64.lt_iff_toNat_lt]
  have hport := c.site.find?_identities e.port
  rcases c.raise_cases e with
    ⟨hle, hsite⟩ | ⟨hlt, hnone, hsite⟩ | ⟨hlt, index, s, hindex, hstays, hheard⟩
  · have hlate : ¬e.atMs < durationMs := mt hearly.mpr (Nat.not_lt.mpr hle)
    have htarget : e.target? c.site.world.identities durationMs = none := if_neg hlate
    have hskip := Delivers.skip hstarted htarget
    rwa [warning, if_neg hlate, ← hsite] at hskip
  · rw [hnone] at hport
    have htarget : e.target? c.site.world.identities durationMs = none :=
      (if_pos (hearly.mp hlt)).trans hport
    have hskip := Delivers.skip hstarted htarget
    rwa [warning, if_pos (hearly.mp hlt), ← hsite] at hskip
  · have hstarted' : s.relay.resets = some n := hstays.resets_eq.trans hstarted
    have htarget : e.target? s.world.identities durationMs = some (s.world.interfaceId index) := by
      rw [target?, if_pos (hearly.mp hlt), s.find?_identities, hstays.sameLayout.port?_eq, hindex]
      rfl
    obtain ⟨relay, world, hevent, hdelivers⟩ := Delivers.hear hstarted' htarget
    rw [hevent] at hheard
    have hbefore : Delivers c.site durationMs n [] s := .of_stays hstarted hstays
    have hraised := hbefore.append hstarted' hdelivers
    exact hraised.append hdelivers.resets_eq (.of_stays hdelivers.resets_eq hheard)

/-- Where a source comes to with a burst: it is over, or waits for its next one. -/
theorem send_same (c : Course) (pause ns index : Nat) :
    (c.send pause ns index).events = c.events ∧
      (c.send pause ns index).deadlineNs = c.deadlineNs ∧
      ((c.send pause ns index).bursts = c.bursts.set index none ∨
        ns + pause < c.deadlineNs ∧
          (c.send pause ns index).bursts = c.bursts.set index (some (ns + pause))) := by
  rw [send]
  dsimp only
  split
  · exact ⟨rfl, rfl, .inl rfl⟩
  · split
    · exact ⟨rfl, rfl, .inl rfl⟩
    · refine ⟨rfl, rfl, ?_⟩
      by_cases hnext : ns + pause < c.deadlineNs
      · exact .inr ⟨hnext, congrArg (c.bursts.set index) (if_pos hnext)⟩
      · exact .inl (congrArg (c.bursts.set index) (if_neg hnext))

/-- A fold that keeps what it has or takes what comes ends with something that it came across. -/
theorem mem_of_foldl_choose {α : Type} {choose : Option α → α → Option α}
    (hchoose : ∀ best next x, choose best next = some x → best = some x ∨ next = x)
    {xs : List α} {best : Option α} {x : α} (h : xs.foldl choose best = some x) :
    best = some x ∨ x ∈ xs := by
  induction xs generalizing best with
  | nil => exact .inl h
  | cons next xs ih =>
      rcases ih h with hbest | hmem
      · rcases hchoose best next x hbest with hkept | rfl
        · exact .inl hkept
        · exact .inr List.mem_cons_self
      · exact .inr (List.mem_cons_of_mem next hmem)

/-- The next burst is that of a source. -/
theorem nextBurst_mem {c : Course} {ns index : Nat} (h : c.nextBurst = some (ns, index)) :
    c.bursts[index]? = some (some ns) := by
  refine (mem_of_foldl_choose ?_ h).elim nofun ?_
  · intro best next earliest hearliest
    cases best with
    | none => exact .inr (Option.some.inj hearliest)
    | some b =>
        dsimp only at hearliest
        split at hearliest
        · exact .inr (Option.some.inj hearliest)
        · exact .inl hearliest
  · intro hmem
    obtain ⟨⟨due, i⟩, hzip, hdue⟩ := List.mem_filterMap.mp hmem
    obtain ⟨ns', rfl, hpair⟩ := Option.map_eq_some_iff.mp hdue
    cases hpair
    exact List.mem_zipIdx_iff_getElem?.mp hzip

/-! ## How much is to come -/

/-- The bursts of a source that are to come at most, if its next one is due at this time. -/
def burstsLeft (pause deadlineNs : Nat) : Option Nat → Nat
  | none => 0
  | some ns => (deadlineNs - ns) / pause + 1

/-- The events and bursts that are to come at most. -/
def left (pause : Nat) (c : Course) : Nat :=
  c.events.length + (c.bursts.map (burstsLeft pause c.deadlineNs)).sum

variable {pause : Nat} {c : Course}

/-- A burst takes a pause off the time that is left. -/
theorem left_send (hpause : 0 < pause) {ns index : Nat}
    (h : c.bursts[index]? = some (some ns)) :
    (c.send pause ns index).left pause < c.left pause := by
  obtain ⟨hevents, hdeadline, hbursts⟩ := c.send_same pause ns index
  rw [left, left, hevents, hdeadline]
  refine Nat.add_lt_add_left ?_ _
  rcases hbursts with hover | ⟨hnext, hwaits⟩
  · have hsum := sum_map_set h (burstsLeft pause c.deadlineNs) none
    rw [hover]
    simp only [burstsLeft] at hsum
    generalize (c.deadlineNs - ns) / pause = bursts at hsum
    omega
  · have hsum := sum_map_set h (burstsLeft pause c.deadlineNs) (some (ns + pause))
    have hdiv := Nat.div_eq_sub_div hpause (show pause ≤ c.deadlineNs - ns by omega)
    rw [hwaits]
    rw [burstsLeft, burstsLeft, hdiv, Nat.sub_sub] at hsum
    generalize (c.deadlineNs - (ns + pause)) / pause = bursts at hsum
    omega

/-- The number of steps that a course is given is enough. -/
theorem left_le_steps (hpause : 0 < pause) : c.left pause ≤ c.steps pause := by
  have hbound : ∀ k ∈ c.bursts.map (burstsLeft pause c.deadlineNs),
      k ≤ c.deadlineNs / max pause 1 + 2 := by
    intro k hk
    obtain ⟨due, _, rfl⟩ := List.mem_map.mp hk
    rw [Nat.max_eq_left hpause]
    cases due with
    | none => exact Nat.zero_le _
    | some ns =>
        have hle := Nat.div_le_div_right (c := pause) (Nat.sub_le c.deadlineNs ns)
        rw [burstsLeft]
        omega
  have hsum := List.sum_le_card_nsmul _ _ hbound
  rw [List.length_map] at hsum
  exact Nat.add_le_add_left hsum _

/-- An event is gone through when its time has come, before a burst at the same time. -/
theorem run_succ (pause fuel : Nat) (c : Course) :
    (c.events = [] ∧ c.run pause (fuel + 1) = c) ∨
    (∃ e rest, c.events = e :: rest ∧
      c.run pause (fuel + 1) = (({ c with events := rest } : Course).raise e).run pause fuel) ∨
    (∃ ns index, c.nextBurst = some (ns, index) ∧
      c.run pause (fuel + 1) = (c.send pause ns index).run pause fuel) := by
  rw [run]
  split
  · next hevents _ => exact .inl ⟨hevents, rfl⟩
  · next e rest hevents _ => exact .inr (.inl ⟨e, rest, hevents, rfl⟩)
  · next ns index _ hburst => exact .inr (.inr ⟨ns, index, hburst, rfl⟩)
  · next e rest ns index hevents hburst =>
    split
    · exact .inr (.inl ⟨e, rest, hevents, rfl⟩)
    · exact .inr (.inr ⟨ns, index, hburst, rfl⟩)

/-- A run goes through a front part of the events. With enough steps it goes through all. -/
theorem delivers_run (hpause : 0 < pause) (fuel : Nat) {durationMs : UInt64} {n : Nat}
    (hstarted : c.site.relay.resets = some n)
    (hdeadline : c.deadlineNs = durationMs.toNat * 1000000) :
    ∃ events, c.events = events ++ (c.run pause fuel).events ∧
      Delivers c.site durationMs n events (c.run pause fuel).site ∧
      (c.left pause ≤ fuel → (c.run pause fuel).events = []) := by
  induction fuel generalizing c n with
  | zero =>
      refine ⟨[], rfl, .of_stays hstarted (.refl c.site), ?_⟩
      intro hleft
      rw [left] at hleft
      have hnone : c.events.length = 0 := by omega
      exact List.length_eq_zero_iff.mp hnone
  | succ fuel ih =>
      rcases run_succ pause fuel c with
        ⟨hevents, hrun⟩ | ⟨e, rest, hevents, hrun⟩ | ⟨ns, index, hburst, hrun⟩
      · rw [hrun]
        exact ⟨[], rfl, .of_stays hstarted (.refl c.site), fun _ => hevents⟩
      · let taken : Course := { c with events := rest }
        obtain ⟨hbursts, hrest, hsame⟩ := taken.raise_same e
        have hraised := taken.delivers_raise e hstarted hdeadline
        obtain ⟨events, hsplit, hdelivers, hall⟩ :=
          ih (c := taken.raise e) hraised.resets_eq (hsame.trans hdeadline)
        rw [hrun, hevents]
        refine ⟨e :: events, congrArg (e :: ·) (hrest.symm.trans hsplit), ?_, ?_⟩
        · exact hraised.append hraised.resets_eq hdelivers
        · intro hleft
          refine hall ?_
          rw [left, hevents, List.length_cons] at hleft
          rw [left, hbursts, hrest, hsame]
          show rest.length + (c.bursts.map (burstsLeft pause c.deadlineNs)).sum ≤ fuel
          omega
      · obtain ⟨hsame, hend, _⟩ := c.send_same pause ns index
        have hstays := c.stays_send pause ns index
        have hresets := hstays.resets_eq.trans hstarted
        obtain ⟨events, hsplit, hdelivers, hall⟩ :=
          ih (c := c.send pause ns index) hresets (hend.trans hdeadline)
        rw [hrun]
        refine ⟨events, hsame.symm.trans hsplit, ?_, ?_⟩
        · exact (Delivers.of_stays hstarted hstays).append hresets hdelivers
        · intro hleft
          have hless := left_send hpause (nextBurst_mem hburst)
          exact hall (by omega)

/-- A course has gone through all its events when it ends. -/
theorem delivers_finish (c : Course) (plan : TrafficPlan) {durationMs : UInt64} {n : Nat}
    (hstarted : c.site.relay.resets = some n)
    (hdeadline : c.deadlineNs = durationMs.toNat * 1000000) :
    Delivers c.site durationMs n c.events (c.finish plan).2 := by
  have hpause : 0 < pauseNs plan := Nat.lt_of_lt_of_le Nat.zero_lt_one (Nat.le_max_left _ _)
  obtain ⟨last, hlast⟩ : ∃ last, c.run (pauseNs plan) (c.steps (pauseNs plan)) = last := ⟨_, rfl⟩
  obtain ⟨events, hsplit, hdelivers, hall⟩ :=
    delivers_run hpause (c.steps (pauseNs plan)) hstarted hdeadline
  have hnone := hall (left_le_steps hpause)
  rw [hlast] at hsplit hdelivers hnone
  rw [hsplit, hnone]
  rcases c.finish_cases plan hlast with hsite | hsite
  · rw [hsite, List.append_nil]
    exact hdelivers
  · rw [hsite]
    exact hdelivers.append hdelivers.resets_eq
      (.of_stays hdelivers.resets_eq (last.stays_advance last.deadlineNs))

/-! ## The order of events -/

/-- Events are gone through by their times, and stay in order if they are simultaneous. -/
theorem sortedEvents_stable (events : List DeviceEventPlan) :
    (sortedEvents events).Perm events ∧
      (sortedEvents events).Pairwise (fun a b => a.atMs ≤ b.atMs) ∧
      ∀ ms, (sortedEvents events).filter (·.atMs == ms) = events.filter (·.atMs == ms) := by
  have htrans (a b c : DeviceEventPlan) (hab : decide (a.atMs ≤ b.atMs) = true)
      (hbc : decide (b.atMs ≤ c.atMs) = true) : decide (a.atMs ≤ c.atMs) = true :=
    decide_eq_true (UInt64.le_trans (of_decide_eq_true hab) (of_decide_eq_true hbc))
  have htotal (a b : DeviceEventPlan) :
      (decide (a.atMs ≤ b.atMs) || decide (b.atMs ≤ a.atMs)) = true := by
    simpa using UInt64.le_total a.atMs b.atMs
  have hperm : (sortedEvents events).Perm events := List.mergeSort_perm events _
  refine ⟨hperm, ?_, ?_⟩
  · exact (List.pairwise_mergeSort htrans htotal events).imp of_decide_eq_true
  · intro ms
    -- Events of one time are sorted as they stand, and a stable sort keeps such a part.
    have hsame : (events.filter (·.atMs == ms)).Pairwise
        fun a b => decide (a.atMs ≤ b.atMs) = true := by
      refine List.pairwise_of_forall_mem_list ?_
      intro a ha b hb
      have hta := eq_of_beq (List.mem_filter.mp ha).2
      have htb := eq_of_beq (List.mem_filter.mp hb).2
      rw [hta, htb]
      exact decide_eq_true (UInt64.le_refl ms)
    have hkept := (List.sublist_mergeSort htrans htotal hsame List.filter_sublist).filter
      (·.atMs == ms)
    rw [List.filter_filter] at hkept
    simp only [Bool.and_self] at hkept
    exact (hkept.eq_of_length (hperm.filter _).length_eq.symm).symm

/-- A run goes through its events by their times, and in the order of the file if they are
simultaneous. It delivers those that come before its end and whose port is declared, and skips every
other one with a warning; this is all that it logs. When it ends, as many resets were observed as
resets were delivered, and a context was asked to stop just if a delivered removal names an
interface that it is bound to. -/
theorem finish_deliversEvents (s : Site) (c : Configuration) (durationMs : UInt64) {n : Nat}
    (hstarted : s.relay.resets = some n) :
    let ports := s.world.identities
    let order := sortedEvents c.events
    let heard := deliveries ports durationMs order
    let s' := ((start s c durationMs).finish c.traffic).2
    (order.Perm c.events ∧ order.Pairwise (fun a b => a.atMs ≤ b.atMs) ∧
      ∀ ms, order.filter (·.atMs == ms) = c.events.filter (·.atMs == ms)) ∧
    (∀ e : DeviceEventPlan, (e.target? ports durationMs).isSome ↔
      e.atMs < durationMs ∧ e.port ∈ ports.map InterfaceId.port) ∧
    s'.world.log = s.world.log ++ order.flatMap (fun e => e.record s durationMs) ∧
    s'.relay.resets = some (n + heard.countP fun d => d.1 = .reset) ∧
    List.Forall₂ (Heeds heard) s.relay.contexts s'.relay.contexts := by
  intro ports order heard s'
  have hdelivers : Delivers s durationMs n order s' :=
    (start s c durationMs).delivers_finish c.traffic hstarted rfl
  exact ⟨sortedEvents_stable c.events, fun _ => isSome_target?, hdelivers.log_eq,
    hdelivers.resets_eq, hdelivers.contexts⟩

/-- Two contexts between three ports. -/
def twoContexts : Site :=
  let settings : Settings := { burstSize := 2, ringCapacity := 4, statsRingCapacity := 2 }
  let world : World Buffer RunSink :=
    { (Site.empty settings 4).world with
      interfaces := [.create ⟨1, "left"⟩ 1 1, .create ⟨2, "right"⟩ 1 1, .create ⟨3, "spare"⟩ 1 1] }
  let bindingTo (interface : Nat) : Binding := { interface, queues := .single 0 }
  let relay : Relay Buffer := (Relay.add { settings } 7 (bindingTo 0) (bindingTo 1) world).2
  let relay := (relay.add 8 (bindingTo 1) (bindingTo 2) world).2
  match relay.start world with
  | none => { world, relay }
  | some (relay, world) => { world, relay }

/-- Of these events, one is too late and one for an unknown port, and two are simultaneous. -/
def fourEvents : Configuration where
  events := [⟨100, 3, .removed⟩, ⟨40, 1, .removed⟩, ⟨40, 3, .reset⟩, ⟨10, 9, .removed⟩]

theorem finish_deliversEvents_fourEvents :
    twoContexts.relay.resets = some 0 ∧
    let s' := ((start twoContexts fourEvents 100).finish fourEvents.traffic).2
    s'.world.log = twoContexts.world.log ++
      [.deviceEventUnknownPort .removed 9, .deviceEventRaised .removed ⟨1, "left"⟩,
        .interfaceRemoved 7 ⟨1, "left"⟩, .deviceEventRaised .reset ⟨3, "spare"⟩,
        .interfaceReset ⟨3, "spare"⟩ 1, .deviceEventTooLate .removed 3] ∧
    s'.relay.resets = some 1 ∧
    ∃ c c', s'.relay.contexts = [c, c'] ∧ c.lifecycle.stopRequested = true ∧
      c'.lifecycle.stopRequested = false := by
  have hstarted : twoContexts.relay.resets = some 0 := rfl
  have horder : sortedEvents fourEvents.events =
      [⟨10, 9, .removed⟩, ⟨40, 1, .removed⟩, ⟨40, 3, .reset⟩, ⟨100, 3, .removed⟩] := by
    simp [sortedEvents, fourEvents, List.mergeSort, List.MergeSort.Internal.splitInTwo]
  obtain ⟨_, _, hlog, hresets, hcontexts⟩ :=
    finish_deliversEvents twoContexts fourEvents 100 hstarted
  rw [horder] at hlog hresets hcontexts
  obtain ⟨c, c', hboth, hbound, hfree, hfresh⟩ : ∃ c c', twoContexts.relay.contexts = [c, c'] ∧
      c.isBoundTo ⟨1, "left"⟩ = true ∧ c'.isBoundTo ⟨1, "left"⟩ = false ∧
      c'.lifecycle.stopRequested = false := ⟨_, _, rfl, rfl, rfl, rfl⟩
  have hheard : deliveries twoContexts.world.identities 100
      [⟨10, 9, .removed⟩, ⟨40, 1, .removed⟩, ⟨40, 3, .reset⟩, ⟨100, 3, .removed⟩] =
      [(.removed, ⟨1, "left"⟩), (.reset, ⟨3, "spare"⟩)] := rfl
  rw [hheard, hboth] at hcontexts
  refine ⟨hstarted, hlog, hresets, ?_⟩
  generalize ((start twoContexts fourEvents 100).finish fourEvents.traffic).2.relay.contexts =
    contexts at hcontexts ⊢
  cases hcontexts with
  | cons hfirst hrest =>
      cases hrest with
      | cons hsecond hnone =>
          cases hnone
          refine ⟨_, _, rfl, hfirst.stop_iff.mpr (.inr ⟨_, List.mem_cons_self, hbound⟩), ?_⟩
          rw [Bool.eq_false_iff, ne_eq, hsecond.stop_iff, hfresh]
          simp [hfree]

end Course

end EtherRelay.Workbench
