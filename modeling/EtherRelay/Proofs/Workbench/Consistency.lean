import EtherRelay.Proofs.Workbench.Setup
import EtherRelay.Workbench.Simulation

/-!
# Consistent configurations

A run can be set up from the configurations that are `Consistent`, and from no others. A run that is
refused ends with the first fault of its configuration. In a run that is accepted, every port and
every queue set that a context names is found where the context and its traffic expect it, and
stays there until the end; only the traffic and the shutdown can fail then.
-/

namespace EtherRelay.Workbench

/-! ## From the start to the end of a run -/

theorem Site.sameLayout_start {s : Site} {w : World Buffer RunSink} {relay : Relay Buffer}
    {world : World Buffer RunSink} (h : s.relay.start w = some (relay, world))
    (hinterfaces : w.interfaces = s.world.interfaces) : s.SameLayout { s with relay, world } := by
  rw [Relay.start] at h
  split at h
  · cases h
    obtain ⟨hcontexts, hsame⟩ := Relay.forEach_forall₂ (R := Context.SameEnds)
      (Q := fun w : World Buffer RunSink => w.interfaces = s.world.interfaces)
      (f := fun c w => (c.launch w).getD (c, w))
      (fun c w hw => ⟨(Context.Rests.launch c w).1.toSameEnds,
        (Context.Rests.launch c w).2.trans hw⟩) s.relay.contexts hinterfaces
    exact ⟨World.identities_of_interfaces hsame, hcontexts, List.forall₂_refl _⟩
  · cases h

namespace Simulation

/-- Once a run is set up, only its traffic or its shutdown can fail. -/
theorem drive_error {o : Options} {c : Configuration} {s : Site} {e : RunError}
    (h : (drive o c s).1 = .error e) : e = .trafficFailed ∨ ∃ cause, e = .shutdown cause := by
  have hclose (s : Site) (h : (close s).1 = .error e) : ∃ cause, e = .shutdown cause := by
    rw [close] at h
    split at h
    · cases h
    · next result _ _ _ =>
      cases result with
      | ok _ => cases h
      | error cause => exact ⟨cause, (Except.error.inj h).symm⟩
  have hfinish (course : Course) (h : (course.finish c.traffic).1 = .error e) :
      e = .trafficFailed := by
    simp only [Course.finish] at h
    split at h
    · exact (Except.error.inj h).symm
    · split at h <;> cases h
  simp only [drive] at h
  split at h
  · cases h
  · split at h
    · exact .inr (hclose _ h)
    · next hfinished =>
      cases h
      exact .inl (hfinish _ (congrArg Prod.fst hfinished))

section

variable {around : Surroundings} {o : Options} {c : Configuration} {s : Site}

theorem run_of_error {e : RunError}
    (h : Setup.all around.tree o c (seed around o) (Site.empty c.relay c.traffic.poolSize) =
      (.error e, s)) :
    run around o c = ⟨.error e, parameters around o, s.closedCaptures, s.world.log⟩ := by
  simp only [run, h]

theorem result_run_of_ok
    (h : Setup.all around.tree o c (seed around o) (Site.empty c.relay c.traffic.poolSize) =
      (.ok (), s)) {e : RunError} (he : (run around o c).result = .error e) :
    (drive o c s).1 = .error e := by
  simp only [run, h] at he
  generalize drive o c s = driven at he
  obtain ⟨result, _⟩ := driven
  cases result with
  | error e' =>
      cases he
      rfl
  | ok _ => cases he

/-- Wherever a run comes to, its contexts find what they are set up with. -/
theorem equips_course {xs : List ContextPlan} (h : s.Equips xs)
    (hphase : s.relay.phase = .building) (o : Options) (c : Configuration) :
    ∃ relay world, s.relay.start { s.world with sink := RunSink.ofOptions o } =
        some (relay, world) ∧
      let course := Course.start { s with relay, world } c o.durationMs
      (∀ pause fuel, (course.run pause fuel).site.Equips xs) ∧
      (course.finish c.traffic).2.Equips xs := by
  obtain ⟨⟨relay, world⟩, hstart⟩ : ∃ started,
      s.relay.start { s.world with sink := RunSink.ofOptions o } = some started := by
    rw [Relay.start, hphase]
    exact ⟨_, rfl⟩
  refine ⟨relay, world, hstart, ?_⟩
  intro course
  have hstarted : Site.Equips course.site xs := h.sameLayout (Site.sameLayout_start hstart rfl)
  exact ⟨fun pause fuel => hstarted.sameLayout (course.sameLayout_run pause fuel),
    hstarted.sameLayout (course.sameLayout_finish c.traffic)⟩

end

/-- Exactly the consistent configurations are accepted: setting up a run without captures succeeds
just if the configuration is consistent, and otherwise fails with the first of its faults, before
any context is launched; the run ends there. After a success, the ports and queue sets that contexts
name are found at every later point of the run, where the contexts and their traffic have them, and
the run can only fail for its traffic or its shutdown. -/
theorem accepts_consistent (around : Surroundings) (o : Options) (hcaptures : o.captureDir = none)
    (c : Configuration) :
    let ready := (Setup.all around.tree o c (seed around o)
      (Site.empty c.relay c.traffic.poolSize)).1
    let s := (Setup.all around.tree o c (seed around o) (Site.empty c.relay c.traffic.poolSize)).2
    (ready = .ok () ↔ c.Consistent) ∧
    (∀ e, ready = .error e ↔ c.faults.head? = some e) ∧
    s.Unlaunched ∧
    (∀ e, ready = .error e → run around o c = ⟨.error e, parameters around o, none, s.world.log⟩) ∧
    (ready = .ok () →
      s.Equips c.contexts ∧
      (∃ relay world, s.relay.start { s.world with sink := RunSink.ofOptions o } =
          some (relay, world) ∧
        let course := Course.start { s with relay, world } c o.durationMs
        (∀ pause fuel, (course.run pause fuel).site.Equips c.contexts) ∧
        (course.finish c.traffic).2.Equips c.contexts) ∧
      ∀ e, (run around o c).result = .error e →
        e = .trafficFailed ∨ ∃ cause, e = .shutdown cause) := by
  have hfinds := Setup.all_finds around.tree o hcaptures c (seed around o)
  have hconsistent := c.faults_eq_nil
  cases hfaults : c.faults with
  | nil =>
      rw [hfaults] at hfinds
      obtain ⟨_, s, hready, hholds⟩ := hfinds
      rw [hready]
      refine ⟨iff_of_true rfl (hconsistent.mp hfaults), ?_, hholds.toUnlaunched, nofun, ?_⟩
      · exact fun e => iff_of_false nofun nofun
      · intro _
        exact ⟨hholds.equips, equips_course hholds.equips hholds.phase_eq o c,
          fun e he => drive_error (result_run_of_ok hready he)⟩
  | cons first others =>
      rw [hfaults] at hfinds
      obtain ⟨s, hready, hunlaunched⟩ := hfinds
      rw [hready]
      refine ⟨?_, ?_, hunlaunched, ?_, nofun⟩
      · refine iff_of_false nofun ?_
        intro h
        rw [hconsistent.mpr h] at hfaults
        cases hfaults
      · intro e
        simp
      · rintro _ ⟨rfl⟩
        rw [run_of_error hready, Site.closedCaptures, hunlaunched.captures_eq]
        rfl

/-- Three faults of one context. -/
def conflicting : Configuration where
  relay := { rxQueuePolicy := .fixed 1 }
  interfaces := [{ port := 1 }, { port := 2 }]
  contexts := [{ id := 7, source := ⟨1, [0]⟩, destination := ⟨3, []⟩ }]

/-- The same context without them. -/
def repaired : Configuration :=
  { conflicting with contexts := [{ id := 7, source := ⟨1, [0, 1]⟩, destination := ⟨2, [0]⟩ }] }

theorem accepts_consistent_repaired :
    conflicting.faults = [.unknownPort 3, .queues (.queueCount 0),
      .context 7 (.config (.fixedQueueIndex 1 1))] ∧
    (run {} {} conflicting).result = .error (.unknownPort 3) ∧ repaired.Consistent ∧
    ∀ e, (run {} {} repaired).result = .error e →
      e = .trafficFailed ∨ ∃ cause, e = .shutdown cause := by
  have hfaults : conflicting.faults = [.unknownPort 3, .queues (.queueCount 0),
      .context 7 (.config (.fixedQueueIndex 1 1))] := by decide
  have hrepaired : repaired.Consistent := repaired.faults_eq_nil.mp (by decide)
  obtain ⟨_, hfails, _, hends, _⟩ := accepts_consistent {} {} rfl conflicting
  obtain ⟨hready, _, _, _, hruns⟩ := accepts_consistent {} {} rfl repaired
  refine ⟨hfaults, ?_, hrepaired, (hruns (hready.mpr hrepaired)).2.2⟩
  rw [hends _ ((hfails (.unknownPort 3)).mpr (by rw [hfaults]; rfl))]

end Simulation

end EtherRelay.Workbench
