import EtherRelay.Proofs.Relay.Renaming
import EtherRelay.Proofs.Ring.Names

/-!
# Adding contexts to a relay

What a call that adds a context can do is said once, in `Relay.Enrols`: it finds the id taken, or
its receive policy does not fit the source queues, or a context joins the others. With settings that
were accepted there is no fourth outcome; the rings can always be made.

From it follows what any number of calls do. A call is refused for the ids of earlier contexts and
for its own source queues, and for nothing else. Refused calls use up names of rings but leave no
other trace, neither in what the relay does when it is started nor in what it reports at its end.
-/

namespace EtherRelay

variable {β σ : Type}

/-! ## What a new context needs -/

/-- The rings of a context, as they are named. -/
def ringsFor (id : UInt16) : List (String × UInt16) :=
  [(RingRole.relay.kind, id), (RingRole.stats.kind, id)]

/-- The names of both rings. -/
def Lane.ringNames (lane : Lane β) : List String := [lane.relayRing.name, lane.statsRing.name]

/-- Whether the receive policy names one of so many source queues. -/
def Settings.FitsQueues (settings : Settings) (count : Nat) : Prop :=
  ∀ index, settings.rxQueuePolicy = .fixed index → index < count

theorem Settings.validateSourceQueues_of_fits {settings : Settings} {count : Nat}
    (h : settings.FitsQueues count) : settings.validateSourceQueues count = .ok () := by
  rw [validateSourceQueues]
  cases hpolicy : settings.rxQueuePolicy with
  | roundRobin => rfl
  | fixed index => exact if_neg (Nat.not_le.mpr (h index hpolicy))

theorem Settings.fits_or_fixed (settings : Settings) (count : Nat) :
    settings.FitsQueues count ∨ ∃ index, settings.rxQueuePolicy = .fixed index ∧ count ≤ index := by
  cases hpolicy : settings.rxQueuePolicy with
  | roundRobin =>
      refine .inl ?_
      intro index hfixed
      rw [hpolicy] at hfixed
      cases hfixed
  | fixed index =>
      rcases Nat.lt_or_ge index count with hlt | hle
      · refine .inl ?_
        intro other hfixed
        rw [hpolicy] at hfixed
        cases hfixed
        exact hlt
      · exact .inr ⟨index, rfl, hle⟩

theorem Receiver.create_eq_error {settings : Settings} {source : Binding} {index : Nat}
    (hpolicy : settings.rxQueuePolicy = .fixed index) (hle : source.queues.length ≤ index) :
    Receiver.create settings source =
      .error (.fixedQueueIndex index source.queues.length) := by
  have hrefused : settings.validateSourceQueues source.queues.length =
      .error (.fixedQueueIndex index source.queues.length) := by
    rw [Settings.validateSourceQueues, hpolicy]
    exact if_pos hle
  rw [create, hrefused]
  rfl

theorem Ring.create_eq_name {α : Type} {capacity : Nat} (name : String)
    (h : isPowerOfTwo capacity = true) :
    ∃ ring : Ring α, Ring.create name capacity = .ok ring ∧ ring.name = name :=
  ⟨_, if_pos h, rfl⟩

/-- Accepted settings make both rings, under the next two names. -/
theorem Lane.create_ringNames {settings : Settings} (hvalid : settings.validate = .ok ())
    (id : UInt16) (names : RingNames) :
    ∃ lane : Lane β, Lane.create id settings names = (.ok lane, (names.freshAll (ringsFor id)).2) ∧
      lane.context = id ∧ lane.ringNames = (names.freshAll (ringsFor id)).1 := by
  obtain ⟨_, _, hrelay, hstats⟩ := Settings.validate_eq_ok hvalid
  obtain ⟨relayRing, hrelayRing, hrelayName⟩ :=
    Ring.create_eq_name (α := β) (names.fresh RingRole.relay.kind id).1 hrelay
  obtain ⟨statsRing, hstatsRing, hstatsName⟩ := Ring.create_eq_name (α := β)
    ((names.fresh RingRole.relay.kind id).2.fresh RingRole.stats.kind id).1 hstats
  refine ⟨{ context := id, relayRing, statsRing }, ?_, rfl, ?_⟩
  · rw [Lane.create]
    dsimp only
    rw [hrelayRing]
    dsimp only
    rw [hstatsRing]
    rfl
  · rw [ringNames, hrelayName, hstatsName]
    rfl

namespace Context

/-- The context is the one that a call asks for. -/
structure MadeFor (c : Context β) (id : UInt16) (source destination : Binding) : Prop where
  id_eq : c.id = id
  source_eq : c.source = source
  destination_eq : c.destination = destination
  isCreated : ∃ receiver transmitter, c.body = .created receiver transmitter ∧ c.lifecycle = {}

/-- Accepted settings make a context, unless the receive policy does not fit the source queues. The
names of both rings are used up in any case. -/
theorem create_cases {settings : Settings} (hvalid : settings.validate = .ok ()) (id : UInt16)
    (source destination : Binding) (names : RingNames) (w : World β σ) :
    (∃ index, settings.rxQueuePolicy = .fixed index ∧ source.queues.length ≤ index ∧
      create id source destination settings names w =
        (.error (.config (.fixedQueueIndex index source.queues.length)),
          (names.freshAll (ringsFor id)).2)) ∨
    (settings.FitsQueues source.queues.length ∧ ∃ c : Context β,
      create id source destination settings names w =
        (.ok c, (names.freshAll (ringsFor id)).2) ∧
      c.MadeFor id source destination ∧
      c.lane.ringNames = (names.freshAll (ringsFor id)).1) := by
  obtain ⟨lane, hlane, hid, hnames⟩ := Lane.create_ringNames (β := β) hvalid id names
  rcases settings.fits_or_fixed source.queues.length with hfits | ⟨index, hpolicy, hle⟩
  · obtain ⟨receiver, hreceiver⟩ :=
      Receiver.create_eq_ok (settings.validateSourceQueues_of_fits hfits)
    refine .inr ⟨hfits, ?_⟩
    rw [create, hvalid, hlane]
    dsimp only
    rw [hreceiver]
    exact ⟨_, rfl, ⟨hid, rfl, rfl, _, _, rfl, rfl⟩, hnames⟩
  · refine .inl ⟨index, hpolicy, hle, ?_⟩
    rw [create, hvalid, hlane]
    dsimp only
    rw [Receiver.create_eq_error hpolicy hle]

end Context

/-! ## Calls -/

/-- A call that adds a context to a relay, in the world as it is then. -/
structure Enrolment (β σ : Type) where
  id : UInt16
  source : Binding
  destination : Binding
  world : World β σ

namespace Relay

/-- The ids that are taken. -/
def ids (r : Relay β) : List UInt16 := r.contexts.map Context.id

/-- The names of all rings, context by context. -/
def ringNames (r : Relay β) : List String := r.contexts.flatMap fun c => c.lane.ringNames

/-- A relay can be made with accepted settings only. -/
theorem create_eq_ok_iff {settings : Settings} {r : Relay β} :
    create settings = .ok r ↔ settings.validate = .ok () ∧ r = { settings } := by
  cases hvalid : settings.validate with
  | error e => simp [create, hvalid, bind, Except.bind]
  | ok _ =>
      rw [create_eq_ok hvalid, Except.ok.injEq]
      exact ⟨fun h => ⟨rfl, h.symm⟩, fun h => h.2.symm⟩

/-- Add the context that a call asks for. -/
def enrol (r : Relay β) (call : Enrolment β σ) : Except ContextError (Context β) × Relay β :=
  r.add call.id call.source call.destination call.world

/-- Make calls in order, and record each of them with its answer. -/
def enrolAll (r : Relay β) :
    List (Enrolment β σ) → List (Enrolment β σ × Except ContextError (Context β)) × Relay β
  | [] => ([], r)
  | call :: calls =>
    let (answer, r) := r.enrol call
    let (record, r) := r.enrolAll calls
    ((call, answer) :: record, r)

/-- The contexts that were made, in the order of the calls. -/
def accepted (record : List (Enrolment β σ × Except ContextError (Context β))) :
    List (Context β) :=
  record.filterMap fun entry => entry.2.toOption

/-- The rings that were named, also for contexts that were not made in the end. -/
def requested (record : List (Enrolment β σ × Except ContextError (Context β))) :
    List (String × UInt16) :=
  record.flatMap fun
    | (_, .error (.duplicateContext _)) => []
    | (call, _) => ringsFor call.id

theorem accepted_append
    (record record' : List (Enrolment β σ × Except ContextError (Context β))) :
    accepted (record ++ record') = accepted record ++ accepted record' :=
  List.filterMap_append

theorem requested_append
    (record record' : List (Enrolment β σ × Except ContextError (Context β))) :
    requested (record ++ record') = requested record ++ requested record' :=
  List.flatMap_append

theorem map_fst_enrolAll (r : Relay β) (calls : List (Enrolment β σ)) :
    (r.enrolAll calls).1.map Prod.fst = calls := by
  induction calls generalizing r with
  | nil => rfl
  | cons call calls ih => exact congrArg (call :: ·) (ih (r.enrol call).2)

/-- What a call can come to: its answer, and the relay after it. -/
inductive Enrols (r : Relay β) (call : Enrolment β σ) :
    Except ContextError (Context β) → Relay β → Prop where
  | duplicate (htaken : call.id ∈ r.ids) : Enrols r call (.error (.duplicateContext call.id)) r
  | misfit (hnew : call.id ∉ r.ids) {index : Nat}
      (hpolicy : r.settings.rxQueuePolicy = .fixed index)
      (hle : call.source.queues.length ≤ index) :
      Enrols r call (.error (.config (.fixedQueueIndex index call.source.queues.length)))
        (r.withNames (r.names.freshAll (ringsFor call.id)).2)
  | joins (hnew : call.id ∉ r.ids) (hfits : r.settings.FitsQueues call.source.queues.length)
      {c : Context β} (hmade : c.MadeFor call.id call.source call.destination)
      (hnames : c.lane.ringNames = (r.names.freshAll (ringsFor call.id)).1) :
      Enrols r call (.ok c)
        { r with
          names := (r.names.freshAll (ringsFor call.id)).2
          contexts := r.contexts ++ [c] }

variable {r : Relay β} {call : Enrolment β σ}

theorem enrols_enrol (hvalid : r.settings.validate = .ok ()) (call : Enrolment β σ) :
    Enrols r call (r.enrol call).1 (r.enrol call).2 := by
  have htaken : (r.contexts.any fun c => c.id == call.id) = true ↔ call.id ∈ r.ids := by
    rw [ids, List.mem_map, List.any_eq_true]
    simp only [beq_iff_eq]
  rw [enrol, add]
  split
  · next h => exact .duplicate (htaken.mp h)
  · next h =>
    have hnew : call.id ∉ r.ids := fun hmem => h (htaken.mpr hmem)
    rcases Context.create_cases hvalid call.id call.source call.destination r.names call.world with
      ⟨index, hpolicy, hle, hcreate⟩ | ⟨hfits, c, hcreate, hmade, hnames⟩
    · rw [hcreate]
      exact .misfit hnew hpolicy hle
    · rw [hcreate]
      exact .joins hnew hfits hmade hnames

namespace Enrols

variable {answer : Except ContextError (Context β)} {r' : Relay β}

/-- A refused call uses up names and leaves all else as it was. -/
theorem of_error {e : ContextError} (h : Enrols r call (.error e) r') :
    r' = r.withNames r'.names := by
  cases h with
  | duplicate => rfl
  | misfit => rfl

theorem duplicate_iff (h : Enrols r call answer r') :
    answer = .error (.duplicateContext call.id) ↔ call.id ∈ r.ids := by
  cases h with
  | duplicate htaken => exact iff_of_true rfl htaken
  | misfit hnew => exact iff_of_false nofun hnew
  | joins hnew => exact iff_of_false nofun hnew

theorem misfit_iff (h : Enrols r call answer r') (index count : Nat) :
    answer = .error (.config (.fixedQueueIndex index count)) ↔
      call.id ∉ r.ids ∧ r.settings.rxQueuePolicy = .fixed index ∧
        call.source.queues.length = count ∧ count ≤ index := by
  cases h with
  | duplicate htaken => exact iff_of_false nofun fun hall => hall.1 htaken
  | @misfit hnew index' hpolicy hle =>
      constructor
      · rintro hanswer
        cases hanswer
        exact ⟨hnew, hpolicy, rfl, hle⟩
      · rintro ⟨_, hpolicy', rfl, _⟩
        rw [hpolicy] at hpolicy'
        cases hpolicy'
        rfl
  | joins hnew hfits =>
      refine iff_of_false nofun ?_
      rintro ⟨_, hpolicy, rfl, hle⟩
      exact absurd (hfits index hpolicy) (Nat.not_lt.mpr hle)

/-- There is no other reason to refuse a call. -/
theorem error_cases {e : ContextError} (h : Enrols r call (.error e) r') :
    e = .duplicateContext call.id ∨ ∃ index count, e = .config (.fixedQueueIndex index count) := by
  cases h with
  | duplicate => exact .inl rfl
  | misfit => exact .inr ⟨_, _, rfl⟩

end Enrols

/-! ## Any number of calls -/

/-- The relay is what a record of calls makes of a new one. -/
structure Records (settings : Settings)
    (record : List (Enrolment β σ × Except ContextError (Context β))) (r : Relay β) : Prop where
  settings_eq : r.settings = settings
  contexts_eq : r.contexts = accepted record
  made : ∀ call c, (call, .ok c) ∈ record → c.MadeFor call.id call.source call.destination
  ids_nodup : r.ids.Nodup
  names_eq : r.names = (({} : RingNames).freshAll (requested record)).2
  ringNames_sublist : r.ringNames.Sublist (({} : RingNames).freshAll (requested record)).1

namespace Records

variable {settings : Settings} {record : List (Enrolment β σ × Except ContextError (Context β))}

theorem create (h : Relay.create settings = .ok r) : Records (σ := σ) settings [] r := by
  obtain ⟨_, rfl⟩ := create_eq_ok_iff.mp h
  exact ⟨rfl, rfl, fun _ _ hmem => absurd hmem List.not_mem_nil, List.nodup_nil, rfl, .slnil⟩

/-- The names that are given out next. -/
theorem freshAll_requested (h : Records settings record r)
    {entry : Enrolment β σ × Except ContextError (Context β)} {rings : List (String × UInt16)}
    (hrings : requested [entry] = rings) :
    ({} : RingNames).freshAll (requested (record ++ [entry])) =
      ((({} : RingNames).freshAll (requested record)).1 ++ (r.names.freshAll rings).1,
        (r.names.freshAll rings).2) := by
  rw [requested_append, hrings, RingNames.freshAll_append, ← h.names_eq]

theorem refuse (h : Records settings record r) {e : ContextError} {rings : List (String × UInt16)}
    (hrings : requested [(call, (.error e : Except ContextError (Context β)))] = rings) :
    Records settings (record ++ [(call, .error e)]) (r.withNames (r.names.freshAll rings).2) where
  settings_eq := h.settings_eq
  contexts_eq := by
    have hnone : accepted [(call, (.error e : Except ContextError (Context β)))] = [] := rfl
    rw [accepted_append, hnone, List.append_nil]
    exact h.contexts_eq
  made call' c hmem := by
    rcases List.mem_append.mp hmem with hold | hlast
    · exact h.made call' c hold
    · cases List.mem_singleton.mp hlast
  ids_nodup := h.ids_nodup
  names_eq := by
    rw [h.freshAll_requested hrings]
    rfl
  ringNames_sublist := by
    rw [h.freshAll_requested hrings]
    exact h.ringNames_sublist.trans (List.sublist_append_left _ _)

theorem enrol (h : Records settings record r) (hvalid : settings.validate = .ok ())
    (call : Enrolment β σ) :
    Records settings (record ++ [(call, (r.enrol call).1)]) (r.enrol call).2 := by
  have hout := enrols_enrol (h.settings_eq ▸ hvalid) call
  generalize (r.enrol call).1 = answer at hout
  generalize (r.enrol call).2 = r' at hout
  cases hout with
  | duplicate => exact h.refuse (rfl : requested _ = [])
  | misfit => exact h.refuse rfl
  | @joins hnew _ c hmade hnames =>
      have hrings : requested [(call, (.ok c : Except ContextError (Context β)))] =
          ringsFor call.id := rfl
      have hnext := h.freshAll_requested hrings
      refine ⟨h.settings_eq, ?_, ?_, ?_, ?_, ?_⟩
      · rw [accepted_append, ← h.contexts_eq]
        rfl
      · intro call' c' hmem
        rcases List.mem_append.mp hmem with hold | hlast
        · exact h.made call' c' hold
        · cases List.mem_singleton.mp hlast
          exact hmade
      · rw [ids, List.map_append, List.map_singleton, hmade.id_eq, ← ids]
        refine List.nodup_append.mpr ⟨h.ids_nodup, List.nodup_singleton _, ?_⟩
        rintro id hid _ hmem rfl
        exact hnew (List.mem_singleton.mp hmem ▸ hid)
      · rw [hnext]
      · rw [hnext, ringNames, List.flatMap_append, List.flatMap_singleton, hnames, ← ringNames]
        exact h.ringNames_sublist.append_right _

theorem enrolAll (h : Records settings record r) (hvalid : settings.validate = .ok ())
    (calls : List (Enrolment β σ)) :
    Records settings (record ++ (r.enrolAll calls).1) (r.enrolAll calls).2 := by
  induction calls generalizing record r with
  | nil => simpa [Relay.enrolAll] using h
  | cons call calls ih =>
      have hrest := ih (h.enrol hvalid call)
      rw [List.append_assoc] at hrest
      exact hrest

/-- The ids that are taken are those of earlier calls that were accepted. -/
theorem mem_ids_iff (h : Records settings record r) (id : UInt16) :
    id ∈ r.ids ↔ ∃ call c, (call, .ok c) ∈ record ∧ call.id = id := by
  rw [ids, h.contexts_eq, List.mem_map]
  constructor
  · rintro ⟨c, hc, rfl⟩
    obtain ⟨⟨call, answer⟩, hentry, hanswer⟩ := List.mem_filterMap.mp hc
    cases answer with
    | error e => cases hanswer
    | ok c' =>
        cases hanswer
        exact ⟨call, c, hentry, (h.made call c hentry).id_eq.symm⟩
  · rintro ⟨call, c, hentry, rfl⟩
    exact ⟨c, List.mem_filterMap.mpr ⟨_, hentry, rfl⟩, (h.made call c hentry).id_eq⟩

end Records

section

variable [FrameBuffer β] [Sink σ]

/-- A new relay with accepted settings takes calls in any number, with any ids and ends. Each of
them is refused if an earlier call with its id was accepted, and otherwise if the receive policy
does not fit its source queues, and for no other reason. A refused call leaves the contexts as they
are, and so what the relay does once it is started and what it reports when it is shut down. The
contexts are those that were asked for, in the order of the calls, and differ in their ids. Their
rings and any rings that are named later differ in their names. -/
theorem enrol_refuses {settings : Settings} {new : Relay β} (hnew : create settings = .ok new)
    (calls : List (Enrolment β σ)) (call : Enrolment β σ) :
    let record := (new.enrolAll calls).1
    let r := (new.enrolAll calls).2
    let answer := (r.enrol call).1
    let r' := (r.enrol call).2
    let Taken := ∃ earlier c, (earlier, .ok c) ∈ record ∧ earlier.id = call.id
    record.map Prod.fst = calls ∧
    (answer = .error (.duplicateContext call.id) ↔ Taken) ∧
    (∀ index count, answer = .error (.config (.fixedQueueIndex index count)) ↔
      ¬Taken ∧ settings.rxQueuePolicy = .fixed index ∧ call.source.queues.length = count ∧
        count ≤ index) ∧
    (∀ e, answer = .error e →
      (e = .duplicateContext call.id ∨ ∃ index count, e = .config (.fixedQueueIndex index count)) ∧
      r'.contexts = r.contexts ∧
      ∀ (w : World β σ) (moves : List (Station.Move β)),
        let s := (Station.launch ⟨r, w⟩).run moves
        let s' := (Station.launch ⟨r', w⟩).run moves
        s'.relay.contexts = s.relay.contexts ∧ s'.world = s.world ∧ s'.reports = s.reports) ∧
    r.contexts = accepted record ∧ r.ids.Nodup ∧
    (∀ earlier c, (earlier, .ok c) ∈ record →
      c.MadeFor earlier.id earlier.source earlier.destination) ∧
    r.names = (({} : RingNames).freshAll (requested record)).2 ∧
    r.ringNames.Sublist (({} : RingNames).freshAll (requested record)).1 ∧
    ∀ (names : RingNames) (rings : List (String × UInt16)), (names.freshAll rings).1.Nodup := by
  intro record r answer r' Taken
  have hvalid := (create_eq_ok_iff.mp hnew).1
  have hrecords : Records settings record r := by
    have hall := (Records.create (σ := σ) hnew).enrolAll hvalid calls
    rwa [List.nil_append] at hall
  have hout : Enrols r call answer r' := enrols_enrol (hrecords.settings_eq ▸ hvalid) call
  have htaken : call.id ∈ r.ids ↔ Taken := hrecords.mem_ids_iff call.id
  refine ⟨map_fst_enrolAll new calls, hout.duplicate_iff.trans htaken, ?_, ?_, hrecords.contexts_eq,
    hrecords.ids_nodup, hrecords.made, hrecords.names_eq, hrecords.ringNames_sublist,
    RingNames.nodup_freshAll⟩
  · intro index count
    rw [hout.misfit_iff, htaken, hrecords.settings_eq]
  · intro e herror
    have hrefused : Enrols r call (.error e) r' := herror ▸ hout
    have hsame := hrefused.of_error
    have hcontexts : r'.contexts = r.contexts := by
      rw [hsame]
      rfl
    refine ⟨hrefused.error_cases, hcontexts, ?_⟩
    intro w moves s s'
    have hs' : s' = s.withNames r'.names := by
      have hstart : (⟨r', w⟩ : Station β σ) = (⟨r, w⟩ : Station β σ).withNames r'.names :=
        congrArg (Station.mk · w) hsame
      calc
        s' = ((Station.mk r w).withNames r'.names).launch.run moves := by rw [← hstart]
        _ = s.withNames r'.names := by rw [Station.launch_withNames, Station.run_withNames]
    rw [hs']
    exact ⟨rfl, rfl, s.reports_withNames r'.names⟩

end

/-- Settings that need two source queues. -/
def secondQueue : Settings := { smallRings with rxQueuePolicy := .fixed 1 }

/-- A call between both ports of a world. -/
def between (id : UInt16) (queues : QueueSet) : Enrolment Buffer NullSink where
  id
  source := { interface := 0, queues }
  destination := { interface := 1, queues := .single 0 }
  world := faultyPort

/-- Two source queues. -/
def twoQueues : QueueSet := ⟨[4, 9], by decide, by decide⟩

/-- Three calls, of which the second one is refused for its source queues. -/
def retries : List (Enrolment Buffer NullSink) :=
  [between 7 twoQueues, between 3 (.single 4), between 3 twoQueues]

/-- The id of the refused call is free for the third one, but not for a fourth. -/
theorem enrol_refuses_retries :
    ∃ new : Relay Buffer, create secondQueue = .ok new ∧
      let r := (new.enrolAll retries).2
      r.ids = [7, 3] ∧ r.ringNames =
        ["relay_ring_7_0", "stats_ring_7_1", "relay_ring_3_4", "stats_ring_3_5"] ∧
      ((new.enrolAll (retries.take 1)).2.enrol (between 3 (.single 4))).1 =
        .error (.config (.fixedQueueIndex 1 1)) ∧
      (r.enrol (between 3 twoQueues)).1 = .error (.duplicateContext 3) ∧
      (r.enrol (between 3 twoQueues)).2.contexts = r.contexts := by
  have hnew : create (β := Buffer) secondQueue = .ok { settings := secondQueue } := rfl
  obtain ⟨_, _, hmisfit, _⟩ := enrol_refuses hnew (retries.take 1) (between 3 (.single 4))
  obtain ⟨_, hduplicate, _, hrefused, _⟩ := enrol_refuses hnew retries (between 3 twoQueues)
  have htaken := hduplicate.mpr ⟨between 3 twoQueues, _, List.mem_of_getElem? (i := 2) rfl, rfl⟩
  refine ⟨_, hnew, rfl, by decide, ?_, htaken, (hrefused _ htaken).2.1⟩
  refine (hmisfit 1 1).mpr ⟨?_, rfl, rfl, by decide⟩
  rintro ⟨earlier, c, hmem, hid⟩
  cases List.mem_singleton.mp hmem
  cases hid

end Relay

end EtherRelay
