import EtherRelay.Proofs.Context.Ledger
import EtherRelay.Proofs.Relay.Endings

/-!
# What a shutdown accounts for

A shutdown asks all contexts to stop, and then joins and destroys them one by one. While it is on
its way the workers of all contexts go on, others may ask contexts to stop as well, and the world
changes. `Closing.step` lets all of this happen in any order, except that the caller waits at a join
until the workers of that context have left their loops.

No context is joined before all of them have been asked to stop. A worker that crashed fails the
join of its context, but neither the loop nor the joins behind it end early. `Closing.crashes` lists
for each context the workers that crashed by the end; it decides between the reports of all contexts
and the one error, and which contexts are destroyed. In no case is a buffer left behind.

The invariant `Tracks` goes through the contexts by their positions: those that were joined are
settled for good, and each of the others `Grows` from what it was at first. Every step but a join
lets the contexts grow, and a join settles the first one that was not joined yet.
-/

namespace EtherRelay

variable {β σ : Type}

namespace Relay

/-! ## Interleavings -/

namespace Closing

variable [FrameBuffer β] [Sink σ]

/-- Whether the next thing to do is to join a context whose workers have not left their loops. -/
def waits (k : Closing β σ) : Bool :=
  match k.toStop, k.toJoin with
  | [], index :: _ => k.contexts[index]?.any fun c => !c.isQuiet
  | _, _ => false

/-- What can happen next while a relay is shut down. Contexts are named by their position. -/
inductive Move (β σ : Type) where
  /-- The caller of the shutdown does the next thing, unless it has to wait. -/
  | caller
  | worker (context : Nat) (role : WorkerRole)
  /-- Somebody else asks a context to stop. -/
  | request (context : Nat)
  /-- Anything else happens, and the world is another one from there on. -/
  | elsewhere (world : World β σ)

def step (k : Closing β σ) : Move β σ → Closing β σ
  | .caller => if k.waits then k else k.next
  | .worker context role =>
    match k.contexts[context]? with
    | none => k
    | some c =>
      { k with
        contexts := k.contexts.set context (c.stepWorker role k.world).1
        world := (c.stepWorker role k.world).2 }
  | .request context => k.stop context
  | .elsewhere world => { k with world }

def run (k : Closing β σ) (moves : List (Move β σ)) : Closing β σ := moves.foldl step k

theorem run_append (k : Closing β σ) (moves moves' : List (Move β σ)) :
    k.run (moves ++ moves') = (k.run moves).run moves' := List.foldl_append

/-- Every context has been asked to stop, and was joined. -/
structure IsOver (k : Closing β σ) : Prop where
  toStop_eq : k.toStop = []
  toJoin_eq : k.toJoin = []

/-- The workers of a context that are down now. -/
def crashedAt (k : Closing β σ) (n : Nat) : List WorkerRole :=
  k.contexts[n]?.elim [] Context.crashedRoles

/-- The workers of a context that are down before some moves or at any time in their course, in the
order in which they are waited for. -/
def crashes (k : Closing β σ) (moves : List (Move β σ)) (n : Nat) : List WorkerRole :=
  [WorkerRole.receive, .transmit, .stats].filter fun role =>
    moves.inits.any fun front => ((k.run front).crashedAt n).contains role

theorem mem_crashes {k : Closing β σ} {moves : List (Move β σ)} {n : Nat} {role : WorkerRole} :
    role ∈ k.crashes moves n ↔ ∃ front, front <+: moves ∧ role ∈ (k.run front).crashedAt n := by
  have hrole : role ∈ [WorkerRole.receive, .transmit, .stats] := by cases role <;> decide
  simp [crashes, hrole]

theorem mem_crashes_nil {k : Closing β σ} {n : Nat} {role : WorkerRole} :
    role ∈ k.crashes [] n ↔ role ∈ k.crashedAt n := by
  simp [mem_crashes, run]

theorem mem_crashes_concat {k : Closing β σ} {moves : List (Move β σ)} {move : Move β σ} {n : Nat}
    {role : WorkerRole} :
    role ∈ k.crashes (moves ++ [move]) n ↔
      role ∈ k.crashes moves n ∨ role ∈ (k.run (moves ++ [move])).crashedAt n := by
  rw [mem_crashes, mem_crashes]
  constructor
  · rintro ⟨front, hfront, hrole⟩
    obtain rfl | hfront := List.prefix_concat_iff.mp hfront
    · exact .inr hrole
    · exact .inl ⟨front, hfront, hrole⟩
  · rintro (⟨front, hfront, hrole⟩ | hrole)
    · exact ⟨front, hfront.trans (List.prefix_append _ _), hrole⟩
    · exact ⟨_, List.prefix_refl _, hrole⟩

/-- Contexts are joined only after all of them have been asked to stop. -/
structure InOrder (k : Closing β σ) : Prop where
  /-- While there is one to be asked, none was joined. -/
  running : k.toStop ≠ [] → ∀ c ∈ k.contexts, ∃ workers, c.body = .running workers
  /-- When it comes to the joins, all have been asked. -/
  asked : k.toStop = [] → ∀ c ∈ k.contexts, c.lifecycle.stopRequested = true

end Closing

/-! ## Contexts that are not joined yet -/

/-- What a context is like later, as long as it is not joined. -/
structure Grows (c c' : Context Buffer) : Prop where
  sameEnds : c.SameEnds c'
  runs : (∃ workers, c.Runs workers) → ∃ workers, c'.Runs workers
  keeps : c.Keeps → c'.Keeps
  stopRequested : c.lifecycle.stopRequested = true → c'.lifecycle.stopRequested = true
  crashedRoles : c.crashedRoles ⊆ c'.crashedRoles
  /-- One that is gone and was asked to stop stays as it is. -/
  gone : c.body = .gone → c.lifecycle.stopRequested = true → c' = c

namespace Grows

variable {c c' c'' : Context Buffer}

theorem refl (c : Context Buffer) : Grows c c :=
  ⟨Context.sameEnds_refl c, id, id, id, List.Subset.refl _, fun _ _ => rfl⟩

instance : Std.Refl Grows := ⟨refl⟩

theorem trans (h : Grows c c') (h' : Grows c' c'') : Grows c c'' where
  sameEnds := h.sameEnds.trans h'.sameEnds
  runs hc := h'.runs (h.runs hc)
  keeps hc := h'.keeps (h.keeps hc)
  stopRequested hc := h'.stopRequested (h.stopRequested hc)
  crashedRoles := List.Subset.trans h.crashedRoles h'.crashedRoles
  gone hbody hstop := by
    obtain rfl := h.gone hbody hstop
    exact h'.gone hbody hstop

theorem requestStop (c : Context Buffer) : Grows c c.requestStop where
  sameEnds := ⟨rfl, rfl, rfl, rfl, rfl⟩
  runs := fun ⟨workers, h⟩ => ⟨workers, h.requestStop⟩
  keeps h := h.requestStop
  stopRequested _ := rfl
  crashedRoles := List.Subset.refl _
  gone _ hstop := Context.requestStop_of_stopRequested hstop

theorem stepWorker [Sink σ] (c : Context Buffer) (role : WorkerRole) (w : World Buffer σ) :
    Grows c (c.stepWorker role w).1 where
  sameEnds := Context.sameEnds_stepWorker c role w
  runs := fun ⟨_, h⟩ => h.stepWorker role w
  keeps h := Context.keeps_stepWorker h role w
  stopRequested h := by rwa [Context.lifecycle_stepWorker]
  crashedRoles := by
    cases hbody : c.body with
    | running workers =>
        rw [Context.stepWorker_eq hbody, Context.crashedRoles, hbody]
        intro other hother
        obtain ⟨hmem, hcrashed⟩ := List.mem_filter.mp hother
        exact List.mem_filter.mpr ⟨hmem, workers.crashed_step _ _ _ role hcrashed⟩
    | _ =>
        rw [Context.crashedRoles, hbody]
        exact List.nil_subset _
  gone hbody _ := by rw [Context.stepWorker, hbody]

end Grows

/-! ## The invariant -/

namespace Closing

section

theorem getElem?_concat_cases {α : Type} {xs : List α} {x y : α} {n : Nat}
    (h : (xs ++ [x])[n]? = some y) : xs[n]? = some y ∨ n = xs.length ∧ x = y := by
  rw [List.getElem?_append] at h
  split at h
  · exact .inl h
  · next hn =>
    obtain ⟨hlt, hget⟩ := List.getElem?_eq_some_iff.mp h
    rw [List.length_singleton] at hlt
    exact .inr ⟨by omega, by simpa using hget⟩

theorem crashedAt_of_getElem? {k : Closing β σ} {n : Nat} {c : Context β}
    (h : k.contexts[n]? = some c) : k.crashedAt n = c.crashedRoles := by
  rw [crashedAt, h, Option.elim_some]

theorem crashedAt_subset {k k' : Closing Buffer σ}
    (h : List.Forall₂ Grows k.contexts k'.contexts) (n : Nat) :
    k.crashedAt n ⊆ k'.crashedAt n := by
  cases hc : k.contexts[n]? with
  | none =>
      rw [crashedAt, hc]
      exact List.nil_subset _
  | some c =>
      obtain ⟨c', hc', hgrows⟩ := exists_of_forall₂_getElem? h.flip hc
      rw [crashedAt_of_getElem? hc, crashedAt_of_getElem? hc']
      exact hgrows.crashedRoles

/-- What a shutdown has come to: the contexts that were joined are settled, in order, and all others
go on. `seen` tells which workers were down at any time so far. -/
structure Tracks (contexts : List (Context Buffer)) (seen : Nat → WorkerRole → Prop)
    (endings : List Ending) (k : Closing Buffer σ) : Prop where
  sound : ∀ c ∈ contexts, (∃ workers, c.Runs workers) ∧ c.Keeps
  length_eq : k.contexts.length = contexts.length
  count : endings.length + k.toJoin.length = contexts.length
  toJoin_eq : k.toJoin = List.range' endings.length k.toJoin.length
  result_eq : k.result = collect (endings.map (·.outcome))
  early : k.toStop ≠ [] → endings = []
  asked : ∀ (n : Nat) (c : Context Buffer), k.contexts[n]? = some c →
    c.lifecycle.stopRequested = true ∨ n ∈ k.toStop
  ended : ∀ (n : Nat) (e : Ending), endings[n]? = some e →
    contexts[n]? = some e.context ∧ k.contexts[n]? = some e.after ∧ e.Sound
  goes : ∀ (n : Nat) (c c' : Context Buffer), endings.length ≤ n → contexts[n]? = some c →
    k.contexts[n]? = some c' → Grows c c'
  seen_iff : ∀ (n : Nat) (role : WorkerRole),
    seen n role ↔ role ∈ endings[n]?.elim (k.crashedAt n) (·.crashed)

namespace Tracks

variable {contexts : List (Context Buffer)} {seen seen' : Nat → WorkerRole → Prop}
variable {endings : List Ending} {k k' : Closing Buffer σ}

theorem create (hsound : ∀ c ∈ contexts, (∃ workers, c.Runs workers) ∧ c.Keeps)
    (w : World Buffer σ) :
    Tracks contexts (fun n role => role ∈ (Closing.create contexts w).crashedAt n) []
      (Closing.create contexts w) where
  sound := hsound
  length_eq := rfl
  count := by simp [Closing.create]
  toJoin_eq := by simp [Closing.create, List.range_eq_range']
  result_eq := rfl
  early _ := rfl
  asked n c hc := .inr (List.mem_range.mpr (List.getElem?_eq_some_iff.mp hc).1)
  ended n e he := by cases he
  goes n c c' _ hc hc' := by
    cases hc.symm.trans hc'
    exact .refl c
  seen_iff _ _ := Iff.rfl

theorem of_seen (h : Tracks contexts seen endings k)
    (hseen : ∀ (n : Nat) (role : WorkerRole), seen' n role ↔ seen n role) :
    Tracks contexts seen' endings k :=
  { h with seen_iff := fun n role => (hseen n role).trans (h.seen_iff n role) }

/-- A context that was joined and asked to stop stays as it is. -/
theorem getElem?_after (h : Tracks contexts seen endings k)
    (hcontexts : List.Forall₂ Grows k.contexts k'.contexts) {n : Nat} {e : Ending}
    (he : endings[n]? = some e) : k'.contexts[n]? = some e.after := by
  obtain ⟨_, hafter, hsound⟩ := h.ended n e he
  obtain ⟨c', hc', hgrows⟩ := exists_of_forall₂_getElem? hcontexts.flip hafter
  rw [hc', hgrows.gone hsound.settled.emptied.body_eq hsound.stopRequested]

/-- Every step but a join leaves the settled contexts as they are and lets the others go on. -/
theorem grows (h : Tracks contexts seen endings k)
    (hcontexts : List.Forall₂ Grows k.contexts k'.contexts) (hjoin : k'.toJoin = k.toJoin)
    (hresult : k'.result = k.result) (hearly : k'.toStop ≠ [] → k.toStop ≠ [])
    (hasked : ∀ (n : Nat) (c : Context Buffer), k'.contexts[n]? = some c →
      c.lifecycle.stopRequested = true ∨ n ∈ k'.toStop) :
    Tracks contexts (fun n role => seen n role ∨ role ∈ k'.crashedAt n) endings k' where
  sound := h.sound
  length_eq := hcontexts.length_eq.symm.trans h.length_eq
  count := hjoin ▸ h.count
  toJoin_eq := hjoin ▸ h.toJoin_eq
  result_eq := hresult.trans h.result_eq
  early hstop := h.early (hearly hstop)
  asked := hasked
  ended n e he := by
    obtain ⟨hc, hafter, hsound⟩ := h.ended n e he
    exact ⟨hc, h.getElem?_after hcontexts he, hsound⟩
  goes n c c'' hn hc hc'' := by
    obtain ⟨c', hc', hgrows⟩ := exists_of_forall₂_getElem? hcontexts hc''
    exact (h.goes n c c' hn hc hc').trans hgrows
  seen_iff n role := by
    rw [h.seen_iff n role]
    cases he : endings[n]? with
    | some e =>
        obtain ⟨_, _, hsound⟩ := h.ended n e he
        rw [crashedAt_of_getElem? (h.getElem?_after hcontexts he), hsound.crashedRoles_after]
        simp
    | none =>
        exact or_iff_right_of_imp fun hrole => crashedAt_subset hcontexts n hrole

/-- The same where no context was asked to stop by the caller. -/
theorem grows_of_toStop (h : Tracks contexts seen endings k)
    (hcontexts : List.Forall₂ Grows k.contexts k'.contexts) (hstop : k'.toStop = k.toStop)
    (hjoin : k'.toJoin = k.toJoin) (hresult : k'.result = k.result) :
    Tracks contexts (fun n role => seen n role ∨ role ∈ k'.crashedAt n) endings k' := by
  refine h.grows hcontexts hjoin hresult (fun hne => hstop ▸ hne) ?_
  intro n c' hc'
  obtain ⟨c, hc, hgrows⟩ := exists_of_forall₂_getElem? hcontexts hc'
  rw [hstop]
  exact (h.asked n c hc).imp_left hgrows.stopRequested

theorem asks (h : Tracks contexts seen endings k) {index : Nat} {toStop : List Nat}
    (hstop : k.toStop = index :: toStop) :
    Tracks contexts
      (fun n role => seen n role ∨ role ∈ ({ k with toStop }.stop index).crashedAt n) endings
      ({ k with toStop }.stop index) := by
  refine h.grows (forall₂_modify Grows.requestStop k.contexts index) rfl rfl ?_ ?_
  · intro _
    rw [hstop]
    exact List.cons_ne_nil _ _
  · intro n c' hc'
    rw [stop, List.getElem?_modify] at hc'
    obtain ⟨c, hc, rfl⟩ := Option.map_eq_some_iff.mp hc'
    by_cases hn : index = n
    · rw [if_pos hn]
      exact .inl rfl
    · rw [if_neg hn]
      refine (h.asked n c hc).imp_right fun hmem => ?_
      rw [hstop] at hmem
      exact (List.mem_cons.mp hmem).resolve_left (Ne.symm hn)

/-- The caller waits for nobody whose workers have left their loops. -/
theorem isQuiet_of_waits {index : Nat} {toJoin : List Nat} {c : Context β} {k : Closing β σ}
    (hstop : k.toStop = []) (hjoin : k.toJoin = index :: toJoin)
    (hc : k.contexts[index]? = some c) (hwaits : k.waits = false) : c.isQuiet = true := by
  simpa [waits, hstop, hjoin, hc] using hwaits

/-- Where all have been asked to stop, every context stops. -/
theorem stopRequested (h : Tracks contexts seen endings k) (hstop : k.toStop = []) {n : Nat}
    {c : Context Buffer} (hc : k.contexts[n]? = some c) : c.lifecycle.stopRequested = true := by
  refine (h.asked n c hc).resolve_right ?_
  rw [hstop]
  exact List.not_mem_nil

/-- The next context to be joined is the first that was not joined yet, and still runs. -/
theorem exists_joining (h : Tracks contexts seen endings k) (hstop : k.toStop = []) {index : Nat}
    {toJoin : List Nat} (hjoin : k.toJoin = index :: toJoin) :
    index = endings.length ∧ toJoin = List.range' (endings.length + 1) toJoin.length ∧
      ∃ c c' workers, contexts[index]? = some c ∧ k.contexts[index]? = some c' ∧
        c.SameEnds c' ∧ c'.Runs workers ∧ c'.Keeps ∧ c'.lifecycle.stopRequested = true := by
  have hcount := h.count
  have hindices := h.toJoin_eq
  rw [hjoin, List.length_cons] at hcount
  rw [hjoin, List.length_cons, List.range'_succ] at hindices
  obtain ⟨rfl, hrest⟩ := List.cons_eq_cons.mp hindices
  obtain ⟨c, hc⟩ : ∃ c, contexts[endings.length]? = some c :=
    ⟨_, List.getElem?_eq_getElem (by omega)⟩
  obtain ⟨c', hc'⟩ : ∃ c', k.contexts[endings.length]? = some c' :=
    ⟨_, List.getElem?_eq_getElem (by rw [h.length_eq]; omega)⟩
  have hgrows := h.goes _ c c' (Nat.le_refl _) hc hc'
  obtain ⟨hruns, hkeeps⟩ := h.sound c (List.mem_of_getElem? hc)
  obtain ⟨workers, hworkers⟩ := hgrows.runs hruns
  exact ⟨rfl, hrest, c, c', workers, hc, hc', hgrows.sameEnds, hworkers, hgrows.keeps hkeeps,
    h.stopRequested hstop hc'⟩

variable [Sink σ]

/-- A join takes that context to its end. -/
theorem exists_ending (h : Tracks contexts seen endings k) (hstop : k.toStop = []) {index : Nat}
    {toJoin : List Nat} (hjoin : k.toJoin = index :: toJoin) (hwaits : k.waits = false) :
    ∃ e : Ending, e.Sound ∧ contexts[endings.length]? = some e.context ∧
      k.crashedAt endings.length = e.crashed ∧
      k.next.contexts = k.contexts.set endings.length e.after ∧ k.next.toStop = [] ∧
      k.next.toJoin = List.range' (endings.length + 1) toJoin.length ∧
      k.next.result = collect ((endings ++ [e]).map (·.outcome)) := by
  obtain ⟨rfl, hrest, c₀, c, workers, hc₀, hc, hends, hworkers, hkeeps, hasked⟩ :=
    h.exists_joining hstop hjoin
  obtain ⟨outcome, c', w', hwound, hsettled, hstop'⟩ :=
    windDown_settled hworkers hkeeps hasked (isQuiet_of_waits hstop hjoin hc hwaits) k.world
  obtain ⟨hset, _, hstopped, htoJoin, hresult⟩ := next_of_toJoin hstop hjoin hc hwound
  refine ⟨⟨c₀, c.crashedRoles, outcome, c'⟩, ⟨hsettled.of_sameEnds hends, ⟨workers, ?_⟩, hstop'⟩,
    hc₀, crashedAt_of_getElem? hc, hset, hstopped, htoJoin.trans hrest, ?_⟩
  · dsimp only
    rw [Context.crashedRoles, hworkers.body_eq]
  · rw [hresult _ h.result_eq, List.map_append, List.map_singleton]

omit [Sink σ] in
/-- What is on record of the context that is joined is what is seen of it before. -/
theorem crashed_concat {e d : Ending} (hcrashed : k.crashedAt endings.length = e.crashed) {n : Nat}
    (hd : (endings ++ [e])[n]? = some d) :
    endings[n]?.elim (k.crashedAt n) (·.crashed) = d.crashed := by
  obtain hd | ⟨rfl, rfl⟩ := getElem?_concat_cases hd
  · rw [hd, Option.elim_some]
  · rw [List.getElem?_eq_none (Nat.le_refl _), Option.elim_none, hcrashed]

omit [Sink σ] in
/-- The endings so far stand after a join, and there is one more. -/
theorem ended_concat (h : Tracks contexts seen endings k) {e : Ending} (he : e.Sound)
    (hcontext : contexts[endings.length]? = some e.context)
    (hset : k'.contexts = k.contexts.set endings.length e.after) :
    ∀ (n : Nat) (d : Ending), (endings ++ [e])[n]? = some d →
      contexts[n]? = some d.context ∧ k'.contexts[n]? = some d.after ∧ d.Sound := by
  have hlt : endings.length < k.contexts.length := by
    rw [h.length_eq]
    exact (List.getElem?_eq_some_iff.mp hcontext).1
  intro n d hd
  rw [hset]
  obtain hd | ⟨rfl, rfl⟩ := getElem?_concat_cases hd
  · have hn : n < endings.length := (List.getElem?_eq_some_iff.mp hd).1
    rw [List.getElem?_set_ne (Nat.ne_of_gt hn)]
    exact h.ended n d hd
  · exact ⟨hcontext, List.getElem?_set_self hlt, he⟩

/-- A join settles one more context, and leaves all others alone. -/
theorem joins (h : Tracks contexts seen endings k) (hstop : k.toStop = []) {index : Nat}
    {toJoin : List Nat} (hjoin : k.toJoin = index :: toJoin) (hwaits : k.waits = false) :
    ∃ e, Tracks contexts (fun n role => seen n role ∨ role ∈ k.next.crashedAt n) (endings ++ [e])
      k.next := by
  obtain ⟨e, he, hcontext, hcrashed, hset, hstopped, htoJoin, hresult⟩ :=
    h.exists_ending hstop hjoin hwaits
  have hcount := h.count
  rw [hjoin, List.length_cons] at hcount
  have hlength : (endings ++ [e]).length = endings.length + 1 := by
    rw [List.length_append, List.length_singleton]
  have hothers : ∀ n, n ≠ endings.length → k.next.contexts[n]? = k.contexts[n]? := by
    intro n hn
    rw [hset, List.getElem?_set_ne (Ne.symm hn)]
  have hended := h.ended_concat he hcontext hset
  have hjoined : k.next.contexts[endings.length]? = some e.after :=
    (hended _ e List.getElem?_concat_length).2.1
  refine ⟨e, h.sound, ?_, ?_, ?_, hresult, fun hne => absurd hstopped hne, ?_, hended, ?_, ?_⟩
  · rw [hset, List.length_set, h.length_eq]
  · rw [htoJoin, hlength, List.length_range']
    omega
  · rw [htoJoin, hlength, List.length_range']
  · intro n d hd
    by_cases hn : n = endings.length
    · subst hn
      cases hjoined.symm.trans hd
      exact .inl he.stopRequested
    · exact .inl (h.stopRequested hstop ((hothers n hn).symm.trans hd))
  · intro n d d' hn hd hd'
    rw [hothers n (by omega)] at hd'
    exact h.goes n d d' (by omega) hd hd'
  · intro n role
    rw [h.seen_iff n role]
    cases hd : (endings ++ [e])[n]? with
    | some d =>
        -- Once a context is joined none of its workers is there to be down.
        obtain ⟨_, hafter, hd'⟩ := hended n d hd
        rw [crashedAt_of_getElem? hafter, hd'.crashedRoles_after, Option.elim_some,
          crashed_concat hcrashed hd]
        exact or_iff_left List.not_mem_nil
    | none =>
        have hn := List.getElem?_eq_none_iff.mp hd
        rw [List.getElem?_eq_none (by omega), Option.elim_none, Option.elim_none, crashedAt,
          crashedAt, hothers n (by omega), or_self]

/-- Whatever happens next, all contexts are accounted for. -/
theorem step (h : Tracks contexts seen endings k) (move : Move Buffer σ) :
    ∃ endings', Tracks contexts (fun n role => seen n role ∨ role ∈ (k.step move).crashedAt n)
      endings' (k.step move) := by
  have hstays : Tracks contexts (fun n role => seen n role ∨ role ∈ k.crashedAt n) endings k :=
    h.grows_of_toStop (List.forall₂_refl _) rfl rfl rfl
  cases move with
  | caller =>
      rw [Closing.step]
      split
      · exact ⟨endings, hstays⟩
      · next hwaits =>
        cases hstop : k.toStop with
        | cons index toStop =>
            rw [next_of_toStop hstop]
            exact ⟨endings, h.asks hstop⟩
        | nil =>
            cases hjoin : k.toJoin with
            | cons index toJoin =>
                obtain ⟨e, he⟩ := h.joins hstop hjoin (Bool.eq_false_of_not_eq_true hwaits)
                exact ⟨endings ++ [e], he⟩
            | nil =>
                rw [next, hstop, hjoin]
                exact ⟨endings, hstays⟩
  | worker context role =>
      rw [Closing.step]
      split
      · exact ⟨endings, hstays⟩
      · next c hc =>
        exact ⟨endings, h.grows_of_toStop (forall₂_set hc (.stepWorker c role k.world)) rfl rfl rfl⟩
  | request context =>
      exact ⟨endings, h.grows_of_toStop (forall₂_modify Grows.requestStop k.contexts context) rfl
        rfl rfl⟩
  | elsewhere world => exact ⟨endings, h.grows_of_toStop (List.forall₂_refl _) rfl rfl rfl⟩

/-- What is seen in a run is what crashed in its course. -/
theorem run (hsound : ∀ c ∈ contexts, (∃ workers, c.Runs workers) ∧ c.Keeps)
    (w : World Buffer σ) (moves : List (Move Buffer σ)) :
    ∃ endings, Tracks contexts
      (fun n role => role ∈ (Closing.create contexts w).crashes moves n) endings
      ((Closing.create contexts w).run moves) := by
  induction moves using List.reverseRecOn with
  | nil => exact ⟨[], (create hsound w).of_seen fun _ _ => mem_crashes_nil⟩
  | append_singleton moves move ih =>
      obtain ⟨endings, h⟩ := ih
      obtain ⟨endings', h'⟩ := h.step move
      rw [run_append]
      refine ⟨endings', h'.of_seen fun n role => ?_⟩
      rw [mem_crashes_concat, run_append]
      rfl

end Tracks

end

end Closing

/-! ## What is accounted for -/

namespace Closing

/-- What has become of the contexts at the end, by the workers of each that crashed. -/
structure Accounts (contexts : List (Context Buffer)) (crashes : Nat → List WorkerRole)
    (k : Closing Buffer σ) : Prop where
  /-- Without a crash there is a report on each context, in order. -/
  result_eq_ok_iff : (∃ reports, k.result = .ok reports ∧ List.Forall₂ Reports contexts reports) ↔
    ∀ n < contexts.length, crashes n = []
  /-- Otherwise the first context with a crashed worker is named, and its first such worker. -/
  result_eq_error : ∀ (n : Nat) (c : Context Buffer) (role : WorkerRole) (rest : List WorkerRole),
    contexts[n]? = some c → crashes n = role :: rest → (∀ m < n, crashes m = []) →
      k.result = .error (.workerPanicked c.id role)
  length_eq : k.contexts.length = contexts.length
  /-- A context without a crashed worker is destroyed in either case. -/
  destroyed : ∀ (n : Nat) (c : Context Buffer), k.contexts[n]? = some c → crashes n = [] →
    c.state = .destroyed
  /-- Every context was joined. -/
  joined : ∀ c ∈ k.contexts, c.state = .drained ∨ c.state = .destroyed
  emptied : ∀ c ∈ k.contexts, c.Emptied

namespace Tracks

variable {contexts : List (Context Buffer)} {seen : Nat → WorkerRole → Prop}
variable {endings : List Ending} {k : Closing Buffer σ}

theorem inOrder (h : Tracks contexts seen endings k) : k.InOrder where
  running hstop c' hmem := by
    obtain ⟨n, hn, rfl⟩ := List.mem_iff_getElem.mp hmem
    have hlt : n < contexts.length := h.length_eq ▸ hn
    have hgrows := h.goes n contexts[n] k.contexts[n] (by rw [h.early hstop]; exact Nat.zero_le n)
      (List.getElem?_eq_getElem hlt) (List.getElem?_eq_getElem hn)
    obtain ⟨workers, hworkers⟩ := hgrows.runs (h.sound _ (List.getElem_mem hlt)).1
    exact ⟨workers, hworkers.body_eq⟩
  asked hstop c' hmem := by
    obtain ⟨n, hn⟩ := List.mem_iff_getElem?.mp hmem
    exact h.stopRequested hstop hn

/-- At the end every context is settled. -/
theorem map_endings (h : Tracks contexts seen endings k) (hover : k.IsOver) :
    endings.map (·.context) = contexts ∧ endings.map (·.after) = k.contexts ∧
      ∀ e ∈ endings, e.Sound := by
  have hlength : endings.length = contexts.length := by
    have hcount := h.count
    rwa [hover.toJoin_eq, List.length_nil, Nat.add_zero] at hcount
  refine ⟨?_, ?_, ?_⟩
  · refine List.ext_getElem (by rw [List.length_map, hlength]) fun n hn hn' => ?_
    rw [List.length_map] at hn
    obtain ⟨hcontext, _⟩ := h.ended n endings[n] (List.getElem?_eq_getElem hn)
    rw [List.getElem_map, ← (List.getElem?_eq_some_iff.mp hcontext).2]
  · refine List.ext_getElem (by rw [List.length_map, hlength, h.length_eq]) fun n hn hn' => ?_
    rw [List.length_map] at hn
    obtain ⟨_, hafter, _⟩ := h.ended n endings[n] (List.getElem?_eq_getElem hn)
    rw [List.getElem_map, ← (List.getElem?_eq_some_iff.mp hafter).2]
  · intro e he
    obtain ⟨n, hn⟩ := List.mem_iff_getElem?.mp he
    exact (h.ended n e hn).2.2

variable [Sink σ]

theorem crashes_eq {start : Closing Buffer σ} {moves : List (Move Buffer σ)}
    (h : Tracks contexts (fun n role => role ∈ start.crashes moves n) endings k) {n : Nat}
    {e : Ending} (he : endings[n]? = some e) : start.crashes moves n = e.crashed := by
  obtain ⟨_, _, hsound⟩ := h.ended n e he
  obtain ⟨workers, hworkers⟩ := hsound.crashed_eq
  rw [hworkers, crashes, Workers.crashedRoles]
  refine List.filter_congr fun role hrole => ?_
  have hseen := h.seen_iff n role
  rw [he, Option.elim_some, hworkers, crashes, Workers.crashedRoles, List.mem_filter,
    List.mem_filter] at hseen
  exact Bool.eq_iff_iff.mpr ((and_congr_right_iff.mp hseen) hrole)

/-- At the end of a shutdown every context is accounted for. -/
theorem accounts {start : Closing Buffer σ} {moves : List (Move Buffer σ)}
    (h : Tracks contexts (fun n role => role ∈ start.crashes moves n) endings k)
    (hover : k.IsOver) : Accounts contexts (start.crashes moves) k := by
  obtain ⟨hcontexts, hafter, hall⟩ := h.map_endings hover
  have hsettled : ∀ e ∈ endings, Settled e.context e.crashed e.outcome e.after :=
    fun e he => (hall e he).settled
  have hending : ∀ (n : Nat) (c : Context Buffer), contexts[n]? = some c →
      ∃ e, endings[n]? = some e ∧ e.context = c := by
    intro n c hc
    rwa [← hcontexts, List.getElem?_map, Option.map_eq_some_iff] at hc
  refine ⟨?_, ?_, ?_, ?_, ?_, ?_⟩
  · have hiff := collect_ok_iff hsettled
    rw [hcontexts, List.forall_mem_map] at hiff
    rw [h.result_eq, hiff]
    constructor
    · intro hsane n hn
      obtain ⟨e, he, _⟩ := hending n _ (List.getElem?_eq_getElem hn)
      rw [h.crashes_eq he]
      exact hsane e (List.mem_of_getElem? he)
    · intro hsane e he
      obtain ⟨n, hn⟩ := List.mem_iff_getElem?.mp he
      rw [← h.crashes_eq hn]
      exact hsane n (List.getElem?_eq_some_iff.mp (h.ended n e hn).1).1
  · intro n c role rest hc hcrashed hfirst
    obtain ⟨e, he, rfl⟩ := hending n c hc
    rw [h.crashes_eq he] at hcrashed
    rw [h.result_eq]
    refine collect_error hsettled he hcrashed fun m hm => ?_
    have hlt : m < endings.length := hm.trans (List.getElem?_eq_some_iff.mp he).1
    rw [List.getElem?_map, List.getElem?_eq_getElem hlt, Option.map_some,
      ← h.crashes_eq (List.getElem?_eq_getElem hlt), hfirst m hm]
  · exact h.length_eq
  · intro n c' hc' hnone
    rw [← hafter, List.getElem?_map, Option.map_eq_some_iff] at hc'
    obtain ⟨e, he, rfl⟩ := hc'
    have hdestroyed := hsettled e (List.mem_of_getElem? he)
    rw [← h.crashes_eq he, hnone] at hdestroyed
    exact hdestroyed.destroyed
  · rw [← hafter, List.forall_mem_map]
    exact fun e he => (hsettled e he).joined
  · rw [← hafter, List.forall_mem_map]
    exact fun e he => (hsettled e he).emptied

end Tracks

end Closing

/-! ## A shutdown comes to its end -/

namespace Closing

section

variable [FrameBuffer β] [Sink σ] {k : Closing β σ}

theorem toStop_join (k : Closing β σ) (index : Nat) :
    (k.join index).toStop = k.toStop ∧ (k.join index).toJoin = k.toJoin := by
  rw [join]
  split
  · exact ⟨rfl, rfl⟩
  · dsimp only
    split <;> exact ⟨rfl, rfl⟩

theorem length_next (k : Closing β σ) :
    k.next.toStop.length + k.next.toJoin.length = k.toStop.length + k.toJoin.length - 1 := by
  cases hstop : k.toStop with
  | cons index toStop =>
      rw [next_of_toStop hstop]
      simp only [stop, List.length_cons]
      omega
  | nil =>
      cases hjoin : k.toJoin with
      | cons index toJoin =>
          obtain ⟨hstopped, hjoined⟩ := toStop_join { k with toJoin } index
          simp only [next, hstop, hjoin] at hstopped hjoined ⊢
          rw [hstopped, hjoined, List.length_nil, List.length_cons, Nat.zero_add, Nat.zero_add,
            Nat.add_sub_cancel]
      | nil => simp only [next, hstop, hjoin, List.length_nil]

theorem length_proceed (n : Nat) (k : Closing β σ) :
    (k.proceed n).toStop.length + (k.proceed n).toJoin.length =
      k.toStop.length + k.toJoin.length - n := by
  induction n generalizing k with
  | zero => rfl
  | succ n ih =>
      rw [proceed, ih, length_next]
      omega

theorem isOver_finish (k : Closing β σ) : k.finish.IsOver := by
  have hleft := length_proceed (k.toStop.length + k.toJoin.length) k
  rw [Nat.sub_self, Nat.add_eq_zero_iff, List.length_eq_zero_iff, List.length_eq_zero_iff] at hleft
  exact ⟨hleft.1, hleft.2⟩

/-- The actions of one worker, with nothing between them. -/
theorem run_acts {index n : Nat} {role : WorkerRole} {c c' : Context β} {w' : World β σ}
    (hc : k.contexts[index]? = some c) (h : Context.Acts role c k.world n c' w') :
    k.run (List.replicate n (.worker index role)) =
      { k with contexts := k.contexts.set index c', world := w' } := by
  obtain ⟨hindex, hget⟩ := List.getElem?_eq_some_iff.mp hc
  induction h with
  | none =>
      rw [← hget, List.set_getElem_self]
      rfl
  | @next n c' w' _ ih =>
      rw [List.replicate_succ', run_append, ih]
      simp [run, step, hindex]

/-- The workers of one context finish, and nothing happens between their actions. -/
theorem exists_run_finishWorkers {index : Nat} {c : Context β}
    (hc : k.contexts[index]? = some c) :
    ∃ moves, k.run moves =
      { k with
        contexts := k.contexts.set index (c.finishWorkers k.world).1
        world := (c.finishWorkers k.world).2 } := by
  obtain ⟨c₁, w₁, c₂, w₂, n₁, n₂, n₃, _, h₁, h₂, h₃⟩ := Context.finishWorkers_acts c k.world
  have hindex := (List.getElem?_eq_some_iff.mp hc).1
  have hreceive := run_acts hc h₁
  have htransmit := run_acts (k := { k with contexts := k.contexts.set index c₁, world := w₁ })
    (List.getElem?_set_self hindex) h₂
  rw [List.set_set] at htransmit
  have hstats := run_acts (k := { k with contexts := k.contexts.set index c₂, world := w₂ })
    (List.getElem?_set_self hindex) h₃
  rw [List.set_set] at hstats
  refine ⟨List.replicate n₁ (.worker index .receive) ++
    (List.replicate n₂ (.worker index .transmit) ++ List.replicate n₃ (.worker index .stats)), ?_⟩
  rw [run_append, run_append, hreceive, htransmit, hstats]

end

variable [Sink σ] {contexts : List (Context Buffer)} {k : Closing Buffer σ}

/-- The caller can always go on after some actions of workers. -/
theorem Tracks.exists_run_next {seen : Nat → WorkerRole → Prop} {endings : List Ending}
    (h : Tracks contexts seen endings k) : ∃ moves, k.run moves = k.next := by
  cases hstop : k.toStop with
  | cons index toStop =>
      refine ⟨[.caller], ?_⟩
      simp [Closing.run, Closing.step, waits, hstop]
  | nil =>
      cases hjoin : k.toJoin with
      | nil => exact ⟨[], by rw [next, hstop, hjoin]; rfl⟩
      | cons index toJoin =>
          obtain ⟨_, _, _, c, workers, _, hc, _, hworkers, _, hasked⟩ :=
            h.exists_joining hstop hjoin
          obtain ⟨moves, hfinished⟩ := exists_run_finishWorkers hc
          obtain ⟨hindex, rfl⟩ := List.getElem?_eq_some_iff.mp hc
          have hquiet := hworkers.isQuiet_finishWorkers hasked k.world
          have hsame := windDown_finishWorkers hworkers hasked k.world
          refine ⟨moves ++ [.caller], ?_⟩
          rw [run_append, hfinished]
          simp [Closing.run, Closing.step, waits, next, join, hstop, hjoin, hindex, hquiet, hsame]

/-- Whatever happened so far and will happen, the shutdown is on its way. -/
theorem Tracks.exists_run {seen : Nat → WorkerRole → Prop} {endings : List Ending}
    (h : Tracks contexts seen endings k) (moves : List (Move Buffer σ)) :
    ∃ seen' endings', Tracks contexts seen' endings' (k.run moves) := by
  induction moves generalizing k seen endings with
  | nil => exact ⟨seen, endings, h⟩
  | cons move moves ih =>
      obtain ⟨endings', h'⟩ := h.step move
      exact ih h'

/-- Every state of the shutdown by itself comes about in a run. -/
theorem Tracks.exists_run_proceed {seen : Nat → WorkerRole → Prop} {endings : List Ending}
    (h : Tracks contexts seen endings k) (n : Nat) : ∃ moves, k.run moves = k.proceed n := by
  induction n generalizing k seen endings with
  | zero => exact ⟨[], rfl⟩
  | succ n ih =>
      obtain ⟨moves, hnext⟩ := h.exists_run_next
      obtain ⟨seen', endings', h'⟩ := h.exists_run moves
      obtain ⟨moves', hrest⟩ := ih h'
      exact ⟨moves ++ moves', by rw [run_append, hrest, hnext, proceed]⟩

end Closing

/-! ## Shutdowns -/

/-- A shutdown accounts for every context, however the workers and the world go on meanwhile. It has
asked all contexts to stop before it joins the first, it always comes to an end, and has joined all
of them by then. If no worker crashed, it answers with a report on each context, in order.
Otherwise it names the first context with a crashed worker, and the first of its workers that
crashed. The contexts without one are destroyed in any case, and no buffer is left in the rings or
the hands of any context. Where nobody interferes, it goes through the same states one by one. -/
theorem shutdown_accounts [Sink σ] {r : Relay Buffer} (h : Ran σ r) (hphase : r.phase = .running)
    (w : World Buffer σ) :
    let start := Closing.create r.contexts w
    (∀ moves, (start.run moves).InOrder ∧
      ((start.run moves).IsOver →
        Closing.Accounts r.contexts (start.crashes moves) (start.run moves)) ∧
      ∃ more, (start.run (moves ++ more)).IsOver) ∧
    (∀ n, ∃ moves, start.run moves = start.proceed n) ∧ start.finish.IsOver ∧
    ∃ w', r.shutdown w =
        some (start.finish.result, { r with contexts := start.finish.contexts, phase := .over },
          w') ∧
      (w' = start.finish.world ∨ ∃ reports, start.finish.result = .ok reports ∧
        w' = start.finish.world.note (.relayShutDown reports.length)) := by
  intro start
  have hsound : ∀ c ∈ r.contexts, (∃ workers, c.Runs workers) ∧ c.Keeps := by
    intro c hc
    have hfits := h.fits c hc
    rw [hphase] at hfits
    exact ⟨hfits, h.keeps c hc⟩
  refine ⟨?_, ?_, start.isOver_finish, shutdown_running hphase w⟩
  · intro moves
    obtain ⟨endings, htracks⟩ := Closing.Tracks.run hsound w moves
    refine ⟨htracks.inOrder, htracks.accounts, ?_⟩
    obtain ⟨more, hmore⟩ := htracks.exists_run_proceed
      ((start.run moves).toStop.length + (start.run moves).toJoin.length)
    refine ⟨more, ?_⟩
    rw [Closing.run_append, hmore]
    exact Closing.isOver_finish _
  · exact (Closing.Tracks.create hsound w).exists_run_proceed

/-- A running relay with two contexts. The receive worker of the first one is about to crash. -/
def firstCrashes : Relay Buffer :=
  let r := (add { settings := smallRings } 1 { interface := 0, queues := .single 0 }
    { interface := 1, queues := .single 0 } faultyPort).2
  let r := (r.add 2 { interface := 1, queues := .single 0 }
    { interface := 0, queues := .single 0 } faultyPort).2
  let r := ((r.start faultyPort).map Prod.fst).getD r
  { r with contexts := r.contexts.modify 0 fun c => (c.stepWorker .receive faultyPort).1 }

theorem ran_firstCrashes : Ran NullSink firstCrashes := by
  have hcreated : Ran NullSink ({ settings := smallRings } : Relay Buffer) :=
    .created smallRings rfl
  have hfirst := hcreated.added rfl 1 { interface := 0, queues := .single 0 }
    { interface := 1, queues := .single 0 } faultyPort
  have hsecond := hfirst.added rfl 2 { interface := 1, queues := .single 0 }
    { interface := 0, queues := .single 0 } faultyPort
  have hstarted := hsecond.started (w := faultyPort) rfl
  exact hstarted.acted 0 rfl .receive faultyPort

/-- The caller comes to the first join before any worker has seen that it is to stop. The workers of
the second context leave their loops while it waits there. -/
def lateWorkers : List (Closing.Move Buffer NullSink) :=
  [.caller, .caller, .caller, .worker 1 .receive, .worker 1 .stats, .worker 0 .receive,
    .worker 0 .stats, .worker 1 .transmit, .worker 0 .transmit, .caller, .caller]

/-- The statement for that relay: the crash is what it answers with, and the other context is
destroyed all the same. -/
theorem shutdown_accounts_firstCrashes :
    let start := Closing.create firstCrashes.contexts faultyPort
    Ran NullSink firstCrashes ∧ firstCrashes.phase = .running ∧
      (start.run (lateWorkers.take 3)).waits = true ∧ (start.run lateWorkers).IsOver ∧
      start.crashes lateWorkers 0 = [.receive] ∧ start.crashes lateWorkers 1 = [] ∧
      (start.run lateWorkers).result = .error (.workerPanicked 1 .receive) ∧
      (∃ c, (start.run lateWorkers).contexts[1]? = some c ∧ c.state = .destroyed) ∧
      ∀ c ∈ (start.run lateWorkers).contexts, c.Emptied := by
  intro start
  have hphase : firstCrashes.phase = .running := by decide +kernel
  have hwaits : (start.run (lateWorkers.take 3)).waits = true := by decide +kernel
  have hover : (start.run lateWorkers).IsOver := ⟨by decide +kernel, by decide +kernel⟩
  have hfirst : start.crashes lateWorkers 0 = [.receive] := by decide +kernel
  have hsecond : start.crashes lateWorkers 1 = [] := by decide +kernel
  have hids : firstCrashes.contexts[0]?.map (·.id) = some 1 := by decide +kernel
  obtain ⟨c, hc, hid⟩ := Option.map_eq_some_iff.mp hids
  obtain ⟨hruns, _⟩ := shutdown_accounts ran_firstCrashes hphase faultyPort
  obtain ⟨_, haccounts, _⟩ := hruns lateWorkers
  have hall : Closing.Accounts firstCrashes.contexts (start.crashes lateWorkers)
      (start.run lateWorkers) := haccounts hover
  clear_value start
  refine ⟨ran_firstCrashes, hphase, hwaits, hover, hfirst, hsecond, ?_, ?_, hall.emptied⟩
  · have herror := hall.result_eq_error 0 c .receive [] hc hfirst
      fun m hm => absurd hm (Nat.not_lt_zero m)
    rwa [hid] at herror
  · have htwo : (start.run lateWorkers).contexts.length = 2 := hall.length_eq
    have hlt : 1 < (start.run lateWorkers).contexts.length := by
      rw [htwo]
      exact Nat.one_lt_two
    have hc' := List.getElem?_eq_getElem hlt
    exact ⟨_, hc', hall.destroyed 1 _ hc' hsecond⟩

end Relay

end EtherRelay
