import EtherRelay.Workbench.Setup
import Mathlib.Data.List.Nodup

/-!
# What is wrong with a configuration

`Configuration.faults` lists all that is wrong with a configuration, in one order: the settings of
the relay, the ports as they are declared, and then for each context its source, its destination,
its id and its receive queue. The list is empty just for the configurations that are `Consistent`.
-/

namespace EtherRelay.Workbench

/-! ## Faults -/

/-- A fault, unless a condition holds. -/
def require (condition : Prop) [Decidable condition] (fault : RunError) : List RunError :=
  if condition then [] else [fault]

theorem require_eq_nil {condition : Prop} [Decidable condition] {fault : RunError} :
    require condition fault = [] ↔ condition := by
  rw [require]
  split
  · next h => exact iff_of_true rfl h
  · next h => exact iff_of_false (List.cons_ne_nil _ _) h

theorem require_of {condition : Prop} [Decidable condition] (h : condition) (fault : RunError) :
    require condition fault = [] := if_pos h

theorem require_of_not {condition : Prop} [Decidable condition] (h : ¬condition)
    (fault : RunError) : require condition fault = [fault] := if_neg h

/-- What is wrong with one end of a context. -/
def EndPlan.faults (declared : List UInt16) (e : EndPlan) : List RunError :=
  require (e.port ∈ declared) (.unknownPort e.port) ++
    require (1 ≤ e.queues.length ∧ e.queues.length ≤ 3) (.queues (.queueCount e.queues.length))

/-- What is wrong with a port behind earlier ones. -/
def PortPlan.faults (earlier : List PortPlan) (p : PortPlan) : List RunError :=
  require (p.port ∉ earlier.map PortPlan.port) (.duplicatePort p.port)

/-- What is wrong with the receive queue of a context. -/
def ContextPlan.policyFaults (policy : RxQueuePolicy) (x : ContextPlan) : List RunError :=
  match policy with
  | .roundRobin => []
  | .fixed index =>
    require (index < x.source.queues.length)
      (.context x.id (.config (.fixedQueueIndex index x.source.queues.length)))

/-- What is wrong with a context behind earlier ones. -/
def ContextPlan.faults (declared : List UInt16) (policy : RxQueuePolicy)
    (earlier : List ContextPlan) (x : ContextPlan) : List RunError :=
  x.source.faults declared ++ (x.destination.faults declared ++
    (require (x.id ∉ earlier.map ContextPlan.id) (.context x.id (.duplicateContext x.id)) ++
      x.policyFaults policy))

/-- The faults of all entries of a list, each behind the earlier ones. -/
def faultsInOrder {α : Type} (faults : List α → α → List RunError) :
    (earlier : List α) → List α → List RunError
  | _, [] => []
  | earlier, x :: rest => faults earlier x ++ faultsInOrder faults (earlier ++ [x]) rest

namespace Configuration

/-- The ports that are declared. -/
def declared (c : Configuration) : List UInt16 := c.interfaces.map PortPlan.port

/-- All that is wrong with a configuration, in the order in which it is looked for. -/
def faults (c : Configuration) : List RunError :=
  (match c.relay.validate with
    | .error e => [.settings e]
    | .ok () => []) ++
  (faultsInOrder PortPlan.faults [] c.interfaces ++
    faultsInOrder (ContextPlan.faults c.declared c.relay.rxQueuePolicy) [] c.contexts)

/-- A configuration that a run can be set up from. -/
structure Consistent (c : Configuration) : Prop where
  settings_ok : c.relay.validate = .ok ()
  ports_nodup : c.declared.Nodup
  source_declared : ∀ x ∈ c.contexts, x.source.port ∈ c.declared
  destination_declared : ∀ x ∈ c.contexts, x.destination.port ∈ c.declared
  source_queues : ∀ x ∈ c.contexts, 1 ≤ x.source.queues.length ∧ x.source.queues.length ≤ 3
  destination_queues : ∀ x ∈ c.contexts,
    1 ≤ x.destination.queues.length ∧ x.destination.queues.length ≤ 3
  ids_nodup : (c.contexts.map ContextPlan.id).Nodup
  fixed_lt : ∀ index, c.relay.rxQueuePolicy = .fixed index →
    ∀ x ∈ c.contexts, index < x.source.queues.length

end Configuration

theorem EndPlan.faults_eq_nil {declared : List UInt16} {e : EndPlan} :
    e.faults declared = [] ↔
      e.port ∈ declared ∧ 1 ≤ e.queues.length ∧ e.queues.length ≤ 3 := by
  rw [faults, List.append_eq_nil_iff, require_eq_nil, require_eq_nil]

theorem ContextPlan.policyFaults_fixed {policy : RxQueuePolicy} {index : Nat}
    (h : policy = .fixed index) (x : ContextPlan) :
    x.policyFaults policy =
      require (index < x.source.queues.length)
        (.context x.id (.config (.fixedQueueIndex index x.source.queues.length))) := by
  rw [h]
  rfl

theorem ContextPlan.policyFaults_eq_nil {policy : RxQueuePolicy} {x : ContextPlan} :
    x.policyFaults policy = [] ↔
      ∀ index, policy = .fixed index → index < x.source.queues.length := by
  cases policy with
  | roundRobin => exact iff_of_true rfl nofun
  | fixed index => simp [policyFaults, require_eq_nil]

/-- A list whose entries must differ in a key, and each be sound. -/
theorem faultsInOrder_eq_nil {α γ : Type} {faults : List α → α → List RunError} {key : α → γ}
    {Sound : α → Prop}
    (hfaults : ∀ earlier x, faults earlier x = [] ↔ key x ∉ earlier.map key ∧ Sound x)
    (earlier : List α) (hearlier : (earlier.map key).Nodup) (xs : List α) :
    faultsInOrder faults earlier xs = [] ↔
      ((earlier ++ xs).map key).Nodup ∧ ∀ x ∈ xs, Sound x := by
  induction xs generalizing earlier with
  | nil => simpa [faultsInOrder] using hearlier
  | cons x xs ih =>
      have hnext : ((earlier ++ [x]).map key).Nodup ↔ key x ∉ earlier.map key := by
        rw [List.map_append, List.map_singleton, ← List.concat_eq_append, List.nodup_concat]
        exact and_iff_left hearlier
      have hsplit : earlier ++ x :: xs = earlier ++ [x] ++ xs := List.append_cons earlier x xs
      rw [faultsInOrder, List.append_eq_nil_iff, hfaults, List.forall_mem_cons, hsplit]
      by_cases hnew : key x ∉ earlier.map key
      · rw [ih _ (hnext.mpr hnew)]
        simp only [hnew, not_false_eq_true, true_and]
        exact and_left_comm
      · refine iff_of_false (fun h => hnew h.1.1) ?_
        rintro ⟨hnodup, _⟩
        rw [List.map_append] at hnodup
        exact hnew (hnext.mp hnodup.of_append_left)

theorem Configuration.faults_eq_nil (c : Configuration) : c.faults = [] ↔ c.Consistent := by
  have hsettings : (match c.relay.validate with
      | .error e => [RunError.settings e]
      | .ok () => []) = [] ↔ c.relay.validate = .ok () := by
    cases c.relay.validate <;> simp
  have hports : faultsInOrder PortPlan.faults [] c.interfaces = [] ↔ c.declared.Nodup := by
    have hport (earlier : List PortPlan) (p : PortPlan) :
        p.faults earlier = [] ↔ p.port ∉ earlier.map PortPlan.port ∧ True := by
      rw [PortPlan.faults, require_eq_nil, and_true]
    rw [faultsInOrder_eq_nil hport [] List.nodup_nil]
    simp [declared]
  have hcontexts :
      faultsInOrder (ContextPlan.faults c.declared c.relay.rxQueuePolicy) [] c.contexts = [] ↔
        (c.contexts.map ContextPlan.id).Nodup ∧ ∀ x ∈ c.contexts,
          x.source.faults c.declared = [] ∧ x.destination.faults c.declared = [] ∧
            x.policyFaults c.relay.rxQueuePolicy = [] := by
    refine faultsInOrder_eq_nil (fun earlier x => ?_) [] List.nodup_nil c.contexts
    simp only [ContextPlan.faults, List.append_eq_nil_iff, require_eq_nil]
    exact ⟨fun ⟨hs, hd, hid, hp⟩ => ⟨hid, hs, hd, hp⟩, fun ⟨hid, hs, hd, hp⟩ => ⟨hs, hd, hid, hp⟩⟩
  rw [faults, List.append_eq_nil_iff, List.append_eq_nil_iff, hsettings, hports, hcontexts]
  simp only [EndPlan.faults_eq_nil, ContextPlan.policyFaults_eq_nil]
  constructor
  · rintro ⟨hvalid, hnodup, hids, hends⟩
    exact
      { settings_ok := hvalid
        ports_nodup := hnodup
        source_declared := fun x hx => (hends x hx).1.1
        destination_declared := fun x hx => (hends x hx).2.1.1
        source_queues := fun x hx => (hends x hx).1.2
        destination_queues := fun x hx => (hends x hx).2.1.2
        ids_nodup := hids
        fixed_lt := fun index hpolicy x hx => (hends x hx).2.2 index hpolicy }
  · intro h
    refine ⟨h.settings_ok, h.ports_nodup, h.ids_nodup, ?_⟩
    intro x hx
    exact ⟨⟨h.source_declared x hx, h.source_queues x hx⟩,
      ⟨h.destination_declared x hx, h.destination_queues x hx⟩,
      fun index hpolicy => h.fixed_lt index hpolicy x hx⟩

end EtherRelay.Workbench
