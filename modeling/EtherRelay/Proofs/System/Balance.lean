import EtherRelay.Proofs.Context.Balance
import Mathlib.Algebra.BigOperators.Group.List.Basic

/-!
# The balance of buffers

A system is a world with the contexts and pipelines that run in it, and the buffers that its
caller holds. Callers and workers act in any order. A pooled buffer that is out waits in a
receive queue, is in a ring, is kept by the interface that transmitted it, is held by the
caller, or is in the hands of a worker in the middle of a round. The counters of the pool agree
with the number of these buffers in every reachable state, so none is lost and none is given
back twice.
-/

namespace EtherRelay

/-- A world, what runs in it, and the buffers that the caller holds. -/
structure System (σ : Type) where
  world : World Buffer σ
  contexts : List (Context Buffer) := []
  pipelines : List (Pipeline Buffer) := []
  held : List Buffer := []

namespace System

variable {σ : Type}

/-- The pooled buffers in relay rings and stats rings. -/
def inRings (s : System σ) : Nat :=
  (s.contexts.map fun c => c.lane.pooled).sum + (s.pipelines.map fun p => p.lane.pooled).sum

/-- The pooled buffers that wait in receive queues, are in rings, are kept after transmission, or
are held by the caller. -/
def placed (s : System σ) : Nat :=
  s.world.waiting + s.inRings + s.world.retained + pooledIn s.held

/-- The pooled buffers that workers have in hand. -/
def inHand (s : System σ) : Nat := (s.contexts.map fun c => c.body.inHand).sum

/-- Every worker is between two rounds of its loop. -/
def Rests (s : System σ) : Prop := ∀ c ∈ s.contexts, ∀ role, c.rests role = true

/-- The pooled buffers that are neither in the pool nor at an interface. -/
def outside (s : System σ) : Nat :=
  (s.contexts.map Context.pooled).sum + (s.pipelines.map fun p => p.lane.pooled).sum +
    pooledIn s.held

theorem outside_eq (s : System σ) : s.outside = s.inRings + s.inHand + pooledIn s.held := by
  have hsplit : (s.contexts.map Context.pooled).sum =
      (s.contexts.map fun c => c.lane.pooled).sum + s.inHand :=
    List.sum_map_add
  rw [outside, inRings, hsplit]
  omega

/-- Workers that rest have nothing in hand. -/
theorem inHand_of_rests {s : System σ} (h : s.Rests) : s.inHand = 0 := by
  apply List.sum_eq_zero
  intro m hm
  obtain ⟨c, hc, rfl⟩ := List.mem_map.mp hm
  have hrests := h c hc
  cases hbody : c.body with
  | running k =>
      simp only [Context.rests, hbody] at hrests
      exact Workers.pooled_of_rests hrests
  | _ => rfl

/-- One step of the caller or of a worker. The caller takes the buffers that it hands over
from those that it holds. -/
inductive Step [Sink σ] (s : System σ) : System σ → Prop where
  | alloc :
      Step s { s with
        world := { s.world with pool := s.world.pool.alloc.2 }
        held := s.world.pool.alloc.1.toList ++ s.held }
  | allocFrame (frame : Bytes) :
      Step s { s with
        world := { s.world with pool := (s.world.pool.allocFrame frame).2 }
        held := (s.world.pool.allocFrame frame).1.toList ++ s.held }
  | ownFrame (frame : Bytes) :
      Step s { s with held := .ofFrame frame :: s.held }
  | append {b b' : Buffer} {rest : List Buffer} {bytes : Bytes}
      (hheld : s.held.Perm (b :: rest)) (hb : b.append? bytes = some b') :
      Step s { s with held := b' :: rest }
  | release {burst rest : List Buffer} (hheld : s.held.Perm (burst ++ rest)) :
      Step s { s with world := s.world.release burst, held := rest }
  | inject (index : Nat) (queue : QueueId) {burst rest : List Buffer}
      (hheld : s.held.Perm (burst ++ rest)) :
      Step s { s with world := (s.world.inject index queue burst).2, held := rest }
  | receive (index : Nat) (queue : QueueId) (max : Nat) :
      Step s { s with
        world := (s.world.receive index queue max).2
        held := (s.world.receive index queue max).1 ++ s.held }
  | transmit (index : Nat) (queue : QueueId) {burst rest : List Buffer}
      (hheld : s.held.Perm (burst ++ rest)) :
      Step s { s with
        world := (s.world.transmit index queue burst).2.2
        held := (s.world.transmit index queue burst).2.1 ++ rest }
  | takeTransmitted (index : Nat) (queue : QueueId) :
      Step s { s with
        world := (s.world.takeTransmitted index queue).2
        held := (s.world.takeTransmitted index queue).1 ++ s.held }
  | setTxLimit (index : Nat) (queue : QueueId) (limit : Option Nat) :
      Step s { s with world := s.world.modifyInterface index fun i => i.setTxLimit queue limit }
  /-- Anything about an interface but its queues is changed. -/
  | configure (index : Nat) (f : Interface Buffer → Interface Buffer)
      (hrx : ∀ i, (f i).rxQueues = i.rxQueues) (htx : ∀ i, (f i).txQueues = i.txQueues) :
      Step s { s with world := s.world.modifyInterface index f }
  /-- An interface with empty queues is added. -/
  | attach (id : InterfaceId) (rxQueues txQueues rxDepth : Nat) :
      Step s { s with
        world := { s.world with
          interfaces := s.world.interfaces ++ [.create id rxQueues txQueues rxDepth] } }
  /-- Anything but the interfaces and the pool is changed. -/
  | elsewhere {w : World Buffer σ}
      (hinterfaces : w.interfaces = s.world.interfaces) (hpool : w.pool = s.world.pool) :
      Step s { s with world := w }
  | createContext (id : UInt16) (source destination : Binding) (settings : Settings)
      (names : RingNames) {c : Context Buffer}
      (hc : (Context.create id source destination settings names s.world).1 = .ok c) :
      Step s { s with contexts := s.contexts ++ [c] }
  | context (index : Nat) {c : Context Buffer} (hc : s.contexts[index]? = some c)
      (a : Context.Act) :
      Step s { s with
        world := (c.act s.world a).2
        contexts := s.contexts.set index (c.act s.world a).1 }
  | createPipeline (id : UInt16) (settings : Settings) (source destination : Binding)
      (drainBurst : Nat) (now : UInt64) {p : Pipeline Buffer}
      (hp : Pipeline.create id settings source destination drainBurst now = .ok p) :
      Step s { s with pipelines := s.pipelines ++ [p] }
  | pipeline (index : Nat) {p : Pipeline Buffer} (hp : s.pipelines[index]? = some p)
      (a : Pipeline.Act) :
      Step s { s with
        world := (p.act s.world a).2
        pipelines := s.pipelines.set index (p.act s.world a).1 }

/-- The states that are reached in a world whose pool is new and whose interfaces are empty. -/
inductive Reachable [Sink σ] (capacity : UInt64) (headroom dataRoom : Nat) :
    System σ → Prop where
  | start (w : World Buffer σ) (hpool : w.pool = .create capacity.toNat headroom dataRoom)
      (hwaiting : w.waiting = 0) (hretained : w.retained = 0) :
      Reachable capacity headroom dataRoom { world := w }
  | next {s s' : System σ} (h : Reachable capacity headroom dataRoom s) (hstep : s.Step s') :
      Reachable capacity headroom dataRoom s'

/-- The rings of every context and pipeline are kept, and every lent buffer is somewhere. -/
structure Keeps (s : System σ) (capacity : Nat) : Prop where
  contexts_keep : ∀ c ∈ s.contexts, c.Keeps
  pipelines_kept : ∀ p ∈ s.pipelines, p.Kept
  lends : s.world.Lends capacity s.outside

namespace Keeps

variable {s s' : System σ} {capacity : Nat}

/-- A step that only moves buffers between the world and the caller. -/
theorem trade {w : World Buffer σ} {held : List Buffer} (h : s.Keeps capacity)
    (hw : ∀ n, s.world.Lends capacity (n + pooledIn s.held) →
      w.Lends capacity (n + pooledIn held)) :
    Keeps { s with world := w, held } capacity where
  contexts_keep := h.contexts_keep
  pipelines_kept := h.pipelines_kept
  lends := hw _ h.lends

theorem addContext {c : Context Buffer} (h : s.Keeps capacity) (hc : c.Keeps)
    (hpooled : c.pooled = 0) : Keeps { s with contexts := s.contexts ++ [c] } capacity where
  contexts_keep := List.forall_mem_append.mpr ⟨h.contexts_keep, List.forall_mem_singleton.mpr hc⟩
  pipelines_kept := h.pipelines_kept
  lends := by
    have hsame : outside { s with contexts := s.contexts ++ [c] } = s.outside := by
      simp only [outside, List.map_append, List.sum_append, List.map_cons, List.map_nil,
        List.sum_singleton, hpooled, Nat.add_zero]
    rw [hsame]
    exact h.lends

theorem addPipeline {p : Pipeline Buffer} (h : s.Keeps capacity) (hp : p.Kept)
    (hpooled : p.lane.pooled = 0) :
    Keeps { s with pipelines := s.pipelines ++ [p] } capacity where
  contexts_keep := h.contexts_keep
  pipelines_kept :=
    List.forall_mem_append.mpr ⟨h.pipelines_kept, List.forall_mem_singleton.mpr hp⟩
  lends := by
    have hsame : outside { s with pipelines := s.pipelines ++ [p] } = s.outside := by
      simp only [outside, List.map_append, List.sum_append, List.map_cons, List.map_nil,
        List.sum_singleton, hpooled, Nat.add_zero]
    rw [hsame]
    exact h.lends

variable [Sink σ]

theorem context {index : Nat} {c : Context Buffer} (h : s.Keeps capacity)
    (hc : s.contexts[index]? = some c) (a : Context.Act) :
    Keeps { s with
      world := (c.act s.world a).2
      contexts := s.contexts.set index (c.act s.world a).1 } capacity := by
  have hin := h.lends
  rw [outside, Nat.add_assoc, Nat.add_comm] at hin
  obtain ⟨hkeeps, hlends⟩ :=
    hin.actAt h.contexts_keep hc fun _ hkeep hw => Context.Keeps.act hkeep hw a
  refine ⟨hkeeps, h.pipelines_kept, ?_⟩
  rw [outside, Nat.add_assoc, Nat.add_comm]
  exact hlends

theorem pipeline {index : Nat} {p : Pipeline Buffer} (h : s.Keeps capacity)
    (hp : s.pipelines[index]? = some p) (a : Pipeline.Act) :
    Keeps { s with
      world := (p.act s.world a).2
      pipelines := s.pipelines.set index (p.act s.world a).1 } capacity := by
  have hin := h.lends
  rw [outside, Nat.add_right_comm] at hin
  obtain ⟨hkept, hlends⟩ :=
    hin.actAt h.pipelines_kept hp fun _ hkeep hw => Pipeline.Kept.act hkeep hw a
  refine ⟨h.contexts_keep, hkept, ?_⟩
  rw [outside, Nat.add_right_comm]
  exact hlends

/-- Every step keeps account of the buffers. -/
theorem step (h : s.Keeps capacity) (hstep : s.Step s') : s'.Keeps capacity := by
  cases hstep with
  | alloc =>
      apply h.trade
      intro n hn
      rw [add_pooledIn_append]
      exact hn.alloc
  | allocFrame frame =>
      apply h.trade
      intro n hn
      rw [add_pooledIn_append]
      exact hn.allocFrame frame
  | ownFrame frame =>
      apply h.trade
      intro n hn
      rw [pooledIn_cons, pooledIn_ofFrame, Nat.zero_add]
      exact hn
  | append hheld hb =>
      apply h.trade
      intro n hn
      rw [pooledIn_perm hheld, pooledIn_cons, ← pooledIn_append? hb, ← pooledIn_cons] at hn
      exact hn
  | release hheld =>
      apply h.trade
      intro n hn
      rw [pooledIn_perm hheld, add_pooledIn_append] at hn
      exact hn.release
  | inject index queue hheld =>
      apply h.trade
      intro n hn
      rw [pooledIn_perm hheld, add_pooledIn_append] at hn
      exact hn.inject index queue
  | receive index queue max =>
      apply h.trade
      intro n hn
      rw [add_pooledIn_append]
      exact hn.receive index queue max
  | transmit index queue hheld =>
      apply h.trade
      intro n hn
      rw [pooledIn_perm hheld, add_pooledIn_append] at hn
      rw [add_pooledIn_append]
      exact hn.transmit index queue
  | takeTransmitted index queue =>
      apply h.trade
      intro n hn
      rw [add_pooledIn_append]
      exact hn.takeTransmitted index queue
  | setTxLimit index queue limit => exact h.trade fun _ hn => hn.setTxLimit index queue limit
  | configure index f hrx htx =>
      apply h.trade
      intro n hn
      apply hn.modifyInterface index
      · intro i
        rw [Interface.waiting, hrx, Interface.waiting]
      · intro i
        rw [Interface.retained, htx, Interface.retained]
  | attach id rxQueues txQueues rxDepth =>
      exact h.trade fun _ hn => hn.attach id rxQueues txQueues rxDepth
  | elsewhere hinterfaces hpool => exact h.trade fun _ hn => hn.elsewhere hinterfaces hpool
  | createContext _ _ _ _ _ hc =>
      obtain ⟨hkeeps, hpooled⟩ := Context.keeps_create hc
      exact h.addContext hkeeps hpooled
  | context _ hc a => exact h.context hc a
  | createPipeline _ _ _ _ _ _ hp =>
      have hfresh := Pipeline.create_fresh hp
      exact h.addPipeline hfresh.kept hfresh.lane_fresh.pooled_eq
  | pipeline _ hp a => exact h.pipeline hp a

end Keeps

variable [Sink σ] {capacity : UInt64} {headroom dataRoom : Nat}

theorem Reachable.keeps {s : System σ} (h : Reachable capacity headroom dataRoom s) :
    s.Keeps capacity.toNat := by
  induction h with
  | start w hpool hwaiting hretained =>
      refine ⟨?_, ?_, ?_⟩
      · intro c hc
        cases hc
      · intro p hp
        cases hp
      · change w.pool.Lends capacity.toNat (w.waiting + w.retained + 0)
        rw [hpool, hwaiting, hretained]
        exact Pool.create_lends capacity headroom dataRoom
  | next _ hstep ih => exact ih.step hstep

/-- Between operations the pool has lent what is placed somewhere: no buffer is lost, and none is
given back twice. In the middle of a round, what the worker has in hand comes on top. Allocation
fails just if all of the pool is out. A context that is destroyed or given up is gone for good,
and its rings are empty. -/
theorem reachable_balance {s : System σ} (h : Reachable capacity headroom dataRoom s) :
    (s.world.pool.allocated - s.world.pool.freed).toNat = s.placed + s.inHand ∧
      s.world.pool.free.length + (s.placed + s.inHand) = capacity.toNat ∧
      (s.world.pool.alloc.1 = none ↔ s.placed + s.inHand = capacity.toNat) ∧
      (s.Rests → s.inHand = 0) ∧
      ∀ c ∈ s.contexts,
        (c.body = .gone →
          c.lane.relayRing.toList = [] ∧ c.lane.statsRing.toList = [] ∧ c.pooled = 0 ∧
            ∀ a, (c.act s.world a).1.body = .gone) ∧
        (∀ report c' w, c.destroy s.world = some (report, c', w) → c'.body = .gone) ∧
        (c.drop s.world).1.body = .gone := by
  have hkeeps := h.keeps
  have hlends := hkeeps.lends
  have hout : s.world.waiting + s.world.retained + s.outside = s.placed + s.inHand := by
    rw [outside_eq, placed]
    omega
  rw [World.Lends, hout] at hlends
  refine ⟨hlends.inUse_eq, hlends.length_free, hlends.alloc_eq_none, inHand_of_rests, ?_⟩
  intro c hc
  have hkeep := hkeeps.contexts_keep c hc
  refine ⟨?_, ?_, ?_⟩
  · intro hgone
    obtain ⟨hrelay, hstats⟩ := hkeep.toList_eq hgone
    refine ⟨hrelay, hstats, ?_, fun a => (Context.act_gone hgone s.world a).1⟩
    rw [Context.pooled_of_idle (by rw [hgone]; rfl), Lane.pooled, hrelay, hstats]
    rfl
  · intro report c' w hdestroy
    exact Context.destroy_gone hdestroy
  · exact c.drop_gone s.world

/-- A pool of two storages and two interfaces with a queue each way. -/
def twoPorts : World Buffer NullSink where
  interfaces := [.create ⟨0, "left"⟩ 1 1, .create ⟨1, "right"⟩ 1 1]
  sink := {}
  clock := { hz := Clock.monotonicHz }
  pool := .create 2 0 4

/-- The statement where one frame arrives, is received, and is in the ring when its context is
given up. -/
theorem reachable_balance_oneFrame :
    ∃ s s' : System NullSink, Reachable 2 0 4 s ∧ s.inRings = 1 ∧
      (s.world.pool.allocated - s.world.pool.freed).toNat = s.placed + s.inHand ∧
      Reachable 2 0 4 s' ∧ s'.world.pool.freed = 1 ∧
      (s'.world.pool.allocated - s'.world.pool.freed).toNat = s'.placed + s'.inHand := by
  have hstart : Reachable 2 0 4 { world := twoPorts } := .start _ rfl rfl rfl
  have halloc := hstart.next (.allocFrame [1, 2, 3])
  have hinject := halloc.next (.inject 0 0 (List.Perm.refl ([_] ++ [])))
  have hcreate := hinject.next (.createContext 1 { interface := 0, queues := .single 0 }
    { interface := 1, queues := .single 0 }
    { burstSize := 2, ringCapacity := 4, statsRingCapacity := 2 } {} rfl)
  have hlaunch := hcreate.next (.context 0 rfl .launch)
  have hready := hlaunch.next (.context 0 rfl (.worker .receive))
  have hpolled := hready.next (.context 0 rfl (.worker .receive))
  have hdropped := hpolled.next (.context 0 rfl .drop)
  refine ⟨_, _, hpolled, by decide, ?_, hdropped, by decide, ?_⟩
  · exact (reachable_balance hpolled).1
  · exact (reachable_balance hdropped).1

end System

end EtherRelay
