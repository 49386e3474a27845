import EtherRelay.World

/-!
# Steps that only give buffers back

Most of what a stage does to the world beside receiving and transmitting is to give buffers
back, to report and to publish. `World.Frees` says so of a step and names the buffers.
-/

namespace EtherRelay.World

variable {β σ : Type} [FrameBuffer β] {w w' w'' : World β σ} {freed freed' : List β}

/-- The step from `w` to `w'` leaves the interfaces alone, and the pool gets back `freed`. -/
structure Frees (w w' : World β σ) (freed : List β) : Prop where
  interfaces_eq : w'.interfaces = w.interfaces
  pool_eq : w'.pool = w.pool.releaseAll freed

namespace Frees

theorem refl (w : World β σ) : w.Frees w [] := ⟨rfl, rfl⟩

theorem trans (h : w.Frees w' freed) (h' : w'.Frees w'' freed') :
    w.Frees w'' (freed ++ freed') := by
  refine ⟨h'.interfaces_eq.trans h.interfaces_eq, ?_⟩
  rw [h'.pool_eq, h.pool_eq, Pool.releaseAll, Pool.releaseAll, Pool.releaseAll,
    List.foldl_append]

theorem release (w : World β σ) (buffers : List β) : w.Frees (w.release buffers) buffers :=
  ⟨rfl, rfl⟩

theorem note (w : World β σ) (e : Event) : w.Frees (w.note e) [] := ⟨rfl, rfl⟩

theorem publish [Sink σ] (w : World β σ) (record : Record) : w.Frees (w.publish record).2 [] :=
  ⟨rfl, rfl⟩

end Frees

end EtherRelay.World
