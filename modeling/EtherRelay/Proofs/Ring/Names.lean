import EtherRelay.Proofs.Telemetry.Tags
import EtherRelay.Ring

/-!
# Names of rings

The name of a ring ends in a number that was not used before. The kind of the ring and its context
stand in front of it. A kind may contain anything, digits and underlines too; still a name tells its
number, for there are only digits behind its last underline. So no two names that come from one
source are equal.
-/

namespace EtherRelay

/-- The name ends in an underline and the number. -/
def EndsIn (number : Nat) (name : String) : Prop :=
  ∃ front : List Char, name.toList = front ++ '_' :: Nat.toDigits 10 number

theorem underline_not_mem_toDigits (number : Nat) : '_' ∉ Nat.toDigits 10 number := by
  intro hmem
  exact absurd (Nat.isDigit_of_mem_toDigits (by decide) (by decide) hmem) (by decide)

/-- Read from its end, a name shows its number up to the first underline. -/
theorem EndsIn.unique {m n : Nat} {name : String} (hm : EndsIn m name) (hn : EndsIn n name) :
    m = n := by
  obtain ⟨front, hfront⟩ := hm
  obtain ⟨front', hfront'⟩ := hn
  have hmark (number : Nat) : '_' ∉ (Nat.toDigits 10 number).reverse :=
    mt List.mem_reverse.mp (underline_not_mem_toDigits number)
  have hprefix : (Nat.toDigits 10 m).reverse ++ ['_'] <+:
      (Nat.toDigits 10 n).reverse ++ '_' :: front'.reverse := by
    refine ⟨front.reverse, ?_⟩
    have hreverse := congrArg List.reverse (hfront.symm.trans hfront')
    simpa using hreverse
  have hsame := eq_of_prefix_append_cons (hmark m) (hmark n) hprefix
  exact toDigits_ten_injective (List.reverse_inj.mp hsame)

namespace RingNames

theorem endsIn_fresh (names : RingNames) (kind : String) (context : UInt16) :
    EndsIn names.next (names.fresh kind context).1 := by
  refine ⟨kind.toList ++ '_' :: idDigits context, ?_⟩
  simp [fresh, Probe.toString_string, idDigits]

/-- Names for rings of given kinds and contexts, in order. -/
def freshAll (names : RingNames) : List (String × UInt16) → List String × RingNames
  | [] => ([], names)
  | (kind, context) :: rings =>
    let (name, names) := names.fresh kind context
    let (others, names) := names.freshAll rings
    (name :: others, names)

theorem freshAll_append (names : RingNames) (rings more : List (String × UInt16)) :
    names.freshAll (rings ++ more) =
      ((names.freshAll rings).1 ++ ((names.freshAll rings).2.freshAll more).1,
        ((names.freshAll rings).2.freshAll more).2) := by
  induction rings generalizing names with
  | nil => rfl
  | cons ring rings ih =>
      have hrest := ih (names.fresh ring.1 ring.2).2
      simp only [List.cons_append, freshAll, hrest]

/-- These names are among those that were given out: they differ, and end in numbers that are used
up. -/
structure Issued (names : RingNames) (issued : List String) : Prop where
  nodup : issued.Nodup
  endsIn : ∀ name ∈ issued, ∃ number < names.next, EndsIn number name

theorem issued_nil (names : RingNames) : names.Issued [] :=
  ⟨List.nodup_nil, fun _ hname => absurd hname List.not_mem_nil⟩

namespace Issued

variable {names : RingNames} {issued : List String}

/-- The next name ends in a number that none of them ends in. -/
theorem fresh (h : names.Issued issued) (kind : String) (context : UInt16) :
    (names.fresh kind context).2.Issued (issued ++ [(names.fresh kind context).1]) := by
  have hlast := names.endsIn_fresh kind context
  have hnew : (names.fresh kind context).1 ∉ issued := by
    intro hmem
    obtain ⟨number, hlt, hends⟩ := h.endsIn _ hmem
    exact absurd (hends.unique hlast) (Nat.ne_of_lt hlt)
  refine ⟨?_, ?_⟩
  · rw [List.nodup_append]
    refine ⟨h.nodup, List.nodup_cons.mpr ⟨List.not_mem_nil, List.nodup_nil⟩, ?_⟩
    rintro name hname _ hmem rfl
    exact hnew (List.mem_singleton.mp hmem ▸ hname)
  · intro name hname
    rcases List.mem_append.mp hname with hold | hmem
    · obtain ⟨number, hlt, hends⟩ := h.endsIn name hold
      exact ⟨number, Nat.lt_succ_of_lt hlt, hends⟩
    · rw [List.mem_singleton.mp hmem]
      exact ⟨names.next, Nat.lt_succ_self _, hlast⟩

/-- All names that are given out one after the other differ, and they differ from earlier ones. -/
theorem freshAll (h : names.Issued issued) (rings : List (String × UInt16)) :
    (names.freshAll rings).2.Issued (issued ++ (names.freshAll rings).1) := by
  induction rings generalizing names issued with
  | nil => simpa [RingNames.freshAll] using h
  | cons ring rings ih =>
      have hrest := ih (h.fresh ring.1 ring.2)
      rw [List.append_assoc] at hrest
      exact hrest

end Issued

/-- No name is given out twice, whatever the rings are. -/
theorem nodup_freshAll (names : RingNames) (rings : List (String × UInt16)) :
    (names.freshAll rings).1.Nodup :=
  (names.issued_nil.freshAll rings).nodup

end RingNames

end EtherRelay
