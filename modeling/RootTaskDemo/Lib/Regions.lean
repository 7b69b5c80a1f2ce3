import Mathlib.Algebra.Order.Ring.Int
import Mathlib.Data.List.Perm.Basic

namespace RootTaskDemo.Lib

/-! Regions of addresses that are taken from the end of what is in use and given back
from there. -/

structure Region where
  start : Nat
  length : Nat
deriving DecidableEq, Repr

namespace Region

def stop (region : Region) : Nat := region.start + region.length

def Contains (region : Region) (address : Nat) : Prop :=
  region.start ≤ address ∧ address < region.stop

def Disjoint (region other : Region) : Prop :=
  ∀ address, region.Contains address → ¬ other.Contains address

theorem Disjoint.symm {region other : Region} (disjoint : region.Disjoint other) :
    other.Disjoint region :=
  fun address inOther inRegion => disjoint address inRegion inOther

end Region

/-- The regions do not overlap, and none reaches past the end. -/
structure Stacked (next : Nat) (live : List Region) : Prop where
  apart : live.Pairwise Region.Disjoint
  below : ∀ region ∈ live, ∀ address, region.Contains address → address < next

namespace Stacked

variable {next : Nat} {live : List Region}

theorem empty (next : Nat) : Stacked next [] := ⟨.nil, by simp⟩

theorem push (stacked : Stacked next live) (length : Nat) :
    Stacked (next + length) (⟨next, length⟩ :: live) := by
  refine ⟨List.pairwise_cons.mpr ⟨fun region member address inNew inOld => ?_, stacked.apart⟩, ?_⟩
  · exact Nat.lt_irrefl _ ((stacked.below region member address inOld).trans_le inNew.1)
  · intro region member address inside
    rcases List.mem_cons.mp member with rfl | old
    · exact inside.2
    · exact (stacked.below region old address inside).trans_le (Nat.le_add_right ..)

theorem pop (stacked : Stacked next live) {region : Region} (member : region ∈ live)
    (last : region.stop = next) :
    Stacked region.start (live.erase region) := by
  have reordered : (region :: live.erase region).Pairwise Region.Disjoint :=
    ((List.perm_cons_erase member).pairwise_iff Region.Disjoint.symm).mp stacked.apart
  obtain ⟨apart, rest⟩ := List.pairwise_cons.mp reordered
  refine ⟨rest, fun other kept address inside => ?_⟩
  by_contra above
  refine apart other kept address ⟨Nat.not_lt.mp above, ?_⟩ inside
  rw [last]
  exact stacked.below other (List.mem_of_mem_erase kept) address inside

end Stacked

end RootTaskDemo.Lib
