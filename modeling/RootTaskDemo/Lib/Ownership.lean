import Mathlib.Algebra.Order.Ring.Int

namespace RootTaskDemo.Lib

/-! Keys that are handed out, passed on and taken back, each with one owner at a
time. -/

variable {ω κ : Type}

/-- Every key that has an owner is live, and no key has two owners. -/
structure Exclusive (owns : ω → κ → Prop) (live : κ → Prop) : Prop where
  live : ∀ owner key, owns owner key → live key
  unique : ∀ owner owner' key, owns owner key → owns owner' key → owner = owner'

namespace Exclusive

variable {owns owns' : ω → κ → Prop} {live live' : κ → Prop}

theorem of_none (nobody : ∀ owner key, ¬ owns owner key) : Exclusive owns live where
  live owner key owned := absurd owned (nobody owner key)
  unique owner _ key owned := absurd owned (nobody owner key)

theorem mono (exclusive : Exclusive owns live) (fewer : ∀ owner key, owns' owner key → owns owner key)
    (more : ∀ key, live key → live' key) : Exclusive owns' live' where
  live owner key owned := more key (exclusive.live owner key (fewer owner key owned))
  unique owner owner' key owned owned' :=
    exclusive.unique owner owner' key (fewer owner key owned) (fewer owner' key owned')

theorem give (exclusive : Exclusive owns live) (target : ω) (given : κ)
    (gives : ∀ owner key, owns' owner key → key = given ∧ owner = target ∨ key ≠ given ∧ owns owner key)
    (more : ∀ key, live key → live' key) (alive : live' given) : Exclusive owns' live' where
  live owner key owned := by
    rcases gives owner key owned with ⟨rfl, -⟩ | ⟨-, owned⟩
    · exact alive
    · exact more key (exclusive.live owner key owned)
  unique owner owner' key owned owned' := by
    rcases gives owner key owned with ⟨same, rfl⟩ | ⟨different, owned⟩
    · rcases gives owner' key owned' with ⟨-, same'⟩ | ⟨different, -⟩
      · exact same'.symm
      · exact absurd same different
    · rcases gives owner' key owned' with ⟨same, -⟩ | ⟨-, owned'⟩
      · exact absurd same different
      · exact exclusive.unique owner owner' key owned owned'

theorem retire (exclusive : Exclusive owns live) (dead : κ)
    (keeps : ∀ owner key, owns' owner key → key ≠ dead ∧ owns owner key)
    (rest : ∀ key, key ≠ dead → live key → live' key) : Exclusive owns' live' where
  live owner key owned :=
    rest key (keeps owner key owned).1 (exclusive.live owner key (keeps owner key owned).2)
  unique owner owner' key owned owned' :=
    exclusive.unique owner owner' key (keeps owner key owned).2 (keeps owner' key owned').2

end Exclusive

/-- Besides, every live key has an owner or is set aside. -/
structure Inventory (owns : ω → κ → Prop) (live spare : κ → Prop) : Prop where
  exclusive : Exclusive owns live
  aside : ∀ key, spare key → live key ∧ ∀ owner, ¬ owns owner key
  complete : ∀ key, live key → spare key ∨ ∃ owner, owns owner key

namespace Inventory

variable {owns owns' : ω → κ → Prop} {live live' spare spare' : κ → Prop}

theorem congr (inventory : Inventory owns live spare)
    (sameOwners : ∀ owner key, owns' owner key ↔ owns owner key)
    (sameLive : ∀ key, live' key ↔ live key) : Inventory owns' live' spare where
  exclusive := inventory.exclusive.mono (fun owner key => (sameOwners owner key).mp) fun key =>
    (sameLive key).mpr
  aside key isSpare :=
    have ⟨alive, unowned⟩ := inventory.aside key isSpare
    ⟨(sameLive key).mpr alive, fun owner owned => unowned owner ((sameOwners owner key).mp owned)⟩
  complete key alive := (inventory.complete key ((sameLive key).mp alive)).imp_right
    fun ⟨owner, owned⟩ =>
    ⟨owner, (sameOwners owner key).mpr owned⟩

theorem create (inventory : Inventory owns live spare) {new : κ} (fresh : ¬ live new)
    (more : ∀ key, live' key ↔ key = new ∨ live key)
    (spares : ∀ key, spare' key ↔ key = new ∨ spare key) :
    Inventory owns live' spare' where
  exclusive := inventory.exclusive.mono (fun _ _ owned => owned) fun key alive =>
    (more key).mpr (Or.inr alive)
  aside key isSpare := by
    rcases (spares key).mp isSpare with rfl | isSpare
    · exact ⟨(more key).mpr (Or.inl rfl), fun owner owned => fresh (inventory.exclusive.live owner key owned)⟩
    · exact ⟨(more key).mpr (Or.inr (inventory.aside key isSpare).1), (inventory.aside key isSpare).2⟩
  complete key alive := by
    rcases (more key).mp alive with rfl | alive
    · exact Or.inl ((spares key).mpr (Or.inl rfl))
    · exact (inventory.complete key alive).imp_left fun isSpare => (spares key).mpr (Or.inr isSpare)

theorem give (inventory : Inventory owns live spare) {target : ω} {given : κ} (isSpare : spare given)
    (gives : ∀ owner key, owns' owner key ↔ owner = target ∧ key = given ∨ owns owner key)
    (spares : ∀ key, spare' key ↔ spare key ∧ key ≠ given) : Inventory owns' live spare' where
  exclusive := by
    refine inventory.exclusive.give target given (fun owner key owned => ?_) (fun _ alive => alive)
      (inventory.aside given isSpare).1
    rcases (gives owner key).mp owned with ⟨here, rfl⟩ | owned
    · exact Or.inl ⟨rfl, here⟩
    · refine Or.inr ⟨?_, owned⟩
      rintro rfl
      exact (inventory.aside key isSpare).2 owner owned
  aside key isSpare' := by
    obtain ⟨older, different⟩ := (spares key).mp isSpare'
    refine ⟨(inventory.aside key older).1, fun owner owned => ?_⟩
    rcases (gives owner key).mp owned with ⟨_, same⟩ | owned
    · exact different same
    · exact (inventory.aside key older).2 owner owned
  complete key alive := by
    by_cases here : key = given
    · exact Or.inr ⟨target, (gives target key).mpr (Or.inl ⟨rfl, here⟩)⟩
    · rcases inventory.complete key alive with older | ⟨owner, owned⟩
      · exact Or.inl ((spares key).mpr ⟨older, here⟩)
      · exact Or.inr ⟨owner, (gives owner key).mpr (Or.inr owned)⟩

theorem bury (inventory : Inventory owns live spare) {dead : κ → Prop}
    (keeps : ∀ owner key, owns' owner key ↔ owns owner key ∧ ¬ dead key)
    (rest : ∀ key, live' key ↔ live key ∧ ¬ dead key) (kept : ∀ key, spare key → ¬ dead key) :
    Inventory owns' live' spare where
  exclusive := {
    live := fun owner key owned =>
      have ⟨older, alive⟩ := (keeps owner key).mp owned
      (rest key).mpr ⟨inventory.exclusive.live owner key older, alive⟩
    unique := fun owner owner' key owned owned' =>
      inventory.exclusive.unique owner owner' key ((keeps owner key).mp owned).1 ((keeps owner' key).mp owned').1 }
  aside key isSpare :=
    have ⟨alive, unowned⟩ := inventory.aside key isSpare
    ⟨(rest key).mpr ⟨alive, kept key isSpare⟩, fun owner owned => unowned owner ((keeps owner key).mp owned).1⟩
  complete key alive :=
    have ⟨older, living⟩ := (rest key).mp alive
    (inventory.complete key older).imp_right fun ⟨owner, owned⟩ => ⟨owner, (keeps owner key).mpr ⟨owned, living⟩⟩

end Inventory

end RootTaskDemo.Lib
