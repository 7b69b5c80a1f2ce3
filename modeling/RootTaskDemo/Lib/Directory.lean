import Mathlib.Logic.ExistsUnique
import Mathlib.Logic.Function.Basic

namespace RootTaskDemo.Lib

/-! A directory that its members keep: each member claims at most one key and
says what is to stand there. -/

variable {ι κ β : Type}

structure Lists (claim : ι → Option (κ × β)) (directory : κ → Option β) : Prop where
  listed : ∀ member key value, claim member = some (key, value) → directory key = some value
  claimed : ∀ key value, directory key = some value → ∃ member, claim member = some (key, value)
  unique : ∀ member other key value value',
    claim member = some (key, value) → claim other = some (key, value') → member = other

namespace Lists

variable {claim claim' : ι → Option (κ × β)} {directory directory' : κ → Option β}

theorem empty : Lists (fun _ : ι => (none : Option (κ × β))) (fun _ => none) :=
  ⟨fun _ _ _ => nofun, fun _ _ => nofun, fun _ _ _ _ _ => nofun⟩

theorem congr (lists : Lists claim directory) (sameClaims : ∀ member, claim' member = claim member)
    (sameEntries : ∀ key, directory' key = directory key) : Lists claim' directory' := by
  obtain rfl : claim' = claim := funext sameClaims
  obtain rfl : directory' = directory := funext sameEntries
  exact lists

theorem isSome_iff (lists : Lists claim directory) (key : κ) :
    (directory key).isSome ↔ ∃! member, ∃ value, claim member = some (key, value) := by
  constructor
  · intro occupied
    obtain ⟨value, found⟩ := Option.isSome_iff_exists.mp occupied
    obtain ⟨member, claims⟩ := lists.claimed key value found
    refine ⟨member, ⟨value, claims⟩, ?_⟩
    rintro other ⟨value', claims'⟩
    exact lists.unique other member key value' value claims' claims
  · rintro ⟨member, ⟨value, claims⟩, -⟩
    rw [lists.listed member key value claims]
    rfl

variable [DecidableEq ι] [DecidableEq κ]

theorem enter (lists : Lists claim directory) {member : ι} {key : κ} (value : β)
    (idle : claim member = none) (vacant : directory key = none) :
    Lists (Function.update claim member (some (key, value))) (Function.update directory key (some value)) := by
  have elsewhere : ∀ other other' value', claim other = some (other', value') → other' ≠ key := by
    rintro other _ value' claims rfl
    rw [lists.listed other _ value' claims] at vacant
    cases vacant
  refine ⟨?_, ?_, ?_⟩
  · intro other other' value' claims
    by_cases same : other = member
    · rw [same, Function.update_self] at claims
      cases claims
      exact Function.update_self ..
    · rw [Function.update_of_ne same] at claims
      rw [Function.update_of_ne (elsewhere other other' value' claims)]
      exact lists.listed other other' value' claims
  · intro other value' found
    by_cases same : other = key
    · rw [same, Function.update_self] at found
      cases found
      exact ⟨member, by rw [Function.update_self, same]⟩
    · rw [Function.update_of_ne same] at found
      obtain ⟨holder, claims⟩ := lists.claimed other value' found
      refine ⟨holder, ?_⟩
      rw [Function.update_of_ne, claims]
      rintro rfl
      rw [idle] at claims
      cases claims
  · intro first second other value' value'' claims claims'
    by_cases same : first = member
    · by_cases same' : second = member
      · rw [same, same']
      · rw [same, Function.update_self] at claims
        rw [Function.update_of_ne same'] at claims'
        cases claims
        exact absurd rfl (elsewhere second key value'' claims')
    · rw [Function.update_of_ne same] at claims
      by_cases same' : second = member
      · rw [same', Function.update_self] at claims'
        cases claims'
        exact absurd rfl (elsewhere first key value' claims)
      · rw [Function.update_of_ne same'] at claims'
        exact lists.unique first second other value' value'' claims claims'

theorem leave (lists : Lists claim directory) {member : ι} {key : κ} {value : β}
    (claims : claim member = some (key, value)) :
    Lists (Function.update claim member none) (Function.update directory key none) := by
  have kept : ∀ other other' value', Function.update claim member none other = some (other', value') →
      other ≠ member ∧ claim other = some (other', value') := by
    intro other other' value' found
    by_cases same : other = member
    · rw [same, Function.update_self] at found
      cases found
    · rw [Function.update_of_ne same] at found
      exact ⟨same, found⟩
  refine ⟨?_, ?_, ?_⟩
  · intro other other' value' found
    obtain ⟨different, claims'⟩ := kept other other' value' found
    rw [Function.update_of_ne]
    · exact lists.listed other other' value' claims'
    · rintro rfl
      exact different (lists.unique other member _ value' value claims' claims)
  · intro other value' found
    by_cases same : other = key
    · rw [same, Function.update_self] at found
      cases found
    · rw [Function.update_of_ne same] at found
      obtain ⟨holder, claims'⟩ := lists.claimed other value' found
      refine ⟨holder, ?_⟩
      rw [Function.update_of_ne, claims']
      rintro rfl
      rw [claims] at claims'
      cases claims'
      exact same rfl
  · intro first second other value' value'' found found'
    exact lists.unique first second other value' value'' (kept first other value' found).2
      (kept second other value'' found').2

end Lists

end RootTaskDemo.Lib
