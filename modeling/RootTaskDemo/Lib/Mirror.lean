import Mathlib.Logic.Function.Basic

namespace RootTaskDemo.Lib

/-! A shadow of a table: records kept next to it, so that nobody has to ask the
table itself. -/

variable {κ ρ τ : Type}

/-- Every record stands for the entry of the table under its key. An entry without
a record may be found under the `stale` keys only. -/
structure Mirrors (stale : κ → Prop) (backs : κ → ρ → τ → Prop) (shadow : κ → Option ρ)
    (table : κ → Option τ) :
    Prop where
  recorded : ∀ key record, shadow key = some record → ∃ entry, table key = some entry ∧
    backs key record entry
  complete : ∀ key entry, table key = some entry → shadow key = none → stale key

namespace Mirrors

variable {stale stale' : κ → Prop} {backs backs' : κ → ρ → τ → Prop} {shadow : κ → Option ρ}
  {table : κ → Option τ}

theorem empty : Mirrors stale backs (fun _ => none) (fun _ => none) :=
    ⟨fun _ _ => nofun, fun _ _ => nofun⟩

theorem mono (mirrors : Mirrors stale backs shadow table)
    (kept : ∀ key record entry, shadow key = some record → backs key record entry → backs' key record entry)
    (wider : ∀ key, stale key → stale' key) : Mirrors stale' backs' shadow table := by
  refine ⟨fun key record found => ?_, fun key entry present missing =>
    wider key (mirrors.complete key entry present missing)⟩
  obtain ⟨entry, present, holds⟩ := mirrors.recorded key record found
  exact ⟨entry, present, kept key record entry found holds⟩

variable [DecidableEq κ]

theorem set (mirrors : Mirrors stale backs shadow table) {key : κ} {record : ρ} {entry : τ}
    (holds : backs key record entry) :
    Mirrors (fun other => stale other ∧ other ≠ key) backs (Function.update shadow key (some record))
      (Function.update table key (some entry)) := by
  constructor
  · intro other other' found
    by_cases same : other = key
    · subst same
      rw [Function.update_self] at found ⊢
      cases found
      exact ⟨entry, rfl, holds⟩
    · rw [Function.update_of_ne same] at found ⊢
      exact mirrors.recorded other other' found
  · intro other other' present missing
    by_cases same : other = key
    · subst same
      rw [Function.update_self] at missing
      cases missing
    · rw [Function.update_of_ne same] at present missing
      exact ⟨mirrors.complete other other' present missing, same⟩

theorem erase (mirrors : Mirrors stale backs shadow table) (key : κ) :
    Mirrors stale backs (Function.update shadow key none) (Function.update table key none) := by
  constructor
  · intro other record found
    by_cases same : other = key
    · subst same
      rw [Function.update_self] at found
      cases found
    · rw [Function.update_of_ne same] at found ⊢
      exact mirrors.recorded other record found
  · intro other entry present missing
    by_cases same : other = key
    · subst same
      rw [Function.update_self] at present
      cases present
    · rw [Function.update_of_ne same] at present missing
      exact mirrors.complete other entry present missing

omit [DecidableEq κ] in
theorem forget (mirrors : Mirrors (fun _ => False) backs shadow table) :
    Mirrors (fun key => (shadow key).isSome) backs (fun _ => none) table := by
  refine ⟨fun _ _ => nofun, fun key entry present _ => ?_⟩
  cases found : shadow key with
  | some record => rfl
  | none => exact (mirrors.complete key entry present found).elim

omit [DecidableEq κ] in
theorem backs_of_entry (mirrors : Mirrors (fun _ => False) backs shadow table) {key : κ} {entry : τ}
    (present : table key = some entry) :
    ∃ record, shadow key = some record ∧ backs key record entry := by
  cases found : shadow key with
  | none => exact (mirrors.complete key entry present found).elim
  | some record =>
    obtain ⟨entry', present', holds⟩ := mirrors.recorded key record found
    obtain rfl : entry = entry' := Option.some.inj (present.symm.trans present')
    exact ⟨record, rfl, holds⟩

end Mirrors

end RootTaskDemo.Lib
