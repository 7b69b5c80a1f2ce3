import Mathlib.Data.List.Basic
import Mathlib.Algebra.Order.Ring.Nat

namespace RootTaskDemo.Lib

/-! A hierarchy of translation tables. Every level divides the addresses into spans of
one size, and a page is reached once each level below the root has a table for the span
the page lies in. Level 0 is the root, which is always there. -/

structure Hierarchy where
  levels : Nat
  spanBits : Nat → Nat

abbrev Tables := Nat → Nat → Bool

def Tables.none : Tables := fun _ _ => false

def Tables.add (tables : Tables) (level span : Nat) : Tables := fun other =>
  if other = level then Function.update (tables level) span true else tables other

theorem Tables.add_eq_true {tables : Tables} {level span other index : Nat} :
    tables.add level span other index = true ↔ tables other index = true ∨ (other, index) = (level, span) := by
  unfold Tables.add
  by_cases sameLevel : other = level
  · subst sameLevel
    by_cases sameSpan : index = span
    · simp [sameSpan]
    · simp [sameSpan]
  · simp [sameLevel]

namespace Hierarchy

variable (hierarchy : Hierarchy)

def intermediate : List Nat := List.range' 1 (hierarchy.levels - 1)

def spanOf (level addr : Nat) : Nat := addr >>> hierarchy.spanBits level

/-- The levels without a table on the way to the address, from the top. -/
def missing (tables : Tables) (addr : Nat) : List Nat :=
  hierarchy.intermediate.filter fun level => !tables level (hierarchy.spanOf level addr)

def fill (tables : Tables) (addr : Nat) : Tables :=
  (hierarchy.missing tables addr).foldl
    (fun tables level => tables.add level (hierarchy.spanOf level addr)) tables

variable {hierarchy} {tables : Tables} {addr level : Nat} {rest : List Nat}

theorem mem_intermediate : level ∈ hierarchy.intermediate ↔ 1 ≤ level ∧ level < hierarchy.levels := by
  rw [intermediate, List.mem_range'_1]
  omega

theorem mem_missing :
    level ∈ hierarchy.missing tables addr ↔
      (1 ≤ level ∧ level < hierarchy.levels) ∧ tables level (hierarchy.spanOf level addr) = false := by
  rw [missing, List.mem_filter, mem_intermediate, Bool.not_eq_true']

theorem missing_nodup : (hierarchy.missing tables addr).Nodup := List.Pairwise.filter _ List.nodup_range'

theorem missing_length_lt (root : 0 < hierarchy.levels) :
    (hierarchy.missing tables addr).length < hierarchy.levels := by
  have bound := List.length_filter_le (fun level => !tables level (hierarchy.spanOf level addr))
    hierarchy.intermediate
  rw [intermediate, List.length_range'] at bound
  unfold missing intermediate
  omega

theorem missing_add (first : hierarchy.missing tables addr = level :: rest) :
    hierarchy.missing (tables.add level (hierarchy.spanOf level addr)) addr = rest := by
  have others : hierarchy.missing (tables.add level (hierarchy.spanOf level addr)) addr =
      (hierarchy.missing tables addr).filter fun other => other ≠ level := by
    unfold missing
    rw [List.filter_filter]
    refine List.filter_congr fun other _ => ?_
    by_cases same : other = level
    · subst same
      simp [Tables.add]
    · simp [Tables.add, same]
  have distinct : (level :: rest).Nodup := first ▸ missing_nodup
  rw [others, first, List.filter_cons_of_neg (by simp), List.filter_eq_self]
  intro other member
  have different : other ≠ level := by
    rintro rfl
    exact (List.nodup_cons.mp distinct).1 member
  exact decide_eq_true different

theorem fill_of_complete (complete : hierarchy.missing tables addr = []) :
    hierarchy.fill tables addr = tables := by
  rw [fill, complete, List.foldl_nil]

theorem fill_add (first : hierarchy.missing tables addr = level :: rest) :
    hierarchy.fill (tables.add level (hierarchy.spanOf level addr)) addr = hierarchy.fill tables addr := by
  rw [fill, fill, missing_add first, first, List.foldl_cons]

private theorem foldl_add_eq_true (levels : List Nat) {other index : Nat} :
    levels.foldl (fun tables level => Tables.add tables level (hierarchy.spanOf level addr)) tables
      other index = true ↔
      tables other index = true ∨ other ∈ levels ∧ index = hierarchy.spanOf other addr := by
  induction levels generalizing tables with
  | nil => simp
  | cons level levels ih =>
    rw [List.foldl_cons, ih, Tables.add_eq_true, List.mem_cons, Prod.mk.injEq]
    constructor
    · rintro ((known | ⟨rfl, rfl⟩) | ⟨member, rfl⟩)
      · exact Or.inl known
      · exact Or.inr ⟨Or.inl rfl, rfl⟩
      · exact Or.inr ⟨Or.inr member, rfl⟩
    · rintro (known | ⟨rfl | member, rfl⟩)
      · exact Or.inl (Or.inl known)
      · exact Or.inl (Or.inr ⟨rfl, rfl⟩)
      · exact Or.inr ⟨member, rfl⟩

def spanBytes (hierarchy : Hierarchy) (level : Nat) : Nat := 2 ^ hierarchy.spanBits level

theorem spanBytes_pos : 0 < hierarchy.spanBytes level := Nat.two_pow_pos _

theorem spanOf_eq_div : hierarchy.spanOf level addr = addr / hierarchy.spanBytes level :=
    Nat.shiftRight_eq_div_pow ..

def Overlaps (hierarchy : Hierarchy) (level span start stop : Nat) : Prop :=
  span * hierarchy.spanBytes level < stop ∧ start < (span + 1) * hierarchy.spanBytes level

variable {span start stop : Nat}

theorem overlaps_iff_index :
    hierarchy.Overlaps level span start stop ↔ start / hierarchy.spanBytes level ≤ span ∧
      span < (stop + hierarchy.spanBytes level - 1) / hierarchy.spanBytes level := by
  have size : 0 < hierarchy.spanBytes level := spanBytes_pos
  have begins : start / hierarchy.spanBytes level ≤ span ↔ start < (span + 1) * hierarchy.spanBytes level := by
    rw [← Nat.lt_succ_iff, Nat.div_lt_iff_lt_mul size]
  have ends : span < (stop + hierarchy.spanBytes level - 1) / hierarchy.spanBytes level ↔
      span * hierarchy.spanBytes level < stop := by
    rw [← Nat.succ_le_iff, Nat.le_div_iff_mul_le size, Nat.succ_mul]
    omega
  rw [begins, ends, Overlaps, and_comm]

theorem overlaps_spanOf (above : start ≤ addr) (below : addr < stop) :
    hierarchy.Overlaps level (hierarchy.spanOf level addr) start stop := by
  rw [spanOf_eq_div]
  refine ⟨Nat.lt_of_le_of_lt (Nat.div_mul_le_self ..) below, Nat.lt_of_le_of_lt above ?_⟩
  exact (Nat.div_lt_iff_lt_mul spanBytes_pos).mp (Nat.lt_succ_self _)

theorem overlaps_iff (nonempty : start < stop) :
    hierarchy.Overlaps level span start stop ↔ ∃ addr, start ≤ addr ∧ addr < stop ∧
      hierarchy.spanOf level addr = span := by
  constructor
  · rintro ⟨below, above⟩
    have size : 0 < hierarchy.spanBytes level := spanBytes_pos
    rw [Nat.succ_mul] at above
    refine ⟨max start (span * hierarchy.spanBytes level), le_max_left .., max_lt nonempty below, ?_⟩
    rw [spanOf_eq_div, Nat.div_eq_iff size]
    omega
  · rintro ⟨addr, above, below, rfl⟩
    exact overlaps_spanOf above below

/-- Each span divides the one of the level above. -/
def Nested (hierarchy : Hierarchy) : Prop :=
  ∀ level, 1 ≤ level → level + 1 < hierarchy.levels → hierarchy.spanBits (level + 1) ≤
    hierarchy.spanBits level

theorem Nested.spanBits_le (nested : hierarchy.Nested) {upper lower : Nat} (first : 1 ≤ upper)
    (order : upper ≤ lower) (last : lower < hierarchy.levels) :
    hierarchy.spanBits lower ≤ hierarchy.spanBits upper := by
  induction lower, order using Nat.le_induction with
  | base => exact Nat.le_refl _
  | succ lower order ih => exact (nested lower (first.trans order) last).trans (ih (by omega))

theorem Overlaps.upper {upper lower : Nat}
    (coarser : hierarchy.spanBits lower ≤ hierarchy.spanBits upper)
    (overlaps : hierarchy.Overlaps lower span start stop) :
    hierarchy.Overlaps upper (hierarchy.spanOf upper (span * hierarchy.spanBytes lower)) start stop := by
  obtain ⟨below, above⟩ := overlaps
  obtain ⟨factor, bytes⟩ : hierarchy.spanBytes lower ∣ hierarchy.spanBytes upper :=
    Nat.pow_dvd_pow 2 coarser
  have positive : 0 < factor := by
    have size : 0 < hierarchy.spanBytes upper := spanBytes_pos
    rw [bytes] at size
    exact Nat.pos_of_mul_pos_left size
  have index : hierarchy.spanOf upper (span * hierarchy.spanBytes lower) = span / factor := by
    rw [spanOf_eq_div, bytes, Nat.mul_comm span, Nat.mul_div_mul_left _ _ spanBytes_pos]
  have spans : ∀ count, count * hierarchy.spanBytes upper = count * factor * hierarchy.spanBytes lower := by
    intro count
    rw [bytes, Nat.mul_comm (hierarchy.spanBytes lower), Nat.mul_assoc]
  rw [Overlaps, index, spans, spans]
  constructor
  · exact Nat.lt_of_le_of_lt (Nat.mul_le_mul_right _ (Nat.div_mul_le_self span factor)) below
  · refine Nat.lt_of_lt_of_le above (Nat.mul_le_mul_right _ ?_)
    exact (Nat.div_lt_iff_lt_mul positive).mp (Nat.lt_succ_self _)

def spans (hierarchy : Hierarchy) (start stop level : Nat) : List Nat :=
  List.range' (start / hierarchy.spanBytes level)
    ((stop + hierarchy.spanBytes level - 1) / hierarchy.spanBytes level - start / hierarchy.spanBytes level)

/-- The tables of a range by level and span, in the order in which each has the tables above it. -/
def tablesOf (hierarchy : Hierarchy) (start stop : Nat) : List (Nat × Nat) :=
  hierarchy.intermediate.flatMap fun level => (hierarchy.spans start stop level).map fun span =>
    (level, span)

theorem mem_spans : span ∈ hierarchy.spans start stop level ↔
    hierarchy.Overlaps level span start stop := by
  rw [spans, List.mem_range'_1, overlaps_iff_index]
  omega

theorem mem_tablesOf :
    (level, span) ∈ hierarchy.tablesOf start stop ↔
      (1 ≤ level ∧ level < hierarchy.levels) ∧ hierarchy.Overlaps level span start stop := by
  simp [tablesOf, mem_intermediate, mem_spans]

def Before (table other : Nat × Nat) : Prop :=
  table.1 < other.1 ∨ table.1 = other.1 ∧ table.2 < other.2

theorem Before.irrefl (table : Nat × Nat) : ¬ Before table table := by
  unfold Before
  omega

theorem Before.asymm {table other : Nat × Nat} (before : Before table other) : ¬ Before other table := by
  unfold Before at *
  omega

theorem tablesOf_pairwise : (hierarchy.tablesOf start stop).Pairwise Before := by
  rw [tablesOf, List.pairwise_flatMap]
  refine ⟨fun level _ => ?_, List.Pairwise.imp (fun higher table member other member' => ?_)
    (List.pairwise_lt_range' ..)⟩
  · exact List.pairwise_map.mpr
      (List.Pairwise.imp (fun lower => Or.inr ⟨rfl, lower⟩) (List.pairwise_lt_range' ..))
  · obtain ⟨_, -, rfl⟩ := List.mem_map.mp member
    obtain ⟨_, -, rfl⟩ := List.mem_map.mp member'
    exact Or.inl higher

theorem tablesOf_nodup : (hierarchy.tablesOf start stop).Nodup :=
  tablesOf_pairwise.imp fun {_ _} before => by
    rintro rfl
    exact Before.irrefl _ before

theorem missing_next {done rest : List (Nat × Nat)} (nested : hierarchy.Nested)
    (turn : hierarchy.tablesOf start stop = done ++ (level, span) :: rest)
    (present : ∀ other index, tables other index = true ↔ (other, index) ∈ done) :
    (hierarchy.missing tables (span * hierarchy.spanBytes level)).head? = some level := by
  have sorted : (done ++ (level, span) :: rest).Pairwise Before := turn ▸ tablesOf_pairwise
  obtain ⟨-, later, earlier⟩ := List.pairwise_append.mp sorted
  have after := (List.pairwise_cons.mp later).1
  obtain ⟨⟨first, last⟩, overlaps⟩ :=
    mem_tablesOf.mp (turn ▸ List.mem_append_right done (List.mem_cons_self ..))
  have own : hierarchy.spanOf level (span * hierarchy.spanBytes level) = span := by
    rw [spanOf_eq_div, Nat.mul_div_cancel _ spanBytes_pos]
  rw [missing, List.head?_filter, intermediate, List.find?_range'_eq_some]
  refine ⟨?_, mem_intermediate.mpr ⟨first, last⟩, fun upper top higher => ?_⟩
  · rw [own, Bool.not_eq_true', Bool.eq_false_iff, ne_eq, present]
    intro known
    exact Before.irrefl _ (earlier _ known _ (List.mem_cons_self ..))
  · -- the table above overlaps the range as well, and its turn was before
    have above := overlaps.upper (nested.spanBits_le top (Nat.le_of_lt higher) last)
    have member := mem_tablesOf.mpr ⟨⟨top, higher.trans last⟩, above⟩
    rw [Bool.not_not, present]
    rw [turn, List.mem_append, List.mem_cons] at member
    rcases member with known | same | pending
    · exact known
    · exact absurd (congrArg Prod.fst same) (Nat.ne_of_lt higher)
    · exact absurd (after _ pending) (Before.asymm (Or.inl higher))

theorem missing_eq_nil (present : ∀ table ∈ hierarchy.tablesOf start stop, tables table.1 table.2 = true)
    (above : start ≤ addr) (below : addr < stop) : hierarchy.missing tables addr = [] := by
  rw [List.eq_nil_iff_forall_not_mem]
  intro level member
  obtain ⟨inside, absent⟩ := mem_missing.mp member
  have there := present (level, hierarchy.spanOf level addr)
    (mem_tablesOf.mpr ⟨inside, overlaps_spanOf above below⟩)
  rw [absent] at there
  cases there

end Hierarchy

end RootTaskDemo.Lib
