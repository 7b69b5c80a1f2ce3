import Mathlib.Algebra.Order.Ring.Nat
import Mathlib.Tactic.Common

namespace RootTaskDemo.Lib.CSpace

/-! Addresses of capabilities. A node is an array of slots. A capability to a node says how
many bits of an address choose the slot, and what the bits in front of them have to be. A
slot with such a capability leads on to the next node. -/

structure NodeCap where
  node : Nat
  radix : Nat
  guardBits : Nat
  guard : Nat
deriving DecidableEq, Repr

inductive Content (κ : Type) where
  | node (cap : NodeCap)
  | other (cap : κ)
deriving DecidableEq, Repr

abbrev Slots (κ : Type) := Nat → Nat → Option (Content κ)

structure Place where
  node : Nat
  index : Nat
  left : Nat
deriving DecidableEq, Repr

inductive LookupFault where
  | guardMismatch
  | depthMismatch
deriving DecidableEq, Repr

variable {κ : Type}

/-- The last `bits` bits of the address, from the node on. A node that takes no bits at all
would lead nowhere; the rounds are bounded by the bits of a word. -/
def resolve (slots : Slots κ) : Nat → NodeCap → Nat → Nat → Except LookupFault Place
  | 0, _, _, _ => .error .depthMismatch
  | rounds + 1, cap, address, bits =>
    if bits < cap.guardBits ∨ address >>> (bits - cap.guardBits) % 2 ^ cap.guardBits ≠ cap.guard
      then .error .guardMismatch
    else if bits < cap.guardBits + cap.radix then .error .depthMismatch
    else
      let left := bits - (cap.guardBits + cap.radix)
      let index := address >>> left % 2 ^ cap.radix
      if left = 0 then .ok ⟨cap.node, index, 0⟩
      else match slots cap.node index with
        | some (.node next) => resolve slots rounds next address left
        | _ => .ok ⟨cap.node, index, left⟩

/-- What an address stands for, where bits that are left do not matter. -/
def lookup (slots : Slots κ) (root : NodeCap) (bits address : Nat) : Option (Content κ) :=
  match resolve slots bits root address bits with
  | .ok place => slots place.node place.index
  | .error _ => none

def put (slots : Slots κ) (node index : Nat) (content : Option (Content κ)) : Slots κ :=
  Function.update slots node (Function.update (slots node) index content)

variable {slots : Slots κ} {node index address rounds high low guardBits : Nat}
  {content : Option (Content κ)}

@[simp] theorem put_same : put slots node index content node =
    Function.update (slots node) index content :=
  Function.update_self ..

theorem put_other {other : Nat} (different : other ≠ node) :
    put slots node index content other = slots other :=
  Function.update_of_ne different ..

@[grind =] theorem put_apply (other place : Nat) :
    put slots node index content other place = if other = node ∧ place = index then content
      else slots other place := by
  by_cases same : other = node
  · subst same
    rw [put_same, Function.update_apply]
    simp only [true_and]
  · rw [put_other same, if_neg fun here => same here.1]

theorem shiftRight_of_lt {bits : Nat} (small : address < 2 ^ bits) : address >>> bits = 0 := by
  rw [Nat.shiftRight_eq_div_pow, Nat.div_eq_of_lt small]

theorem resolve_last : resolve slots (rounds + 1) ⟨node, low, 0, 0⟩ address low =
    .ok ⟨node, address % 2 ^ low, 0⟩ := by
  simp [resolve, Nat.mod_one]

theorem resolve_exact (small : address < 2 ^ high) :
    resolve slots (rounds + 1) ⟨node, high, guardBits, 0⟩ address (guardBits + high) =
      .ok ⟨node, address, 0⟩ := by
  simp [resolve, shiftRight_of_lt small, Nat.mod_eq_of_lt small]

theorem resolve_first (positive : 0 < low) (small : address < 2 ^ (high + low)) :
    resolve slots (rounds + 1) ⟨node, high, guardBits, 0⟩ address (guardBits + high + low) =
      match slots node (address / 2 ^ low) with
      | some (.node next) => resolve slots rounds next address low
      | _ => .ok ⟨node, address / 2 ^ low, low⟩ := by
  have index : address / 2 ^ low % 2 ^ high = address / 2 ^ low := by
    refine Nat.mod_eq_of_lt (Nat.div_lt_of_lt_mul ?_)
    rwa [← Nat.pow_add, Nat.add_comm]
  have left : guardBits + high + low - guardBits = high + low := by omega
  simp only [resolve, left, shiftRight_of_lt small, Nat.zero_mod, ne_eq, not_true_eq_false,
    or_false, Nat.add_sub_cancel_left, Nat.shiftRight_eq_div_pow, index]
  rw [if_neg (by omega), if_neg (by omega), if_neg (Nat.ne_of_gt positive)]

theorem resolve_guard (large : 2 ^ (high + low) ≤ address)
    (word : address < 2 ^ (guardBits + high + low)) :
    resolve slots (rounds + 1) ⟨node, high, guardBits, 0⟩ address (guardBits + high + low) =
      .error .guardMismatch := by
  have left : guardBits + high + low - guardBits = high + low := by omega
  have inside : address / 2 ^ (high + low) < 2 ^ guardBits := by
    refine Nat.div_lt_of_lt_mul ?_
    rwa [← Nat.pow_add, Nat.add_comm, ← Nat.add_assoc]
  have front : address >>> (high + low) % 2 ^ guardBits ≠ 0 := by
    rw [Nat.shiftRight_eq_div_pow, Nat.mod_eq_of_lt inside]
    exact Nat.ne_of_gt (Nat.div_pos large (Nat.two_pow_pos _))
  simp only [resolve, left]
  rw [if_pos (Or.inr front)]

/-- A root that leads to one node only shows that node at the lowest addresses, and nothing
above them. -/
theorem lookup_nested {top leaf : Nat} (positive : 0 < low) (several : 2 ≤ guardBits + high + low)
    (only : ∀ index, slots top index = if index = 0 then some (.node ⟨leaf, low, 0, 0⟩) else none)
    (word : address < 2 ^ (guardBits + high + low)) :
    lookup slots ⟨top, high, guardBits, 0⟩ (guardBits + high + low) address =
      if address < 2 ^ low then slots leaf address else none := by
  obtain ⟨rounds, enough⟩ := Nat.exists_eq_add_of_le' several
  unfold lookup
  nth_rewrite 1 [enough]
  by_cases inside : address < 2 ^ (high + low)
  · rw [resolve_first positive inside, only]
    by_cases small : address < 2 ^ low
    · rw [if_pos (Nat.div_eq_of_lt small), if_pos small]
      dsimp only
      rw [resolve_last, Nat.mod_eq_of_lt small]
    · have later : address / 2 ^ low ≠ 0 := Nat.ne_of_gt (Nat.div_pos (Nat.le_of_not_lt small) (Nat.two_pow_pos low))
      rw [if_neg later, if_neg small]
      dsimp only
      rw [only, if_neg later]
  · have large : ¬ address < 2 ^ low := fun small =>
      inside (Nat.lt_of_lt_of_le small (Nat.pow_le_pow_right Nat.two_pos (Nat.le_add_left low high)))
    rw [resolve_guard (Nat.le_of_not_lt inside) word, if_neg large]

attribute [irreducible] resolve lookup

end RootTaskDemo.Lib.CSpace
