import RootTaskDemo.Kernel.Frame

namespace RootTaskDemo.Kernel

open Lib Thread
open Function (update_self update_of_ne)

variable {ν α β : Type} (platform : Platform)
variable {type : ObjectType}

/-! The object allocator seen from outside: what it goes by is a stock of slots and of
memory, and each object takes from the stock or finds it short. -/

/-- The slots that are left, the memory that is used, the nodes that are there and the
slots that hold a capability. -/
structure Stock where
  emptySlots : Nat × Nat
  watermark : Nat
  cnodes : Nat → Bool
  taken : CPtr → Bool

namespace Stock

def makeNode (index : Nat) (stock : Stock) : Except Panic Stock :=
  let start := Untyped.start stock.watermark (ObjectType.cnode 12).sizeBits
  if stock.cnodes index then .error (.invocation .deleteFirst)
  else if platform.untypedSize < start + 2 ^ (ObjectType.cnode 12).sizeBits
    then .error (.invocation .notEnoughMemory)
  else .ok { stock with
    watermark := start + 2 ^ (ObjectType.cnode 12).sizeBits
    cnodes := Function.update stock.cnodes index true }

def makeObject (type : ObjectType) (slot : CPtr) (stock : Stock) : Except Panic Stock :=
  let start := Untyped.start stock.watermark type.sizeBits
  if ¬ stock.cnodes (slot >>> 12) then .error (.invocation .failedLookup)
  else if stock.taken slot then .error (.invocation .deleteFirst)
  else if platform.untypedSize < start + 2 ^ type.sizeBits then .error (.invocation .notEnoughMemory)
  else .ok { stock with
    watermark := start + 2 ^ type.sizeBits
    taken := Function.update stock.taken slot true }

def handOut (stock : Stock) : Except Panic Stock :=
  let slot := stock.emptySlots.1
  if stock.emptySlots.2 ≤ slot then .error .noSlot
  else
    let stock := { stock with emptySlots := (slot + 1, stock.emptySlots.2) }
    if slot &&& 0xfff = 0 then stock.makeNode platform (slot >>> 12) else .ok stock

def take (type : ObjectType) (stock : Stock) : Except Panic Stock :=
  (stock.handOut platform).bind fun handed => handed.makeObject platform type stock.emptySlots.1

def drawTables : Nat → Stock → Except Panic Stock
  | 0, stock => .ok stock
  | count + 1, stock => (stock.take platform .pageTable).bind (drawTables count)

end Stock

def KernelState.stock (state : KernelState ν) : Stock :=
  { emptySlots := state.emptySlots
    watermark := state.watermark
    cnodes := state.cnodes
    taken := fun slot => (state.cspace slot).isSome }

variable {platform} {state : KernelState ν}

namespace Stock

variable {stock : Stock} {panic : Panic}

def Short (panic : Panic) : Prop :=
  panic = .noSlot ∨ panic = .invocation .deleteFirst ∨ panic = .invocation .notEnoughMemory

theorem makeNode_error {index : Nat} (short : stock.makeNode platform index = .error panic) :
    Short panic := by
  unfold makeNode at short
  dsimp only at short
  split at short
  · cases short
    exact Or.inr (Or.inl rfl)
  · split at short
    · cases short
      exact Or.inr (Or.inr rfl)
    · cases short

theorem makeObject_error {slot : CPtr} (short : stock.makeObject platform type slot = .error panic) :
    Short panic ∨ panic = .invocation .failedLookup ∧ stock.cnodes (slot >>> 12) = false := by
  unfold makeObject at short
  dsimp only at short
  split at short
  · rename_i absent
    cases short
    exact Or.inr ⟨rfl, Bool.not_eq_true _ ▸ absent⟩
  · split at short
    · cases short
      exact Or.inl (Or.inr (Or.inl rfl))
    · split at short
      · cases short
        exact Or.inl (Or.inr (Or.inr rfl))
      · cases short

theorem makeObject_ok {slot : CPtr} {left : Stock}
    (done : stock.makeObject platform type slot = .ok left) :
    left.emptySlots = stock.emptySlots ∧ left.cnodes = stock.cnodes := by
  unfold makeObject at done
  dsimp only at done
  split at done
  · cases done
  · split at done
    · cases done
    · split at done
      · cases done
      · cases done
        exact ⟨rfl, rfl⟩

theorem handOut_error (short : stock.handOut platform = .error panic) : Short panic := by
  unfold handOut at short
  dsimp only at short
  split at short
  · cases short
    exact Or.inl rfl
  · split at short
    · exact makeNode_error short
    · cases short

theorem take_error (short : stock.take platform type = .error panic) :
    Short panic ∨ panic = .invocation .failedLookup := by
  unfold take at short
  cases handed : stock.handOut platform with
  | ok rest =>
    rw [handed] at short
    exact (makeObject_error short).imp_right And.left
  | error reason =>
    rw [handed] at short
    cases short
    exact Or.inl (handOut_error handed)

def NodeReady (stock : Stock) : Prop :=
  stock.emptySlots.1 % 4096 ≠ 0 → stock.cnodes (stock.emptySlots.1 / 4096) = true

theorem handOut_node {handed : Stock} (ready : stock.NodeReady)
    (done : stock.handOut platform = .ok handed) :
    handed.cnodes (stock.emptySlots.1 / 4096) = true ∧ handed.emptySlots.1 = stock.emptySlots.1 + 1 := by
  unfold handOut at done
  dsimp only at done
  rw [show stock.emptySlots.1 &&& 0xfff = stock.emptySlots.1 % 4096 from Nat.and_two_pow_sub_one_eq_mod _ 12,
    show stock.emptySlots.1 >>> 12 = stock.emptySlots.1 / 4096 from Nat.shiftRight_eq_div_pow _ 12] at done
  split at done
  · cases done
  · split at done
    · unfold makeNode at done
      dsimp only at done
      split at done
      · cases done
      · split at done
        · cases done
        · cases done
          exact ⟨update_self .., rfl⟩
    · rename_i inside
      cases done
      exact ⟨ready inside, rfl⟩

theorem take_node (ready : stock.NodeReady) (type : ObjectType) :
    (∀ left, stock.take platform type = .ok left → left.NodeReady) ∧
      ∀ panic, stock.take platform type = .error panic → Short panic := by
  unfold take
  cases handed : stock.handOut platform with
  | error reason =>
    refine ⟨nofun, ?_⟩
    rintro _ ⟨⟩
    exact handOut_error handed
  | ok rest =>
    obtain ⟨node, counter⟩ := handOut_node ready handed
    refine ⟨fun left done => ?_, fun panic short => ?_⟩
    · obtain ⟨slots, cnodes⟩ := makeObject_ok done
      unfold NodeReady
      rw [slots, cnodes, counter]
      intro inside
      rw [show (stock.emptySlots.1 + 1) / 4096 = stock.emptySlots.1 / 4096 by omega]
      exact node
    · rcases makeObject_error short with short | ⟨-, absent⟩
      · exact short
      · rw [Nat.shiftRight_eq_div_pow] at absent
        exact absurd node (Bool.eq_false_iff.mp absent)

theorem drawTables_error {count : Nat} (short : stock.drawTables platform count = .error panic) :
    Short panic ∨ panic = .invocation .failedLookup := by
  induction count generalizing stock with
  | zero => cases short
  | succ count ih =>
    rw [drawTables] at short
    cases taken : stock.take platform .pageTable with
    | ok left =>
      rw [taken] at short
      exact ih short
    | error reason =>
      rw [taken] at short
      cases short
      exact take_error taken

theorem drawTables_node (ready : stock.NodeReady) (count : Nat) :
    (∀ left, stock.drawTables platform count = .ok left → left.NodeReady) ∧
      ∀ panic, stock.drawTables platform count = .error panic → Short panic := by
  induction count generalizing stock with
  | zero =>
    refine ⟨?_, nofun⟩
    rintro _ ⟨⟩
    exact ready
  | succ count ih =>
    obtain ⟨next, short⟩ := take_node ready .pageTable
    rw [drawTables]
    cases taken : stock.take platform .pageTable with
    | ok left => exact ih (next left taken)
    | error reason =>
      refine ⟨nofun, ?_⟩
      rintro _ ⟨⟩
      exact short _ taken

end Stock

theorem stock_setCap {slot : CPtr} {cap cap' : Cap} (found : state.cspace slot = some cap) :
    (state.setCap slot (some cap')).stock = state.stock := by
  have taken : (fun other => ((state.setCap slot (some cap')).cspace other).isSome) = fun other =>
      (state.cspace other).isSome := by
    funext other
    by_cases here : other = slot
    · rw [here, cspace_setCap, update_self, found]
      rfl
    · rw [cspace_setCap, update_of_ne here]
  unfold KernelState.stock
  rw [taken]
  rfl

def Draws (next : Stock → Except Panic Stock) (state : KernelState ν) (program : KernelM ν α) : Prop :=
  MemTriple (fun now => now = state) program (fun _ after => next state.stock = .ok after.stock)
    (fun fault => ∃ panic, next state.stock = .error panic ∧ fault = .panicked panic)

theorem unwrapped_draws {next : Stock → Except Panic Stock} {program : KernelM ν (Except Sel4Error α)}
    (spec : Delivers state program
      fun result after => match result with
        | .ok _ => next state.stock = .ok after.stock
        | .error error => next state.stock = .error (.invocation error)) :
    Draws next state (unwrapped program) := by
  refine .bind spec.raising fun result => ?_
  cases result with
  | ok value => exact .pure fun _ known => known
  | error error => exact .stop fun _ known => ⟨_, known, rfl⟩

theorem retypeCNode_draws (index : Nat) :
    Draws (Stock.makeNode platform index) state (unwrapped (retypeCNode platform index)) := by
  refine unwrapped_draws (.read_bind ?_)
  rintro state rfl
  dsimp only
  split
  · rename_i there
    refine .pure fun _ _ => ?_
    simp [Stock.makeNode, KernelState.stock, there]
  · rename_i absent
    split
    · rename_i short
      refine .pure fun _ _ => ?_
      simp [Stock.makeNode, KernelState.stock, absent, short]
    · rename_i room
      refine .update_bind (.pure ?_)
      rintro _ rfl
      simp [Stock.makeNode, KernelState.stock, absent, room]

theorem untypedRetype_draws (type : ObjectType) (slot : CPtr) :
    Draws (Stock.makeObject platform type slot) state (unwrapped (untypedRetype platform type slot)) := by
  refine unwrapped_draws (.read_bind ?_)
  rintro state rfl
  dsimp only
  split
  · rename_i absent
    refine .pure fun _ _ => ?_
    simp [Stock.makeObject, KernelState.stock, absent]
  · rename_i node
    split
    · rename_i taken
      refine .pure fun _ _ => ?_
      simp [Stock.makeObject, KernelState.stock, node, taken]
    · rename_i free
      split
      · rename_i short
        refine .pure fun _ _ => ?_
        simp [Stock.makeObject, KernelState.stock, node, free, short]
      · rename_i room
        refine .update_bind (.pure ?_)
        rintro _ rfl
        have taken : (fun other => (Function.update state.cspace slot (some (type.cap slot)) other).isSome) =
            Function.update (fun other => (state.cspace other).isSome) slot true := by
          funext other
          by_cases here : other = slot
          · rw [here, update_self, update_self]
            rfl
          · rw [update_of_ne here, update_of_ne here]
        simp [Stock.makeObject, KernelState.stock, node, free, room, taken]

theorem allocateSlot_draws :
    RunFrom state (allocateSlot platform)
      (fun slot after => slot.2.2 = state.emptySlots.1 ∧ state.stock.handOut platform = .ok after.stock)
      (fun fault => ∃ panic, state.stock.handOut platform = .error panic ∧ fault = .panicked panic) := by
  refine .read_bind ?_
  rintro state rfl
  dsimp only
  split
  · rename_i none_left
    refine .stop fun _ _ => ⟨.noSlot, ?_, rfl⟩
    simp [Stock.handOut, KernelState.stock, none_left]
  · rename_i left
    refine .update_bind ?_
    split
    · rename_i first
      have handed : state.stock.handOut platform =
          Stock.makeNode platform (state.emptySlots.1 >>> 12)
            ({ state with emptySlots := (state.emptySlots.1 + 1, state.emptySlots.2) } : KernelState ν).stock := by
        simp only [Stock.handOut, KernelState.stock, left, first, if_false, if_true]
      rw [handed]
      exact .bind (retypeCNode_draws _) fun _ => .pure fun _ known => ⟨rfl, known⟩
    · rename_i inside
      refine .pure ?_
      rintro _ rfl
      refine ⟨rfl, ?_⟩
      simp only [Stock.handOut, KernelState.stock, left, inside, if_false]

theorem allocateAndRetype_draws (type : ObjectType) (state : KernelState ν) :
    Draws (Stock.take platform type) state (allocateAndRetype platform type) := by
  refine .bind (allocateSlot_draws.onStop ?_) fun slot =>
    MemTriple.fixed ?_
  · rintro fault ⟨panic, short, rfl⟩
    exact ⟨panic, by rw [Stock.take, short]; rfl, rfl⟩
  · rintro handed ⟨slotEq, known⟩
    have taking : Stock.take platform type state.stock = Stock.makeObject platform type slot.2.2 handed.stock := by
      rw [Stock.take, known, slotEq]
      rfl
    rw [taking]
    exact .bind (untypedRetype_draws type slot.2.2) fun _ => .pure fun _ filled => filled

theorem allocateAndRetype_takes (type : ObjectType) (state : KernelState ν) :
    RunFrom state (allocateAndRetype platform type)
      (fun slot after => state.stock.take platform type = .ok after.stock ∧ Allocated type slot state after)
      (fun fault => ∃ panic, state.stock.take platform type = .error panic ∧ fault = .panicked panic) :=
  MemTriple.also (allocateAndRetype_draws type state) (allocateAndRetype_spec state type)

theorem allocate_takes (type : ObjectType) (state : KernelState ν) :
    RunFrom state (allocate platform type)
      (fun slot after => state.stock.take platform type = .ok after.stock ∧ Allocated type slot state after)
      (fun fault => ∃ panic, state.stock.take platform type = .error panic ∧ fault = .panicked panic) :=
  MemTriple.locked (allocateAndRetype_takes type state)

end RootTaskDemo.Kernel
