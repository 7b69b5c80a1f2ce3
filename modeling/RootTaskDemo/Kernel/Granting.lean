import RootTaskDemo.Kernel.Copying

namespace RootTaskDemo.Kernel

open Common Lib Thread
open Function (update_self update_of_ne)

variable {ν : Type} {platform : Platform} {state : KernelState ν} {size item : Nat}
  {num : Option Nat}

/-! What the page that `gen_cap` grants to the net thread shows of the memory of the
kernel thread. -/

theorem storeBytes_otherFrame (frame : ObjId) {address : Nat} {bytes : List UInt8}
    (hidden : ∀ index < bytes.length, isSeat platform (address + index) = true →
      state.seatFrame (address + index) ≠ some frame) :
    Yields state (storeBytes platform address bytes)
      fun _ after => after.frames frame = state.frames frame := by
  induction bytes generalizing state address with
  | nil =>
    refine .pure fun _ same => ?_
    rw [same]
  | cons byte rest ih =>
    have stored : Yields state (storeByte platform address byte)
        fun _ after => after.frames frame = state.frames frame ∧ after.vspaces = state.vspaces := by
      refine .read_bind ?_
      rintro state rfl
      split
      · rename_i seat
        split
        · exact .stop fun _ _ => trivial
        · rename_i other shown
          refine .update fun now same => ?_
          rw [same]
          refine ⟨update_of_ne ?_ .., rfl⟩
          rintro rfl
          exact hidden 0 (Nat.succ_pos _) seat shown
      · refine .update fun now same => ?_
        rw [same]
        exact ⟨rfl, rfl⟩
    refine stored.bind fun _ => .fixed ?_
    rintro middle ⟨frames, vspaces⟩
    rw [← frames]
    refine ih fun index inside seat shown => ?_
    rw [show address + 1 + index = address + (index + 1) by omega] at seat shown
    refine hidden (index + 1) (Nat.succ_lt_succ inside) seat ?_
    unfold KernelState.seatFrame KernelState.pages at shown ⊢
    rw [vspaces] at shown
    exact shown

def Unseen (platform : Platform) (state : KernelState ν) : Prop :=
  ∀ address, isSeat platform address = true → state.seatFrame address ≠ some state.emptySlots.1

theorem seatFrame_granted {granted : KernelState ν} (ready : SeatReady platform state)
    (can : CanAllocate platform state) (new : NewFrame state.emptySlots.1 state granted)
    {address : Nat} (elsewhere : address / pageSize * pageSize ≠ platform.pageSeat) :
    (granted.showAtSeat platform state.emptySlots.1 state.emptySlots.1).seatFrame address =
      state.seatFrame address := by
  have apart : kernelVSpace ≠ state.emptySlots.1 := by
    intro same
    have free := can.free
    rw [← same, ready.kernel] at free
    cases free
  unfold KernelState.seatFrame KernelState.showAtSeat
  rw [pages_setCap, pages_setPage_self, update_of_ne elsewhere]
  unfold KernelState.pages
  rw [new.vspaces, update_of_ne apart]

theorem genCap_page (ready : SeatReady platform state) (can : CanAllocate platform state)
    (unseen : Unseen platform state) (small : size * num.getD 1 ≤ pageSize) :
    Yields state (genCap platform size item num)
      fun cap after => ∃ bytes : List UInt8, bytes.length = size * num.getD 1 * size ∧
        (∀ index < size * num.getD 1 * size, isSeat platform (item + index) = false →
          bytes[index]? = some (state.own (item + index))) ∧
        after.frames cap = Memory.store (fun _ => 0) 0 (bytes.take pageSize) := by
  refine genCap_copies can ready.kernel ready.tables small fun granted new => ?_
  generalize total : size * num.getD 1 * size = count
  have shows_ : Shows platform state.emptySlots.1
    (granted.showAtSeat platform state.emptySlots.1 state.emptySlots.1) :=
    showAtSeat_shows ..
  refine ((loadBytes_known _ item count).partly fun _ _ spec => spec).bind
    fun bytes => .fixed ?_
  rintro _ ⟨rfl, length, each⟩
  have front : 0 + (bytes.take pageSize).length ≤ pageSize := by
    rw [List.length_take]
    omega
  rw [← List.take_append_drop pageSize bytes, storeBytes_append]
  have stored := storeBytes_seat shows_ front
  rw [Nat.add_zero] at stored
  refine stored.raising.bind fun _ => ?_
  refine (storeBytes_otherFrame state.emptySlots.1 fun index inside seat shown => ?_).partly ?_
  · -- what is left lies behind the page seat
    rw [List.length_drop] at inside
    have whole : (bytes.take pageSize).length = pageSize := by
      rw [List.length_take]
      omega
    rw [whole] at seat shown
    have elsewhere : (platform.pageSeat + pageSize + index) / pageSize * pageSize ≠ platform.pageSeat := by
      have aligned := platform.pageSeat_aligned
      unfold pageSize at aligned ⊢
      omega
    exact unseen _ seat ((seatFrame_granted ready can new elsewhere).symm.trans shown)
  · intro _ after frames
    refine ⟨bytes, length, fun index below plain => ?_, ?_⟩
    · rw [← each index below, byteAt_own plain]
      exact congrArg (fun memory : Memory => some (memory (item + index))) new.own
    · rw [frames]
      simp only [KernelState.setFrame, update_self]
      have zero : (granted.showAtSeat platform state.emptySlots.1 state.emptySlots.1).frames
          state.emptySlots.1 = fun _ => 0 := by
        change granted.frames state.emptySlots.1 = _
        rw [new.frames, update_self]
      rw [zero]

/-- For every item, two memories of the kernel thread that agree on the item lead to the
same page: the bytes of the item, and zeros behind them. -/
def DisclosesItem (platform : Platform) (size : Nat) (num : Option Nat) : Prop :=
  ∀ (ν : Type) (state : KernelState ν) (item : Nat) (first second : Memory),
    SeatReady platform state → CanAllocate platform state →
    Unseen platform state → OutsideSeats platform item (size * num.getD 1) →
    (∀ index < size * num.getD 1, first (item + index) = second (item + index)) →
    ∀ own ∈ [first, second], MemTriple (fun now => now = state.setOwn own) (genCap platform size item num)
      (fun cap after => after.frames cap =
        Memory.store (fun _ => 0) 0 (first.load item (size * num.getD 1))) (fun _ => True)

theorem disclosesItem_of_exact (small : size * num.getD 1 ≤ pageSize)
    (exact_ : min pageSize (size * num.getD 1 * size) = size * num.getD 1) :
    DisclosesItem platform size num := by
  intro ν state item first second ready can unseen outside agree own member
  have agrees : ∀ index < size * num.getD 1, own (item + index) = first (item + index) := by
    intro index inside
    simp only [List.mem_cons, List.not_mem_nil, or_false] at member
    rcases member with rfl | rfl
    · rfl
    · exact (agree index inside).symm
  have ready' : SeatReady platform (state.setOwn own) := ⟨ready.kernel, ready.temp, ready.tables⟩
  have can' : CanAllocate platform (state.setOwn own) := ⟨can.slot, can.free, can.memory⟩
  refine (genCap_page ready' can' unseen small).partly ?_
  rintro cap after ⟨bytes, length, each, page⟩
  have taken : bytes.take pageSize = first.load item (size * num.getD 1) := by
    apply List.ext_getElem?
    intro index
    by_cases inside : index < size * num.getD 1
    · rw [List.getElem?_take_of_lt (by omega), each index (by omega) (outside index inside), Memory.getElem?_load inside]
      exact congrArg some (agrees index inside)
    · rw [List.getElem?_eq_none (by rw [List.length_take, length]; omega),
        List.getElem?_eq_none (by rw [Memory.length_load]; omega)]
  rw [page, taken]

def seatedState (platform : Platform) (own : Memory) : KernelState Unit :=
  (pagedState () someTask someFrames own).setPage kernelVSpace platform.extPageSeat (some ⟨0x500, .all⟩)

theorem seatedState_ready (own : Memory) : SeatReady platform (seatedState platform own) :=
  (pagedState_ready () someTask someFrames own).aside (setPage_aside ..)

theorem seatedState_canAllocate (room : pageSize ≤ platform.untypedSize) (own : Memory) :
    CanAllocate platform (seatedState platform own) := by
  have inNode : ¬ (seatedState platform own).emptySlots.1 &&& 0xfff = 0 :=
    show ¬ 0x1001 &&& 0xfff = 0 by decide
  refine ⟨show 0x1001 < 0x100000 by decide, rfl, ?_⟩
  rw [if_neg inNode]
  exact ⟨rfl, show Untyped.start 0 12 + 2 ^ 12 ≤ platform.untypedSize from room⟩

theorem seatedState_seatFrame (own : Memory) (address : Nat) :
    (seatedState platform own).seatFrame address =
      if address / pageSize * pageSize = platform.extPageSeat then some 0x500 else none := by
  unfold KernelState.seatFrame seatedState
  rw [pages_setPage_self, Function.update_apply]
  split
  · rfl
  · rfl

theorem seatedState_unseen (own : Memory) : Unseen platform (seatedState platform own) := by
  intro address _ shown
  rw [seatedState_seatFrame] at shown
  split at shown
  · cases shown
  · cases shown

def behindSeats (platform : Platform) : Nat :=
  platform.pageSeat + platform.extPageSeat + 2 * pageSize

theorem behindSeats_outside (count : Nat) : OutsideSeats platform (behindSeats platform) count := by
  intro index _
  have page : ∀ seat, seat ≤ platform.pageSeat + platform.extPageSeat →
      ((behindSeats platform + index) / pageSize * pageSize == seat) = false := by
    intro seat below
    apply beq_false_of_ne
    unfold behindSeats pageSize
    omega
  unfold isSeat
  simp only [page platform.pageSeat (by omega), page platform.extPageSeat (by omega), Bool.or_self]

theorem genCap_leaks (room : pageSize ≤ platform.untypedSize) (small : size * num.getD 1 < pageSize)
    (longer : size * num.getD 1 < size * num.getD 1 * size) (own : Memory) :
    Delivers (seatedState platform own) (genCap platform size (behindSeats platform) num)
      fun cap after => after.frames cap (size * num.getD 1) = own (behindSeats platform + size * num.getD 1) := by
  have ready : SeatReady platform (seatedState platform own) := seatedState_ready own
  have can := seatedState_canAllocate room own
  have outside : OutsideSeats platform (behindSeats platform) (size * num.getD 1 * size) :=
    behindSeats_outside _
  have returns : Delivers (seatedState platform own) (genCap platform size (behindSeats platform) num)
      fun _ _ => True := by
    refine genCap_copies can ready.kernel ready.tables (Nat.le_of_lt small) fun granted new => ?_
    refine (loadBytes_own _ outside).bind fun bytes => .fixed ?_
    rintro _ ⟨rfl, -⟩
    refine (storeBytes_decides _ _ _).weaken (fun _ same => same) (fun _ _ _ => trivial)
      fun _ denied => denied ?_
    intro index _ seat
    by_cases here : (platform.pageSeat + index) / pageSize * pageSize = platform.pageSeat
    · unfold KernelState.seatFrame
      rw [here]
      exact Option.isSome_of_eq_some (showAtSeat_shows ..)
    · rw [seatFrame_granted ready can new here, seatedState_seatFrame]
      unfold isSeat at seat
      simp only [Bool.or_eq_true, beq_iff_eq] at seat
      rw [if_pos (seat.resolve_left here)]
      rfl
  refine (returns.also (genCap_page ready can (seatedState_unseen own) (Nat.le_of_lt small))).mono ?_
  rintro cap after ⟨-, bytes, length, each, page⟩
  have found := each (size * num.getD 1) longer (outside _ longer)
  rw [page]
  have taken : (bytes.take pageSize)[size * num.getD 1]? =
      some (own (behindSeats platform + size * num.getD 1)) := by
    rw [List.getElem?_take_of_lt small, found]
    rfl
  have inside := @Memory.store_inside (fun _ => 0) 0 (bytes.take pageSize) _ _ taken
  rw [Nat.zero_add] at inside
  exact inside

/-- The page shows nothing but the item if and only if the items are bytes, there are none,
or they fill the page. The copy takes as many items as there are bytes. -/
theorem gen_cap_discloses_iff (platform : Platform) (room : pageSize ≤ platform.untypedSize)
    {size : Nat} {num : Option Nat} (passes : size * num.getD 1 ≤ pageSize) :
    DisclosesItem platform size num ↔ size ≤ 1 ∨ num.getD 1 = 0 ∨ size * num.getD 1 = pageSize := by
  constructor
  · intro discloses
    by_contra condition
    have large : 2 ≤ size := by omega
    have some_ : 0 < num.getD 1 := by omega
    have small : size * num.getD 1 < pageSize := by omega
    have positive : 0 < size * num.getD 1 := Nat.mul_pos (by omega) some_
    have longer : size * num.getD 1 < size * num.getD 1 * size :=
      (Nat.lt_mul_iff_one_lt_right positive).mpr large
    have agree : ∀ index < size * num.getD 1, (0 : UInt8) =
        (Function.update (fun _ => 0) (behindSeats platform + size * num.getD 1) 1 : Memory) (behindSeats platform + index) := by
      intro index inside
      rw [update_of_ne (Nat.ne_of_lt (Nat.add_lt_add_left inside _))]
    have kept := discloses Unit (seatedState platform fun _ => 0) (behindSeats platform) (fun _ => 0)
      (Function.update (fun _ => 0) (behindSeats platform + size * num.getD 1) 1) (seatedState_ready _)
      (seatedState_canAllocate room _) (seatedState_unseen _) (behindSeats_outside _) agree _
        (List.mem_cons_of_mem _ List.mem_cons_self)
    obtain ⟨cap, after, leaked, page⟩ := (genCap_leaks room small longer
      (Function.update (fun _ => 0) (behindSeats platform + size * num.getD 1) 1)).meets kept
    rw [page, update_self, Memory.store_outside (Or.inr (by rw [Memory.length_load]; omega))] at leaked
    cases leaked
  · intro condition
    refine disclosesItem_of_exact passes ?_
    rcases condition with single | none | full
    · obtain rfl | rfl : size = 0 ∨ size = 1 := by omega
      · simp
      · rw [Nat.mul_one]
        omega
    · rw [none]
      simp
    · have long : pageSize ≤ size * num.getD 1 * size := by
        rw [full]
        refine Nat.le_mul_of_pos_right _ (Nat.pos_of_ne_zero ?_)
        rintro rfl
        rw [Nat.zero_mul] at full
        cases full
      omega

theorem gen_cap_discloses_iff_address :
    DisclosesItem smallPlatform 1 (some 32) ∧ ¬ DisclosesItem smallPlatform 32 none := by
  refine ⟨(gen_cap_discloses_iff smallPlatform (by decide) (by decide)).mpr
    (Or.inl (Nat.le_refl _)), fun discloses => ?_⟩
  have condition := (gen_cap_discloses_iff smallPlatform (by decide) (by decide)).mp discloses
  revert condition
  decide

/-- A socket address of 32 bytes, with two memories that differ in the byte behind it. -/
theorem gen_cap_leaks_address :
    (finalState ((genCap smallPlatform 32 0x600000000010 none).run
      ⟨[], [], [], (pagedState () someTask someFrames fun _ => 0)⟩)).memory.frames 0x1001 32 = 0 ∧
    (finalState ((genCap smallPlatform 32 0x600000000010 none).run
      ⟨[], [], [], (pagedState () someTask someFrames
        (Function.update (fun _ => 0) 0x600000000030 5))⟩)).memory.frames 0x1001 32 = 5 := by
  decide +kernel

end RootTaskDemo.Kernel
