import RootTaskDemo.Kernel.PageWalk
import RootTaskDemo.Lib.Runs

namespace RootTaskDemo.Kernel

open Common Lib Thread
open Function (update_self update_of_ne)

variable {ν : Type} {platform : Platform} {state : KernelState ν} {task : Sel4Task} {address : Nat}

/-! What the copies between the memory of the kernel thread and a page at the seat
do to every byte, also where they run past the end of the page. -/

def KernelState.byteAt (platform : Platform) (state : KernelState ν) (address : Nat) : Option UInt8 :=
  if isSeat platform address then (state.seatFrame address).map fun frame =>
    state.frames frame (address % pageSize)
  else some (state.own address)

theorem byteAt_own (outside : isSeat platform address = false) :
    state.byteAt platform address = some (state.own address) := by
  unfold KernelState.byteAt
  rw [outside]
  rfl

theorem byteAt_seat {frame : ObjId} (seat : isSeat platform address = true)
    (shown : state.seatFrame address = some frame) :
    state.byteAt platform address = some (state.frames frame (address % pageSize)) := by
  unfold KernelState.byteAt
  rw [if_pos seat, shown]
  rfl

theorem byteAt_congr {other : KernelState ν} (own : other.own = state.own)
    (frames : other.frames = state.frames) (vspaces : other.vspaces = state.vspaces)
      (address : Nat) :
    other.byteAt platform address = state.byteAt platform address := by
  unfold KernelState.byteAt KernelState.seatFrame KernelState.pages
  rw [own, frames, vspaces]

theorem loadByte_known (state : KernelState ν) (address : Nat) :
    RunFrom state (loadByte platform address)
      (fun byte now => now = state ∧ state.byteAt platform address = some byte)
      (fun _ => state.byteAt platform address = none) := by
  refine .read_bind ?_
  rintro state rfl
  split
  · rename_i seat
    split
    · rename_i empty
      refine .stop fun _ _ => ?_
      unfold KernelState.byteAt
      rw [if_pos seat, empty]
      rfl
    · rename_i frame shown
      exact .pure fun _ same => ⟨same, byteAt_seat seat shown⟩
  · rename_i outside
    exact .pure fun _ same => ⟨same, byteAt_own (Bool.eq_false_iff.mpr outside)⟩

theorem loadBytes_known (state : KernelState ν) (address count : Nat) :
    RunFrom state (loadBytes platform address count)
      (fun bytes now => now = state ∧ bytes.length = count ∧
        ∀ index < count, state.byteAt platform (address + index) = bytes[index]?)
      (fun _ => ∃ index < count, state.byteAt platform (address + index) = none) := by
  induction count generalizing address with
  | zero =>
    exact .pure fun _ same => ⟨same, rfl, fun _ impossible => absurd impossible (Nat.not_lt_zero _)⟩
  | succ count ih =>
    have shifted : ∀ index, address + 1 + index = address + (index + 1) := by omega
    refine ((loadByte_known state address).onStop
        fun _ none => ⟨0, Nat.succ_pos _, none⟩).bind fun byte => .fixed ?_
    rintro state ⟨rfl, first⟩
    refine ((ih (address + 1)).onStop ?_).bind fun rest => .pure ?_
    · rintro _ ⟨index, inside, none⟩
      exact ⟨index + 1, Nat.succ_lt_succ inside, shifted index ▸ none⟩
    · rintro _ ⟨rfl, length, each⟩
      refine ⟨rfl, congrArg (· + 1) length, fun index inside => ?_⟩
      cases index with
      | zero => exact first
      | succ index =>
        rw [← shifted, List.getElem?_cons_succ]
        exact each index (Nat.lt_of_succ_lt_succ inside)

theorem storeByte_same {byte : UInt8} (known : state.byteAt platform address = some byte) :
    Delivers state (storeByte platform address byte) fun _ now => now = state := by
  refine .read_bind ?_
  rintro state rfl
  unfold KernelState.byteAt at known
  split
  · rename_i seat
    rw [if_pos seat] at known
    split
    · rename_i empty
      rw [empty] at known
      cases known
    · rename_i frame shown
      rw [shown, Option.map_some, Option.some.injEq] at known
      refine .update ?_
      rintro _ rfl
      rw [← known, Function.update_eq_self, Function.update_eq_self]
  · rename_i outside
    rw [if_neg outside, Option.some.injEq] at known
    refine .update ?_
    rintro _ rfl
    rw [← known, Function.update_eq_self]

theorem storeBytes_same {bytes : List UInt8}
    (known : ∀ index byte, bytes[index]? = some byte → state.byteAt platform (address + index) = some byte) :
    Delivers state (storeBytes platform address bytes) fun _ now => now = state := by
  induction bytes generalizing address with
  | nil => exact .pure fun _ same => same
  | cons byte rest ih =>
    refine (storeByte_same (known 0 byte rfl)).bind fun _ => ih fun index other found => ?_
    rw [show address + 1 + index = address + (index + 1) by omega]
    exact known (index + 1) other found

theorem storeBytes_append (address : Nat) (bytes bytes' : List UInt8) :
    (storeBytes platform address (bytes ++ bytes') : KernelM ν Unit) =
      storeBytes platform address bytes >>= fun _ => storeBytes platform (address + bytes.length) bytes' := by
  induction bytes generalizing address with
  | nil => simp only [List.nil_append, storeBytes, pure_bind, List.length_nil, Nat.add_zero]
  | cons byte rest ih =>
    simp only [List.cons_append, storeBytes, ih, bind_assoc, List.length_cons]
    rw [show address + 1 + rest.length = address + (rest.length + 1) by omega]

/-- At most the page seat shows a frame. -/
def OneSeat (platform : Platform) (state : KernelState ν) : Prop :=
  ∀ address, isSeat platform address = true → (state.seatFrame address).isSome →
    address / pageSize * pageSize = platform.pageSeat

theorem Undisturbed.oneSeat {before after : KernelState ν} (step : Undisturbed before after)
    (one : OneSeat platform before) :
    OneSeat platform after := by
  unfold OneSeat KernelState.seatFrame KernelState.pages
  rw [step.vspaces]
  exact one

theorem setOwn_byteAt (outside : isSeat platform address = false) (byte : UInt8) :
    (state.setOwn (Function.update state.own address byte)).byteAt platform address = some byte ∧
      ∀ other, other ≠ address → (state.setOwn (Function.update state.own address byte)).byteAt platform other =
        state.byteAt platform other := by
  refine ⟨?_, fun other apart => ?_⟩
  · rw [byteAt_own outside]
    exact congrArg some (update_self ..)
  · unfold KernelState.byteAt
    split
    · rfl
    · exact congrArg some (update_of_ne apart ..)

theorem setFrame_byteAt (one : OneSeat platform state) {frame : ObjId}
    (seat : isSeat platform address = true) (shown : state.seatFrame address = some frame)
    (byte : UInt8) :
    (state.setFrame frame (Function.update (state.frames frame) (address % pageSize) byte)).byteAt
      platform address = some byte ∧
      ∀ other, other ≠ address →
        (state.setFrame frame (Function.update (state.frames frame) (address % pageSize) byte)).byteAt platform other =
          state.byteAt platform other := by
  refine ⟨?_, fun other apart => ?_⟩
  · have stillShown : (state.setFrame frame
      (Function.update (state.frames frame) (address % pageSize) byte)).seatFrame address =
        some frame := shown
    rw [byteAt_seat seat stillShown]
    simp only [KernelState.setFrame, update_self]
  · unfold KernelState.byteAt
    split
    · rename_i otherSeat
      change Option.map _ (state.seatFrame other) = Option.map _ (state.seatFrame other)
      cases otherShown : state.seatFrame other with
      | none => rfl
      | some otherFrame =>
        -- both are in the page at the seat, at different places
        have here := one address seat (by rw [shown]; rfl)
        have there := one other otherSeat (by rw [otherShown]; rfl)
        have different : other % pageSize ≠ address % pageSize := by
          unfold pageSize at here there ⊢
          omega
        by_cases same : otherFrame = frame
        · simp only [same, Option.map_some, KernelState.setFrame, update_self, update_of_ne different]
        · simp only [Option.map_some, KernelState.setFrame, update_of_ne same]
    · rfl

theorem storeByte_byteAt (one : OneSeat platform state) (address : Nat) (byte : UInt8) :
    Yields state (storeByte platform address byte)
      fun _ after => Undisturbed state after ∧ after.byteAt platform address = some byte ∧
        ∀ other, other ≠ address → after.byteAt platform other = state.byteAt platform other := by
  refine .read_bind ?_
  rintro state rfl
  split
  · rename_i seat
    split
    · exact .stop fun _ _ => trivial
    · rename_i frame shown
      refine .update fun now same => ?_
      rw [same]
      exact ⟨⟨rfl, rfl, rfl, rfl, rfl⟩, setFrame_byteAt one seat shown byte⟩
  · rename_i outside
    refine .update fun now same => ?_
    rw [same]
    exact ⟨⟨rfl, rfl, rfl, rfl, rfl⟩, setOwn_byteAt (Bool.eq_false_iff.mpr outside) byte⟩

theorem storeBytes_byteAt (one : OneSeat platform state) (address : Nat) (bytes : List UInt8) :
    Yields state (storeBytes platform address bytes)
      fun _ after => Undisturbed state after ∧
        (∀ index byte, bytes[index]? = some byte → after.byteAt platform (address + index) = some byte) ∧
        ∀ other, other < address → after.byteAt platform other = state.byteAt platform other := by
  induction bytes generalizing state address with
  | nil =>
    refine .pure ?_
    rintro _ rfl
    refine ⟨⟨rfl, rfl, rfl, rfl, rfl⟩, fun index byte found => ?_, fun _ _ => rfl⟩
    cases found
  | cons byte rest ih =>
    refine (storeByte_byteAt one address byte).bind fun _ => .fixed ?_
    rintro middle ⟨step, stored, others⟩
    refine (ih (step.oneSeat one) (address + 1)).partly ?_
    rintro _ after ⟨later, each, below⟩
    refine ⟨step.trans later, fun index other found => ?_, fun other lower => ?_⟩
    · cases index with
      | zero =>
        cases found
        rw [Nat.add_zero, below address (Nat.lt_succ_self _), stored]
      | succ index =>
        rw [show address + (index + 1) = address + 1 + index by omega]
        exact each index other found
    · rw [below other (by omega), others other (by omega)]

section Item

variable {frame : ObjId} {size item offset total : Nat}

theorem borrowing_oneSeat (one : OneSeat platform state) (frame : ObjId) :
    OneSeat platform (state.borrowing platform frame) := by
  intro address seat shown
  by_contra elsewhere
  unfold KernelState.seatFrame at shown
  rw [pages_borrowing, update_of_ne elsewhere] at shown
  exact elsewhere (one address seat shown)

theorem setFrame_store_byteAt (one : OneSeat platform state) (showing : Shows platform frame state)
    {bytes : List UInt8} {index : Nat} (behind : bytes.length ≤ index) :
    (state.setFrame frame ((state.frames frame).store offset bytes)).byteAt platform
      (platform.pageSeat + offset + index) =
      state.byteAt platform (platform.pageSeat + offset + index) := by
  unfold KernelState.byteAt
  split
  · rename_i seat
    change Option.map _ (state.seatFrame _) = Option.map _ (state.seatFrame _)
    cases shown : state.seatFrame (platform.pageSeat + offset + index) with
    | none => rfl
    | some other =>
      have here := one _ seat (by rw [shown]; rfl)
      have place : (platform.pageSeat + offset + index) % pageSize = offset + index := by
        have aligned := platform.pageSeat_aligned
        unfold pageSize at here aligned ⊢
        omega
      have same : other = frame := by
        unfold KernelState.seatFrame at shown
        rw [here] at shown
        exact Option.some.inj (shown.symm.trans showing)
      simp only [same, Option.map_some, KernelState.setFrame, update_self, place]
      rw [Memory.store_outside (Or.inr (by omega))]
  · rfl

theorem copyBytes_overrun (one : OneSeat platform state) (showing : Shows platform frame state)
    (outside : OutsideSeats platform item size) (inside : offset + size ≤ pageSize) (long : size ≤ total)
    (harmless : ∀ index, size ≤ index → index < total → ∃ byte, state.byteAt platform (item + index) = some byte ∧
      state.byteAt platform (platform.pageSeat + offset + index) = some byte) :
    Delivers state (copyBytes platform item (platform.pageSeat + offset) total)
      fun _ after => after = state.setFrame frame ((state.frames frame).store offset (state.own.load item size)) := by
  have seen : ∀ index < total, ∃ byte, state.byteAt platform (item + index) = some byte := by
    intro index below
    by_cases behind : size ≤ index
    · obtain ⟨byte, source, -⟩ := harmless index behind below
      exact ⟨byte, source⟩
    · exact ⟨_, byteAt_own (outside index (by omega))⟩
  refine ((loadBytes_known state item total).onStop ?_).bind fun bytes =>
    MemTriple.fixed ?_
  · rintro _ ⟨index, below, none⟩
    obtain ⟨byte, some⟩ := seen index below
    rw [none] at some
    cases some
  · rintro now ⟨same, length, each⟩
    rw [same]
    have front : bytes.take size = state.own.load item size := by
      apply List.ext_getElem?
      intro index
      by_cases below : index < size
      · rw [List.getElem?_take_of_lt below, ← each index (by omega),
          byteAt_own (outside index below), Memory.getElem?_load below]
      · rw [List.getElem?_eq_none (by rw [List.length_take]; omega), List.getElem?_eq_none (by rw [Memory.length_load]; omega)]
    rw [← List.take_append_drop size bytes, storeBytes_append, front, Memory.length_load]
    have fits : offset + (state.own.load item size).length ≤ pageSize := by
      rw [Memory.length_load]
      exact inside
    refine (storeBytes_seat showing fits).bind fun _ => storeBytes_same fun index byte found => ?_
    rw [List.getElem?_drop] at found
    have below : size + index < total := by
      have bound := (List.getElem?_eq_some_iff.mp found).1
      omega
    obtain ⟨other, source, there⟩ := harmless (size + index) (Nat.le_add_right ..) below
    rw [each _ below, found] at source
    cases source
    rw [Nat.add_assoc, setFrame_store_byteAt one showing (by rw [Memory.length_load]; omega)]
    exact there

theorem copyBytes_byteAt (one : OneSeat platform state) (src dst count : Nat) :
    Yields state (copyBytes platform src dst count)
      fun _ after => Undisturbed state after ∧ ∀ index < count, ∃ byte,
        state.byteAt platform (src + index) = some byte ∧
        after.byteAt platform (dst + index) = some byte := by
  refine ((loadBytes_known state src count).partly fun _ _ spec => spec).bind
    fun bytes => .fixed ?_
  rintro now ⟨same, length, each⟩
  rw [same]
  refine (storeBytes_byteAt one dst bytes).partly ?_
  rintro _ after ⟨step, stored, -⟩
  refine ⟨step, fun index below => ?_⟩
  have found : bytes[index]? = some bytes[index] := List.getElem?_eq_getElem (by omega)
  exact ⟨_, (each index below).trans found, stored index _ found⟩

/-- The byte that the kernel thread sees while the frame is at the page seat. -/
def KernelState.seen (platform : Platform) (state : KernelState ν) (frame : ObjId) (address : Nat) :
    Option UInt8 :=
  (state.borrowing platform frame).byteAt platform address

def Copied (platform : Platform) (state : KernelState ν) (frame : ObjId) (src dst count : Nat)
    (own : Memory) (frames : ObjId → Memory) : Prop :=
  ∀ shown : KernelState ν, shown.own = own → shown.frames = frames → shown.vspaces =
    (state.borrowing platform frame).vspaces →
    ∀ index < count, ∃ byte, state.seen platform frame (src + index) = some byte ∧
      shown.byteAt platform (dst + index) = some byte

theorem withPage_copied (ready : SeatReady platform state) (one : OneSeat platform state)
    {cap : CPtr} {mapped : Option (ObjId × Nat)}
    (capEq : state.cspace cap = some (.frame frame mapped)) (src dst count : Nat) :
    Yields state (withPage platform cap (copyBytes platform src dst count))
      fun _ after => Copied platform state frame src dst count after.own after.frames := by
  have copies : RunFrom (state.borrowing platform frame) (copyBytes platform src dst count)
      (fun _ after => Undisturbed (state.borrowing platform frame) after ∧
        Copied platform state frame src dst count after.contents.own after.contents.frames) (fun _ => ¬ False) := by
    refine (copyBytes_byteAt (borrowing_oneSeat one frame) src dst count).weaken
      (fun _ same => same) ?_ fun _ _ never => never
    rintro _ copied ⟨step, each⟩
    refine ⟨step, fun shown own frames vspaces index below => ?_⟩
    obtain ⟨byte, source, there⟩ := each index below
    rw [← byteAt_congr own frames (vspaces.trans step.vspaces.symm)] at there
    exact ⟨byte, source, there⟩
  exact (withPage_contents (fun _ contents =>
    Copied platform state frame src dst count contents.own contents.frames) ready capEq
    copies).partly fun _ _ spec => spec.2

/-- `write_item` writes the item and nothing else if and only if what it copies behind
the item is there already. It copies as many items as an item has bytes. -/
theorem write_item_exact_iff (ready : SeatReady platform state) (one : OneSeat platform state)
    {addr : Nat} {cap : CPtr} {mapped : Option (ObjId × Nat)}
    (found : task.mappedPage[alignBits addr 12]? = some cap)
    (capEq : state.cspace cap = some (.frame frame mapped)) (positive : 0 < size)
    (inPage : size + addr % pageSize ≤ pageSize) (outside : OutsideSeats platform item size) :
    MemTriple (fun now => now = state) (writeItem platform size task addr item)
      (fun _ after => after.own = state.own ∧
        after.frames = Function.update state.frames frame
          ((state.frames frame).store (addr % pageSize) (state.own.load item size)))
      (fun _ => False) ↔
    ∀ index, size ≤ index → index < size * size → ∃ byte, state.seen platform frame (item + index) = some byte ∧
      state.seen platform frame (platform.pageSeat + addr % pageSize + index) = some byte := by
  have long : size ≤ size * size := Nat.le_mul_of_pos_left size positive
  have inside : addr % pageSize + size ≤ pageSize := by omega
  have oneBorrowed := borrowing_oneSeat one frame
  have showing : Shows platform frame (state.borrowing platform frame) := showAtSeat_shows ..
  obtain ⟨count, oneAccess⟩ := processItemList_one platform positive task inPage
    (fun dst _ copyLen (_ : Unit) => (copyBytes platform item dst (copyLen * size) : KernelM ν Unit)) ()
  rw [found] at oneAccess
  have program : (writeItem platform size task addr item : KernelM ν SysResult) =
      withPage platform cap (copyBytes platform item (platform.pageSeat + addr % pageSize) (size * size)) >>= fun _ =>
        pure (.ok count) := by
    unfold writeItem
    rw [oneAccess, bind_assoc]
    rfl
  rw [program]
  constructor
  · intro writes index behind below
    have copied : Yields state
        (withPage platform cap (copyBytes platform item (platform.pageSeat + addr % pageSize) (size * size)) >>= fun _ =>
          (pure (.ok count) : KernelM ν SysResult))
        (fun _ after => Copied platform state frame item (platform.pageSeat + addr % pageSize)
          (size * size) after.own after.frames) :=
      (withPage_copied ready one capEq _ _ _).bind fun _ => .pure fun _ holds => holds
    obtain ⟨_, after, ⟨own, frames⟩, each⟩ := writes.meets copied
    have stored : (state.own.load item size).length = size := Memory.length_load
    have behindStored := @setFrame_store_byteAt ν platform (state.borrowing platform frame) frame
      (addr % pageSize) oneBorrowed showing
      (state.own.load item size) index (by omega)
    obtain ⟨byte, source, there⟩ := each ((state.borrowing platform frame).setFrame frame
      ((state.frames frame).store (addr % pageSize) (state.own.load item size))) own.symm frames.symm rfl index below
    exact ⟨byte, source, behindStored.symm.trans there⟩
  · intro harmless
    refine (withPage_total (fun _ contents => contents.own = state.own ∧ contents.frames =
      Function.update state.frames frame
      ((state.frames frame).store (addr % pageSize) (state.own.load item size))) ready capEq ?_).bind fun _ =>
        MemTriple.pure fun _ spec => spec.2
    refine (copyBytes_overrun oneBorrowed showing outside inside long harmless).mono ?_
    rintro _ _ rfl
    exact ⟨⟨rfl, rfl, rfl, rfl, rfl⟩, rfl, rfl⟩

theorem pagedState_oneSeat (net : ν) (task : Sel4Task) (frames : ObjId → Memory) (own : Memory) :
    OneSeat platform (pagedState net task frames own) := by
  intro address _ shown
  cases shown

def someOwn : Memory := fun address => if address < 0x600000000020 then 7 else 9

theorem write_item_exact_iff_someTask :
    MemTriple (fun now => now = pagedState () someTask someFrames someOwn)
      (writeItem smallPlatform 1 someTask 0x1010 0x600000000010)
      (fun _ after => after.own = someOwn ∧
        after.frames = Function.update someFrames 0x500 ((someFrames 0x500).store 0x10 (someOwn.load 0x600000000010 1)))
      (fun _ => False) ∧
    ¬ MemTriple (fun now => now = pagedState () someTask someFrames someOwn)
      (writeItem smallPlatform 16 someTask 0x1010 0x600000000010)
      (fun _ after => after.own = someOwn ∧
        after.frames = Function.update someFrames 0x500 ((someFrames 0x500).store 0x10 (someOwn.load 0x600000000010 16)))
      (fun _ => False) := by
  have outside : OutsideSeats smallPlatform 0x600000000010 16 := by
    unfold OutsideSeats
    decide
  refine ⟨?_, fun writes => ?_⟩
  · refine (write_item_exact_iff (pagedState_ready ..) (pagedState_oneSeat _ _ _ _) rfl rfl
      (by decide) (by decide)
      fun index inside => outside index (by omega)).mpr fun index behind below => ?_
    omega
  · obtain ⟨byte, source, there⟩ :=
      (write_item_exact_iff (pagedState_ready ..) (pagedState_oneSeat _ _ _ _) rfl rfl (by decide)
      (by decide)
      outside).mp writes 16 (Nat.le_refl _) (by decide)
    have behindItem : (pagedState () someTask someFrames someOwn).seen smallPlatform 0x500
        (0x600000000010 + 16) = some 9 := by
      decide
    have behindPlace : (pagedState () someTask someFrames someOwn).seen smallPlatform 0x500
        (smallPlatform.pageSeat + 0x1010 % pageSize + 16) = some 0 := by decide
    rw [behindItem] at source
    rw [behindPlace, ← source] at there
    revert there
    decide

/-- An item of sixteen bytes: the byte behind it in the page is overwritten with what
lies behind the item. -/
theorem write_item_overwrites :
    returnValue ((writeItem smallPlatform 16 someTask 0x1010 0x600000000010).run
      ⟨[], [], [], pagedState () someTask someFrames someOwn⟩) = some (.ok 16) ∧
    (finalState ((writeItem smallPlatform 16 someTask 0x1010 0x600000000010).run
      ⟨[], [], [], pagedState () someTask someFrames someOwn⟩)).memory.frames 0x500 0x20 = 9 ∧
    (pagedState () someTask someFrames someOwn).frames 0x500 0x20 = 0 := by
  decide +kernel

end Item

end RootTaskDemo.Kernel
