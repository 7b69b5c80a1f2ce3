import RootTaskDemo.Kernel.UserAccess
import RootTaskDemo.Kernel.Walk

namespace RootTaskDemo.Kernel

open Common Lib Thread

variable {ν α β : Type} {platform : Platform} {state before after : KernelState ν} {task : Sel4Task}
  {mapped : Option (ObjId × Nat)} {frame : ObjId}

/-! When the accesses of the kernel thread to the memory of a task return, and what
they leave for the access that follows. -/

structure Aside (before after : KernelState ν) : Prop where
  cspace : after.cspace = before.cspace
  cnodes : after.cnodes = before.cnodes
  emptySlots : after.emptySlots = before.emptySlots
  watermark : after.watermark = before.watermark
  tables : (after.vspaces kernelVSpace).tables = (before.vspaces kernelVSpace).tables

theorem Aside.refl (state : KernelState ν) : Aside state state := ⟨rfl, rfl, rfl, rfl, rfl⟩

theorem Aside.trans {middle : KernelState ν} (first : Aside before middle)
    (second : Aside middle after) : Aside before after :=
  ⟨second.cspace.trans first.cspace, second.cnodes.trans first.cnodes,
    second.emptySlots.trans first.emptySlots,
    second.watermark.trans first.watermark, second.tables.trans first.tables⟩

theorem Undisturbed.aside (step : Undisturbed before after) : Aside before after :=
  ⟨step.cspace, step.cnodes, step.emptySlots, step.watermark, by rw [step.vspaces]⟩

theorem SeatReady.aside (ready : SeatReady platform before) (step : Aside before after) :
    SeatReady platform after := by
  refine ⟨step.cspace ▸ ready.kernel, step.cspace ▸ ready.temp, ?_⟩
  rw [← ready.tables]
  unfold missingLevel
  rw [step.tables]

theorem CanAllocate.aside (step : Aside before after) :
    CanAllocate platform after ↔ CanAllocate platform before := by
  have parts : ∀ state : KernelState ν, CanAllocate platform state ↔ state.emptySlots.1 <
    state.emptySlots.2 ∧
      state.cspace state.emptySlots.1 = none ∧ (if state.emptySlots.1 &&& 0xfff = 0 then
        state.cnodes (state.emptySlots.1 >>> 12) = false ∧
          Untyped.start (Untyped.start state.watermark 17 + 2 ^ 17) 12 + 2 ^ 12 ≤ platform.untypedSize
      else state.cnodes (state.emptySlots.1 >>> 12) = true ∧
        Untyped.start state.watermark 12 + 2 ^ 12 ≤ platform.untypedSize) :=
    fun state => ⟨fun can => ⟨can.slot, can.free, can.memory⟩, fun can => ⟨can.1, can.2.1, can.2.2⟩⟩
  rw [parts after, parts before, step.cspace, step.cnodes, step.emptySlots, step.watermark]

theorem setPage_aside (state : KernelState ν) (space : ObjId) (vaddr : Nat) (mapping : Option Mapping) :
    Aside state (state.setPage space vaddr mapping) := ⟨rfl, rfl, rfl, rfl, setPage_tables ..⟩

theorem unmapFrame_aside (state : KernelState ν) (object : ObjId) (mapped : Option (ObjId × Nat)) :
    Aside state (state.unmapFrame object mapped) := by
  have tables := unmapFrame_tables state object mapped kernelVSpace
  obtain ⟨vspaces, unmaps⟩ := unmapFrame_frame state object mapped
  rw [unmaps] at tables ⊢
  exact ⟨rfl, rfl, rfl, rfl, tables⟩

theorem Aside.setCap (step : Aside before after) (slot : CPtr) (cap : Option Cap) :
    Aside (before.setCap slot cap) (after.setCap slot cap) := by
  refine ⟨?_, step.cnodes, step.emptySlots, step.watermark, step.tables⟩
  rw [cspace_setCap, cspace_setCap, step.cspace]

theorem setCap_setCap (state : KernelState ν) (slot : CPtr) (first second : Option Cap) :
    (state.setCap slot first).setCap slot second = state.setCap slot second := by
  unfold KernelState.setCap
  rw [Function.update_idem]

theorem cspace_setCap_self (state : KernelState ν) (slot : CPtr) (cap : Option Cap) :
    (state.setCap slot cap).cspace slot = cap :=
  Function.update_self ..

theorem setCap_none (free : state.cspace tempSlot = none) : state.setCap tempSlot none = state := by
  unfold KernelState.setCap
  rw [← free, Function.update_eq_self]

theorem allocateSlot_needs (state : KernelState ν) :
    Yields state (allocateSlot platform)
      fun slot after => slot.2.2 = state.emptySlots.1 ∧ state.emptySlots.1 < state.emptySlots.2 ∧
        after.cspace = state.cspace ∧
        if state.emptySlots.1 &&& 0xfff = 0 then
          state.cnodes (state.emptySlots.1 >>> 12) = false ∧ after.watermark = Untyped.start state.watermark 17 + 2 ^ 17
        else after.cnodes = state.cnodes ∧ after.watermark = state.watermark := by
  refine .read_bind ?_
  rintro state rfl
  dsimp only
  split
  · exact .stop fun _ _ => trivial
  · rename_i below
    refine .update_bind ?_
    split
    · rename_i first
      have made : Yields { state with emptySlots := (state.emptySlots.1 + 1, state.emptySlots.2) }
          (unwrapped (retypeCNode platform (state.emptySlots.1 >>> 12)))
          fun _ after => after.cspace = state.cspace ∧ state.cnodes (state.emptySlots.1 >>> 12) = false ∧
            after.watermark = Untyped.start state.watermark 17 + 2 ^ 17 := by
        refine unwrapped_spec (.read_bind ?_) fun _ => trivial
        rintro _ rfl
        dsimp only
        split
        · exact .pure fun _ _ _ => by rintro ⟨⟩
        · rename_i missing
          split
          · exact .pure fun _ _ _ => by rintro ⟨⟩
          · refine .update_bind (.pure ?_)
            rintro _ rfl _ _
            exact ⟨rfl, Bool.eq_false_iff.mpr missing, rfl⟩
      refine made.bind fun _ => .pure ?_
      rintro after ⟨cspace, missing, watermark⟩
      exact ⟨rfl, Nat.not_le.mp below, cspace, missing, watermark⟩
    · refine .pure ?_
      rintro _ rfl
      exact ⟨rfl, Nat.not_le.mp below, rfl, rfl, rfl⟩

theorem allocate_needs (state : KernelState ν) :
    Yields state (allocate platform .granule) fun _ _ => CanAllocate platform state := by
  refine .locked ((allocateSlot_needs state).bind fun slot => .fixed ?_)
  rintro handed ⟨slotEq, below, cspace, node⟩
  have retyped : Yields handed (unwrapped (untypedRetype platform .granule slot.2.2))
      fun _ _ => handed.cnodes (slot.2.2 >>> 12) = true ∧ handed.cspace slot.2.2 = none ∧
        Untyped.start handed.watermark 12 + 2 ^ 12 ≤ platform.untypedSize := by
    refine unwrapped_spec (.read_bind ?_) fun _ => trivial
    rintro handed rfl
    dsimp only
    split
    · exact .pure fun _ _ _ => by rintro ⟨⟩
    · rename_i exists_
      split
      · exact .pure fun _ _ _ => by rintro ⟨⟩
      · rename_i free
        split
        · exact .pure fun _ _ _ => by rintro ⟨⟩
        · rename_i room
          refine .update_bind (.pure ?_)
          rintro _ rfl _ _
          exact ⟨not_not.mp exists_, Option.not_isSome_iff_eq_none.mp free, Nat.not_lt.mp room⟩
  refine retyped.bind fun _ => .pure ?_
  rintro _ ⟨exists_, free, room⟩
  rw [slotEq] at exists_ free
  refine ⟨below, cspace ▸ free, ?_⟩
  split
  · rename_i first
    rw [if_pos first] at node
    rw [node.2] at room
    exact ⟨node.1, room⟩
  · rename_i inside
    rw [if_neg inside] at node
    rw [node.1] at exists_
    rw [node.2] at room
    exact ⟨exists_, room⟩

theorem genCap_decides (ready : SeatReady platform state) {size item : Nat} {num : Option Nat}
    (small : size * num.getD 1 ≤ pageSize) (inside : size * num.getD 1 * size ≤ pageSize)
    (outside : OutsideSeats platform item (size * num.getD 1 * size)) :
    RunFrom state (genCap platform size item num)
      (fun _ after => CanAllocate platform state ∧ ∃ frame, Shows platform frame after)
        (fun _ => ¬ CanAllocate platform state) := by
  by_cases can : CanAllocate platform state
  · refine genCap_copies can ready.kernel ready.tables small fun granted new => ?_
    have shown : Shows platform state.emptySlots.1
      (granted.showAtSeat platform state.emptySlots.1 state.emptySlots.1) :=
      showAtSeat_shows ..
    refine (copyBytes_toSeat shown outside inside).raising.mono ?_
    rintro _ _ rfl
    exact ⟨can, _, shown⟩
  · refine ((allocate_needs state).onStop fun _ _ => can).bind fun _ => ?_
    exact .fixed fun _ needed => absurd needed can

def KernelState.borrowing (platform : Platform) (state : KernelState ν) (frame : ObjId) :
    KernelState ν :=
  (state.setCap tempSlot (some (.frame frame none))).showAtSeat platform tempSlot frame

theorem borrowing_aside (free : state.cspace tempSlot = none) (frame : ObjId) :
    Aside state ((state.borrowing platform frame).setCap tempSlot none) := by
  have shown := (setPage_aside (state.setCap tempSlot (some (.frame frame none))) kernelVSpace
    platform.pageSeat
    (some ⟨frame, .all⟩)).setCap tempSlot none
  rw [setCap_setCap, setCap_none free] at shown
  unfold KernelState.borrowing KernelState.showAtSeat
  rw [setCap_setCap]
  exact shown

structure Contents where
  own : Memory
  frames : ObjId → Memory
  console : List UInt8

def Contents.setOwn (contents : Contents) (own : Memory) : Contents := { contents with own }

def Contents.setConsole (contents : Contents) (console : List UInt8) : Contents :=
  { contents with console }

def KernelState.contents (state : KernelState ν) : Contents :=
  ⟨state.own, state.frames, state.console⟩

theorem withPage_contents (post : α → Contents → Prop) (ready : SeatReady platform state)
    {cap : CPtr} (capEq : state.cspace cap = some (.frame frame mapped)) {body : KernelM ν α}
    {condition : Prop}
    (decides : RunFrom (state.borrowing platform frame) body
      (fun value after => Undisturbed (state.borrowing platform frame) after ∧
      post value after.contents) (fun _ => ¬ condition)) :
    RunFrom state (withPage platform cap body)
      (fun value after => Aside state after ∧ post value after.contents) (fun _ => ¬ condition) := by
  have apart : kernelVSpace ≠ tempSlot := by decide
  refine (cnodeCopy_returns ready.temp capEq).raising.bind fun _ => ?_
  have kernel : (state.setCap tempSlot (some (.frame frame none))).cspace kernelVSpace =
      some (.vspace kernelVSpace) := by
    rw [cspace_setCap, Function.update_of_ne apart, ready.kernel]
  have copy : (state.setCap tempSlot (some (.frame frame none))).cspace tempSlot =
    some (.frame frame none) :=
    cspace_setCap_self ..
  have seated : RunFrom (state.setCap tempSlot (some (.frame frame none)))
      (withSeat platform tempSlot platform.pageSeat body)
        (fun value after => after.cspace tempSlot = some (.frame frame none) ∧
        Aside state (after.setCap tempSlot none) ∧ post value after.contents) (fun _ => ¬ condition) := by
    refine (seatMap_returns kernel ready.tables copy).raising.bind fun _ => decides.bind fun value => .fixed ?_
    rintro shown ⟨step, holds⟩
    have shownEq : shown.cspace tempSlot = some (.frame frame (some (kernelVSpace, platform.pageSeat))) := by
      rw [step.cspace]
      exact cspace_setCap_self ..
    refine (frameUnmap_returns shownEq).raising.bind fun _ => .pure ?_
    rintro _ rfl
    refine ⟨cspace_setCap_self .., ?_, ?_⟩
    · rw [setCap_setCap]
      exact (borrowing_aside ready.temp frame).trans ((step.aside.setCap tempSlot none).trans
        ((unmapFrame_aside shown frame _).setCap tempSlot none))
    · obtain ⟨vspaces, unmaps⟩ := unmapFrame_frame shown frame (some (kernelVSpace, platform.pageSeat))
      rw [unmaps]
      exact holds
  refine seated.bind fun value => .fixed ?_
  rintro shown ⟨unmapped, aside, holds⟩
  refine (cnodeDelete_unmapped unmapped).bind fun _ => .pure ?_
  rintro _ rfl
  exact ⟨aside, holds⟩

theorem withPage_total (post : α → Contents → Prop) (ready : SeatReady platform state) {cap : CPtr}
    (capEq : state.cspace cap = some (.frame frame mapped)) {body : KernelM ν α}
    (total : Delivers (state.borrowing platform frame) body fun value after =>
      Undisturbed (state.borrowing platform frame) after ∧ post value after.contents) :
    Delivers state (withPage platform cap body)
      fun value after => Aside state after ∧ post value after.contents :=
  have decides : RunFrom state (withPage platform cap body)
      (fun value after => Aside state after ∧ post value after.contents) (fun _ => ¬ True) :=
    withPage_contents post ready capEq total.raising
  decides.onStop fun _ never => never trivial

theorem withPage_decides (ready : SeatReady platform state) {cap : CPtr}
    (capEq : state.cspace cap = some (.frame frame mapped)) {body : KernelM ν α} {post : α → Prop}
    {condition : Prop}
    (decides : RunFrom (state.borrowing platform frame) body (fun value after =>
      Undisturbed (state.borrowing platform frame) after ∧ post value) (fun _ => ¬ condition)) :
    RunFrom state (withPage platform cap body)
      (fun value after => Aside state after ∧ post value) (fun _ => ¬ condition) :=
  withPage_contents (fun value _ => post value) ready capEq decides

def Backed (state : KernelState ν) (task : Sel4Task) : Prop :=
  ∀ (vaddr : Nat) (cap : CPtr), task.mappedPage[vaddr]? = some cap → ∃ frame mapped,
    state.cspace cap = some (.frame frame mapped)

theorem Backed.aside (backed : Backed before task) (step : Aside before after) : Backed after task := by
  unfold Backed
  rw [step.cspace]
  exact backed

def InRecord (task : Sel4Task) (size addr : Nat) : Prop :=
  size + addr % pageSize ≤ pageSize ∧ (task.mappedPage[alignBits addr 12]?).isSome

theorem readItem_settled (ready : SeatReady platform state) (backed : Backed state task)
    {size : Nat} (positive : 0 < size) (addr : Nat) :
    Delivers state (readItem platform size task addr)
      fun result after => Aside state after ∧ ((∃ bytes, result = .ok bytes) ↔ InRecord task size addr) := by
  have failed : ∀ {error : Errno}, ¬ InRecord task size addr →
      ((∃ bytes : List UInt8, Except.error error = .ok bytes) ↔ InRecord task size addr) := by
    refine fun absent => ⟨?_, fun present => absurd present absent⟩
    rintro ⟨_, ⟨⟩⟩
  by_cases inPage : size + addr % pageSize ≤ pageSize
  · rw [readItem_eq positive task inPage]
    split
    · rename_i missing
      refine .pure ?_
      rintro _ rfl
      refine ⟨.refl _, failed fun present => ?_⟩
      have some := present.2
      rw [missing] at some
      cases some
    · rename_i cap found
      obtain ⟨frame, mapped, capEq⟩ := backed _ cap found
      have loads : RunFrom (state.borrowing platform frame)
          (loadBytes platform (platform.pageSeat + addr % pageSize) size)
          (fun _ after => Undisturbed (state.borrowing platform frame) after ∧ True) (fun _ => ¬ True) := by
        refine (loadBytes_seat (showAtSeat_shows _ _ _) (by omega : addr % pageSize + size ≤ pageSize)).weaken
          (fun _ same => same) ?_ fun _ never => never.elim
        rintro _ _ ⟨rfl, -⟩
        exact ⟨⟨rfl, rfl, rfl, rfl, rfl⟩, trivial⟩
      refine ((withPage_decides ready capEq loads).onStop
          fun _ never => never trivial).bind fun bytes => .pure ?_
      rintro after ⟨aside, -⟩
      refine ⟨aside, fun _ => ⟨inPage, ?_⟩, fun _ => ⟨bytes, rfl⟩⟩
      rw [found]
      rfl
  · rw [readItem_crossing task (Nat.not_le.mp inPage)]
    refine .pure ?_
    rintro _ rfl
    exact ⟨.refl _, failed fun present => inPage present.1⟩

def Writable (platform : Platform) (state : KernelState ν) (address : Nat) : Prop :=
  isSeat platform address = true → (state.seatFrame address).isSome

theorem Undisturbed.writable (step : Undisturbed before after) (address : Nat) :
    Writable platform after address ↔ Writable platform before address := by
  unfold Writable KernelState.seatFrame KernelState.pages
  rw [step.vspaces]

theorem storeByte_decides (state : KernelState ν) (address : Nat) (byte : UInt8) :
    RunFrom state (storeByte platform address byte)
      (fun _ after => Undisturbed state after ∧ Writable platform state address)
        (fun _ => ¬ Writable platform state address) := by
  refine .read_bind ?_
  rintro state rfl
  split
  · rename_i seat
    split
    · rename_i empty
      refine .stop fun _ _ writable => ?_
      have shown := writable seat
      rw [empty] at shown
      cases shown
    · rename_i frame shown
      refine .update ?_
      rintro _ rfl
      exact ⟨⟨rfl, rfl, rfl, rfl, rfl⟩, fun _ => by rw [shown]; rfl⟩
  · rename_i other
    refine .update ?_
    rintro _ rfl
    exact ⟨⟨rfl, rfl, rfl, rfl, rfl⟩, fun seat => absurd seat other⟩

theorem storeBytes_decides (state : KernelState ν) (address : Nat) (bytes : List UInt8) :
    RunFrom state (storeBytes platform address bytes)
      (fun _ after => Undisturbed state after ∧ ∀ offset < bytes.length, Writable platform state (address + offset))
      (fun _ => ¬ ∀ offset < bytes.length, Writable platform state (address + offset)) := by
  induction bytes generalizing state address with
  | nil =>
    refine .pure ?_
    rintro _ rfl
    exact ⟨⟨rfl, rfl, rfl, rfl, rfl⟩, fun _ impossible => absurd impossible (Nat.not_lt_zero _)⟩
  | cons byte rest ih =>
    refine ((storeByte_decides state address byte).onStop
        fun _ denied all => denied (all 0 (Nat.succ_pos _))).bind fun _ => .fixed ?_
    rintro middle ⟨step, first⟩
    have shifted : ∀ offset, address + 1 + offset = address + (offset + 1) := by omega
    refine (ih middle (address + 1)).weaken (fun _ same => same) ?_ ?_
    · rintro _ after ⟨later, writable⟩
      refine ⟨step.trans later, fun offset inside => ?_⟩
      cases offset with
      | zero => exact first
      | succ offset =>
        rw [← shifted, ← step.writable]
        exact writable offset (Nat.lt_of_succ_lt_succ inside)
    · intro _ denied all
      refine denied fun offset inside => ?_
      rw [shifted, step.writable]
      exact all (offset + 1) (Nat.succ_lt_succ inside)

/-- The address is not in the way of a write through the page seat: it is in the page
at the seat, in no seat at all, or in the other seat while that shows a frame. -/
def KernelState.Reaches (platform : Platform) (state : KernelState ν) (address : Nat) : Prop :=
  address / pageSize * pageSize = platform.pageSeat ∨ Writable platform state address

theorem pages_borrowing (frame : ObjId) :
    (state.borrowing platform frame).pages kernelVSpace =
      Function.update (state.pages kernelVSpace) platform.pageSeat (some ⟨frame, .all⟩) := by
  unfold KernelState.borrowing KernelState.showAtSeat
  rw [pages_setCap, pages_setPage_self, pages_setCap]

theorem writable_borrowing (frame : ObjId) (address : Nat) :
    Writable platform (state.borrowing platform frame) address ↔ state.Reaches platform address := by
  unfold KernelState.Reaches Writable KernelState.seatFrame
  rw [pages_borrowing]
  by_cases here : address / pageSize * pageSize = platform.pageSeat
  · rw [here, Function.update_self]
    exact ⟨fun _ => Or.inl rfl, fun _ _ => rfl⟩
  · rw [Function.update_of_ne here]
    exact ⟨Or.inr, fun reaches => reaches.resolve_left here⟩

theorem Undisturbed.reaches (step : Undisturbed before after) (address : Nat) :
    after.Reaches platform address ↔ before.Reaches platform address :=
  or_congr_right (step.writable address)

/-- What `write_item` writes, an item of items, goes through if and only if it stays
in the page or finds the memory behind it open. -/
def WriteFits (platform : Platform) (state : KernelState ν) (task : Sel4Task) (size addr : Nat) : Prop :=
  InRecord task size addr → ∀ offset < size * size,
    state.Reaches platform (platform.pageSeat + addr % pageSize + offset)

theorem Undisturbed.writeFits (step : Undisturbed before after) {size addr : Nat} :
    WriteFits platform after task size addr ↔ WriteFits platform before task size addr := by
  unfold WriteFits
  simp only [step.reaches]

theorem writeItem_decides (ready : SeatReady platform state) (backed : Backed state task)
    {size : Nat} (positive : 0 < size) (addr : Nat) {item : Nat}
    (outside : OutsideSeats platform item (size * size)) :
    RunFrom state (writeItem platform size task addr item)
      (fun _ _ => WriteFits platform state task size addr) (fun _ => ¬ WriteFits platform state task size addr) := by
  by_cases inPage : size + addr % pageSize ≤ pageSize
  · obtain ⟨count, oneAccess⟩ := processItemList_one platform positive task inPage
      (fun dst _ copyLen (_ : Unit) => copyBytes platform item dst (copyLen * size)) ()
    unfold writeItem
    rw [oneAccess]
    split
    · rename_i missing
      refine .pure fun _ _ present => ?_
      have some := present.2
      rw [missing] at some
      cases some
    · rename_i cap found
      obtain ⟨frame, mapped, capEq⟩ := backed _ cap found
      have present : InRecord task size addr := ⟨inPage, by rw [found]; rfl⟩
      have copies : RunFrom (state.borrowing platform frame)
          (copyBytes platform item (platform.pageSeat + addr % pageSize) (size * size))
          (fun _ after => Undisturbed (state.borrowing platform frame) after ∧ WriteFits platform state task size addr)
          (fun _ => ¬ WriteFits platform state task size addr) := by
        refine (loadBytes_own _ outside).raising.bind fun bytes => .fixed ?_
        rintro borrowing ⟨rfl, rfl⟩
        have fits : (∀ offset < (Memory.load (state.borrowing platform frame).own item (size * size)).length,
            Writable platform (state.borrowing platform frame) (platform.pageSeat + addr % pageSize + offset)) ↔
              WriteFits platform state task size addr := by
          rw [Memory.length_load]
          simp only [writable_borrowing]
          exact ⟨fun all _ => all, fun fits => fits present⟩
        refine (storeBytes_decides _ _ _).weaken (fun _ same => same) ?_ ?_
        · rintro _ after ⟨step, writable⟩
          exact ⟨step, fits.mp writable⟩
        · exact fun _ denied holds => denied (fits.mpr holds)
      rw [bind_assoc]
      refine (withPage_decides ready capEq copies).bind fun _ => .pure ?_
      rintro after ⟨-, holds⟩
      exact holds
  · unfold writeItem processItemList
    rw [if_pos ⟨rfl, Nat.not_le.mp inPage⟩]
    exact .pure fun _ _ present => absurd present.1 inPage

theorem processPages_settled {addr buf len : Nat} (word : addr < 2 ^ 64) (short : len < 2 ^ 64)
    (outside : OutsideSeats platform buf len) (fuel : Nat) {left read : Nat}
    (total : read + left = len) {acc : Unit} {state : KernelState ν}
    (ready : SeatReady platform state) (backed : Backed state task) :
    Delivers state (processPages platform task addr
      (fun src offset copyLen (_ : Unit) => copyBytes platform src (buf + offset * 1) (copyLen * 1)) fuel left
      ((addr + read) % 2 ^ 64) acc) fun _ after => Aside state after := by
  induction fuel generalizing left read acc state with
  | zero =>
    refine .pure ?_
    rintro _ rfl
    exact .refl _
  | succ fuel ih =>
    unfold processPages
    split
    · refine .pure ?_
      rintro _ rfl
      exact .refl _
    · split
      · refine .pure ?_
        rintro _ rfl
        exact .refl _
      · rename_i some cap found
        obtain ⟨frame, mapped, capEq⟩ := backed _ cap found
        have offset : ((addr + read) % 2 ^ 64 + 2 ^ 64 - addr) % 2 ^ 64 = read := by omega
        dsimp only
        rw [offset, Nat.mul_one, Nat.mul_one]
        generalize lengthEq : min (pageSize - (addr + read) % 2 ^ 64 % pageSize) left = copyLen
        have inPage : (addr + read) % 2 ^ 64 % pageSize + copyLen ≤ pageSize := by
          unfold pageSize at lengthEq ⊢
          omega
        have copies : RunFrom (state.borrowing platform frame)
            (copyBytes platform (platform.pageSeat + (addr + read) % 2 ^ 64 % pageSize) (buf + read) copyLen)
            (fun _ after => Undisturbed (state.borrowing platform frame) after ∧ True) (fun _ => ¬ True) := by
          refine (loadBytes_seat (showAtSeat_shows _ _ _) inPage).raising.bind fun bytes => .fixed ?_
          rintro borrowing ⟨rfl, rfl⟩
          refine (storeBytes_decides _ _ _).weaken (fun _ same => same) (fun _ _ spec => ⟨spec.1, trivial⟩)
            fun _ denied _ => denied fun index inside seat => ?_
          rw [Memory.length_load] at inside
          rw [Nat.add_assoc, outside (read + index) (by omega)] at seat
          cases seat
        have next : ((addr + read) % 2 ^ 64 + copyLen) % 2 ^ 64 = (addr + (read + copyLen)) % 2 ^ 64 := by omega
        rw [next]
        refine ((withPage_decides ready capEq copies).onStop
            fun _ never => never trivial).bind fun _ => .fixed ?_
        rintro middle ⟨aside, -⟩
        exact (ih (by omega) (ready.aside aside) (backed.aside aside)).mono fun _ _ later => aside.trans later

theorem readItemList_settled {addr buf len : Nat} (word : addr < 2 ^ 64) (short : len < 2 ^ 64)
    (outside : OutsideSeats platform buf len) (ready : SeatReady platform state)
    (backed : Backed state task) :
    Delivers state (readItemList platform 1 task addr (some len) buf) fun _ after => Aside state after := by
  have length : 1 * (some len).getD 1 % 2 ^ 64 = len := by
    rw [Option.getD_some, Nat.one_mul, Nat.mod_eq_of_lt short]
  have pages : Delivers state (processPages platform task addr
      (fun src offset copyLen (_ : Unit) => copyBytes platform src (buf + offset * 1) (copyLen * 1)) len len
      ((addr + 0) % 2 ^ 64) ()) fun _ after => Aside state after :=
    processPages_settled word short outside len (Nat.zero_add len) ready backed
  rw [Nat.add_zero, Nat.mod_eq_of_lt word] at pages
  unfold readItemList processItemList
  rw [if_neg fun none => by cases none.1]
  simp only [length]
  exact pages.bind fun _ => .pure fun _ aside => aside

end RootTaskDemo.Kernel
