import RootTaskDemo.Kernel.Frame

namespace RootTaskDemo.Kernel

open Common Lib Thread
open Function (update_self update_of_ne)

variable {ν α : Type} {platform : Platform} {state : KernelState ν} {frame : ObjId}
  {mapped : Option (ObjId × Nat)} {bytes : List UInt8} {addr address offset count size : Nat}

/-! What the kernel thread reads and writes, in its own memory and in a frame that
is mapped at the page seat. -/

theorem loadBytes_each (bytesAt : Nat → UInt8)
    (each : ∀ offset < count, Delivers state (loadByte platform (address + offset))
      fun byte now => now = state ∧ byte = bytesAt offset) :
    Delivers state (loadBytes platform address count)
      fun bytes now => now = state ∧ bytes = (List.range count).map bytesAt := by
  induction count generalizing address bytesAt with
  | zero => exact .pure fun _ same => ⟨same, rfl⟩
  | succ count ih =>
    refine (each 0 (Nat.succ_pos _)).bind fun first => .fixed ?_
    rintro _ ⟨rfl, rfl⟩
    have later := ih (fun offset => bytesAt (offset + 1)) fun offset inside => by
      have byte := each (offset + 1) (by omega)
      rwa [show address + (offset + 1) = address + 1 + offset by omega] at byte
    refine later.bind fun rest => .pure ?_
    rintro _ ⟨rfl, rfl⟩
    refine ⟨rfl, ?_⟩
    rw [List.range_succ_eq_map, List.map_cons, List.map_map]
    rfl

theorem storeBytes_each (put : Memory → KernelState ν) {base : Nat} (memory : Memory)
    (each : ∀ memory byte, ∀ offset < bytes.length, Delivers (put memory)
      (storeByte platform (address + offset) byte)
      fun _ now => now = put (Function.update memory (base + offset) byte)) :
    Delivers (put memory) (storeBytes platform address bytes)
      fun _ now => now = put (memory.store base bytes) := by
  induction bytes generalizing address base memory with
  | nil =>
    refine .pure ?_
    rintro _ rfl
    rw [Memory.store_nil]
  | cons byte rest ih =>
    refine (each memory byte 0 (Nat.succ_pos _)).bind fun _ => ?_
    rw [Memory.store_cons]
    refine ih _ fun memory byte offset inside => ?_
    have later := each memory byte (offset + 1) (by simpa using inside)
    rwa [show address + (offset + 1) = address + 1 + offset by omega,
      show base + (offset + 1) = base + 1 + offset by omega] at later

/-- The bytes `[address, address + count)` lie in no page seat. -/
def OutsideSeats (platform : Platform) (address count : Nat) : Prop :=
  ∀ offset < count, isSeat platform (address + offset) = false

theorem loadBytes_own (state : KernelState ν) (outside : OutsideSeats platform address count) :
    Delivers state (loadBytes platform address count)
      fun bytes now => now = state ∧ bytes = state.own.load address count := by
  refine loadBytes_each (fun offset => state.own (address + offset)) fun offset inside => .read_bind ?_
  rintro state rfl
  rw [outside offset inside]
  exact .pure fun _ same => ⟨same, rfl⟩

def KernelState.setOwn (state : KernelState ν) (memory : Memory) : KernelState ν :=
  { state with own := memory }

theorem storeBytes_own (state : KernelState ν)
    (outside : OutsideSeats platform address bytes.length) :
    Delivers state (storeBytes platform address bytes)
      fun _ now => now = state.setOwn (state.own.store address bytes) := by
  refine storeBytes_each state.setOwn state.own fun memory byte offset inside => .read_bind ?_
  rintro _ rfl
  rw [if_neg (by rw [outside offset inside]; decide)]
  refine .update ?_
  rintro _ rfl
  rfl

theorem seat_page {seat : Nat} (aligned : seat % pageSize = 0) (inside : offset < pageSize) :
    (seat + offset) / pageSize * pageSize = seat ∧ (seat + offset) % pageSize = offset := by
  unfold pageSize at aligned inside ⊢
  omega

theorem isSeat_offset {seat : Nat} (isSeat : isSeat platform seat = true) (aligned : seat % pageSize = 0)
    (inside : offset < pageSize) : Kernel.isSeat platform (seat + offset) = true := by
  have start : seat / pageSize * pageSize = seat := (seat_page aligned (by decide : 0 < pageSize)).1
  unfold Kernel.isSeat at isSeat ⊢
  rwa [(seat_page aligned inside).1, ← start]

theorem pageSeat_page (inside : offset < pageSize) :
    (platform.pageSeat + offset) / pageSize * pageSize = platform.pageSeat ∧
      (platform.pageSeat + offset) % pageSize = offset := seat_page platform.pageSeat_aligned inside

theorem isSeat_pageSeat (inside : offset < pageSize) :
    isSeat platform (platform.pageSeat + offset) = true := by
  simp [isSeat, (pageSeat_page inside).1]

def Shows (platform : Platform) (frame : ObjId) (state : KernelState ν) : Prop :=
  (state.pages kernelVSpace platform.pageSeat).map Mapping.frame = some frame

theorem Shows.seatFrame (showing : Shows platform frame state)
    (inside : offset < pageSize) : state.seatFrame (platform.pageSeat + offset) = some frame := by
  unfold KernelState.seatFrame
  rw [(pageSeat_page inside).1]
  exact showing

theorem loadBytes_seat (showing : Shows platform frame state)
    (inside : offset + count ≤ pageSize) :
    Delivers state (loadBytes platform (platform.pageSeat + offset) count)
      fun bytes now => now = state ∧ bytes = (state.frames frame).load offset count := by
  refine loadBytes_each (fun index => state.frames frame (offset + index)) fun index bound =>
    .read_bind ?_
  rintro state rfl
  have within : offset + index < pageSize := by omega
  rw [Nat.add_assoc, if_pos (isSeat_pageSeat within), showing.seatFrame within]
  exact .pure fun _ same => ⟨same, by rw [(pageSeat_page within).2]⟩

def KernelState.setFrame (state : KernelState ν) (frame : ObjId) (memory : Memory) : KernelState ν :=
  { state with frames := Function.update state.frames frame memory }

theorem storeBytes_shown {seat : Nat} (seated : isSeat platform seat = true)
    (aligned : seat % pageSize = 0)
    (showing : (state.pages kernelVSpace seat).map Mapping.frame = some frame)
    (inside : offset + bytes.length ≤ pageSize) :
    Delivers state (storeBytes platform (seat + offset) bytes)
      fun _ now => now = state.setFrame frame ((state.frames frame).store offset bytes) := by
  have stored : Delivers (state.setFrame frame (state.frames frame))
      (storeBytes platform (seat + offset) bytes)
      fun _ now => now = state.setFrame frame ((state.frames frame).store offset bytes) := by
    refine storeBytes_each (state.setFrame frame) (state.frames frame) fun memory byte index bound =>
      MemTriple.read_bind ?_
    rintro _ rfl
    have within : offset + index < pageSize := by omega
    have shown : (state.setFrame frame memory).seatFrame (seat + (offset + index)) = some frame := by
      unfold KernelState.seatFrame
      rw [(seat_page aligned within).1]
      exact showing
    rw [Nat.add_assoc, if_pos (isSeat_offset seated aligned within), shown]
    refine .update ?_
    rintro _ rfl
    simp only [KernelState.setFrame, (seat_page aligned within).2, update_self, Function.update_idem]
  have unchanged : state.setFrame frame (state.frames frame) = state := by
    unfold KernelState.setFrame
    rw [Function.update_eq_self]
  rwa [unchanged] at stored

theorem storeBytes_seat (showing : Shows platform frame state)
    (inside : offset + bytes.length ≤ pageSize) :
    Delivers state (storeBytes platform (platform.pageSeat + offset) bytes)
      fun _ now => now = state.setFrame frame ((state.frames frame).store offset bytes) := by
  have seated : isSeat platform (platform.pageSeat + 0) = true := isSeat_pageSeat (by decide)
  exact storeBytes_shown seated platform.pageSeat_aligned showing inside

theorem withPage_loads (rooted : state.cspace kernelVSpace = some (.vspace kernelVSpace))
    (cap : CPtr) (inside : offset + count ≤ pageSize) :
    Yields state
      (withPage platform cap (loadBytes platform (platform.pageSeat + offset) count))
      fun bytes _ => ∃ frame, state.frameOf cap = some frame ∧ bytes = (state.frames frame).load offset count := by
  refine (unwrapped_spec (cnodeCopy_spec state tempSlot cap) fun _ => trivial).bind fun _ => .fixed ?_
  rintro copied ⟨free, copy, rfl, source⟩
  have read : Yields (state.setCap tempSlot (some copy))
      (withSeat platform tempSlot platform.pageSeat (loadBytes platform (platform.pageSeat + offset) count))
      fun bytes _ => ∃ frame, state.frameOf cap = some frame ∧ bytes = (state.frames frame).load offset count := by
    refine (unwrapped_frameMap_spec _ tempSlot kernelVSpace platform.pageSeat .all).bind fun _ => .fixed ?_
    rintro _ ⟨frame, space, mapped, spaceEq, copyEq, _, rfl⟩
    have apart : kernelVSpace ≠ tempSlot := by decide
    rw [cspace_setCap, update_of_ne apart, rooted] at spaceEq
    cases spaceEq
    rw [cspace_setCap, update_self] at copyEq
    cases copyEq
    obtain ⟨mapped', sourceEq⟩ := source frame mapped rfl
    have frameEq : state.frameOf cap = some frame := by
      unfold KernelState.frameOf
      rw [sourceEq]
    have showing : Shows platform frame
      (((state.setCap tempSlot (some (.frame frame mapped))).setPage kernelVSpace
        platform.pageSeat (some ⟨frame, .all⟩)).setCap tempSlot (some (.frame frame (some (kernelVSpace,
          platform.pageSeat))))) := by
      unfold Shows
      rw [pages_setCap, pages_setPage_self, update_self]
      rfl
    refine ((loadBytes_seat showing inside).onStop nofun).bind fun bytes =>
      MemTriple.fixed ?_
    rintro _ ⟨rfl, rfl⟩
    exact MemTriple.anything.bind fun _ => .pure fun _ _ => ⟨frame, frameEq, rfl⟩
  refine read.bind fun bytes => .fixed fun _ known => ?_
  exact MemTriple.anything.bind fun _ => .pure fun _ _ => known

/-- The page seat can show a frame: the kernel thread has its address space, a
table on the way to the seat, and the temporary slot is free. -/
structure SeatReady (platform : Platform) (state : KernelState ν) : Prop where
  kernel : state.cspace kernelVSpace = some (.vspace kernelVSpace)
  temp : state.cspace tempSlot = none
  tables : missingLevel platform (state.vspaces kernelVSpace) platform.pageSeat = none

theorem unwrapped_ok (value : α) {program : KernelM ν (Except Sel4Error α)}
    {pre : KernelState ν → Prop} {post : KernelState ν → Prop}
    (spec : MemTriple pre program (fun result after => result = .ok value ∧ post after) (fun _ => False)) :
    MemTriple pre (unwrapped program) (fun _ after => post after) (fun _ => False) := by
  refine spec.bind fun result => .fixed ?_
  rintro state ⟨rfl, holds⟩
  exact .pure fun _ same => same ▸ holds

def KernelState.showAtSeat (platform : Platform) (state : KernelState ν) (cap : CPtr)
    (frame : ObjId) : KernelState ν :=
  (state.setPage kernelVSpace platform.pageSeat (some ⟨frame, .all⟩)).setCap cap
    (some (.frame frame (some (kernelVSpace, platform.pageSeat))))

theorem showAtSeat_shows (state : KernelState ν) (cap : CPtr) (frame : ObjId) :
    Shows platform frame (state.showAtSeat platform cap frame) := by
  unfold Shows KernelState.showAtSeat
  rw [pages_setCap, pages_setPage_self, update_self]
  rfl

theorem seatMap_returns {cap : CPtr}
    (kernel : state.cspace kernelVSpace = some (.vspace kernelVSpace))
    (tables : missingLevel platform (state.vspaces kernelVSpace) platform.pageSeat = none)
    (capEq : state.cspace cap = some (.frame frame none)) :
    Delivers state (unwrapped (frameMap platform cap kernelVSpace platform.pageSeat .all))
      fun _ after => after = state.showAtSeat platform cap frame := by
  have mapped : Delivers state (frameMap platform cap kernelVSpace platform.pageSeat .all)
      fun result after => result = .ok () ∧ after = state.showAtSeat platform cap frame := by
    refine .read_bind ?_
    rintro state rfl
    have inside := platform.pageSeat_user
    have aligned := platform.pageSeat_aligned
    simp only [capEq, kernel, Option.any_none, Bool.false_eq_true, if_false, Nat.not_lt.mpr inside,
      aligned, ne_eq, not_true_eq_false, tables, Option.isSome_none]
    refine .update_bind (.pure ?_)
    rintro _ rfl
    exact ⟨rfl, rfl⟩
  exact unwrapped_ok () mapped

theorem cnodeCopy_returns {dest src : CPtr}
    (free : state.cspace dest = none) (srcEq : state.cspace src = some (.frame frame mapped)) :
    Delivers state (unwrapped (cnodeCopy dest src))
      fun _ after => after = state.setCap dest (some (.frame frame none)) := by
  have copied : Delivers state (cnodeCopy dest src)
      fun result after => result = .ok () ∧ after = state.setCap dest (some (.frame frame none)) := by
    refine .read_bind ?_
    rintro state rfl
    simp only [free, srcEq]
    refine .update_bind (.pure ?_)
    rintro _ rfl
    exact ⟨rfl, rfl⟩
  exact unwrapped_ok () copied

theorem frameUnmap_returns {cap : CPtr}
    (capEq : state.cspace cap = some (.frame frame mapped)) :
    Delivers state (unwrapped (frameUnmap cap))
      fun _ after => after = (state.unmapFrame frame mapped).setCap cap (some (.frame frame none)) := by
  have unmapped : Delivers state (frameUnmap cap)
      fun result after => result = .ok () ∧
        after = (state.unmapFrame frame mapped).setCap cap (some (.frame frame none)) := by
    refine .read_bind ?_
    rintro state rfl
    simp only [capEq]
    refine .update_bind (.pure ?_)
    rintro _ rfl
    exact ⟨rfl, rfl⟩
  exact unwrapped_ok () unmapped

theorem showAtSeat_closed (free : state.cspace tempSlot = none) (frame : ObjId) :
    (((((state.setCap tempSlot (some (.frame frame none))).showAtSeat platform tempSlot frame).unmapFrame frame
      (some (kernelVSpace, platform.pageSeat))).setCap tempSlot (some (.frame frame none))).setCap tempSlot none) =
      state.setPage kernelVSpace platform.pageSeat none := by
  simp only [KernelState.unmapFrame, KernelState.showAtSeat, KernelState.setCap,
    KernelState.setPage, KernelState.changeSpace, KernelState.pages, Function.update_idem,
    update_self, Option.any_some, decide_true, if_true]
  rw [← free, Function.update_eq_self]

theorem withPage_returns (ready : SeatReady platform state) {cap : CPtr}
    (capEq : state.cspace cap = some (.frame frame mapped))
    (inside : offset + count ≤ pageSize) :
    Delivers state
      (withPage platform cap (loadBytes platform (platform.pageSeat + offset) count))
      fun bytes after => after = state.setPage kernelVSpace platform.pageSeat none ∧
        bytes = (state.frames frame).load offset count := by
  refine (cnodeCopy_returns ready.temp capEq).bind fun _ => ?_
  have apart : kernelVSpace ≠ tempSlot := by decide
  have read : Delivers (state.setCap tempSlot (some (.frame frame none)))
      (withSeat platform tempSlot platform.pageSeat (loadBytes platform (platform.pageSeat + offset) count))
      fun bytes after => after = ((((state.setCap tempSlot (some (.frame frame none))).showAtSeat platform tempSlot
          frame).unmapFrame frame (some (kernelVSpace, platform.pageSeat))).setCap tempSlot (some (.frame frame none))) ∧
        bytes = (state.frames frame).load offset count := by
    have kernel : (state.setCap tempSlot (some (.frame frame none))).cspace kernelVSpace =
        some (.vspace kernelVSpace) := by
      rw [cspace_setCap, update_of_ne apart, ready.kernel]
    have copy : (state.setCap tempSlot (some (.frame frame none))).cspace tempSlot = some (.frame frame none) := by
      rw [cspace_setCap, update_self]
    refine (seatMap_returns kernel ready.tables copy).bind fun _ => ?_
    refine (loadBytes_seat (showAtSeat_shows _ _ _) inside).bind fun bytes => .fixed ?_
    rintro _ ⟨rfl, rfl⟩
    refine (frameUnmap_returns (by
      rw [KernelState.showAtSeat, cspace_setCap, update_self])).bind fun _ => .pure ?_
    rintro _ rfl
    exact ⟨rfl, rfl⟩
  refine read.bind fun bytes => .fixed ?_
  rintro _ ⟨rfl, rfl⟩
  refine (cnodeDelete_unmapped (by rw [cspace_setCap, update_self])).bind fun _ => .pure ?_
  rintro _ rfl
  exact ⟨showAtSeat_closed ready.temp frame, rfl⟩

def KernelState.itemAt (state : KernelState ν) (task : Sel4Task) (addr size : Nat) :
    Option (List UInt8) :=
  if pageSize < size + addr % pageSize then none
  else do
    let cap ← task.mappedPage[alignBits addr 12]?
    let frame ← state.frameOf cap
    return (state.frames frame).load (addr % pageSize) size

theorem processPages_done {β : Type} (task : Sel4Task) (addr : Nat) (f : Callback ν β)
    (fuel bufAddr : Nat) (acc : β) :
    processPages platform task addr f fuel 0 bufAddr acc =
      pure (.ok ((bufAddr + 2 ^ 64 - addr) % 2 ^ 64), acc) := by
  cases fuel with
  | zero => rfl
  | succ fuel => rfl

theorem processItemList_one {β : Type} (platform : Platform) (positive : 0 < size) (task : Sel4Task)
    (inPage : size + addr % pageSize ≤ pageSize) (f : Callback ν β) (init : β) :
    ∃ count, processItemList platform size task addr none f init =
      match task.mappedPage[alignBits addr 12]? with
      | none => pure (.error .efault, init)
      | some cap => withPage platform cap (f (platform.pageSeat + addr % pageSize) 0 size init) >>= fun acc =>
        pure (.ok count, acc) := by
  obtain ⟨rest, rfl⟩ : ∃ rest, size = rest + 1 := ⟨size - 1, by omega⟩
  have small : (rest + 1) * (none : Option Nat).getD 1 % 2 ^ 64 = rest + 1 := by
    unfold pageSize at inPage
    simp only [Option.getD_none]
    omega
  have whole : min (pageSize - addr % pageSize) (rest + 1) = rest + 1 := by omega
  have start : (addr + 2 ^ 64 - addr) % 2 ^ 64 = 0 := by omega
  refine ⟨(((addr + (rest + 1)) % 2 ^ 64) + 2 ^ 64 - addr) % 2 ^ 64, ?_⟩
  unfold processItemList
  rw [if_neg fun crossing => by omega]
  simp only [small, processPages]
  rw [if_neg (by omega)]
  cases task.mappedPage[alignBits addr 12]? with
  | none => rfl
  | some cap => simp only [whole, start, Nat.sub_self, processPages_done]

theorem readItem_eq (positive : 0 < size) (task : Sel4Task)
    (inPage : size + addr % pageSize ≤ pageSize) :
    (readItem platform size task addr : KernelM ν _) =
      match task.mappedPage[alignBits addr 12]? with
      | none => pure (.error .efault)
      | some cap =>
        (withPage platform cap (loadBytes platform (platform.pageSeat + addr % pageSize) size) >>= fun bytes =>
          pure (.ok bytes)) := by
  obtain ⟨count, oneAccess⟩ := processItemList_one platform positive task inPage
    (fun src _ _ (_ : List UInt8) => (loadBytes platform src size : KernelM ν _)) (List.replicate size 0)
  unfold readItem
  rw [oneAccess]
  cases task.mappedPage[alignBits addr 12]? with
  | none => rfl
  | some cap =>
    simp only [bind_assoc, pure_bind]
    rfl

theorem readItem_crossing (task : Sel4Task) (crossing : pageSize < size + addr % pageSize) :
    (readItem platform size task addr : KernelM ν _) = pure (.error .einval) := by
  unfold readItem processItemList
  rw [if_pos ⟨rfl, crossing⟩]
  rfl

theorem readItem_reads (rooted : state.cspace kernelVSpace = some (.vspace kernelVSpace))
    (positive : 0 < size) (task : Sel4Task) (addr : Nat) :
    Yields state (readItem platform size task addr)
      fun result _ => ∀ bytes, result = .ok bytes → state.itemAt task addr size = some bytes := by
  by_cases inPage : size + addr % pageSize ≤ pageSize
  · rw [readItem_eq positive task inPage]
    split
    · exact .pure fun _ _ _ => nofun
    · rename_i cap found
      refine (withPage_loads rooted cap (by omega : addr % pageSize + size ≤ pageSize)).bind fun bytes => .pure ?_
      rintro _ ⟨frame, frameEq, rfl⟩ _ ⟨rfl⟩
      simp [KernelState.itemAt, found, frameEq, Nat.not_lt.mpr inPage]
  · rw [readItem_crossing task (by omega)]
    exact .pure fun _ _ _ => nofun

def KernelState.userByte (state : KernelState ν) (task : Sel4Task) (addr : Nat) : Option UInt8 := do
  let cap ← task.mappedPage[alignBits addr 12]?
  let frame ← state.frameOf cap
  return state.frames frame (addr % pageSize)

def KernelState.Holds (state : KernelState ν) (task : Sel4Task) (addr : Nat) (bytes : List UInt8) :
    Prop :=
  ∀ (index : Nat) (byte : UInt8), bytes[index]? = some byte → state.userByte task (addr + index) =
    some byte

theorem KernelState.bytes_or_gap (state : KernelState ν) (task : Sel4Task) (addr len : Nat) :
    (∃ bytes : List UInt8, bytes.length = len ∧ state.Holds task addr bytes) ∨
      ∃ index < len, state.userByte task (addr + index) = none := by
  by_cases gap : ∃ index < len, state.userByte task (addr + index) = none
  · exact Or.inr gap
  · refine Or.inl ⟨List.ofFn fun index : Fin len => (state.userByte task (addr + index)).getD 0,
      List.length_ofFn, ?_⟩
    intro index byte found
    obtain ⟨bound, rfl⟩ := List.getElem?_eq_some_iff.mp found
    rw [List.length_ofFn] at bound
    have mapped : state.userByte task (addr + index) ≠ none := fun none => gap ⟨index, bound, none⟩
    obtain ⟨byte, byteEq⟩ := Option.ne_none_iff_exists'.mp mapped
    simp [byteEq]

theorem KernelState.Holds.inPage {task : Sel4Task} (holds : state.Holds task addr bytes)
    (positive : 0 < bytes.length) (inPage : bytes.length + addr % pageSize ≤ pageSize) :
    ∃ cap frame, task.mappedPage[alignBits addr 12]? = some cap ∧ state.frameOf cap = some frame ∧
      (state.frames frame).load (addr % pageSize) bytes.length = bytes := by
  have samePage : ∀ index < bytes.length, alignBits (addr + index) 12 = alignBits addr 12 ∧
      (addr + index) % pageSize = addr % pageSize + index := by
    intro index bound
    unfold alignBits
    unfold pageSize at inPage ⊢
    omega
  have first := holds 0 _ (List.getElem?_eq_getElem positive)
  unfold KernelState.userByte at first
  simp only [Option.bind_eq_bind, Option.bind_eq_some_iff] at first
  obtain ⟨cap, recorded, frame, frameEq, -⟩ := first
  refine ⟨cap, frame, recorded, frameEq, List.ext_getElem? fun index => ?_⟩
  by_cases bound : index < bytes.length
  · obtain ⟨page, offset⟩ := samePage index bound
    have byte := holds index _ (List.getElem?_eq_getElem bound)
    simp only [KernelState.userByte, page, offset] at byte
    rw [Nat.add_zero] at recorded
    simp only [recorded, frameEq, Option.bind_eq_bind, Option.bind_some] at byte
    rw [Memory.getElem?_load bound, List.getElem?_eq_getElem bound]
    exact byte
  · rw [List.getElem?_eq_none (by simpa using bound), List.getElem?_eq_none (by omega)]

theorem readItem_returns (ready : SeatReady platform state) {task : Sel4Task}
    (holds : state.Holds task addr bytes) (positive : 0 < bytes.length)
    (inPage : bytes.length + addr % pageSize ≤ pageSize) :
    Delivers state (readItem platform bytes.length task addr)
      fun result after => result = .ok bytes ∧ after = state.setPage kernelVSpace platform.pageSeat none := by
  obtain ⟨cap, frame, recorded, frameEq, loaded⟩ := holds.inPage positive inPage
  obtain ⟨mapped, capEq⟩ := frameOf_iff.mp frameEq
  rw [readItem_eq positive task inPage]
  simp only [recorded]
  refine (withPage_returns ready capEq (by omega : addr % pageSize + bytes.length ≤ pageSize)).bind
    fun read =>
    MemTriple.pure ?_
  rintro _ ⟨rfl, rfl⟩
  exact ⟨congrArg Except.ok loaded, rfl⟩

/-- A frame can be allocated: there is a slot, its node, and memory. -/
structure CanAllocate (platform : Platform) (state : KernelState ν) : Prop where
  slot : state.emptySlots.1 < state.emptySlots.2
  free : state.cspace state.emptySlots.1 = none
  memory : if state.emptySlots.1 &&& 0xfff = 0 then
      state.cnodes (state.emptySlots.1 >>> 12) = false ∧
        Untyped.start (Untyped.start state.watermark 17 + 2 ^ 17) 12 + 2 ^ 12 ≤ platform.untypedSize
    else state.cnodes (state.emptySlots.1 >>> 12) = true ∧
      Untyped.start state.watermark 12 + 2 ^ 12 ≤ platform.untypedSize

structure NewFrame (slot : CPtr) (before after : KernelState ν) : Prop where
  cspace : after.cspace = Function.update before.cspace slot (some (.frame slot none))
  frames : after.frames = Function.update before.frames slot (fun _ => 0)
  vspaces : after.vspaces = Function.update before.vspaces slot .empty
  own : after.own = before.own
  tasks : after.tasks = before.tasks
  msgRegs : after.msgRegs = before.msgRegs
  net : after.net = before.net

theorem allocateSlot_returns (can : CanAllocate platform state) :
    Delivers state (allocateSlot platform)
      fun slot after => slot.2.2 = state.emptySlots.1 ∧ ∃ emptySlots watermark cnodes,
        after = { state with emptySlots, watermark, cnodes } ∧ cnodes (state.emptySlots.1 >>> 12) = true ∧
        Untyped.start watermark 12 + 2 ^ 12 ≤ platform.untypedSize := by
  have memory := can.memory
  refine .read_bind ?_
  rintro state rfl
  dsimp only
  rw [if_neg (Nat.not_le.mpr can.slot)]
  refine .update_bind ?_
  by_cases first : state.emptySlots.1 &&& 0xfff = 0
  · rw [if_pos first] at memory ⊢
    have retyped : MemTriple
        (fun now => now = { state with emptySlots := (state.emptySlots.1 + 1, state.emptySlots.2) })
        (unwrapped (retypeCNode platform (state.emptySlots.1 >>> 12)))
        (fun _ after => after = { state with
          emptySlots := (state.emptySlots.1 + 1, state.emptySlots.2)
          watermark := Untyped.start state.watermark 17 + 2 ^ 17
          cnodes := Function.update state.cnodes (state.emptySlots.1 >>> 12) true }) (fun _ => False) := by
      refine unwrapped_ok () (.read_bind ?_)
      rintro _ rfl
      have room : ¬ platform.untypedSize < Untyped.start state.watermark 17 + 2 ^ 17 := by
        have grows : ∀ watermark bits, watermark ≤ Untyped.start watermark bits := by
          intro watermark bits
          unfold Untyped.start
          have := Nat.div_add_mod (watermark + 2 ^ bits - 1) (2 ^ bits)
          have := Nat.mod_lt (watermark + 2 ^ bits - 1) (Nat.two_pow_pos bits)
          rw [Nat.mul_comm]
          omega
        have := grows (Untyped.start state.watermark 17 + 2 ^ 17) 12
        omega
      simp only [ObjectType.sizeBits, memory.1, Bool.false_eq_true, if_false, room]
      refine .update_bind (.pure ?_)
      rintro _ rfl
      exact ⟨rfl, rfl⟩
    refine retyped.bind fun _ => .pure ?_
    rintro _ rfl
    exact ⟨rfl, _, _, _, rfl, update_self .., memory.2⟩
  · rw [if_neg first] at memory ⊢
    refine .pure ?_
    rintro _ rfl
    exact ⟨rfl, _, _, _, rfl, memory.1, memory.2⟩

theorem allocate_returns (can : CanAllocate platform state) :
    Delivers state (allocate platform .granule)
      fun slot after => slot = state.emptySlots.1 ∧ NewFrame slot state after := by
  refine .locked ((allocateSlot_returns can).bind fun slot => .fixed ?_)
  rintro _ ⟨slotEq, emptySlots, watermark, cnodes, rfl, node, room⟩
  have free := can.free
  rw [slotEq]
  have retyped : Delivers { state with emptySlots, watermark, cnodes }
      (unwrapped (untypedRetype platform .granule state.emptySlots.1))
      fun _ after => NewFrame state.emptySlots.1 state after := by
    refine unwrapped_ok () (.read_bind ?_)
    rintro _ rfl
    simp only [ObjectType.sizeBits, node, not_true_eq_false, if_false, free, Option.isSome_none,
      Bool.false_eq_true, Nat.not_lt.mpr room]
    refine .update_bind (.pure ?_)
    rintro _ rfl
    exact ⟨rfl, rfl, rfl, rfl, rfl, rfl, rfl, rfl⟩
  exact retyped.bind fun _ => .pure fun _ new => ⟨rfl, new⟩

theorem copyBytes_toSeat (showing : Shows platform frame state) {src : Nat}
    (outside : OutsideSeats platform src count) (inside : count ≤ pageSize) :
    Delivers state (copyBytes platform src platform.pageSeat count)
      fun _ after => after = state.setFrame frame ((state.frames frame).store 0 (state.own.load src count)) := by
  refine (loadBytes_own state outside).bind fun bytes => .fixed ?_
  rintro state ⟨rfl, rfl⟩
  have bound : 0 + (state.own.load src count).length ≤ pageSize := by
    rw [Memory.length_load]
    omega
  exact storeBytes_seat showing bound

structure PageGranted (slot : CPtr) (contents : List UInt8) (before after : KernelState ν) : Prop where
  frame : after.frameOf slot = some slot
  caps : ∀ cap, cap ≠ slot → after.cspace cap = before.cspace cap
  frames : after.frames = Function.update before.frames slot (Memory.store (fun _ => 0) 0 contents)
  own : after.own = before.own
  tasks : after.tasks = before.tasks
  msgRegs : after.msgRegs = before.msgRegs
  net : after.net = before.net

theorem genCap_copies (can : CanAllocate platform state)
    (kernel : state.cspace kernelVSpace = some (.vspace kernelVSpace))
    (tables : missingLevel platform (state.vspaces kernelVSpace) platform.pageSeat = none)
    {item : Nat} {num : Option Nat} (small : size * num.getD 1 ≤ pageSize)
    {post : CPtr → KernelState ν → Prop} {raised : Fault → Prop}
    (copies : ∀ granted, NewFrame state.emptySlots.1 state granted →
      RunFrom (granted.showAtSeat platform state.emptySlots.1 state.emptySlots.1)
      (copyBytes platform item platform.pageSeat (size * num.getD 1 * size))
      (fun _ after => post state.emptySlots.1 after) raised) :
    RunFrom state (genCap platform size item num) post raised := by
  refine (allocate_returns can).raising.bind fun cap => .fixed ?_
  rintro granted ⟨rfl, new⟩
  have apart : kernelVSpace ≠ state.emptySlots.1 := by
    intro same
    have free := can.free
    rw [← same, kernel] at free
    cases free
  have kernelAfter : granted.cspace kernelVSpace = some (.vspace kernelVSpace) := by
    rw [new.cspace, update_of_ne apart, kernel]
  have tablesAfter : missingLevel platform (granted.vspaces kernelVSpace) platform.pageSeat = none := by
    rw [new.vspaces, update_of_ne apart, tables]
  have capEq : granted.cspace state.emptySlots.1 = some (.frame state.emptySlots.1 none) := by
    rw [new.cspace, update_self]
  refine (seatMap_returns kernelAfter tablesAfter capEq).raising.bind fun _ => ?_
  dsimp only
  rw [if_neg (Nat.not_lt.mpr small)]
  exact (copies granted new).bind fun _ => .pure fun _ holds => holds

theorem genCap_shows (can : CanAllocate platform state)
    (kernel : state.cspace kernelVSpace = some (.vspace kernelVSpace))
    (tables : missingLevel platform (state.vspaces kernelVSpace) platform.pageSeat = none)
    {item : Nat} {num : Option Nat} (small : size * num.getD 1 ≤ pageSize)
    (inside : size * num.getD 1 * size ≤ pageSize)
    (outside : OutsideSeats platform item (size * num.getD 1 * size)) :
    Delivers state (genCap platform size item num)
      fun cap after => cap = state.emptySlots.1 ∧ Shows platform cap after ∧
        PageGranted cap (state.own.load item (size * num.getD 1 * size)) state after := by
  refine genCap_copies can kernel tables small fun granted new => ?_
  refine (copyBytes_toSeat (showAtSeat_shows _ _ _) outside inside).mono ?_
  rintro _ _ rfl
  refine ⟨rfl, showAtSeat_shows granted state.emptySlots.1 state.emptySlots.1, ?_, ?_, ?_, new.own,
    new.tasks, new.msgRegs, new.net⟩
  · simp [KernelState.frameOf, KernelState.setFrame, KernelState.showAtSeat, KernelState.setCap]
  · intro cap other
    simp only [KernelState.setFrame, KernelState.showAtSeat, KernelState.setCap,
      KernelState.setPage, KernelState.changeSpace, new.cspace, update_of_ne other]
  · simp only [KernelState.setFrame, KernelState.showAtSeat, KernelState.setCap, KernelState.setPage,
      KernelState.changeSpace, new.frames, new.own, update_self, Function.update_idem]

end RootTaskDemo.Kernel
