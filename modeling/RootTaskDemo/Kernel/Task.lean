import RootTaskDemo.Kernel.Sel4
import RootTaskDemo.Lib.Words

namespace RootTaskDemo.Kernel

open Lib Thread

variable {ν : Type} (platform : Platform)

/-- The retype of a second-level node into the root node. -/
def retypeCNode (index : Nat) : KernelM ν (Except Sel4Error Unit) := do
  let state ← read
  let start := Untyped.start state.watermark (ObjectType.cnode 12).sizeBits
  if state.cnodes index then return .error .deleteFirst
  else if platform.untypedSize < start + 2 ^ (ObjectType.cnode 12).sizeBits
    then return .error .notEnoughMemory
  else
    update fun state => { state with
      watermark := start + 2 ^ (ObjectType.cnode 12).sizeBits
      cnodes := Function.update state.cnodes index true }
    return .ok ()

def allocateSlot : KernelM ν (Nat × Nat × CPtr) := do
  let state ← read
  let rawSlotIndex := state.emptySlots.1
  if state.emptySlots.2 ≤ rawSlotIndex then panicWith .noSlot
  else
    update fun state => { state with emptySlots := (rawSlotIndex + 1, state.emptySlots.2) }
    let slotIndex := rawSlotIndex &&& 0xfff
    let cnodeIndex := rawSlotIndex >>> 12
    if slotIndex = 0 then unwrapped (retypeCNode platform cnodeIndex)
    return (slotIndex, cnodeIndex, rawSlotIndex)

def allocateAndRetype (type : ObjectType) : KernelM ν CPtr := do
  let slot ← allocateSlot platform
  unwrapped (untypedRetype platform type slot.2.2)
  return slot.2.2

/-- `OBJ_ALLOCATOR.lock().allocate_and_retyped_fixed_sized()` and its variable-sized twin. -/
def allocate (type : ObjectType) : KernelM ν CPtr :=
  locked .objAllocator (allocateAndRetype platform type)

def uspaceBase : Nat := 0x1000

def uspaceHeapBase : Nat := 0x100000000

def uspaceHeapSize : Nat := 0x100000

def uspaceStackTop : Nat := 0x200000000

def uspaceStackSize : Nat := 0x10000

def stackAlignSize : Nat := 16

def cnodeRadixBits : Nat := 12

/-- The range `start..end` in steps of a page. -/
def pageSteps (start stop : Nat) : List Nat :=
  List.range' start ((stop - start + pageSize - 1) / pageSize) pageSize

/-- A mapping of a frame to the page seat, for the time of `body`. -/
def withSeat (cap : CPtr) (seat : Nat) {α : Type} (body : KernelM ν α) : KernelM ν α := do
  unwrapped (frameMap platform cap kernelVSpace seat .all)
  let value ← body
  unwrapped (frameUnmap cap)
  return value

namespace Sel4Task

def new : KernelM ν Sel4Task := do
  let vspace ← allocate platform .vspace
  let tcb ← allocate platform .tcb
  let cnode ← allocate platform (.cnode cnodeRadixBits)
  let state ← read
  update fun state => { state with idCounter := state.idCounter + 1 }
  return { pid := 0, id := state.idCounter, tcb, cnode, vspace, mappedPt := [], mappedPage := ∅,
           heap := 0x200000000, exit := none, clearChildTid := none }

def findFreeAreaFrom (size lastAddr : Nat) : List Nat → Nat
  | [] => lastAddr
  | vaddr :: rest =>
    if (lastAddr + size) % 2 ^ 64 ≤ vaddr then lastAddr
    else findFreeAreaFrom size ((vaddr + pageSize) % 2 ^ 64) rest

def findFreeArea (self : Sel4Task) (start size : Nat) : Option Nat :=
  some (findFreeAreaFrom size (max uspaceBase start) self.mappedPage.keys)

/-- The attempts left; when none is, the loop of the source ends without a mapping. -/
def mapPageLoop (vaddr : Nat) (page : CPtr) : Nat → Sel4Task → KernelM ν Sel4Task
  | 0, self => return self
  | tries + 1, self => do
    match ← frameMap platform page self.vspace vaddr .all with
    | .ok () => return { self with mappedPage := self.mappedPage.insert vaddr page }
    | .error .failedLookup =>
      let ptCap ← allocate platform .pageTable
      unwrapped (ptMap platform ptCap self.vspace vaddr)
      mapPageLoop vaddr page tries { self with mappedPt := self.mappedPt ++ [ptCap] }
    | .error error => panicWith (.invocation error)

def mapPage (self : Sel4Task) (vaddr : Nat) (page : CPtr) : KernelM ν Sel4Task :=
  if vaddr % pageSize ≠ 0 then panicWith (.misaligned vaddr)
  else mapPageLoop platform vaddr page platform.numLevels self

def unmapPage (self : Sel4Task) (vaddr : Nat) (page : CPtr) : KernelM ν Sel4Task :=
  if vaddr % pageSize ≠ 0 then panicWith (.misaligned vaddr)
  else do
    unwrapped (frameUnmap page)
    return { self with mappedPage := self.mappedPage.erase vaddr }

def mapFresh : List Nat → Sel4Task → KernelM ν Sel4Task
  | [], self => return self
  | vaddr :: rest, self => do
    let pageCap ← allocate platform .granule
    let self ← self.mapPage platform vaddr pageCap
    mapFresh rest self

def pushArg (stackPtr : Nat) (arg : List UInt8) : KernelM ν Nat := do
  let stackPtr := (stackPtr + 2 ^ 64 - arg.length - 1) % 2 ^ 64 / stackAlignSize * stackAlignSize
  storeBytes platform (platform.pageSeat + stackPtr % pageSize) arg
  return stackPtr

def pushArgs : Nat → List (List UInt8) → KernelM ν (List Nat × Nat)
  | stackPtr, [] => return ([], stackPtr)
  | stackPtr, arg :: rest => do
    let argPtr ← pushArg platform stackPtr arg
    let pushed ← pushArgs argPtr rest
    return (argPtr :: pushed.1, pushed.2)

def pushNums : Nat → List Nat → KernelM ν Nat
  | stackPtr, [] => return stackPtr
  | stackPtr, num :: rest => do
    let stackPtr := (stackPtr + 2 ^ 64 - 8) % 2 ^ 64
    storeBytes platform (platform.pageSeat + stackPtr % pageSize) (toBigEndian 8 num).reverse
    pushNums stackPtr rest

/-- The auxiliary vector in the order of its keys, each value before its key. -/
def auxiliaryVector (execFn entryPoint : Nat) : List Nat :=
  [0, 0, pageSize, 6, entryPoint, 9, 0, 11, 0, 12, 0, 13, 0, 14, execFn, 31]

def fillStack (entryPoint stackPtr : Nat) (args : List (List UInt8)) : KernelM ν Nat := do
  let pushed ← pushArgs platform stackPtr args
  match pushed.1 with
  | [] => panicWith .outOfBounds
  | execFn :: _ =>
    pushNums platform pushed.2
      (auxiliaryVector execFn entryPoint ++ [0, 0] ++ pushed.1.reverse ++ [pushed.1.length])

def mapStackPages (entryPoint stop : Nat) (args : List (List UInt8)) :
    List Nat → Nat → Sel4Task → KernelM ν (Nat × Sel4Task)
  | [], stackPtr, self => return (stackPtr, self)
  | vaddr :: rest, stackPtr, self => do
    let pageCap ← allocate platform .granule
    let stackPtr ← if vaddr = stop - pageSize then
        withSeat platform pageCap platform.pageSeat (fillStack platform entryPoint stackPtr args)
      else pure stackPtr
    let self ← self.mapPage platform vaddr pageCap
    mapStackPages entryPoint stop args rest stackPtr self

def mapStack (self : Sel4Task) (entryPoint start stop : Nat) (args : List (List UInt8)) :
    KernelM ν (Nat × Sel4Task) :=
  if stop % 0x1000 ≠ 0 then panicWith (.misaligned stop)
  else if start % 0x1000 ≠ 0 then panicWith (.misaligned start)
  else mapStackPages platform entryPoint stop args (pageSteps start stop) stop self

end Sel4Task

structure ProgramHeader where
  isLoad : Bool
  offset : Nat
  virtualAddr : Nat
  fileSize : Nat
  memSize : Nat

/-- An ELF file as `xmas_elf` presents it. -/
structure ElfFile where
  data : List UInt8
  programs : List ProgramHeader
  sections : List (Nat × Nat)
  entryPoint : UInt64
  /-- The address of the section `.tbss`. -/
  tbss : Option UInt64

def ElfFile.ipcBufferAddr (file : ElfFile) : Nat :=
  (file.sections.foldl (fun acc x => max acc (x.1 + x.2)) 0 + 4096 - 1) / 4096 * 4096

def ElfFile.slice (file : ElfFile) (offset count : Nat) : KernelM ν (List UInt8) :=
  if offset + count ≤ file.data.length then return (file.data.drop offset).take count
    else stop .undefined

namespace Sel4Task

/-- The frame the page has from an earlier segment, or a new one. -/
def loadFrame (mappedPage : Std.TreeMap Nat CPtr) (page : Nat) : KernelM ν CPtr :=
  match mappedPage[page]? with
  | some pageCap => do
    unwrapped (frameUnmap pageCap)
    return pageCap
  | none => allocate platform .granule

/-- The copy goes to the offset in the file, not to the one in the page. -/
def copySegment (file : ElfFile) (offset vaddr stop : Nat) : KernelM ν Nat := do
  let rsize := min (pageSize - vaddr % pageSize) (stop - offset)
  let bytes ← file.slice offset rsize
  storeBytes platform (platform.pageSeat + offset % pageSize) bytes
  return offset + rsize

/-- The pages of one segment; the fuel is the length of the segment in memory. -/
def loadPages (file : ElfFile) (stop vaddrEnd : Nat) :
    Nat → Nat → Nat → Std.TreeMap Nat CPtr → Sel4Task →
    KernelM ν (Std.TreeMap Nat CPtr × Sel4Task)
  | 0, _, _, mappedPage, self => return (mappedPage, self)
  | fuel + 1, offset, vaddr, mappedPage, self =>
    if vaddr < vaddrEnd then do
      let page := vaddr / pageSize * pageSize
      let pageCap ← loadFrame platform mappedPage page
      let offset ← if offset < stop then
          withSeat platform pageCap platform.pageSeat (copySegment platform file offset vaddr stop)
        else pure offset
      let self ← self.mapPage platform page pageCap
      loadPages file stop vaddrEnd fuel offset (vaddr + (pageSize - vaddr % pageSize))
        (mappedPage.insert page pageCap) self
    else return (mappedPage, self)

def loadSegments (file : ElfFile) :
    List ProgramHeader → Std.TreeMap Nat CPtr → Sel4Task → KernelM ν Sel4Task
  | [], _, self => return self
  | ph :: rest, mappedPage, self => do
    let stop := (ph.offset + ph.fileSize) % 2 ^ 64
    let vaddrEnd := (ph.virtualAddr + ph.memSize) % 2 ^ 64
    let loaded ← loadPages platform file stop vaddrEnd (vaddrEnd - ph.virtualAddr) ph.offset
      ph.virtualAddr mappedPage self
    loadSegments file rest loaded.1 loaded.2

def loadElf (self : Sel4Task) (file : ElfFile) : KernelM ν Sel4Task :=
  loadSegments platform file (file.programs.filter ProgramHeader.isLoad) ∅ self

def brk (self : Sel4Task) (value : Nat) : KernelM ν (Nat × Sel4Task) :=
  if value = 0 then return (self.heap, self)
  else do
    let self ← mapFresh platform (pageSteps self.heap value) self
    return (value, self)

def deleteAll : List CPtr → KernelM ν Unit
  | [] => return ()
  | cap :: rest => do
    cnodeDelete platform cap
    deleteAll rest

/-- `Drop`. Nothing is derived from the capabilities of a task that is dropped, so
revoking them does nothing. -/
def drop (self : Sel4Task) : KernelM ν Unit :=
  deleteAll platform ([self.tcb, self.cnode, self.vspace] ++ self.mappedPt ++
    self.mappedPage.toList.map Prod.snd)

end Sel4Task

end RootTaskDemo.Kernel
