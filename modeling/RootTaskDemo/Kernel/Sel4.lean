import Std.Data.TreeMap.Lemmas
import RootTaskDemo.Common.Message
import RootTaskDemo.Lib.Memory
import RootTaskDemo.Lib.Thread

namespace RootTaskDemo.Kernel

open Common Lib Thread

/-! What the kernel thread sees of seL4: its slots, the objects behind them and
its own memory. An object is named by the slot it was retyped into; the bump
allocator uses no slot twice. -/

abbrev CPtr := Nat

abbrev ObjId := Nat

inductive Sel4Error where
  | invalidCapability
  | invalidArgument
  | alignmentError
  | failedLookup
  | deleteFirst
  | notEnoughMemory
deriving DecidableEq, Repr

inductive ObjectType where
  | granule
  | pageTable
  | vspace
  | tcb
  | cnode (sizeBits : Nat)
  | endpoint
  | notification
deriving DecidableEq, Repr

def ObjectType.sizeBits : ObjectType → Nat
  | .granule | .pageTable | .vspace => 12
  | .tcb => 11
  | .cnode sizeBits => sizeBits + 5
  | .endpoint => 4
  | .notification => 5

/-- The capability to a frame or a table has where it is mapped; a copy starts unmapped. -/
inductive Cap where
  | frame (object : ObjId) (mapped : Option (ObjId × Nat))
  | pageTable (object : ObjId) (mapped : Option (ObjId × Nat × Nat))
  | vspace (object : ObjId)
  | tcb (object : ObjId)
  | cnode (object : ObjId)
  | endpoint (object : ObjId) (badge : Nat)
  | notification (object : ObjId)
  | irqHandler (irq : Nat)
deriving DecidableEq, Repr

def ObjectType.cap (object : ObjId) : ObjectType → Cap
  | .granule => .frame object none
  | .pageTable => .pageTable object none
  | .vspace => .vspace object
  | .tcb => .tcb object
  | .cnode _ => .cnode object
  | .endpoint => .endpoint object 0
  | .notification => .notification object

structure CapRights where
  read : Bool
  write : Bool
  grant : Bool
deriving DecidableEq, Repr

def CapRights.all : CapRights := { read := true, write := true, grant := true }

structure Mapping where
  frame : ObjId
  rights : CapRights
deriving DecidableEq, Repr

/-- The pages of an address space by address, and its intermediate tables by level and span. -/
structure VSpace where
  pages : Nat → Option Mapping
  tables : Nat → Nat → Bool

def VSpace.empty : VSpace := { pages := fun _ => none, tables := fun _ _ => false }

structure UserContext where
  pc : UInt64
  sp : UInt64
  gpr : Nat → UInt64
  tpidr : UInt64

def UserContext.default : UserContext := { pc := 0, sp := 0, gpr := fun _ => 0, tpidr := 0 }

structure Tcb where
  context : UserContext
  vspace : CPtr
  ipcBuffer : Nat
  /-- The frame of the IPC buffer, by the slot it was made in. -/
  bufferFrame : CPtr
  running : Bool

def pageSize : Nat := 0x1000

def heapSize : Nat := 1024 * 64

/-- What the machine, the boot and the linker fix. The two placeholders are
page-aligned and do not coincide. -/
structure Platform where
  numLevels : Nat
  levels_pos : 0 < numLevels
  spanBits : Nat → Nat
  userTop : Nat
  untypedSize : Nat
  /-- The address of `FREE_PAGE_PLACEHOLDER`. -/
  pageSeat : Nat
  /-- The address of `EXT_FREE_PAGE_PLACEHOLDER`. -/
  extPageSeat : Nat
  /-- Where the heap puts a buffer of the given capacity. -/
  heapBuffer : Nat → Nat
  /-- The largest capacity the heap has room for. -/
  heapRoom : Nat
  /-- Where the local variable with a socket address lies. -/
  localAddr : Nat
  pageSeat_aligned : pageSeat % pageSize = 0
  pageSeat_user : pageSeat + pageSize ≤ userTop
  seats_differ : pageSeat ≠ extPageSeat
  heapRoom_le : heapRoom ≤ heapSize

structure Sel4Task where
  pid : Nat
  id : Nat
  tcb : CPtr
  cnode : CPtr
  vspace : CPtr
  mappedPt : List CPtr
  mappedPage : Std.TreeMap Nat CPtr
  heap : Nat
  exit : Option Int
  clearChildTid : Option Nat

/-- The kernel thread between two steps. `net` is the net thread as far as the
kernel thread can reach it, `own` the memory outside the two page seats. -/
structure KernelState (ν : Type) where
  cnodes : Nat → Bool
  cspace : CPtr → Option Cap
  watermark : Nat
  frames : ObjId → Memory
  vspaces : ObjId → VSpace
  tcbs : ObjId → Tcb
  own : Memory
  msgRegs : MsgRegs
  emptySlots : Nat × Nat
  idCounter : Nat
  tasks : Std.TreeMap Nat Sel4Task
  console : List UInt8
  net : ν

inductive Lock where
  | taskMap
  | objAllocator
deriving DecidableEq, Repr

inductive Panic where
  | invocation (error : Sel4Error)
  | noSlot
  | noTask (badge : Nat)
  | misaligned (address : Nat)
  | pageRange
  | outOfBounds
  | itemTooLarge
  | notInPage
  | unknownError
  | errorCode
  | noHeap
  | unreachable
deriving DecidableEq, Repr

/-- Why the kernel thread stops: a panic, an access Rust does not define, an access
to a seat that shows no frame, a call that is never answered, a loop without end,
or the message that tells it to exit. -/
inductive Fault where
  | panicked (reason : Panic)
  | undefined
  | seatFault (address : Nat)
  | unanswered
  | diverged
  | exited
deriving DecidableEq, Repr

abbrev KernelM (ν : Type) := Thread Lock (List UInt64) Fault (KernelState ν)

abbrev KernelWorld (ν : Type) := World Lock (List UInt64) (KernelState ν)

variable {ν α : Type} (state : KernelState ν)

def panicWith (reason : Panic) : KernelM ν α := stop (.panicked reason)

/-- `unwrap` of the result of an invocation. -/
def unwrapped (program : KernelM ν (Except Sel4Error α)) : KernelM ν α := do
  match ← program with
  | .ok value => return value
  | .error error => panicWith (.invocation error)

/-- The address space of the kernel thread, `init_thread::slot::VSPACE`. -/
def kernelVSpace : CPtr := 3

/-- The slot `Cap::from_bits(0)` that helpers copy a frame to for a moment. -/
def tempSlot : CPtr := 0

namespace KernelState

def setCap (state : KernelState ν) (slot : CPtr) (cap : Option Cap) : KernelState ν :=
  { state with cspace := Function.update state.cspace slot cap }

def changeSpace (state : KernelState ν) (space : ObjId) (change : VSpace → VSpace) : KernelState ν :=
  { state with vspaces := Function.update state.vspaces space (change (state.vspaces space)) }

def setPage (state : KernelState ν) (space : ObjId) (vaddr : Nat) (mapping : Option Mapping) :
    KernelState ν :=
  state.changeSpace space fun vspace =>
    { vspace with pages := Function.update vspace.pages vaddr mapping }

def setTable (state : KernelState ν) (space : ObjId) (level span : Nat) : KernelState ν :=
  state.changeSpace space fun vspace =>
    { vspace with tables := fun other => if other = level then Function.update (vspace.tables level) span true
        else vspace.tables other }

def pages (state : KernelState ν) (space : ObjId) (vaddr : Nat) : Option Mapping :=
  (state.vspaces space).pages vaddr

end KernelState

theorem cspace_setCap (slot : CPtr) (cap : Option Cap) :
    (state.setCap slot cap).cspace = Function.update state.cspace slot cap := rfl

@[simp] theorem pages_setCap (slot : CPtr) (cap : Option Cap) :
    (state.setCap slot cap).pages = state.pages := rfl

theorem pages_setPage_self (space : ObjId) (vaddr : Nat) (mapping : Option Mapping) :
    (state.setPage space vaddr mapping).pages space = Function.update (state.pages space) vaddr mapping := by
  funext other
  simp only [KernelState.pages, KernelState.setPage, KernelState.changeSpace, Function.update_self]
  rfl

theorem pages_setPage_of_ne {space other : ObjId} (different : other ≠ space) (vaddr : Nat)
    (mapping : Option Mapping) :
    (state.setPage space vaddr mapping).pages other = state.pages other := by
  funext address
  simp only [KernelState.pages, KernelState.setPage, KernelState.changeSpace,
    Function.update_of_ne different]

@[simp] theorem pages_setTable (space : ObjId) (level span : Nat) :
    (state.setTable space level span).pages = state.pages := by
  funext other address
  simp only [KernelState.pages, KernelState.setTable, KernelState.changeSpace]
  by_cases same : other = space
  · rw [same, Function.update_self]
  · rw [Function.update_of_ne same]

theorem mem_of_found {map : Std.TreeMap Nat α} {key : Nat} {value : α}
    (found : map[key]? = some value) : key ∈ map :=
  Std.TreeMap.mem_iff_isSome_getElem?.mpr (by rw [found]; rfl)

theorem found_of_mem {map : Std.TreeMap Nat α} {key : Nat} (member : key ∈ map) :
    ∃ value, map[key]? = some value :=
  Option.isSome_iff_exists.mp (Std.TreeMap.mem_iff_isSome_getElem?.mp member)

variable (platform : Platform)

namespace Untyped

/-- The start of the next object of the size, which the untyped aligns. -/
def start (watermark sizeBits : Nat) : Nat :=
  (watermark + 2 ^ sizeBits - 1) / 2 ^ sizeBits * 2 ^ sizeBits

end Untyped

/-- `untyped_retype` into a slot of the second-level node it lies in. The memory of
the object is cleared. -/
def untypedRetype (type : ObjectType) (dest : CPtr) : KernelM ν (Except Sel4Error Unit) := do
  let state ← read
  let start := Untyped.start state.watermark type.sizeBits
  if ¬ state.cnodes (dest >>> 12) then return .error .failedLookup
  else if (state.cspace dest).isSome then return .error .deleteFirst
  else if platform.untypedSize < start + 2 ^ type.sizeBits then return .error .notEnoughMemory
  else
    update fun state => { state with
      watermark := start + 2 ^ type.sizeBits
      cspace := Function.update state.cspace dest (some (type.cap dest))
      frames := Function.update state.frames dest fun _ => 0
      vspaces := Function.update state.vspaces dest .empty
      tcbs := Function.update state.tcbs dest { context := .default, vspace := 0, ipcBuffer := 0, bufferFrame := 0, running := false } }
    return .ok ()

/-- The first level without a table on the way to the page. -/
def missingLevel (space : VSpace) (vaddr : Nat) : Option Nat :=
  (List.range' 1 (platform.numLevels - 1)).find? fun level =>
    !space.tables level (vaddr >>> platform.spanBits level)

/-- `frame_map`. A page that is mapped already is replaced. -/
def frameMap (cap vspace : CPtr) (vaddr : Nat) (rights : CapRights) :
    KernelM ν (Except Sel4Error Unit) := do
  let state ← read
  match state.cspace cap, state.cspace vspace with
  | some (.frame object mapped), some (.vspace space) =>
    if mapped.any fun place => place.1 ≠ space then return .error .invalidCapability
    else if mapped.any fun place => place.2 ≠ vaddr then return .error .invalidArgument
    else if platform.userTop < vaddr + pageSize then return .error .invalidArgument
    else if vaddr % pageSize ≠ 0 then return .error .alignmentError
    else if (missingLevel platform (state.vspaces space) vaddr).isSome then return .error .failedLookup
    else
      update fun state => (state.setPage space vaddr (some { frame := object, rights })).setCap cap
        (some (.frame object (some (space, vaddr))))
      return .ok ()
  | _, _ => return .error .invalidCapability

/-- What unmapping a frame does to the address space: the page is cleared if it
still shows the frame. -/
def KernelState.unmapFrame (state : KernelState ν) (object : ObjId) :
    Option (ObjId × Nat) → KernelState ν
  | none => state
  | some (space, vaddr) =>
    if (state.pages space vaddr).any fun mapping => mapping.frame = object then state.setPage space vaddr none
    else state

def frameUnmap (cap : CPtr) : KernelM ν (Except Sel4Error Unit) := do
  let state ← read
  match state.cspace cap with
  | some (.frame object mapped) =>
    update fun state => (state.unmapFrame object mapped).setCap cap (some (.frame object none))
    return .ok ()
  | _ => return .error .invalidCapability

/-- `pt_map`: the table goes to the first level that has none. -/
def ptMap (cap vspace : CPtr) (vaddr : Nat) : KernelM ν (Except Sel4Error Unit) := do
  let state ← read
  match state.cspace cap, state.cspace vspace with
  | some (.pageTable object none), some (.vspace space) =>
    match missingLevel platform (state.vspaces space) vaddr with
    | none => return .error .deleteFirst
    | some level =>
      let span := vaddr >>> platform.spanBits level
      update fun state => (state.setTable space level span).setCap cap
        (some (.pageTable object (some (space, level, span))))
      return .ok ()
  | _, _ => return .error .invalidCapability

/-- `copy` between two slots of the kernel thread. -/
def cnodeCopy (dest src : CPtr) : KernelM ν (Except Sel4Error Unit) := do
  let state ← read
  match state.cspace dest, state.cspace src with
  | some _, _ => return .error .deleteFirst
  | none, none => return .error .failedLookup
  | none, some (.pageTable _ _) => return .error .invalidCapability
  | none, some (.frame object _) =>
    update fun state => state.setCap dest (some (.frame object none))
    return .ok ()
  | none, some cap =>
    update fun state => state.setCap dest (some cap)
    return .ok ()

/-- A table that goes takes what lies below it along. -/
def VSpace.dropTable (space : VSpace) (level span : Nat) : VSpace :=
  let below := fun vaddr => vaddr >>> platform.spanBits level = span
  { pages := fun vaddr => if below vaddr then none else space.pages vaddr
    tables := fun other index =>
      if level ≤ other ∧ below (index <<< platform.spanBits other) then false else space.tables other index }

/-- `delete`. Of an address space only the capability it was made with is the last one. -/
def cnodeDelete (slot : CPtr) : KernelM ν Unit :=
  update fun state =>
    match state.cspace slot with
    | some (.frame object mapped) => (state.unmapFrame object mapped).setCap slot none
    | some (.pageTable _ (some (space, level, span))) =>
      (state.changeSpace space fun vspace => vspace.dropTable platform level span).setCap slot none
    | some (.vspace object) =>
      if slot = object then (state.changeSpace object fun _ => .empty).setCap slot none
      else state.setCap slot none
    | _ => state.setCap slot none

def isSeat (address : Nat) : Bool :=
  let page := address / pageSize * pageSize
  page == platform.pageSeat || page == platform.extPageSeat

def KernelState.seatFrame (state : KernelState ν) (address : Nat) : Option ObjId :=
  (state.pages kernelVSpace (address / pageSize * pageSize)).map Mapping.frame

def loadByte (address : Nat) : KernelM ν UInt8 := do
  let state ← read
  if isSeat platform address then
    match state.seatFrame address with
    | none => stop (.seatFault address)
    | some frame => return state.frames frame (address % pageSize)
  else return state.own address

def storeByte (address : Nat) (byte : UInt8) : KernelM ν Unit := do
  let state ← read
  if isSeat platform address then
    match state.seatFrame address with
    | none => stop (.seatFault address)
    | some frame =>
      update fun state => { state with
        frames := Function.update state.frames frame (Function.update (state.frames frame) (address % pageSize) byte) }
  else update fun state => { state with own := Function.update state.own address byte }

def loadBytes (address : Nat) : Nat → KernelM ν (List UInt8)
  | 0 => return []
  | count + 1 => do
    let byte ← loadByte platform address
    let rest ← loadBytes (address + 1) count
    return byte :: rest

def storeBytes (address : Nat) : List UInt8 → KernelM ν Unit
  | [] => return ()
  | byte :: rest => do
    storeByte platform address byte
    storeBytes (address + 1) rest

/-- `core::ptr::copy_nonoverlapping` of so many bytes. -/
def copyBytes (src dst count : Nat) : KernelM ν Unit := do
  let bytes ← loadBytes platform src count
  storeBytes platform dst bytes

def changeTcb (cap : CPtr) (change : Tcb → Tcb) : KernelM ν (Except Sel4Error Unit) := do
  let state ← read
  match state.cspace cap with
  | some (.tcb object) =>
    update fun state => { state with tcbs := Function.update state.tcbs object (change (state.tcbs object)) }
    return .ok ()
  | _ => return .error .invalidCapability

def tcbConfigure (cap vspace : CPtr) (ipcBuffer : Nat) (bufferFrame : CPtr) :
    KernelM ν (Except Sel4Error Unit) :=
  changeTcb cap fun tcb => { tcb with vspace, ipcBuffer, bufferFrame }

def tcbReadAllRegisters (cap : CPtr) : KernelM ν (Except Sel4Error UserContext) := do
  let state ← read
  match state.cspace cap with
  | some (.tcb object) => return .ok (state.tcbs object).context
  | _ => return .error .invalidCapability

def tcbWriteAllRegisters (cap : CPtr) (context : UserContext) : KernelM ν (Except Sel4Error Unit) :=
  changeTcb cap fun tcb => { tcb with context }

def tcbResume (cap : CPtr) : KernelM ν (Except Sel4Error Unit) :=
  changeTcb cap fun tcb => { tcb with running := true }

def tcbSuspend (cap : CPtr) : KernelM ν (Except Sel4Error Unit) :=
  changeTcb cap fun tcb => { tcb with running := false }

end RootTaskDemo.Kernel
