import RootTaskDemo.Kernel.Image
import RootTaskDemo.Kernel.UserMemory

namespace RootTaskDemo.Kernel

open Common Lib Thread

variable {ν : Type} (platform : Platform)

/-! The system calls that concern memory, threads and files. -/

/-- `TASK_MAP.lock().get(&badge).unwrap()` -/
def taskOf (badge : Nat) : KernelM ν Sel4Task := do
  let state ← read
  match state.tasks[badge]? with
  | none => panicWith (.noTask badge)
  | some task => return task

def setTask (badge : Nat) (task : Sel4Task) : KernelM ν Unit :=
  update fun state => { state with tasks := state.tasks.insert badge task }

/-- Bits of a flag word, or none if some bit is not a flag. -/
def fromBits (all value : Nat) : Option Nat :=
  let bits := value % 2 ^ 32
  if bits &&& all = bits then some bits else none

def alignDown4k (address : Nat) : Nat := address / pageSize * pageSize

def alignUp4k (address : Nat) : Nat := (address + pageSize - 1) % 2 ^ 64 / pageSize * pageSize

def mmapFlagsAll : Nat := 0x24033

def mapFixed : Nat := 0x10

def mmapProtAll : Nat := 0x7

def mapMissing : List Nat → Sel4Task → KernelM ν Sel4Task
  | [], task => return task
  | vaddr :: rest, task =>
    if vaddr ∈ task.mappedPage then mapMissing rest task
    else do
      let pageCap ← allocate platform .granule
      let task ← task.mapPage platform vaddr pageCap
      mapMissing rest task

def sysMmap (badge addr length prot flags : Nat) : KernelM ν SysResult :=
  locked .taskMap do
    let task ← taskOf badge
    match fromBits mmapFlagsAll flags, fromBits mmapProtAll prot with
    | some flags, some _ =>
      let startAddr := if flags &&& mapFixed ≠ 0 then addr else (task.findFreeArea addr length).getD 0
      let stop := (startAddr + length) % 2 ^ 64
      let task ← mapMissing platform (pageSteps (alignDown4k startAddr) (alignUp4k stop)) task
      setTask badge task
      return .ok startAddr
    | _, _ => return .error .einval

def unmapPresent : List Nat → Sel4Task → KernelM ν Sel4Task
  | [], task => return task
  | vaddr :: rest, task =>
    match task.mappedPage[vaddr]? with
    | none => unmapPresent rest task
    | some page => do
      let task ← task.unmapPage vaddr page
      unmapPresent rest task

def sysUnmap (badge addr length : Nat) : KernelM ν SysResult :=
  locked .taskMap do
    let task ← taskOf badge
    let stop := (addr + length) % 2 ^ 64
    let task ← unmapPresent (pageSteps (alignDown4k addr) (alignUp4k stop)) task
    setTask badge task
    return .ok 0

def sysBrk (badge addr : Nat) : KernelM ν SysResult :=
  locked .taskMap do
    let task ← taskOf badge
    if addr < uspaceHeapBase ∨ uspaceHeapBase + uspaceHeapSize < addr then return .error .enomem
    else
      let task ← if task.heap < addr then do
          let grown ← task.brk platform addr
          pure grown.2
        else pure task
      setTask badge { task with heap := addr }
      return .ok 0

def sysGetpid (badge : Nat) : KernelM ν SysResult :=
  locked .taskMap do
    let task ← taskOf badge
    return .ok task.pid

def sysGetppid (badge : Nat) : KernelM ν SysResult := sysGetpid badge

def sysGetuid (badge : Nat) : KernelM ν SysResult :=
  locked .taskMap do
    let task ← taskOf badge
    return .ok task.id

def sysGeteuid (badge : Nat) : KernelM ν SysResult := sysGetuid badge

def sysGettid (badge : Nat) : KernelM ν SysResult := return .ok badge

def sysSetTidAddress (badge tidptr : Nat) : KernelM ν SysResult :=
  locked .taskMap do
    let task ← taskOf badge
    setTask badge { task with clearChildTid := some tidptr }
    return .ok badge

def sysExit (badge : Nat) (exitCode : Int) : KernelM ν SysResult :=
  locked .taskMap do
    let task ← taskOf badge
    setTask badge { task with exit := some exitCode }
    unwrapped (tcbSuspend task.tcb)
    return .ok 0

def sysSchedYield : KernelM ν SysResult := return .ok 0

structure CloneArgs where
  stack : UInt64
  flags : Nat
  initFn : UInt64
  initArgv : UInt64

/-- The size of `CloneArgs`: six pointers and a flag word. -/
def cloneArgsSize : Nat := 56

def cloneFlagsAll : Nat := 0x21ffff80

def cloneVm : Nat := 0x100

def cloneIpcBufferAddr : Nat := 0x40000

/-- The copy of one page, from the page seat to the second one. -/
def clonePage (newPageCap pageCap : CPtr) : KernelM ν Unit :=
  withSeat platform newPageCap platform.extPageSeat
    (withPage platform pageCap (copyBytes platform platform.pageSeat platform.extPageSeat pageSize))

def cloneVspace : List (Nat × CPtr) → Sel4Task → KernelM ν Sel4Task
  | [], dst => return dst
  | (vaddr, pageCap) :: rest, dst => do
    let newPageCap ← allocate platform .granule
    clonePage platform newPageCap pageCap
    let dst ← dst.mapPage platform vaddr newPageCap
    cloneVspace rest dst

/-- The address space of the new task: a copy of the parent's, or the same one. -/
def cloneSpace (task newTask : Sel4Task) (shared : Bool) : KernelM ν Sel4Task :=
  if shared then do
    let slot ← locked .objAllocator (allocateSlot platform)
    unwrapped (cnodeCopy slot.2.2 task.vspace)
    return { newTask with vspace := slot.2.2 }
  else cloneVspace platform task.mappedPage.toList newTask

def cloneContext (args : CloneArgs) (regs : UserContext) : UserContext :=
  let regs :=
    if args.initFn = 0 then { regs with pc := regs.pc + 4 }
    else { regs with pc := args.initFn, gpr := Function.update regs.gpr 0 args.initArgv }
  if args.stack = 0 then regs else { regs with sp := args.stack }

/-- Whether seL4 accepts the three invocations of `sys_clone` whose errors are answered. -/
structure CloneOutcome where
  mint : Bool
  configure : Bool
  schedule : Bool

/-- The work on a new task, once its arguments are known. An error drops it. -/
def cloneTask (outcome : CloneOutcome) (task : Sel4Task) (args : CloneArgs) (flags : Nat) :
    KernelM ν SysResult := do
  let newTask ← Sel4Task.new platform
  if ¬ outcome.mint then
    newTask.drop platform
    return .error .enomem
  else
    let newTask ← cloneSpace platform task newTask (flags &&& cloneVm ≠ 0)
    let ipcBufferCap ← allocate platform .granule
    let newTask ← newTask.mapPage platform cloneIpcBufferAddr ipcBufferCap
    if ¬ outcome.configure ∨ ¬ outcome.schedule then
      newTask.drop platform
      return .error .enomem
    else
      unwrapped (tcbConfigure newTask.tcb newTask.vspace cloneIpcBufferAddr ipcBufferCap)
      let regs ← unwrapped (tcbReadAllRegisters task.tcb)
      unwrapped (tcbWriteAllRegisters newTask.tcb (cloneContext args regs))
      unwrapped (tcbResume newTask.tcb)
      setTask newTask.id newTask
      return .ok newTask.id

def sysClone (decode : List UInt8 → CloneArgs) (outcome : CloneOutcome) (badge cloneArgs : Nat) :
    KernelM ν SysResult :=
  locked .taskMap do
    let task ← taskOf badge
    if cloneArgs = 0 then return .error .einval
    else match ← readItem platform cloneArgsSize task cloneArgs with
      | .error error => return .error error
      | .ok bytes =>
        match fromBits cloneFlagsAll (decode bytes).flags with
        | none => return .error .einval
        | some flags => cloneTask platform outcome task (decode bytes) flags

/-- The program that `sys_exec` runs: the segments the loader maps and the file
its sections are read from. -/
structure Program where
  segments : List Segment
  file : ElfFile

def asciiBytes (text : List Char) : List UInt8 := text.map fun char => UInt8.ofNat char.toNat

def execArgs : List (List UInt8) :=
  [asciiBytes ['b', 'u', 's', 'y', 'b', 'o', 'x'], asciiBytes ['-', '-', 'h', 'e', 'l', 'p']]

def sysExec (program : Program) (badge : Nat) : KernelM ν SysResult :=
  locked .taskMap do
    let task ← taskOf badge
    match footprint program.segments with
    | none => panicWith .outOfBounds
    | some footprint =>
      let mappedPage ← locked .objAllocator
        (mapImage platform ∅ task.vspace footprint program.segments platform.pageSeat)
      let stacked ← Sel4Task.mapStack platform { task with mappedPage, mappedPt := [] } 0
        (uspaceStackTop - uspaceStackSize) uspaceStackTop execArgs
      let ipcBufferCap ← allocate platform .granule
      let ipcBufferAddr := program.file.ipcBufferAddr
      let task ← stacked.2.mapPage platform ipcBufferAddr ipcBufferCap
      unwrapped (tcbConfigure task.tcb task.vspace ipcBufferAddr ipcBufferCap)
      unwrapped (tcbWriteAllRegisters task.tcb
        { UserContext.default with
          pc := program.file.entryPoint
          sp := UInt64.ofNat stacked.1
          gpr := Function.update (fun _ => 0) 1 (UInt64.ofNat ipcBufferAddr)
          tpidr := program.file.tbss.getD 0 })
      setTask badge { task with exit := some 0 }
      unwrapped (tcbResume task.tcb)
      return .ok 0

/-- What the loop of `sys_write` changes. -/
structure WriteLoop where
  count : Nat
  bufAddr : Nat
  payloadLength : Nat

/-- A round of the loop. If the page is not mapped, it is tried again. -/
def writeRound (task : Sel4Task) (loop : WriteLoop) : KernelM ν WriteLoop :=
  match task.mappedPage[alignBits loop.bufAddr 12]? with
  | none => return loop
  | some cap => do
    let copyLen := min (pageSize - loop.bufAddr % pageSize) loop.count
    let bytes ← withPage platform cap
      (loadBytes platform (platform.pageSeat + loop.bufAddr % pageSize) copyLen)
    update fun state => { state with console := state.console ++ bytes }
    return { count := loop.count - copyLen
             bufAddr := (loop.bufAddr + copyLen) % 2 ^ 64
             payloadLength := loop.payloadLength + copyLen }

def writeRounds (task : Sel4Task) : Nat → WriteLoop → KernelM ν (Option Nat)
  | 0, loop => return if loop.count = 0 then some loop.payloadLength else none
  | rounds + 1, loop =>
    if loop.count = 0 then return some loop.payloadLength
    else do
      let next ← writeRound platform task loop
      writeRounds task rounds next

/-- `sys_write` with a bound on the rounds of its loop. -/
def sysWriteWithin (rounds badge fd buf count : Nat) : KernelM ν (Option SysResult) :=
  locked .taskMap do
    let task ← taskOf badge
    if fd % 2 ^ 32 ≠ 1 ∧ fd % 2 ^ 32 ≠ 2 then return some (.error .enosys)
    else
      let payloadLength ← writeRounds platform task rounds { count, bufAddr := buf, payloadLength := 0 }
      return payloadLength.map .ok

/-- Every round that gets on prints a byte or more, so that a loop with bytes left after `count`
rounds has come to a page that is not mapped and goes on forever. -/
def sysWrite (badge fd buf count : Nat) : KernelM ν SysResult := do
  match ← sysWriteWithin platform count badge fd buf count with
  | some result => return result
  | none => stop .diverged

end RootTaskDemo.Kernel
