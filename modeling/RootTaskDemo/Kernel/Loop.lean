import RootTaskDemo.Kernel.Socket

namespace RootTaskDemo.Kernel

open Common Lib Thread

variable {ν : Type}

/-! The start of the first task and the loop that serves its messages. -/

/-- The system calls by the names of the crate `syscalls`; `other` is any that has no handler. -/
inductive Sysno where
  | write
  | brk
  | mmap
  | munmap
  | exit
  | exitGroup
  | getpid
  | execve
  | clone
  | gettid
  | schedYield
  | getppid
  | setTidAddress
  | getuid
  | geteuid
  | socket
  | accept
  | bind
  | connect
  | listen
  | sendto
  | recvfrom
  | shutdown
  | other
deriving DecidableEq, Repr

/-- What the kernel thread is built from and runs against. -/
structure Env (ν : Type) where
  platform : Platform
  link : NetLink ν
  errno : AxErrno
  layout : SocketAddrLayout
  decodeCloneArgs : List UInt8 → CloneArgs
  sysno : Nat → Option Sysno
  /-- `test-thread.elf`, the first task. -/
  child : ElfFile
  /-- `shim.elf`, the program of every `execve`. -/
  shim : Program

variable (env : Env ν)

def handleIpcCall (outcome : CloneOutcome) (badge sysId : Nat) (args : Nat → Nat) :
    KernelM ν SysResult :=
  let platform := env.platform
  match env.sysno sysId with
  | none => return .error .einval
  | some .write => sysWrite platform badge (args 0) (args 1) (args 2)
  | some .brk => sysBrk platform badge (args 0)
  | some .mmap => sysMmap platform badge (args 0) (args 1) (args 2) (args 3)
  | some .munmap => sysUnmap badge (args 0) (args 1)
  | some .exit | some .exitGroup => sysExit badge (asI32 (UInt64.ofNat (args 0)))
  | some .getpid => sysGetpid badge
  | some .execve => sysExec platform env.shim badge
  | some .clone => sysClone platform env.decodeCloneArgs outcome badge (args 0)
  | some .gettid => sysGettid badge
  | some .schedYield => sysSchedYield
  | some .getppid => sysGetppid badge
  | some .setTidAddress => sysSetTidAddress badge (args 0)
  | some .getuid => sysGetuid badge
  | some .geteuid => sysGeteuid badge
  | some .socket => sysSocket env.link
  | some .accept => sysAccept platform env.link env.errno badge (args 0) (args 1)
  | some .bind => sysBind platform env.link env.errno env.layout badge (args 0) (args 1)
  | some .connect => sysConnect platform env.link env.errno env.layout badge (args 0) (args 1)
  | some .listen => sysListen env.link env.errno (args 0)
  | some .sendto => sysSendto platform env.link env.errno badge (args 0) (args 1) (args 2) (args 4)
  | some .recvfrom => sysRecvfrom platform env.link env.errno badge (args 0) (args 1) (args 2)
  | some .shutdown => sysShutdown env.link env.errno (args 0)
  | some .other => return .error .enosys

def rawErrno : Errno → Int
  | .einval => 22
  | .efault => 14
  | .enomem => 12
  | .enosys => 38

/-- The word of a result: the negated error number, or the value. -/
def resultWord : SysResult → UInt64
  | .ok value => UInt64.ofNat value
  | .error error => ofSigned (-rawErrno error)

def replyWith (regs : List UInt64) : KernelM ν Unit := do
  update fun state => { state with msgRegs := state.msgRegs.write regs }
  reply regs

/-- A message to the kernel thread. A label below eight is a fault, of which only
the one of the address space is handled. -/
inductive Incoming where
  | vmFault (addr : Nat)
  | otherFault
  | message (info : MessageInfo) (regs : MsgRegs)

structure KernelInput where
  badge : Nat
  incoming : Incoming
  outcome : CloneOutcome

def handleVmFault (badge addr : Nat) : KernelM ν Unit := do
  let vaddr := alignBits addr 12
  let pageCap ← allocate env.platform .granule
  locked .taskMap do
    let task ← taskOf badge
    let task ← task.mapPage env.platform vaddr pageCap
    setTask badge task
    unwrapped (tcbResume task.tcb)

/-- One round of the loop of `test_child`. -/
def serve (input : KernelInput) : KernelM ν Unit :=
  match input.incoming with
  | .vmFault addr => handleVmFault env input.badge addr
  | .otherFault => return ()
  | .message info regs => do
    update fun state => { state with msgRegs := regs }
    match CustomMessageLabel.tryFrom info with
    | some .testCustomMessage => replyWith []
    | some .sysCall =>
      let result ← handleIpcCall env input.outcome input.badge (regs 0).toNat fun index => (regs (index + 1)).toNat
      replyWith [resultWord result]
    | some .exit => stop .exited
    | none => return ()

def childArgs : List (List UInt8) :=
  [asciiBytes ['b', 'u', 's', 'y', 'b', 'o', 'x'], asciiBytes ['e', 'c', 'h', 'o'],
    asciiBytes ['K', 'e', 'r', 'n', 'e', 'l', ' ', 'T', 'h', 'r', 'e', 'a', 'd', Char.ofNat 39, 's',
      ' ', 'C', 'h', 'i', 'l', 'd',
      ' ', 'S', 'a', 'y', 's', ' ', 'H', 'e', 'l', 'l', 'o', '!']]

/-- The first part of `test_child`, up to the loop. -/
def startChild (ep : UInt64) : KernelM ν Unit := do
  let task ← Sel4Task.new env.platform
  let task ← task.loadElf env.platform env.child
  let stacked ← task.mapStack env.platform 0 (uspaceStackTop - 16 * pageSize) uspaceStackTop childArgs
  let ipcBufferCap ← allocate env.platform .granule
  let ipcBufferAddr := env.child.ipcBufferAddr
  let task ← stacked.2.mapPage env.platform ipcBufferAddr ipcBufferCap
  unwrapped (tcbConfigure task.tcb task.vspace ipcBufferAddr ipcBufferCap)
  unwrapped (tcbWriteAllRegisters task.tcb
    { UserContext.default with
      pc := env.child.entryPoint
      sp := UInt64.ofNat stacked.1
      gpr := Function.update (fun _ => 0) 0 ep
      tpidr := env.child.tbss.getD 0 })
  unwrapped (tcbResume task.tcb)
  locked .taskMap (setTask task.id task)

def smallPlatform : Platform where
  numLevels := 2
  levels_pos := by decide
  spanBits _ := 21
  userTop := 0x800000000000
  untypedSize := 0x10000000
  pageSeat := 0x400000000000
  extPageSeat := 0x400000001000
  heapBuffer _ := 0x500000000000
  heapRoom := 0x8000
  localAddr := 0x600000000010
  pageSeat_aligned := by decide
  pageSeat_user := by decide
  seats_differ := by decide
  heapRoom_le := by decide

/-- The kernel thread has its address space, tables for its seats and slots to hand out. -/
def KernelState.boot (net : ν) : KernelState ν where
  cnodes _ := false
  cspace := Function.update (fun _ => none) kernelVSpace (some (.vspace kernelVSpace))
  watermark := 0
  frames _ _ := 0
  vspaces _ := { pages := fun _ => none, tables := fun _ _ => true }
  tcbs _ := { context := .default, vspace := 0, ipcBuffer := 0, bufferFrame := 0, running := false }
  own _ := 0
  msgRegs _ := 0
  emptySlots := (0x1000, 0x100000)
  idCounter := 1
  tasks := ∅
  console := []
  net := net

def KernelWorld.boot (net : ν) : KernelWorld ν :=
  { held := [], reentered := [], sent := [], memory := .boot net }

end RootTaskDemo.Kernel
