import RootTaskDemo.Kernel.Buffers
import RootTaskDemo.Lib.WordMemory
import RootTaskDemo.Shim.Clone

namespace RootTaskDemo.Shim

open Common Lib Kernel Thread

variable {ν : Type} {state : KernelState ν} {gettid clone : UInt64}
variable {task : Sel4Task} {buffer : Nat}

/-! How the words of a system call get from `vsyscall_handler` to `handle_ipc_call`: a thread
writes them to the page that it takes for its IPC buffer, and seL4 reads all but the first
few from the frame that the thread was configured with. -/

def Handler.words : Handler → List UInt64
  | .call words _ => words
  | _ => []

def callOf (gettid clone id : UInt64) (args : Vector UInt64 6) (answer : MsgRegs) : Handler :=
  match vsyscallHandler gettid clone id args with
  | .call words resume => if id = clone then resume sysCallInfo answer else .call words resume
  | handler => handler

theorem words_callOf (id : UInt64) (args : Vector UInt64 6) (answer : MsgRegs) :
    (callOf gettid clone id args answer).words = id :: args.toList := by
  unfold callOf vsyscallHandler
  by_cases cloning : id = clone
  · simp only [cloning, if_true]
    rfl
  · simp only [cloning, if_false]
    rfl

/-- `set_ipc_buffer_with_symbol` takes the first page after the image for the IPC buffer. A
clone does not call it again. -/
def symbolBuffer (endSymbol : Nat) : Nat := (endSymbol + pageSize - 1) / pageSize * pageSize

def msgOffset (index : Nat) : Nat := wordSize + wordSize * index

def fastWords : Nat := 4

/-- The message registers of the receiver: the first words come from the registers of the
sender, the others from where its buffer starts in a frame. -/
def transfer (sender frame : Memory) (start length : Nat) (old : MsgRegs) : MsgRegs := fun index =>
  if index < fastWords then sender.wordAt (msgOffset index)
  else if index < length then frame.wordAt (start + msgOffset index)
  else old index

def threadOf (state : KernelState ν) (task : Sel4Task) : Option Tcb :=
  match state.cspace task.tcb with
  | some (.tcb tcb) => some (state.tcbs tcb)
  | _ => none

/-- A task writes the words to the page `buffer` and calls: what the kernel thread has in its
message registers then. Without a page there is a fault instead. -/
def send (state : KernelState ν) (task : Sel4Task) (buffer : Nat) (info : MessageInfo)
    (words : List UInt64) : Option MsgRegs := do
  let page ← state.frameAt task.vspace buffer
  let tcb ← threadOf state task
  let written := state.setFrame page ((state.frames page).storeWords (msgOffset 0) words)
  return transfer (written.frames page) (written.frames tcb.bufferFrame) (tcb.ipcBuffer % pageSize)
    info.length state.msgRegs

/-- The number and the arguments that `handle_ipc_call` is invoked with. -/
def invokedWith (regs : MsgRegs) : UInt64 × Vector UInt64 6 :=
  (regs 0, .ofFn fun index => regs (index + 1))

theorem invokedWith_eq {regs : MsgRegs} {id : UInt64} {args : Vector UInt64 6} :
    invokedWith regs = (id, args) ↔ regs 0 = id ∧ ∀ (index : Nat) (inside : index < 6),
      regs (index + 1) = args[index] := by
  simp only [invokedWith, Prod.mk.injEq, Vector.ext_iff, Vector.getElem_ofFn]

theorem handleIpcCall_congr (env : Env ν) (outcome : CloneOutcome) (badge sysId : Nat)
    {args args' : Nat → Nat} (same : ∀ index < 6, args index = args' index) :
    handleIpcCall env outcome badge sysId args = handleIpcCall env outcome badge sysId args' := by
  have zero := same 0 (by decide)
  have one := same 1 (by decide)
  have two := same 2 (by decide)
  have three := same 3 (by decide)
  have four := same 4 (by decide)
  simp only [handleIpcCall, zero, one, two, three, four]

theorem serve_invokes (env : Env ν) (badge : Nat) (outcome : CloneOutcome) (regs : MsgRegs) :
    serve env ⟨badge, .message sysCallInfo regs, outcome⟩ = (do
      update fun state => { state with msgRegs := regs }
      let result ← handleIpcCall env outcome badge (invokedWith regs).1.toNat fun index =>
        ((invokedWith regs).2[index]?.getD 0).toNat
      replyWith [resultWord result]) := by
  have decoded : CustomMessageLabel.tryFrom sysCallInfo = some .sysCall := by decide
  have called : (handleIpcCall env outcome badge (regs 0).toNat fun index => (regs (index + 1)).toNat) =
      handleIpcCall env outcome badge (invokedWith regs).1.toNat fun index =>
        ((invokedWith regs).2[index]?.getD 0).toNat := by
    refine handleIpcCall_congr env outcome badge _ fun index inside => ?_
    simp [invokedWith, inside]
  unfold serve
  simp only [decoded, called]

/-- A system call of a task arrives as it was made. -/
def Arrives (state : KernelState ν) (task : Sel4Task) (buffer : Nat) (gettid clone id : UInt64)
    (args : Vector UInt64 6) : Prop :=
  ∀ answer, (send state task buffer sysCallInfo (callOf gettid clone id args answer).words).map
    invokedWith = some (id, args)

/-- The page that a task writes to is the frame that seL4 reads, from its start. -/
def ReadsWhereWritten (state : KernelState ν) (task : Sel4Task) (buffer : Nat) : Prop :=
  ∃ tcb, threadOf state task = some tcb ∧ state.frameAt task.vspace buffer = some tcb.bufferFrame ∧
    tcb.ipcBuffer % pageSize = 0

theorem send_eq {page : ObjId} {tcb : Tcb} (shown : state.frameAt task.vspace buffer = some page)
    (thread : threadOf state task = some tcb) (info : MessageInfo) (words : List UInt64) :
    send state task buffer info words =
      some (transfer ((state.frames page).storeWords (msgOffset 0) words)
        (Function.update state.frames page ((state.frames page).storeWords (msgOffset 0) words) tcb.bufferFrame)
        (tcb.ipcBuffer % pageSize) info.length state.msgRegs) := by
  simp only [send, shown, thread, Option.bind_eq_bind, Option.bind_some, KernelState.setFrame,
    Function.update_self]
  rfl

theorem arrives_of_reads (reads : ReadsWhereWritten state task buffer) (id : UInt64)
    (args : Vector UInt64 6) : Arrives state task buffer gettid clone id args := by
  obtain ⟨tcb, thread, shown, start⟩ := reads
  intro answer
  rw [words_callOf, send_eq shown thread, Function.update_self, start, Option.map_some]
  have read : ∀ index < 7, ∀ word, (id :: args.toList)[index]? = some word →
      transfer ((state.frames tcb.bufferFrame).storeWords (msgOffset 0) (id :: args.toList))
        ((state.frames tcb.bufferFrame).storeWords (msgOffset 0) (id :: args.toList)) 0
          sysCallInfo.length state.msgRegs index = word := by
    intro index inside word found
    have same : ((state.frames tcb.bufferFrame).storeWords (msgOffset 0) (id :: args.toList)).wordAt
      (msgOffset index) = word :=
      Memory.wordAt_storeWords found
    have long : index < sysCallInfo.length := inside.trans (by decide)
    unfold transfer
    rw [Nat.zero_add, if_pos long, same, ite_self]
  refine congrArg some (invokedWith_eq.mpr ⟨read 0 (by decide) id rfl, fun index inside => ?_⟩)
  exact read (index + 1) (by omega) _ (by simp [inside])

theorem reads_of_bufferAt (placed : BufferAt buffer task state) (aligned : buffer % pageSize = 0) :
    ReadsWhereWritten state task buffer := by
  refine ⟨state.tcbs task.tcb, ?_, placed.shown, ?_⟩
  · rw [threadOf, placed.thread]
  · rw [placed.address, aligned]

/-- A task has the thread and, at the address, the page that it had before. -/
structure SameBuffer (buffer : Nat) (task : Sel4Task) (before later : KernelState ν) : Prop where
  thread : threadOf later task = threadOf before task
  page : later.frameAt task.vspace buffer = before.frameAt task.vspace buffer

theorem arrives_of_bufferAt {later : KernelState ν} (placed : BufferAt buffer task state)
    (aligned : buffer % pageSize = 0) (same : SameBuffer buffer task state later) (id : UInt64)
    (args : Vector UInt64 6) :
    Arrives later task buffer gettid clone id args := by
  obtain ⟨tcb, thread, shown, start⟩ := reads_of_bufferAt placed aligned
  exact arrives_of_reads ⟨tcb, same.thread.trans thread, same.page.trans shown, start⟩ id args

variable {env : Env ν} {endSymbol : Nat}

/-- The small system with an image that ends right below the buffers of the clones. -/
def tallEnv : Env Unit :=
    { smallEnv with child := { smallEnv.child with sections := [(0x10000, 8), (0x3fff8, 8)] } }

def tallStart : EStateM.Result Fault (World Lock (List UInt64) (KernelState Unit)) Unit :=
  (startChild tallEnv 0).run (KernelWorld.boot ())

def tallClone : EStateM.Result Fault (World Lock (List UInt64) (KernelState Unit)) SysResult :=
  (sysClone tallEnv.platform tallEnv.decodeCloneArgs ⟨true, true, true⟩ 1 0x10000).run
    (finalState tallStart)

/-- What the kernel thread of a small system makes of a call by one of the tasks, whose image
ends with its only section. -/
def smallCall (world : World Lock (List UInt64) (KernelState Unit)) (badge : Nat) (id : UInt64)
    (args : Vector UInt64 6) :
    Option (UInt64 × Vector UInt64 6) :=
  world.memory.tasks[badge]?.bind fun task =>
    (send world.memory task (symbolBuffer 0x10008) sysCallInfo (callOf 178 220 id args fun _ =>
      0).words).map invokedWith

/-- The kernel thread handles a call of a task with the number and the arguments that the task
gave it. -/
def Handles (env : Env ν) (state : KernelState ν) (task : Sel4Task) (buffer : Nat)
    (gettid clone id : UInt64) (args : Vector UInt64 6) : Prop :=
  ∀ answer outcome, ∃ regs,
    send state task buffer sysCallInfo (callOf gettid clone id args answer).words = some regs ∧
    serve env ⟨task.id, .message sysCallInfo regs, outcome⟩ = (do
      update fun state => { state with msgRegs := regs }
      let result ← handleIpcCall env outcome task.id id.toNat fun index => (args[index]?.getD 0).toNat
      replyWith [resultWord result])

theorem handles_of_bufferAt (env : Env ν) (placed : BufferAt buffer task state)
    (aligned : buffer % pageSize = 0) (id : UInt64) (args : Vector UInt64 6) :
    Handles env state task buffer gettid clone id args := by
  intro answer outcome
  have arrives : Arrives state task buffer gettid clone id args :=
    arrives_of_reads (reads_of_bufferAt placed aligned) id args
  obtain ⟨regs, sent, invoked⟩ := Option.map_eq_some_iff.mp (arrives answer)
  refine ⟨regs, sent, ?_⟩
  rw [serve_invokes, invoked]

/-- Whatever the first task calls in the state that it starts in, the kernel thread handles
that call. -/
theorem first_task_handled (ep : UInt64) (booted : Booted state)
    (image : symbolBuffer endSymbol = env.child.ipcBufferAddr) :
    Yields state (startChild env ep)
      fun _ after => ∃ task, Entered state task after ∧
        ∀ id args, Handles env after task (symbolBuffer endSymbol) gettid clone id args := by
  refine (startChild_first env ep booted).partly ?_
  rintro _ after ⟨task, entered, placed⟩
  exact ⟨task, entered, handles_of_bufferAt env (image ▸ placed) (Nat.mul_mod_left ..)⟩

theorem first_task_handled_small : ∃ task,
    Entered (KernelWorld.boot ()).memory task
      (finalState ((startChild smallEnv 0).run (KernelWorld.boot ()))).memory ∧
      ∀ id args, Handles smallEnv (finalState ((startChild smallEnv 0).run (KernelWorld.boot ()))).memory task
        (symbolBuffer 0x10008) 178 220 id args :=
  (first_task_handled 0 (boot_booted ()) (by decide +kernel)).triple.of_run rfl
    (ran_of_returnValue (by decide +kernel : returnValue ((startChild smallEnv 0).run (KernelWorld.boot ())) = some ()))

end RootTaskDemo.Shim
