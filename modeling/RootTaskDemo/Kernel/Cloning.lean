import RootTaskDemo.Kernel.MemorySafety
import RootTaskDemo.Kernel.Records
import RootTaskDemo.Kernel.Tcbs

namespace RootTaskDemo.Kernel

open Common Lib Thread

variable {ν : Type} {platform : Platform} {badge : Nat}
  {before middle after state origin : KernelState ν}

/-! The tasks that come into being, the first one and the clones, as they are entered;
and what a thread that shares an address space sees of it through the kernel thread. -/

def initialHeap : Nat := 0x200000000

theorem new_heap : Leads (fun _ : KernelState ν => True) (Sel4Task.new platform)
    (fun self _ => self.heap = initialHeap) :=
  MemTriple.anything.bind fun _ => MemTriple.anything.bind fun _ => MemTriple.anything.bind fun _ =>
    MemTriple.anything.bind fun _ => MemTriple.anything.bind fun _ => .pure fun _ _ => rfl

structure Entered (before : KernelState ν) (task : Sel4Task) (after : KernelState ν) : Prop where
  tidy : Tidy False after
  tasks : after.tasks = before.tasks.insert task.id task
  absent : task.id ∉ before.tasks
  heap : task.heap = initialHeap

theorem Entered.found {task : Sel4Task} (entered : Entered before task after) :
    after.tasks[task.id]? = some task := by
  rw [entered.tasks, Std.TreeMap.getElem?_insert_self]

theorem Entered.older {task other : Sel4Task} {key : Nat} (entered : Entered before task after)
    (found : before.tasks[key]? = some other) : after.tasks[key]? = some other := by
  have different : key ≠ task.id := by
    rintro rfl
    exact entered.absent (mem_of_found found)
  rw [entered.tasks, Std.TreeMap.getElem?_insert, if_neg fun equal =>
    different (compare_eq_iff_eq.mp equal).symm]
  exact found

theorem setTask_enters {task : Sel4Task} (absent : task.id ∉ origin.tasks)
    (heap : task.heap = initialHeap) :
    Leads (Keeping False [] origin.tasks task.id task : KernelState ν → Prop) (setTask task.id task)
      (fun _ after => Entered origin task after) := by
  have inserted : Leads (Keeping False [] origin.tasks task.id task : KernelState ν → Prop)
    (setTask task.id task)
      (fun _ after => after.tasks = origin.tasks.insert task.id task) := by
    refine .update fun state keeping => ?_
    rw [keeping.entered]
  exact ((setTask_tidy task task rfl fun _ => rfl).also inserted).partly fun _ _ ⟨tidy, tasks⟩ =>
    ⟨tidy, tasks, absent, heap⟩

theorem startChild_enters (env : Env ν) (ep : UInt64) (tidy : Tidy False state) :
    Yields state (startChild env ep) fun _ after => ∃ task, Entered state task after := by
  refine ((new_growing tidy).also (new_heap.startingAt trivial)).bind fun task => .fixed ?_
  rintro created ⟨⟨growing, unpaged⟩, heap⟩
  refine (((loadSegments_keeping env.child _ unpaged.pages).startingAt growing.keeping).also
    ((loadElf_thread task env.child).startingAt trivial)).bind fun loaded => .fixed ?_
  rintro loadedState ⟨⟨keeping, -⟩, first⟩
  refine (((mapStack_keeping _ _ _ _ False.elim).startingAt keeping).also
    ((mapStack_thread loaded _ _ _ _).startingAt trivial)).bind fun stacked => .fixed ?_
  rintro stackedState ⟨⟨keeping, -⟩, second⟩
  refine (allocate_keeping.startingAt keeping).bind fun buffer => .fixed fun allocated keeping => ?_
  refine (((mapPage_keeping False.elim).startingAt keeping).also
    ((mapPage_thread stacked.2 _ buffer).startingAt trivial)).bind fun complete => .fixed ?_
  rintro mapped ⟨⟨keeping, -⟩, third⟩
  have same := third.trans (second.trans first)
  refine ((Keeping.evolves (tcb_steady _ _)).startingAt keeping).bind fun _ =>
    (Keeping.evolves (tcb_steady _ _)).bind fun _ =>
    (Keeping.evolves (tcb_steady _ _)).bind fun _ => .locked ?_
  have name : complete.id = task.id := congrArg ThreadPart.id same
  rw [← name]
  exact (setTask_enters (name ▸ unpaged.absent) ((congrArg ThreadPart.heap same).trans heap)).partly
    fun _ _ entered => ⟨complete, entered⟩

structure CloneRequest (decode : List UInt8 → CloneArgs) (badge cloneArgs : Nat)
    (state : KernelState ν) (parent : Sel4Task) (args : CloneArgs) (flags : Nat) : Prop where
  caller : state.tasks[badge]? = some parent
  item : ∃ bytes, state.itemAt parent cloneArgs cloneArgsSize = some bytes ∧ decode bytes = args
  valid : fromBits cloneFlagsAll args.flags = some flags

/-- Whether a clone is to run in the address space of its parent. -/
def sharesSpace (flags : Nat) : Bool := flags &&& cloneVm ≠ 0

def cloneDraft (platform : Platform) (parent : Sel4Task) (flags : Nat) : KernelM ν Sel4Task := do
  let newTask ← Sel4Task.new platform
  cloneSpace platform parent newTask (sharesSpace flags)

def cloneFinish (platform : Platform) (outcome : CloneOutcome) (parent : Sel4Task)
    (args : CloneArgs) (draft : Sel4Task) :
    KernelM ν SysResult := do
  let ipcBufferCap ← allocate platform .granule
  let newTask ← draft.mapPage platform cloneIpcBufferAddr ipcBufferCap
  if ¬ outcome.configure ∨ ¬ outcome.schedule then
    newTask.drop platform
    return .error .enomem
  else
    unwrapped (tcbConfigure newTask.tcb newTask.vspace cloneIpcBufferAddr ipcBufferCap)
    let regs ← unwrapped (tcbReadAllRegisters parent.tcb)
    unwrapped (tcbWriteAllRegisters newTask.tcb (cloneContext args regs))
    unwrapped (tcbResume newTask.tcb)
    setTask newTask.id newTask
    return .ok newTask.id

theorem cloneTask_eq {outcome : CloneOutcome} (mint : outcome.mint = true) (parent : Sel4Task)
    (args : CloneArgs) (flags : Nat) :
    cloneTask platform outcome parent args flags =
      (cloneDraft platform parent flags >>= cloneFinish platform outcome parent args : KernelM ν _) := by
  simp only [cloneTask, cloneDraft, mint, not_true_eq_false, if_false, bind_assoc, sharesSpace]
  rfl

/-- A clone is entered with frames of its own: one for its IPC buffer, and one for each
page of the parent if it is to have copies. -/
structure Cloned (before : KernelState ν) (parent : Sel4Task) (shared : Bool) (child : Sel4Task)
    (after : KernelState ν) : Prop
    extends Entered before child after where
  pages : ∀ vaddr, vaddr ∈ child.mappedPage ↔ vaddr = cloneIpcBufferAddr ∨ shared = false ∧
    vaddr ∈ parent.mappedPage
  fresh : ∀ (vaddr : Nat) cap, child.mappedPage[vaddr]? = some cap → before.cspace cap = none

theorem Cloned.since {parent child : Sel4Task} {shared : Bool}
    (cloned : Cloned middle parent shared child after) (steady : Steady False before middle) :
    Cloned before parent shared child after where
  tidy := cloned.tidy
  tasks := steady.tasks ▸ cloned.tasks
  absent := steady.tasks ▸ cloned.absent
  heap := cloned.heap
  pages := cloned.pages
  fresh vaddr cap recorded := steady.live cap (cloned.fresh vaddr cap recorded)

theorem cloneTask_cloned (tidy : Tidy False origin) (outcome : CloneOutcome) {parent : Sel4Task}
    (found : origin.tasks[badge]? = some parent) (args : CloneArgs) (flags : Nat) :
    Yields origin (cloneTask platform outcome parent args flags)
      fun result after => ∀ id, result = .ok id → ∃ child, child.id = id ∧
        Cloned origin parent (sharesSpace flags) child after := by
  refine ((new_growing tidy).also (new_heap.startingAt trivial)).bind fun newTask => .fixed ?_
  rintro created ⟨⟨growing, absent, empty⟩, heap⟩
  have apart : badge ≠ newTask.id := by
    rintro rfl
    exact absent (mem_of_found found)
  split
  · exact MemTriple.anything.bind fun _ => .pure fun _ _ _ => nofun
  · refine (((cloneSpace_pages found apart empty _).startingAt growing).also
      ((cloneSpace_thread parent newTask _).startingAt trivial)).bind fun spaced => .fixed ?_
    rintro spacedState ⟨⟨growing, -, copies⟩, first⟩
    refine (allocate_growing.startingAt growing).bind fun page => .fixed fun allocated growing => ?_
    refine (((mapPage_growing False.elim).startingAt growing).also
      ((mapPage_thread spaced _ page).startingAt trivial)).bind fun child => .fixed ?_
    rintro furnished ⟨⟨growing, -, recorded⟩, second⟩
    split
    · exact MemTriple.anything.bind fun _ => .pure fun _ _ _ => nofun
    · have same := second.trans first
      have name : child.id = newTask.id := congrArg ThreadPart.id same
      refine ((Keeping.evolves (tcb_steady _ _)).startingAt growing.keeping).bind fun _ =>
        (Keeping.evolves (tcbReadAllRegisters_steady _)).bind fun regs => (Keeping.evolves (tcb_steady _ _)).bind fun _ =>
        (Keeping.evolves (tcb_steady _ _)).bind fun _ => ?_
      rw [← name]
      refine (setTask_enters (name ▸ absent) ((congrArg ThreadPart.heap same).trans heap)).bind fun _ => .pure ?_
      rintro after entered _ ⟨rfl⟩
      refine ⟨child, rfl, entered, fun vaddr => ?_, fun vaddr cap found => ?_⟩
      · rw [recorded, copies]
        rfl
      · refine growing.fresh cap (List.mem_append_left _ ?_)
        simp only [Sel4Task.slots, List.mem_append, List.mem_map, Prod.exists]
        exact Or.inr ⟨vaddr, cap, Std.TreeMap.mem_toList_iff_getElem?_eq_some.mpr found, rfl⟩

theorem readItem_steady {size : Nat} (tidy : Tidy False state) (positive : 0 < size)
    (task : Sel4Task) (addr : Nat) :
    Yields state (readItem platform size task addr)
      fun result after => Steady False state after ∧
        ∀ bytes, result = .ok bytes → state.itemAt task addr size = some bytes := by
  have quietly : Evolves (Quietly False noPage) (readItem platform size task addr : KernelM ν _) :=
    readItem_quietly size task addr
  exact ((quietly state).partly fun _ after step => (step tidy.ledger.kernel).steady).also
    (readItem_reads tidy.ledger.kernel positive task addr)

theorem sysClone_cloned (tidy : Tidy False state) (decode : List UInt8 → CloneArgs)
    (outcome : CloneOutcome) (cloneArgs : Nat) :
    Yields state (sysClone platform decode outcome badge cloneArgs)
      fun result after => ∀ id, result = .ok id → ∃ parent args flags child, child.id = id ∧
        CloneRequest decode badge cloneArgs state parent args flags ∧ Cloned state parent (sharesSpace flags) child after := by
  refine .locked ((taskOf_spec state badge).bind fun parent => .fixed ?_)
  rintro state ⟨rfl, found⟩
  split
  · exact .pure fun _ _ _ => nofun
  · refine (readItem_steady tidy (by decide) parent cloneArgs).bind fun result => .fixed ?_
    rintro middle ⟨steady, item⟩
    split
    · exact .pure fun _ _ _ => nofun
    · rename_i bytes
      split
      · exact .pure fun _ _ _ => nofun
      · rename_i flags flagsEq
        refine (cloneTask_cloned (tidy.steady steady) outcome (steady.tasks ▸ found) (decode bytes) flags).partly ?_
        rintro result after made id sameId
        obtain ⟨child, name, cloned⟩ := made id sameId
        exact ⟨parent, decode bytes, flags, child, name, ⟨found, ⟨bytes, item bytes rfl, rfl⟩, flagsEq⟩, cloned.since steady⟩

def Reached (env : Env ν) (world : KernelWorld ν) : Prop :=
  ∃ boot ep inputs, Booted boot.memory ∧ (kernelRun env ep inputs).run boot = .ok () world

theorem Reached.tidy {env : Env ν} {world : KernelWorld ν} (reached : Reached env world) :
    Tidy False world.memory := by
  obtain ⟨boot, ep, inputs, booted, ran⟩ := reached
  have returned : stopReason ((kernelRun env ep inputs).run boot) = none := by
    rw [ran]
    rfl
  have tidy := kernelRun_tidy booted returned
  rw [ran] at tidy
  exact tidy

/-- The frame that the helpers find behind an address of a task. -/
def KernelState.resolve (state : KernelState ν) (badge addr : Nat) : Option ObjId :=
  state.tasks[badge]?.bind fun task => task.mappedPage[alignBits addr 12]?.bind state.frameOf

def ViewsAgree (badge badge' : Nat) (state : KernelState ν) : Prop :=
  ∀ addr frame, state.resolve badge addr = some frame ↔ state.resolve badge' addr = some frame

/-- A thread, under the badge `child`, that a task has just started in its address space. -/
inductive ThreadStarted (env : Env ν) (parent child : Nat) (after : KernelWorld ν) : Prop where
  | intro (before : KernelWorld ν) (reached : Reached env before) (outcome : CloneOutcome)
    (cloneArgs : Nat) (task : Sel4Task) (args : CloneArgs) (flags : Nat)
    (request : CloneRequest env.decodeCloneArgs parent cloneArgs before.memory task args flags)
    (shares : sharesSpace flags = true)
    (ran : (sysClone env.platform env.decodeCloneArgs outcome parent cloneArgs).run before =
      .ok (.ok child) after)

def threadCall (platform : Platform) (parent child : Nat) (call : Bool × MemoryCall) :
    KernelM ν SysResult :=
  call.2.run platform (if call.1 then child else parent)

/-- The two threads have one view of their memory, now and after each of the calls. -/
def ShareView (platform : Platform) (parent child : Nat) (calls : List (Bool × MemoryCall))
    (world : KernelWorld ν) : Prop :=
  ViewsAgree parent child world.memory ∧
    HoldsAlong (threadCall platform parent child)
      (fun _ _ _ after => ViewsAgree parent child after.memory) calls world

theorem Cloned.differs {parent child : Sel4Task} {shared : Bool}
    (cloned : Cloned before parent shared child after) (tidy : Tidy False before)
    (found : before.tasks[badge]? = some parent) : ¬ ViewsAgree badge child.id after := by
  intro same
  have present : cloneIpcBufferAddr ∈ child.mappedPage := (cloned.pages _).mpr (Or.inl rfl)
  obtain ⟨cap, recorded⟩ := found_of_mem present
  have frameEq : ∀ (key : Nat) (task : Sel4Task) (vaddr : Nat) (record : CPtr), after.tasks[key]? =
    some task →
      task.mappedPage[vaddr]? = some record → after.frameOf record = some record := by
    intro key task vaddr record entered entry
    obtain ⟨frame, mapped, capEq⟩ := cloned.tidy.ledger.backed (key, vaddr) record ⟨task, entered, entry⟩
    rw [frameOf_frame capEq, cloned.tidy.ledger.named record frame mapped capEq]
  have aligned : alignBits cloneIpcBufferAddr 12 = cloneIpcBufferAddr := by decide
  have mine : after.resolve child.id cloneIpcBufferAddr = some cap := by
    rw [KernelState.resolve, cloned.found, Option.bind_some, aligned, recorded, Option.bind_some]
    exact frameEq child.id child _ cap cloned.found recorded
  have theirs := (same cloneIpcBufferAddr cap).mpr mine
  rw [KernelState.resolve, cloned.older found, Option.bind_some, aligned] at theirs
  obtain ⟨record, entry, resolved⟩ := Option.bind_eq_some_iff.mp theirs
  rw [frameEq badge parent _ record (cloned.older found) entry] at resolved
  cases resolved
  -- the parent had this frame before it was allocated
  obtain ⟨frame, mapped, capEq⟩ :=
    tidy.ledger.backed (badge, cloneIpcBufferAddr) cap ⟨parent, found, entry⟩
  rw [cloned.fresh _ cap recorded] at capEq
  cases capEq

/-- No thread that is started shares the view of its parent, not even at once. -/
theorem threads_share_no_view {env : Env ν} {parent child : Nat} {after : KernelWorld ν}
    (started : ThreadStarted env parent child after) (calls : List (Bool × MemoryCall)) :
    ¬ ShareView env.platform parent child calls after := by
  rintro ⟨same, -⟩
  obtain ⟨before, reached, outcome, cloneArgs, task, args, flags, request, -, ran⟩ := started
  obtain ⟨task, args, flags, thread, rfl, request, cloned⟩ :=
    (sysClone_cloned reached.tidy env.decodeCloneArgs outcome cloneArgs).triple.of_run rfl ran child rfl
  exact cloned.differs reached.tidy request.caller same

def firstWorld : World Lock (List UInt64) (KernelState Unit) :=
    finalState ((kernelRun smallEnv 0 []).run (KernelWorld.boot ()))

theorem firstWorld_reached : Reached smallEnv firstWorld := by
  refine ⟨KernelWorld.boot (), 0, [], boot_booted (), ran_of_returnValue ?_⟩
  decide +kernel

def threadWorld : World Lock (List UInt64) (KernelState Unit) :=
  finalState ((sysClone smallEnv.platform smallEnv.decodeCloneArgs ⟨true, true, true⟩ 1 0x10000).run
    firstWorld)

theorem threadWorld_started : ThreadStarted smallEnv 1 2 threadWorld := by
  have present : (firstWorld.memory.tasks[1]?).isSome := by decide +kernel
  obtain ⟨task, found⟩ := Option.isSome_iff_exists.mp present
  have holds : (firstWorld.memory.tasks[1]?.bind fun task =>
      (firstWorld.memory.itemAt task 0x10000 cloneArgsSize).bind fun bytes =>
        fromBits cloneFlagsAll (smallEnv.decodeCloneArgs bytes).flags) = some 0x100 := by decide +kernel
  rw [found, Option.bind_some] at holds
  obtain ⟨bytes, item, flags⟩ := Option.bind_eq_some_iff.mp holds
  exact ⟨firstWorld, firstWorld_reached, ⟨true, true, true⟩, 0x10000, task, _, 0x100,
    ⟨found, ⟨bytes, item, rfl⟩, flags⟩,
    by decide, ran_of_returnValue (by decide +kernel)⟩

/-- The thread maps a page. -/
theorem threads_share_no_view_small :
    ¬ ShareView smallEnv.platform 1 2 [(true, .mmap 0x20000 0x1000 3 0x32)] threadWorld :=
  threads_share_no_view threadWorld_started _

/-- The image is there for the parent only, the IPC buffer of the thread for the thread only. -/
theorem thread_view_lost :
    ThreadStarted smallEnv 1 2 threadWorld ∧
      (threadWorld.memory.resolve 1 0x10000).isSome = true ∧ threadWorld.memory.resolve 2 0x10000 = none ∧
      (threadWorld.memory.resolve 2 cloneIpcBufferAddr).isSome = true ∧
        threadWorld.memory.resolve 1 cloneIpcBufferAddr = none ∧
      ¬ ViewsAgree 1 2 threadWorld.memory := by
  have thread : threadWorld.memory.resolve 2 0x10000 = none := by decide +kernel
  have parent : (threadWorld.memory.resolve 1 0x10000).isSome = true := by decide +kernel
  refine ⟨threadWorld_started, parent, thread, by decide +kernel, by decide +kernel, fun same => ?_⟩
  obtain ⟨frame, resolved⟩ := Option.isSome_iff_exists.mp parent
  have theirs := (same 0x10000 frame).mp resolved
  rw [thread] at theirs
  cases theirs

end RootTaskDemo.Kernel
