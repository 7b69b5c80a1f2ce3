import Std.Data.TreeMap.Lemmas
import RootTaskDemo.Common.Message
import RootTaskDemo.Lib.Triple

namespace RootTaskDemo.Root

open Common Lib

/-! What the root task does for the threads of the drivers: it maps their pages for
direct memory access and translates their addresses. -/

def pageSize : Nat := 0x1000

structure Frame where
  addr : Nat
  aligned : addr % pageSize = 0
  fits : addr + pageSize ≤ 2 ^ 64

/-- The levels of the translation tables, and how much of an address one entry of a
level translates. -/
structure Paging where
  numLevels : Nat
  spanBits : Nat → Nat

/-- Four levels of tables with nine bits of the address each. -/
def aarch64Paging : Paging := { numLevels := 4, spanBits := fun level => 48 - 9 * level }

/-- A thread as the root task knows it. A page is recorded with the frame that
`frame_get_address` has the address of. -/
structure DriverTask where
  tables : Nat → Nat → Bool
  mappedPage : Std.TreeMap Nat Frame
  /-- The slots of its own that hold a capability. -/
  slots : UInt64 → Bool

structure Untyped where
  next : Nat
  stop : Nat
  fits : stop ≤ 2 ^ 64

structure RootState where
  untyped : Untyped
  tasks : List DriverTask
  /-- The interrupts whose handler was handed out. -/
  irqs : List UInt64
  /-- Whether the slot `common_irq_handler` holds a capability. -/
  commonIrqHandler : Bool
  /-- What was answered to the last message. -/
  answer : Option (MessageInfo × MsgRegs)

inductive RootPanic where
  | notEnoughMemory
  | misaligned (vaddr : Nat)
  | notMapped (vaddr : Nat)
  | noTask (badge : Nat)
  | occupied
  | unreachable
deriving DecidableEq, Repr

abbrev RootM := EStateM RootPanic RootState

def Untyped.page (untyped : Untyped) : Nat := (untyped.next + pageSize - 1) / pageSize * pageSize

/-- `allocate_and_retyped_fixed_sized` of a frame or of a table. -/
def allocatePage : RootM Frame := fun state =>
  if room : state.untyped.page + pageSize ≤ state.untyped.stop then
    .ok { addr := state.untyped.page, aligned := Nat.mul_mod_left .., fits := room.trans state.untyped.fits }
      { state with untyped := { state.untyped with next := state.untyped.page + pageSize } }
  else .error .notEnoughMemory state

def taskOf (badge : Nat) : RootM DriverTask := fun state =>
  match state.tasks[badge]? with
  | some task => .ok task state
  | none => .error (.noTask badge) state

def setTask (badge : Nat) (task : DriverTask) : RootM Unit :=
  modify fun state => { state with tasks := state.tasks.set badge task }

variable (paging : Paging)

/-- The first level without a table on the way to the page. -/
def missingLevel (task : DriverTask) (vaddr : Nat) : Option Nat :=
  (List.range' 1 (paging.numLevels - 1)).find? fun level =>
    !task.tables level (vaddr >>> paging.spanBits level)

def DriverTask.setTable (task : DriverTask) (level span : Nat) : DriverTask :=
  { task with tables := fun other index => if other = level ∧ index = span then true
    else task.tables other index }

def mapPageLoop (vaddr : Nat) (page : Frame) : Nat → DriverTask → RootM DriverTask
  | 0, _ => throw .unreachable
  | tries + 1, task =>
    match missingLevel paging task vaddr with
    | none => return { task with mappedPage := task.mappedPage.insert vaddr page }
    | some level => do
      let _ ← allocatePage
      mapPageLoop vaddr page tries (task.setTable level (vaddr >>> paging.spanBits level))

/-- `Sel4TaskHelper::map_page`. -/
def mapPage (badge vaddr : Nat) (page : Frame) : RootM Unit :=
  if vaddr % pageSize ≠ 0 then throw (.misaligned vaddr)
  else do
    let task ← taskOf badge
    let task ← mapPageLoop paging vaddr page paging.numLevels task
    setTask badge task

def dmaAddrStart : Nat := 0x100003000

def mapWindow (badge : Nat) : List Nat → RootM Unit
  | [] => return ()
  | vaddr :: rest => do
    let page ← allocatePage
    mapPage paging badge vaddr page
    mapWindow badge rest

def windowPages (count : Nat) : List Nat :=
  (List.range count).map fun i => dmaAddrStart + i * pageSize

def blkBadge : Nat := 1

def netBadge : Nat := 2

def mapBlkDma : RootM Unit := mapWindow paging blkBadge (windowPages 2)

/-- The frames of the net thread, `for i in 0..32`. -/
def mapNetDma : RootM Unit := mapWindow paging netBadge (windowPages 32)

def DriverTask.physAddr (task : DriverTask) (addr : Nat) : Option Nat :=
  task.mappedPage[addr / pageSize * pageSize]?.map fun frame => frame.addr + addr % pageSize

def translateAddr (badge addr : Nat) : RootM Nat := do
  let task ← taskOf badge
  match task.mappedPage[addr / pageSize * pageSize]? with
  | none => throw (.notMapped addr)
  | some frame => return frame.addr + addr % pageSize

/-- `irq_control_get`: the handler of an interrupt exists once. -/
def irqControlGet (irqNum : UInt64) (occupied : Bool) : RootM Unit := do
  let state ← get
  if irqNum ∈ state.irqs ∨ occupied then throw .occupied
  else set { state with irqs := irqNum :: state.irqs }

def reply (message : MessageInfo × MsgRegs) : RootM Unit :=
  modify fun state => { state with answer := some message }

def emptyMessage (regs : MsgRegs) : MessageInfo × MsgRegs := (⟨0, 0, 0, 0⟩, regs)

/-- One round of the loop of the root task. A message it does not know is a fault and
gets no answer. The handler that the last request asks for goes to the kernel thread on
an endpoint of its own. -/
def handle (badge : Nat) (message : MessageInfo) (regs : MsgRegs) : RootM Unit := do
  modify fun state => { state with answer := none }
  match RootMessageLabel.tryFrom message regs with
  | some (.registerIRQ irqHandler irqNum) =>
    let task ← taskOf badge
    irqControlGet irqNum (task.slots irqHandler)
    setTask badge { task with slots := fun slot => slot = irqHandler || task.slots slot }
    reply (emptyMessage regs)
  | some (.translateAddr addr) =>
    let phys ← translateAddr badge addr.toNat
    reply (RootMessageLabel.build (.translateAddr (UInt64.ofNat phys)) regs)
  | some (.registerIRQWithCap irqNum) =>
    reply (emptyMessage regs)
    let state ← get
    irqControlGet irqNum state.commonIrqHandler
    modify fun state => { state with commonIrqHandler := true }
  | none => return ()

/-- A request of a thread that waits for the answer. -/
def call (badge : Nat) (request : RootMessageLabel) (regs : MsgRegs) :
    RootM (Option (MessageInfo × MsgRegs)) := do
  let message := request.build regs
  handle badge message.1 message.2
  let state ← get
  return state.answer

variable {paging : Paging} {badge : Nat} {tasks : List DriverTask} {state after : RootState}

theorem allocatePage_spec :
    Triple (fun now => now.tasks = tasks) allocatePage (fun _ after => after.tasks = tasks)
      (fun _ _ => True) := by
  intro state same
  by_cases room : state.untyped.page + pageSize ≤ state.untyped.stop
  · simp [EStateM.run, allocatePage, room, same]
  · simp [EStateM.run, allocatePage, room]

theorem taskOf_spec (badge : Nat) :
    Triple (fun now => now.tasks = tasks) (taskOf badge) (fun task after => after.tasks = tasks ∧
      tasks[badge]? = some task)
      (fun _ _ => True) := by
  rintro state rfl
  cases found : state.tasks[badge]? with
  | none => simp [EStateM.run, taskOf, found]
  | some task => simp [EStateM.run, taskOf, found]

theorem mapPageLoop_spec (vaddr : Nat) (page : Frame) (tries : Nat) (task : DriverTask) :
    Triple (fun now => now.tasks = tasks) (mapPageLoop paging vaddr page tries task)
      (fun task' after => after.tasks = tasks ∧ task'.mappedPage =
        task.mappedPage.insert vaddr page) (fun _ _ => True) := by
  induction tries generalizing task with
  | zero => exact Triple.throw fun _ _ => trivial
  | succ tries ih =>
    unfold mapPageLoop
    split
    · exact Triple.pure fun _ same => ⟨same, rfl⟩
    · exact allocatePage_spec.bind fun _ => ih _

def Recorded (badge : Nat) (pages : List Nat) (tasks : List DriverTask) : Prop :=
  ∀ vaddr ∈ pages, ∃ task, tasks[badge]? = some task ∧ vaddr ∈ task.mappedPage

theorem mapPage_spec {pages : List Nat} (vaddr : Nat) (page : Frame) :
    Triple (fun now => Recorded badge pages now.tasks) (mapPage paging badge vaddr page)
      (fun _ after => Recorded badge (vaddr :: pages) after.tasks) (fun _ _ => True) := by
  unfold mapPage
  split
  · exact Triple.throw fun _ _ => trivial
  · intro state recorded
    refine ((taskOf_spec badge).bind fun task now holds => ?_) state rfl
    obtain ⟨same, found⟩ := holds
    have entered : ∀ task', Triple (fun now => now.tasks = state.tasks ∧ task'.mappedPage =
      task.mappedPage.insert vaddr page)
        (setTask badge task') (fun _ after => Recorded badge (vaddr :: pages) after.tasks) (fun _ _ => True) := by
      rintro task' now ⟨tasksEq, pagesEq⟩ other member
      have bound : badge < now.tasks.length := by
        rw [tasksEq]
        exact (List.getElem?_eq_some_iff.mp found).1
      refine ⟨task', List.getElem?_set_self bound, ?_⟩
      rw [pagesEq, Std.TreeMap.mem_insert]
      rcases List.mem_cons.mp member with rfl | member
      · exact Or.inl (compare_eq_iff_eq.mpr rfl)
      · obtain ⟨known, foundKnown, onRecord⟩ := recorded other member
        obtain rfl : known = task := Option.some_inj.mp (foundKnown.symm.trans found)
        exact Or.inr onRecord
    exact ((mapPageLoop_spec vaddr page paging.numLevels task).bind entered) now same

theorem mapWindow_spec (vaddrs pages : List Nat) :
    Triple (fun now => Recorded badge pages now.tasks) (mapWindow paging badge vaddrs)
      (fun _ after => Recorded badge (vaddrs ++ pages) after.tasks) (fun _ _ => True) := by
  induction vaddrs generalizing pages with
  | nil => exact Triple.pure fun _ recorded => recorded
  | cons vaddr rest ih =>
    have allocated : Triple (fun now => Recorded badge pages now.tasks) allocatePage
        (fun _ after => Recorded badge pages after.tasks) (fun _ _ => True) := by
      intro state recorded
      exact (allocatePage_spec.weaken (fun _ same => same) (fun _ _ same => same ▸ recorded)
        fun _ _ _ => trivial) state rfl
    refine allocated.bind fun page => (mapPage_spec vaddr page).bind fun _ => ?_
    refine (ih (vaddr :: pages)).weaken (fun _ holds => holds) (fun _ _ recorded other member =>
      recorded other ?_)
      fun _ _ _ => trivial
    simp only [List.cons_append, List.mem_cons, List.mem_append] at member ⊢
    tauto

def LiesAt (badge addr phys : Nat) (tasks : List DriverTask) : Prop :=
  ∃ task, tasks[badge]? = some task ∧ task.physAddr addr = some phys

theorem translateAddr_spec (badge addr : Nat) :
    Triple (fun now => now.tasks = tasks) (translateAddr badge addr)
      (fun phys after => after.tasks = tasks ∧ LiesAt badge addr phys tasks) (fun _ _ => True) := by
  refine (taskOf_spec badge).bind fun task state holds => ?_
  obtain ⟨same, found⟩ := holds
  cases mapped : task.mappedPage[addr / pageSize * pageSize]? with
  | none => exact trivial
  | some frame => exact ⟨same, task, found, by rw [DriverTask.physAddr, mapped]; rfl⟩

theorem call_spec (badge : Nat) (addr : UInt64) (regs : MsgRegs) :
    Triple (fun now => now.tasks = tasks) (call badge (.translateAddr addr) regs)
      (fun answer after => after.tasks = tasks ∧ ∃ phys regs', LiesAt badge addr.toNat phys tasks ∧
        answer = some (RootMessageLabel.build (.translateAddr (UInt64.ofNat phys)) regs')) (fun _ _ => True) := by
  unfold call handle
  dsimp only
  rw [RootMessageLabel.tryFrom_build]
  have cleared : Triple (fun now => now.tasks = tasks)
    (modify fun state => { state with answer := none } : RootM Unit)
      (fun _ after => after.tasks = tasks) (fun _ _ => True) := fun _ same => same
  have answered : ∀ phys, Triple (fun now => now.tasks = tasks ∧ LiesAt badge addr.toNat phys tasks)
      (reply (RootMessageLabel.build (.translateAddr (UInt64.ofNat phys))
        (RootMessageLabel.build (.translateAddr addr) regs).2))
      (fun _ after => after.tasks = tasks ∧ ∃ phys regs', LiesAt badge addr.toNat phys tasks ∧
        after.answer = some (RootMessageLabel.build (.translateAddr (UInt64.ofNat phys)) regs')) (fun _ _ => True) :=
    fun phys _ holds => ⟨holds.1, phys, _, holds.2, rfl⟩
  refine (cleared.bind fun _ => (translateAddr_spec badge addr.toNat).bind answered).bind fun _ => ?_
  exact fun _ holds => holds

attribute [irreducible] call

end RootTaskDemo.Root
