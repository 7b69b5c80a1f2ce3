import Mathlib.Logic.Function.Basic
import RootTaskDemo.Lib.Runs
import RootTaskDemo.Root.Service

namespace RootTaskDemo.Root

open Common Lib

/-! The window through which the drivers reach the registers of their devices: a large
page of device memory that the root task finds in the boot information and maps twice. -/

def virtioMmioAddr : Nat := 0xa003e00

def virtioMmioVirtAddr : Nat := 0x120000000

def virtioBlkOffset : Nat := 0x3e00

def virtioMmioBlkVirtAddr : Nat := virtioMmioVirtAddr + virtioBlkOffset

def largePageSize : Nat := 2 ^ 21

structure UntypedDesc where
  paddr : Nat
  sizeBits : Nat
  isDevice : Bool
deriving DecidableEq, Repr

/-- The list of untyped memory, and where `partition_point` says that the devices end. -/
structure BootInfo where
  untypedList : List UntypedDesc
  devicesEnd : Nat

/-- The root task with the physical address that each thread sees at `VIRTIO_MMIO_VIRT_ADDR`. -/
structure DeviceState where
  root : RootState
  window : Nat → Option Nat

inductive DevicePanic where
  | root (reason : RootPanic)
  | noDevice
  | assertion
  | notEnoughMemory
  | mapFailed
  | diverged
deriving DecidableEq, Repr

abbrev DeviceM := EStateM DevicePanic DeviceState

def onRoot {α : Type} (program : RootM α) : DeviceM α := fun state =>
  match program.run state.root with
  | .ok value root => .ok value { state with root }
  | .error reason root => .error (.root reason) { state with root }

/-- `(paddr..(paddr + (1 << size_bits))).contains(&addr)`. -/
def UntypedDesc.contains (desc : UntypedDesc) (addr : Nat) : Bool :=
  desc.paddr ≤ addr && addr < desc.paddr + 2 ^ desc.sizeBits

def BootInfo.findDevice (boot : BootInfo) : Option (UntypedDesc × Nat) :=
  (boot.untypedList.take boot.devicesEnd).zipIdx.find? fun entry => entry.1.contains virtioMmioAddr

def UntypedDesc.lowestFrame (desc : UntypedDesc) : Nat :=
  (desc.paddr + largePageSize - 1) / largePageSize * largePageSize

def retypeLargePage (desc : UntypedDesc) : DeviceM Nat :=
  if desc.lowestFrame + largePageSize ≤ desc.paddr + 2 ^ desc.sizeBits then return desc.lowestFrame
  else throw .notEnoughMemory

variable (paging : Paging)

/-- The first level without a table on the way to a large page, which needs no table of the last
level. -/
def missingUpperLevel (task : DriverTask) (vaddr : Nat) : Option Nat :=
  (List.range' 1 (paging.numLevels - 2)).find? fun level =>
    !task.tables level (vaddr >>> paging.spanBits level)

def mapDeviceLoop (badge frame : Nat) : Nat → DeviceM Unit
  | 0 => throw .diverged
  | rounds + 1 => do
    let task ← onRoot (taskOf badge)
    match missingUpperLevel paging task virtioMmioVirtAddr with
    | some level =>
      let _ ← onRoot allocatePage
      onRoot (setTask badge (task.setTable level (virtioMmioVirtAddr >>> paging.spanBits level)))
      mapDeviceLoop badge frame rounds
    | none =>
      let last := paging.numLevels - 1
      if task.tables last (virtioMmioVirtAddr >>> paging.spanBits last) then throw .mapFailed
      else modify fun state => { state with window := Function.update state.window badge (some frame) }

def mapDevice (badge frame : Nat) : DeviceM Unit :=
  if frame < virtioMmioAddr then mapDeviceLoop paging badge frame (paging.numLevels + 1)
  else throw .assertion

/-- What `main` does about the memory of the devices. The net thread gets a copy of the
capability of the block thread. -/
def prepareDevices (boot : BootInfo) : DeviceM Unit := do
  match boot.findDevice with
  | none => throw .noDevice
  | some (foundDesc, foundIdx) =>
    if ¬ foundDesc.isDevice then throw .assertion
    else match boot.untypedList[foundIdx]? with
      | none => throw .noDevice
      | some desc =>
        let frame ← retypeLargePage desc
        mapDevice paging blkBadge frame
        onRoot (mapBlkDma paging)
        mapDevice paging netBadge frame
        onRoot (mapNetDma paging)

def DeviceState.deviceAddr (state : DeviceState) (badge vaddr : Nat) : Option Nat :=
  if virtioMmioVirtAddr ≤ vaddr ∧ vaddr < virtioMmioVirtAddr + largePageSize then
    (state.window badge).map fun frame => frame + (vaddr - virtioMmioVirtAddr)
  else none

variable {paging} {boot : BootInfo} {badge frame : Nat} {window : Nat → Option Nat}
  {state after : DeviceState}

def UpperTables (paging : Paging) (task : DriverTask) (known : Nat) : Prop :=
  ∀ level, 1 ≤ level → level < known →
    task.tables level (virtioMmioVirtAddr >>> paging.spanBits level) = true

theorem UpperTables.missing {task : DriverTask} {known level : Nat}
    (upper : UpperTables paging task known)
    (found : missingUpperLevel paging task virtioMmioVirtAddr = some level) :
    known ≤ level ∧ level < paging.numLevels ∧
      UpperTables paging (task.setTable level (virtioMmioVirtAddr >>> paging.spanBits level)) (level + 1) := by
  have missing := List.find?_some found
  have member := List.mem_range'_1.mp (List.mem_of_find?_eq_some found)
  simp only [Bool.not_eq_true'] at missing
  refine ⟨?_, by omega, fun other positive below => ?_⟩
  · by_contra small
    rw [upper level member.1 (by omega)] at missing
    cases missing
  · simp only [DriverTask.setTable]
    by_cases here : other = level
    · rw [if_pos ⟨here, by rw [here]⟩]
    · rw [if_neg fun both => here both.1]
      -- the search has passed the levels before this one
      obtain ⟨pre, post, split, before⟩ := List.find?_eq_some_iff_append.mp found |>.2
      have listed : other ∈ List.range' 1 (paging.numLevels - 2) := List.mem_range'_1.mpr (by omega)
      have ordered : (List.range' 1 (paging.numLevels - 2)).Pairwise (· < ·) := List.pairwise_lt_range'
      rw [split] at listed ordered
      have earlier : other ∈ pre := by
        rcases List.mem_append.mp listed with inside | inside
        · exact inside
        · have := List.pairwise_append.mp ordered |>.2.1
          rcases List.mem_cons.mp inside with same | later
          · exact absurd same here
          · have := (List.pairwise_cons.mp this).1 other later
            omega
      simpa using before other earlier

theorem onRoot_spec {α : Type} {program : RootM α} {pre : RootState → Prop}
    {post : α → RootState → Prop} (spec : Triple pre program post (fun _ _ => True)) :
    Triple (fun now => now.window = window ∧ pre now.root) (onRoot program)
      (fun value after => after.window = window ∧ post value after.root) (fun fault _ => fault ≠ .diverged) := by
  rintro state ⟨same, holds⟩
  have reached := spec state.root holds
  simp only [EStateM.run, onRoot] at reached ⊢
  cases outcome : program state.root with
  | ok value root =>
    rw [outcome] at reached
    exact ⟨same, reached⟩
  | error reason root => exact nofun

theorem mapDeviceLoop_spec (rounds known : Nat) (bounded : known ≤ paging.numLevels + 1)
    (enough : paging.numLevels + 1 < rounds + known) :
    Triple (fun now => now.window = window ∧ ∀ task, now.root.tasks[badge]? = some task →
      UpperTables paging task known)
      (mapDeviceLoop paging badge frame rounds)
      (fun _ after => after.window = Function.update window badge (some frame)) (fun fault _ => fault ≠ .diverged) := by
  induction rounds generalizing known with
  | zero => omega
  | succ rounds ih =>
    intro state holds
    obtain ⟨same, upper⟩ := holds
    have read : Triple (fun now => now.window = window ∧ now.root.tasks = state.root.tasks)
      (onRoot (taskOf badge)) _ _ :=
      onRoot_spec (taskOf_spec badge)
    refine (read.bind fun task now holds => ?_) state ⟨same, rfl⟩
    obtain ⟨same, tasksEq, found⟩ := holds
    have known' := upper task found
    cases lacks : missingUpperLevel paging task virtioMmioVirtAddr with
    | none =>
      by_cases taken : task.tables (paging.numLevels - 1)
        (virtioMmioVirtAddr >>> paging.spanBits (paging.numLevels - 1)) = true
      · simp only [taken, if_true]
        exact nofun
      · simp only [taken, Bool.false_eq_true, if_false]
        exact congrArg (fun window => Function.update window badge (some frame)) same
    | some level =>
      obtain ⟨above, below, reached⟩ := known'.missing lacks
      have entered : Triple (fun now : RootState => now.tasks = state.root.tasks)
          (setTask badge (task.setTable level (virtioMmioVirtAddr >>> paging.spanBits level)))
          (fun _ after => ∀ task, after.tasks[badge]? = some task → UpperTables paging task (level + 1)) (fun _ _ => True) := by
        intro now same task' entered
        have inside : badge < now.tasks.length := by
          rw [same]
          exact (List.getElem?_eq_some_iff.mp found).1
        rw [show _ = _ from List.getElem?_set_self inside] at entered
        cases entered
        exact reached
      have allocated : Triple (fun now => now.window = window ∧ now.root.tasks = state.root.tasks)
        (onRoot allocatePage) _ _ :=
        onRoot_spec allocatePage_spec
      exact (allocated.bind fun _ => (onRoot_spec entered).bind fun _ =>
        ih (level + 1) (by omega) (by omega)) now ⟨same, tasksEq⟩

theorem mapDevice_spec (badge frame : Nat) :
    Triple (fun now => now.window = window) (mapDevice paging badge frame)
      (fun _ after => after.window = Function.update window badge (some frame)) (fun fault _ => fault ≠ .diverged) := by
  unfold mapDevice
  split
  · refine (mapDeviceLoop_spec (paging.numLevels + 1) 1 (by omega) (by omega)).weaken
      (fun now same => ⟨same, ?_⟩)
      (fun _ _ opened => opened) fun _ _ ends => ends
    intro task _ level positive small
    omega
  · exact Triple.throw fun _ _ => nofun

theorem BootInfo.findDevice_found {desc : UntypedDesc} {index : Nat}
    (found : boot.findDevice = some (desc, index)) :
    boot.untypedList[index]? = some desc := by
  have member := List.mem_of_find?_eq_some found
  rw [List.mem_zipIdx_iff_getElem?, List.getElem?_take] at member
  split at member
  · exact member
  · cases member

theorem prepareDevices_spec (boot : BootInfo) :
    Triple (fun now => now.window = window) (prepareDevices paging boot)
      (fun _ after => ∃ desc index, boot.findDevice = some (desc, index) ∧
        ∀ badge ∈ [blkBadge, netBadge], after.window badge = some desc.lowestFrame)
      (fun fault _ => fault ≠ .diverged) := by
  have anywhere : ∀ {program : RootM Unit} {window},
    Triple (fun now => now.window = window) (onRoot program)
      (fun _ after => after.window = window) (fun fault _ => fault ≠ .diverged) := by
    intro program window
    have spec : Triple (fun _ => True) program (fun _ _ => True) (fun _ _ => True) := by
      intro state _
      cases program.run state <;> trivial
    exact (onRoot_spec spec).weaken (fun _ same => ⟨same, trivial⟩) (fun _ _ holds => holds.1)
      fun _ _ ends => ends
  unfold prepareDevices
  cases found : boot.findDevice with
  | none => exact Triple.throw fun _ _ => nofun
  | some entry =>
    obtain ⟨desc, index⟩ := entry
    dsimp only
    split
    · exact Triple.throw fun _ _ => nofun
    · rw [BootInfo.findDevice_found found]
      dsimp only
      have retyped : Triple (fun now => now.window = window) (retypeLargePage desc)
          (fun frame after => frame = desc.lowestFrame ∧ after.window = window) (fun fault _ => fault ≠ .diverged) := by
        unfold retypeLargePage
        split
        · exact Triple.pure fun _ same => ⟨rfl, same⟩
        · exact Triple.throw fun _ _ => nofun
      have mapped : ∀ frame, frame = desc.lowestFrame → Triple (fun now => now.window = window)
          (do mapDevice paging blkBadge frame
              onRoot (mapBlkDma paging)
              mapDevice paging netBadge frame
              onRoot (mapNetDma paging))
          (fun _ after => ∃ desc' index', some (desc, index) = some (desc', index') ∧
            ∀ badge ∈ [blkBadge, netBadge], after.window badge = some desc'.lowestFrame) (fun fault _ => fault ≠ .diverged) := by
        rintro frame rfl
        refine (mapDevice_spec blkBadge _).bind fun _ => anywhere.bind fun _ => (mapDevice_spec netBadge _).bind fun _ =>
          anywhere.weaken (fun _ same => same) (fun _ after windowEq => ⟨desc, index, rfl, ?_⟩) fun _ _ ends => ends
        rw [windowEq]
        simp [blkBadge, netBadge]
      exact retyped.bind fun frame state holds => mapped frame holds.1 state holds.2

/-- The window of the block thread has the registers, at the address that its driver uses. -/
def ShowsDevice (state : DeviceState) : Prop :=
  (∃ frame, state.window blkBadge = some frame ∧ frame ≤ virtioMmioAddr ∧ virtioMmioAddr <
    frame + largePageSize) ∧
    state.deviceAddr blkBadge virtioMmioBlkVirtAddr = some virtioMmioAddr

/-- The driver finds its registers exactly if the lowest large page of the region starts
`VIRTIO_BLK_OFFSET` below them, as the constants assume. -/
theorem device_window_iff (boot : BootInfo)
    (ran : (prepareDevices paging boot).run state = .ok () after) :
    ShowsDevice after ↔ ∃ desc index, boot.findDevice = some (desc, index) ∧
      desc.lowestFrame = virtioMmioAddr - virtioBlkOffset := by
  obtain ⟨desc, index, found, opened⟩ := (prepareDevices_spec boot).of_run rfl ran
  have window := opened blkBadge (List.mem_cons_self ..)
  have inside : virtioMmioVirtAddr ≤ virtioMmioBlkVirtAddr ∧ virtioMmioBlkVirtAddr <
      virtioMmioVirtAddr + largePageSize := by
    decide
  have offset : virtioMmioBlkVirtAddr - virtioMmioVirtAddr = virtioBlkOffset := by decide
  rw [ShowsDevice, DeviceState.deviceAddr, if_pos inside, window, offset, Option.map_some,
    Option.some.injEq, found]
  constructor
  · rintro ⟨-, reached⟩
    refine ⟨desc, index, rfl, ?_⟩
    omega
  · rintro ⟨_, _, ⟨rfl, rfl⟩, lowest⟩
    have below : virtioBlkOffset ≤ virtioMmioAddr := by decide
    refine ⟨⟨_, rfl, ?_, ?_⟩, ?_⟩
    · omega
    · rw [lowest]
      decide
    · omega

def freshDevices : DeviceState where
  root := {
    untyped := { next := 0, stop := 0x1000000, fits := by decide }
    tasks := List.replicate 3 { tables := fun _ _ => false, mappedPage := ∅, slots := fun _ => false }
    irqs := []
    commonIrqHandler := false
    answer := none }
  window _ := none

def exactBoot : BootInfo :=
    { untypedList := [⟨0x8000000, 20, true⟩, ⟨0xa000000, 25, true⟩], devicesEnd := 2 }

theorem device_window_iff_exact : ShowsDevice
    (finalState ((prepareDevices aarch64Paging exactBoot).run freshDevices)) := by
  have returns : returnValue ((prepareDevices aarch64Paging exactBoot).run freshDevices) =
    some () := by decide +kernel
  exact (device_window_iff exactBoot (ran_of_returnValue returns)).mpr
    ⟨⟨0xa000000, 25, true⟩, 1, by decide +kernel, by decide⟩

def wideBoot : BootInfo := { untypedList := [⟨0x8000000, 27, true⟩], devicesEnd := 1 }

/-- The root task comes through its assertions, and its window ends far below the registers. -/
theorem device_window_misses :
    let run := (prepareDevices aarch64Paging wideBoot).run freshDevices
    returnValue run = some () ∧ wideBoot.findDevice = some (⟨0x8000000, 27, true⟩, 0) ∧
      (finalState run).window blkBadge = some 0x8000000 ∧ 0x8000000 + largePageSize ≤ virtioMmioAddr ∧
      (finalState run).deviceAddr blkBadge virtioMmioBlkVirtAddr = some 0x8003e00 ∧ ¬ ShowsDevice (finalState run) := by
  have returns : returnValue ((prepareDevices aarch64Paging wideBoot).run freshDevices) =
    some () := by decide +kernel
  have addr : (finalState ((prepareDevices aarch64Paging wideBoot).run freshDevices)).deviceAddr
    blkBadge virtioMmioBlkVirtAddr =
      some 0x8003e00 := by decide +kernel
  refine ⟨returns, by decide +kernel, by decide +kernel, by decide, addr, fun showing => ?_⟩
  have reached := showing.2
  rw [addr] at reached
  simp [virtioMmioAddr] at reached

end RootTaskDemo.Root
