import RootTaskDemo.Lib.Regions
import RootTaskDemo.Lib.Runs
import RootTaskDemo.Root.Service

namespace RootTaskDemo.Root

open Common Lib

/-! The memory that the drivers of the net thread and of the block thread share with
their devices. -/

/-- A driver between two calls. `next` is `DMA_ADDR`; the regions in use are not known to
the code, which keeps no list of them. -/
structure DriverState where
  root : RootState
  regs : MsgRegs
  next : Nat
  live : List Region

inductive DriverPanic where
  | unanswered (reason : RootPanic)
  | todo
  | null
  | assertion
deriving DecidableEq, Repr

abbrev DriverM := EStateM DriverPanic DriverState

def callRoot (badge : Nat) (request : RootMessageLabel) :
    DriverM (Option (MessageInfo × MsgRegs)) := fun state =>
  match (call badge request state.regs).run state.root with
  | .ok answer root => .ok answer { state with root, regs := answer.elim state.regs Prod.snd }
  | .error reason root => .error (.unanswered reason) { state with root }

def translate (badge vaddr : Nat) : DriverM Nat := do
  let answer ← callRoot badge (.translateAddr (UInt64.ofNat vaddr))
  match answer.bind fun message => RootMessageLabel.tryFrom message.1 message.2 with
  | some (.translateAddr paddr) => return paddr.toNat
  | _ => throw .todo

def dmaAlloc (badge pages : Nat) : DriverM (Nat × Nat) := do
  let state ← get
  let vaddr := state.next
  modify fun state => { state with next := (vaddr + pages * pageSize) % 2 ^ 64 }
  let paddr ← translate badge vaddr
  if vaddr = 0 then throw .null
  else
    modify fun state => { state with live := ⟨vaddr, pages * pageSize⟩ :: state.live }
    return (paddr, vaddr)

namespace VirtIoHalImpl

def dmaAddr : Nat := dmaAddrStart + pageSize

def dmaAlloc (pages : Nat) : DriverM (Nat × Nat) := Root.dmaAlloc netBadge pages

def dmaDealloc (vaddr pages : Nat) : DriverM Unit := do
  let state ← get
  if (vaddr + pages * 0x1000) % 2 ^ 64 ≠ state.next then throw .assertion
  else set { state with next := vaddr, live := state.live.erase ⟨vaddr, pages * pageSize⟩ }

def share (vaddr : Nat) : DriverM Nat := translate netBadge vaddr

end VirtIoHalImpl

namespace HalImpl

def dmaAddr : Nat := dmaAddrStart

def dmaAlloc (pages : Nat) : DriverM (Nat × Nat) := Root.dmaAlloc blkBadge pages

def dmaDealloc (_vaddr _pages : Nat) : DriverM Unit := throw .todo

def share (vaddr : Nat) : DriverM Nat := translate blkBadge vaddr

end HalImpl

inductive Driver where
  | net
  | blk
deriving DecidableEq, Repr

namespace Driver

def badge : Driver → Nat
  | .net => netBadge
  | .blk => blkBadge

def dmaAddr : Driver → Nat
  | .net => VirtIoHalImpl.dmaAddr
  | .blk => HalImpl.dmaAddr

def windowSize : Driver → Nat
  | .net => 32
  | .blk => 2

def mapDma (paging : Paging) : Driver → RootM Unit
  | .net => mapNetDma paging
  | .blk => mapBlkDma paging

def dmaAlloc : Driver → Nat → DriverM (Nat × Nat)
  | .net => VirtIoHalImpl.dmaAlloc
  | .blk => HalImpl.dmaAlloc

def dmaDealloc : Driver → Nat → Nat → DriverM Unit
  | .net => VirtIoHalImpl.dmaDealloc
  | .blk => HalImpl.dmaDealloc

def share : Driver → Nat → DriverM Nat
  | .net => VirtIoHalImpl.share
  | .blk => HalImpl.share

def boot (driver : Driver) (root : RootState) (regs : MsgRegs) : DriverState :=
  { root, regs, next := driver.dmaAddr, live := [] }

end Driver

inductive DmaCall where
  | alloc (pages : Nat)
  | dealloc (vaddr pages : Nat)
deriving DecidableEq, Repr

def DmaCall.run (driver : Driver) : DmaCall → DriverM Unit
  | .alloc pages => do
    let _ ← driver.dmaAlloc pages
    return ()
  | .dealloc vaddr pages => driver.dmaDealloc vaddr pages

variable {driver : Driver} {state : DriverState} {badge : Nat}

structure Quiet (state after : DriverState) : Prop where
  tasks : after.root.tasks = state.root.tasks
  next : after.next = state.next
  live : after.live = state.live

theorem callRoot_spec (badge : Nat) (vaddr : UInt64) (state : DriverState) :
    Triple (fun now => now = state) (callRoot badge (.translateAddr vaddr))
      (fun answer after => Quiet state after ∧ ∃ phys regs, LiesAt badge vaddr.toNat phys state.root.tasks ∧
        answer = some (RootMessageLabel.build (.translateAddr (UInt64.ofNat phys)) regs)) (fun _ _ => True) := by
  rintro state rfl
  unfold callRoot
  simp only [EStateM.run]
  cases outcome : call badge (.translateAddr vaddr) state.regs state.root with
  | error reason root => trivial
  | ok answer root =>
    have answered := (call_spec badge vaddr state.regs).of_run rfl outcome
    exact ⟨⟨answered.1, rfl, rfl⟩, answered.2⟩

theorem LiesAt.lt {addr phys : Nat} {tasks : List DriverTask} (lies : LiesAt badge addr phys tasks) : phys < 2 ^ 64 := by
  obtain ⟨task, -, located⟩ := lies
  obtain ⟨frame, -, rfl⟩ := Option.map_eq_some_iff.mp located
  have inPage : addr % pageSize < pageSize := Nat.mod_lt _ (by decide)
  have := frame.fits
  omega

theorem translate_spec (badge vaddr : Nat) (fits : vaddr < 2 ^ 64) (state : DriverState) :
    Triple (fun now => now = state) (translate badge vaddr)
      (fun paddr after => Quiet state after ∧ LiesAt badge vaddr paddr state.root.tasks) (fun _ _ => True) := by
  unfold translate
  refine (callRoot_spec badge (UInt64.ofNat vaddr) state).bind fun answer => ?_
  rintro after ⟨quiet, phys, regs, lies, rfl⟩
  rw [UInt64.toNat_ofNat_of_lt' fits] at lies
  simp only [Option.bind_some, RootMessageLabel.tryFrom_build]
  refine ⟨quiet, ?_⟩
  rw [UInt64.toNat_ofNat_of_lt' lies.lt]
  exact lies

structure Allocated (badge pages : Nat) (state : DriverState) (result : Nat × Nat)
    (after : DriverState) : Prop where
  vaddr : result.2 = state.next
  paddr : LiesAt badge state.next result.1 state.root.tasks
  tasks : after.root.tasks = state.root.tasks
  next : after.next = (state.next + pages * pageSize) % 2 ^ 64
  live : after.live = ⟨state.next, pages * pageSize⟩ :: state.live

theorem dmaAlloc_spec (badge pages : Nat) (state : DriverState) (fits : state.next < 2 ^ 64) :
    Triple (fun now => now = state) (dmaAlloc badge pages) (Allocated badge pages state) (fun _ _ => True) := by
  unfold dmaAlloc
  refine (Triple.get state).bind fun value => ?_
  rintro now ⟨rfl, nowEq⟩
  let moved : DriverState := { value with next := (value.next + pages * pageSize) % 2 ^ 64 }
  have bumped : Triple (fun now => now = value)
    (modify fun now => { now with next := (value.next + pages * pageSize) % 2 ^ 64 } : DriverM Unit)
      (fun _ after => after = moved) (fun _ _ => True) := by
    rintro _ rfl
    rfl
  refine (bumped.bind fun _ => (translate_spec badge value.next fits moved).bind fun paddr => ?_)
    now nowEq
  by_cases null : value.next = 0
  · rw [if_pos null]
    exact Triple.throw fun _ _ => trivial
  · rw [if_neg null]
    exact fun after holds => ⟨rfl, holds.2, holds.1.tasks, holds.1.next, congrArg (_ :: ·) holds.1.live⟩

theorem Driver.dmaAlloc_allocated (driver : Driver) (pages : Nat) (state : DriverState)
    (fits : state.next < 2 ^ 64) :
    Triple (fun now => now = state) (driver.dmaAlloc pages) (Allocated driver.badge pages state)
      (fun _ _ => True) := by
  cases driver with
  | net => exact dmaAlloc_spec netBadge pages state fits
  | blk => exact dmaAlloc_spec blkBadge pages state fits

theorem VirtIoHalImpl.dmaDealloc_spec (vaddr pages : Nat) (state : DriverState) :
    Triple (fun now => now = state) (VirtIoHalImpl.dmaDealloc vaddr pages)
      (fun _ after => (vaddr + pages * 0x1000) % 2 ^ 64 = state.next ∧
        after = { state with next := vaddr, live := state.live.erase ⟨vaddr, pages * pageSize⟩ }) (fun _ _ => True) := by
  unfold VirtIoHalImpl.dmaDealloc
  refine (Triple.get state).bind fun value => ?_
  rintro now ⟨rfl, nowEq⟩
  by_cases last : (vaddr + pages * 0x1000) % 2 ^ 64 = value.next
  · rw [if_neg (not_not.mpr last)]
    exact ⟨last, rfl⟩
  · rw [if_pos last]
    trivial

def Driver.windowEnd (driver : Driver) : Nat := dmaAddrStart + driver.windowSize * pageSize

/-- The regions in use do not overlap, and each of their bytes lies in a page of the
window, which the root task has mapped. -/
structure DmaValid (driver : Driver) (state : DriverState) : Prop where
  apart : state.live.Pairwise Region.Disjoint
  inside : ∀ region ∈ state.live, ∀ address, region.Contains address →
    address / pageSize * pageSize ∈ windowPages driver.windowSize ∧
      Recorded driver.badge [address / pageSize * pageSize] state.root.tasks

def DmaCall.Fits (driver : Driver) (state : DriverState) : DmaCall → Prop
  | .alloc pages => state.next + pages * pageSize ≤ driver.windowEnd
  | .dealloc vaddr pages => ⟨vaddr, pages * pageSize⟩ ∈ state.live

structure Windowed (driver : Driver) (state : DriverState) : Prop where
  stacked : Stacked state.next state.live
  inside : ∀ region ∈ state.live, dmaAddrStart ≤ region.start ∧ region.stop ≤ driver.windowEnd
  low : dmaAddrStart ≤ state.next
  high : state.next ≤ driver.windowEnd
  mapped : Recorded driver.badge (windowPages driver.windowSize) state.root.tasks

theorem Driver.windowEnd_lt (driver : Driver) : driver.windowEnd < 2 ^ 64 := by
  cases driver <;> decide

theorem mem_windowPages {count address : Nat} (low : dmaAddrStart ≤ address)
    (high : address < dmaAddrStart + count * pageSize) :
    address / pageSize * pageSize ∈ windowPages count := by
  refine List.mem_map.mpr ⟨(address - dmaAddrStart) / pageSize, List.mem_range.mpr ?_, ?_⟩
  · simp only [dmaAddrStart, pageSize] at *
    omega
  · simp only [dmaAddrStart, pageSize] at *
    omega

theorem Windowed.valid (windowed : Windowed driver state) : DmaValid driver state := by
  refine ⟨windowed.stacked.apart, fun region member address inside => ?_⟩
  obtain ⟨low, high⟩ := windowed.inside region member
  have inWindow := mem_windowPages (low.trans inside.1) (inside.2.trans_le high)
  exact ⟨inWindow, fun page isPage => windowed.mapped page (List.mem_singleton.mp isPage ▸ inWindow)⟩

theorem windowed_boot {root : RootState} (regs : MsgRegs)
    (mapped : Recorded driver.badge (windowPages driver.windowSize) root.tasks) :
    Windowed driver (driver.boot root regs) := by
  have low : dmaAddrStart ≤ driver.dmaAddr := by cases driver <;> decide
  have high : driver.dmaAddr ≤ driver.windowEnd := by cases driver <;> decide
  exact ⟨Stacked.empty _, by simp [Driver.boot], low, high, mapped⟩

theorem mapDma_recorded {paging : Paging} {root after : RootState}
    (mapped : (driver.mapDma paging).run root = .ok () after) :
    Recorded driver.badge (windowPages driver.windowSize) after.tasks := by
  have recorded : Recorded driver.badge (windowPages driver.windowSize ++ []) after.tasks := by
    cases driver with
    | net => exact (mapWindow_spec (windowPages 32) []).of_run (by simp [Recorded]) mapped
    | blk => exact (mapWindow_spec (windowPages 2) []).of_run (by simp [Recorded]) mapped
  rwa [List.append_nil] at recorded

theorem Windowed.alloc {pages : Nat} (windowed : Windowed driver state)
    (fits : (DmaCall.alloc pages).Fits driver state) {result : Nat × Nat} {after : DriverState}
    (allocated : Allocated driver.badge pages state result after) :
    Windowed driver after := by
  have bound := driver.windowEnd_lt
  unfold DmaCall.Fits at fits
  have nextEq : after.next = state.next + pages * pageSize := by
    rw [allocated.next, Nat.mod_eq_of_lt (by omega)]
  refine ⟨?_, fun region member => ?_, ?_, ?_, allocated.tasks ▸ windowed.mapped⟩
  · rw [nextEq, allocated.live]
    exact windowed.stacked.push _
  · rw [allocated.live] at member
    rcases List.mem_cons.mp member with rfl | old
    · exact ⟨windowed.low, fits⟩
    · exact windowed.inside region old
  · rw [nextEq]
    exact windowed.low.trans (Nat.le_add_right ..)
  · rw [nextEq]
    exact fits

theorem Windowed.dealloc {vaddr pages : Nat} (windowed : Windowed driver state)
    (fits : (DmaCall.dealloc vaddr pages).Fits driver state)
    (last : (vaddr + pages * 0x1000) % 2 ^ 64 = state.next) :
    Windowed driver { state with next := vaddr, live := state.live.erase ⟨vaddr, pages * pageSize⟩ } := by
  obtain ⟨low, high⟩ := windowed.inside _ fits
  have bound := driver.windowEnd_lt
  have stopEq : (⟨vaddr, pages * pageSize⟩ : Region).stop = state.next := by
    have small : vaddr + pages * 0x1000 < 2 ^ 64 := Nat.lt_of_le_of_lt high bound
    rw [← last, Nat.mod_eq_of_lt small]
    rfl
  exact ⟨windowed.stacked.pop fits stopEq, fun region member =>
    windowed.inside region (List.mem_of_mem_erase member), low,
    (Nat.le_add_right ..).trans high, windowed.mapped⟩

theorem DmaCall.run_windowed (call : DmaCall) :
    Triple (fun state => Windowed driver state ∧ call.Fits driver state) (call.run driver)
      (fun _ => Windowed driver)
      (fun _ _ => True) := by
  rintro state ⟨windowed, fits⟩
  have below : state.next < 2 ^ 64 := windowed.high.trans_lt driver.windowEnd_lt
  cases call with
  | alloc pages =>
    have recorded : Triple (fun now => now = state) ((DmaCall.alloc pages).run driver)
      (fun _ => Windowed driver) (fun _ _ => True) :=
      (driver.dmaAlloc_allocated pages state below).bind fun result => Triple.pure fun after spec =>
        windowed.alloc fits spec
    exact recorded state rfl
  | dealloc vaddr pages =>
    cases driver with
    | blk => trivial
    | net =>
      have freed := (VirtIoHalImpl.dmaDealloc_spec vaddr pages state).weaken (fun _ same => same)
        (fun _ _ spec => spec.2 ▸ windowed.dealloc fits spec.1) fun _ _ _ => trivial
      exact freed state rfl

/-- The regions are valid after every run of calls that fit. -/
theorem dma_regions_valid (driver : Driver) (paging : Paging) (root : RootState) (regs : MsgRegs)
    (mapped : stopReason ((driver.mapDma paging).run root) = none) (calls : List DmaCall)
    (met : MeetsAlong (DmaCall.run driver) (fun call state => call.Fits driver state) calls
      (driver.boot (finalState ((driver.mapDma paging).run root)) regs))
    (returned : stopReason ((runAll (DmaCall.run driver) calls).run
      (driver.boot (finalState ((driver.mapDma paging).run root)) regs)) = none) :
    DmaValid driver (finalState ((runAll (DmaCall.run driver) calls).run
      (driver.boot (finalState ((driver.mapDma paging).run root)) regs))) := by
  cases prepared : (driver.mapDma paging).run root with
  | error reason after =>
      rw [prepared] at mapped
      cases mapped
  | ok value after =>
      rw [prepared] at met returned
      dsimp only [finalState] at met returned ⊢
      let windowed : Nat → DriverState → Prop := fun _ => Windowed driver
      have kept : Triple (fun state => windowed 0 state ∧
        MeetsAlong (DmaCall.run driver) (fun call state => call.Fits driver state) calls state)
          (runAll (DmaCall.run driver) calls) (fun _ => windowed (0 + calls.length)) (fun _ _ => True) :=
        runAll_invariant (fun call _ => call.run_windowed) calls 0
      cases ran : (runAll (DmaCall.run driver) calls).run (driver.boot after regs) with
      | error fault last =>
          rw [ran] at returned
          cases returned
      | ok value last => exact (kept.of_run ⟨windowed_boot regs (mapDma_recorded prepared), met⟩ ran).valid

instance (driver : Driver) (state : DriverState) (call : DmaCall) : Decidable (call.Fits driver state) :=
  match call with
  | .alloc _ => Nat.decLe _ _
  | .dealloc vaddr pages => inferInstanceAs (Decidable (⟨vaddr, pages * pageSize⟩ ∈ state.live))

def smallRoot : RootState where
  untyped := ⟨0x40000000, 0x50000000, by decide⟩
  tasks := List.replicate 3 { tables := fun level _ => level < 3, mappedPage := ∅, slots := fun _ =>
    false }
  irqs := []
  commonIrqHandler := false
  answer := none

theorem dma_regions_valid_net :
    DmaValid .net (finalState
      ((runAll (DmaCall.run .net) [.alloc 2, .alloc 1, .dealloc (dmaAddrStart + 0x3000) 1]).run
      (Driver.net.boot (finalState ((Driver.net.mapDma aarch64Paging).run smallRoot)) fun _ => 0))) :=
  dma_regions_valid .net aarch64Paging smallRoot (fun _ => 0) (by decide +kernel)
    [.alloc 2, .alloc 1, .dealloc (dmaAddrStart + 0x3000) 1] (by decide +kernel) (by decide +kernel)

/-- The block thread gets three pages although its window has two. -/
theorem dma_region_leaves_window :
    stopReason ((runAll (DmaCall.run .blk) [.alloc 3]).run
      (Driver.blk.boot (finalState ((Driver.blk.mapDma aarch64Paging).run smallRoot)) fun _ => 0)) = none ∧
    ¬ DmaValid .blk (finalState ((runAll (DmaCall.run .blk) [.alloc 3]).run
      (Driver.blk.boot (finalState ((Driver.blk.mapDma aarch64Paging).run smallRoot)) fun _ => 0))) := by
  refine ⟨by decide +kernel, fun valid => ?_⟩
  have live : ⟨dmaAddrStart, 0x3000⟩ ∈ (finalState ((runAll (DmaCall.run .blk) [.alloc 3]).run
      (Driver.blk.boot (finalState ((Driver.blk.mapDma aarch64Paging).run smallRoot)) fun _ => 0))).live := by
    decide +kernel
  have inWindow := (valid.inside _ live (dmaAddrStart + 0x2000) ⟨by decide, by decide⟩).1
  exact absurd inWindow (by decide)

/-- The frames of the pages from the first one on lie one behind the other. -/
def Adjacent (task : DriverTask) (start length : Nat) : Prop :=
  ∀ offset < length, ∃ first frame, task.mappedPage[start / pageSize * pageSize]? = some first ∧
    task.mappedPage[(start + offset) / pageSize * pageSize]? = some frame ∧
    frame.addr = first.addr + ((start + offset) / pageSize * pageSize - start / pageSize * pageSize)

/-- Every byte of the buffer is where its distance from the first one says. -/
def RightThroughout (task : DriverTask) (start length paddr : Nat) : Prop :=
  ∀ offset < length, task.physAddr (start + offset) = some (paddr + offset)

theorem rightThroughout_iff {task : DriverTask} {start paddr : Nat}
    (located : task.physAddr start = some paddr) (length : Nat) :
    RightThroughout task start length paddr ↔ Adjacent task start length := by
  obtain ⟨first, firstEq, rfl⟩ := Option.map_eq_some_iff.mp located
  refine forall₂_congr fun offset _ => ?_
  constructor
  · intro right
    obtain ⟨frame, frameEq, address⟩ := Option.map_eq_some_iff.mp right
    refine ⟨first, frame, firstEq, frameEq, ?_⟩
    simp only [pageSize] at *
    omega
  · rintro ⟨known, frame, knownEq, frameEq, address⟩
    obtain rfl : known = first := Option.some_inj.mp (knownEq.symm.trans firstEq)
    refine Option.map_eq_some_iff.mpr ⟨frame, frameEq, ?_⟩
    simp only [pageSize] at *
    omega

/-- The address that a device is given is right for the whole buffer exactly if the frames
behind the buffer are adjacent. -/
theorem device_addresses_right_iff (driver : Driver) (state : DriverState)
    (below : state.next < 2 ^ 64) (task : DriverTask)
    (found : state.root.tasks[driver.badge]? = some task) :
    (∀ start length paddr, start < 2 ^ 64 → returnValue ((driver.share start).run state) = some paddr →
      (RightThroughout task start length paddr ↔ Adjacent task start length)) ∧
    ∀ pages result, returnValue ((driver.dmaAlloc pages).run state) = some result →
      result.2 = state.next ∧
      (RightThroughout task state.next (pages * pageSize) result.1 ↔ Adjacent task state.next (pages * pageSize)) := by
  have known : ∀ {addr phys}, LiesAt driver.badge addr phys state.root.tasks → task.physAddr addr =
      some phys := by
    rintro addr phys ⟨other, otherEq, located⟩
    obtain rfl : other = task := Option.some_inj.mp (otherEq.symm.trans found)
    exact located
  refine ⟨fun start length paddr fits returned => ?_, fun pages result returned => ?_⟩
  · have shared : Triple (fun now => now = state) (driver.share start)
        (fun paddr after => Quiet state after ∧ LiesAt driver.badge start paddr state.root.tasks) (fun _ _ => True) := by
      cases driver with
      | net => exact translate_spec netBadge start fits state
      | blk => exact translate_spec blkBadge start fits state
    cases ran : (driver.share start).run state with
    | error fault after =>
        rw [ran] at returned
        cases returned
    | ok value after =>
        rw [ran] at returned
        cases returned
        exact rightThroughout_iff (known (shared.of_run rfl ran).2) length
  · cases ran : (driver.dmaAlloc pages).run state with
    | error fault after =>
        rw [ran] at returned
        cases returned
    | ok value after =>
        rw [ran] at returned
        cases returned
        have allocated := (driver.dmaAlloc_allocated pages state below).of_run rfl ran
        exact ⟨allocated.vaddr, rightThroughout_iff (known allocated.paddr) _⟩

def smallNet : DriverState :=
    Driver.net.boot (finalState ((Driver.net.mapDma aarch64Paging).run smallRoot)) fun _ => 0

/-- A buffer across the end of a page, and one of two pages. -/
theorem device_addresses_right_iff_smallNet :
    ∃ task, smallNet.root.tasks[netBadge]? = some task ∧
      RightThroughout task (dmaAddrStart + 0x1ff0) 0x20 0x40002ff0 ∧ Adjacent task (dmaAddrStart + 0x1ff0) 0x20 ∧
      (RightThroughout task (dmaAddrStart + 0x1000) (2 * pageSize) 0x40002000 ↔
        Adjacent task (dmaAddrStart + 0x1000) (2 * pageSize)) := by
  have crossing : (smallNet.root.tasks[netBadge]?.map fun task =>
      decide (∀ offset < 0x20, task.physAddr (dmaAddrStart + 0x1ff0 + offset) = some (0x40002ff0 + offset))) =
        some true := by
    decide +kernel
  obtain ⟨task, found, right⟩ := Option.map_eq_some_iff.mp crossing
  have throughout : RightThroughout task (dmaAddrStart + 0x1ff0) 0x20 0x40002ff0 := by
    rwa [decide_eq_true_iff] at right
  obtain ⟨shared, allocated⟩ := device_addresses_right_iff .net smallNet (by decide +kernel) task found
  refine ⟨task, found, throughout, ?_, ?_⟩
  · exact (shared (dmaAddrStart + 0x1ff0) 0x20 0x40002ff0 (by decide) (by decide +kernel)).mp throughout
  · exact (allocated 2 (0x40002000, dmaAddrStart + 0x1000) (by decide +kernel)).2

def smallBlk : DriverState :=
    Driver.blk.boot (finalState ((Driver.blk.mapDma aarch64Paging).run smallRoot)) fun _ => 0

/-- The second page of the window does not lie behind the first: the table that the first
one takes is between them. -/
theorem device_address_wrong :
    ∃ task, smallBlk.root.tasks[blkBadge]? = some task ∧
      returnValue ((Driver.blk.dmaAlloc 2).run smallBlk) = some (0x40000000, dmaAddrStart) ∧
      ¬ RightThroughout task dmaAddrStart (2 * pageSize) 0x40000000 ∧
      returnValue ((Driver.blk.share (dmaAddrStart + 0xff0)).run smallBlk) = some 0x40000ff0 ∧
      ¬ RightThroughout task (dmaAddrStart + 0xff0) 0x20 0x40000ff0 := by
  obtain ⟨task, found⟩ := Option.isSome_iff_exists.mp
    (show smallBlk.root.tasks[blkBadge]?.isSome from by decide +kernel)
  have second : (smallBlk.root.tasks[blkBadge]?.bind fun task =>
      task.physAddr (dmaAddrStart + 0x1000)) = some 0x40002000 := by
    decide +kernel
  rw [found, Option.bind_some] at second
  refine ⟨task, found, by decide +kernel, fun right => ?_, by decide +kernel, fun right => ?_⟩
  · exact absurd (second.symm.trans (right 0x1000 (by decide))) (by decide)
  · exact absurd (second.symm.trans (right 0x10 (by decide))) (by decide)

end RootTaskDemo.Root
