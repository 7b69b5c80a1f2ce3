import RootTaskDemo.Kernel.Task
import RootTaskDemo.Lib.CSpace
import RootTaskDemo.Lib.Runs

namespace RootTaskDemo.Root

open Lib CSpace
open Kernel (ObjectType)

/-! The capabilities of the threads that the root task starts. It first gives its own
addresses a second level, and then builds the same two levels for every thread and fills
them with what the thread is to have. -/

/-- A capability that is not to a node: to an object, with a badge, or whatever the boot
left in a slot. -/
inductive Cap where
  | object (type : ObjectType) (object badge : Nat)
  | initial (slot : Nat)
  | device
deriving DecidableEq, Repr

structure CapState where
  slots : Slots Cap
  /-- Where the addresses of the root task start. -/
  root : NodeCap
  /-- Where the addresses of a thread start, by its TCB. -/
  roots : Nat → Option NodeCap
  nextObject : Nat
  watermark : Nat
  emptySlots : Nat × Nat

inductive CapPanic where
  | invalidCapability
  | failedLookup
  | deleteFirst
  | rangeError
  | illegalOperation
  | notEnoughMemory
  | noSlot
deriving DecidableEq, Repr

abbrev CapM := EStateM CapPanic CapState

def wordBits : Nat := 64

/-- The slots of the initial thread. -/
def tcbSlot : Nat := 1

def cnodeSlot : Nat := 2

def vspaceSlot : Nat := 3

def asidControlSlot : Nat := 5

def asidPoolSlot : Nat := 6

/-- A path from a node, and how many of its bits count. -/
structure AbsoluteCPtr where
  root : Nat
  path : Nat
  depth : Nat

def relative (root path : Nat) : AbsoluteCPtr := ⟨root, path, wordBits⟩

def relativeBitsWithDepth (root path depth : Nat) : AbsoluteCPtr := ⟨root, path, depth⟩

def relativeSelf (root : Nat) : AbsoluteCPtr := ⟨root, 0, 0⟩

/-- `utils::abs_cptr` and `cnode_relative`. -/
def absCptr (path : Nat) : AbsoluteCPtr := relative cnodeSlot path

def capAt (cptr : Nat) : CapM (Content Cap) := do
  let state ← get
  match lookup state.slots state.root wordBits cptr with
  | some content => return content
  | none => throw .invalidCapability

def nodeAt (cptr : Nat) : CapM NodeCap := do
  match ← capAt cptr with
  | .node cap => return cap
  | .other _ => throw .invalidCapability

/-- The slot at the end of a path, all bits of which have to be used. -/
def AbsoluteCPtr.slot (place : AbsoluteCPtr) : CapM (Nat × Nat) := do
  let cap ← nodeAt place.root
  let state ← get
  if place.depth = 0 ∨ wordBits < place.depth then throw .rangeError
  else match resolve state.slots wordBits cap place.path place.depth with
    | .ok found => if found.left = 0 then return (found.node, found.index) else throw .failedLookup
    | .error _ => throw .failedLookup

/-- What a capability becomes with a new guard or a new badge. -/
def updateCapData (preserve : Bool) (data : Nat) : Content Cap → Option (Content Cap)
  | .node cap =>
    if wordBits < data % 64 + cap.radix then none
    else some (.node { cap with guardBits := data % 64, guard := data / 64 % 2 ^ (data % 64) })
  | .other (.object .endpoint object badge) =>
    if preserve ∨ badge ≠ 0 then none else some (.other (.object .endpoint object data))
  | .other (.object .notification object badge) =>
    if preserve ∨ badge ≠ 0 then none else some (.other (.object .notification object data))
  | content => some content

def CapState.put (state : CapState) (slot : Nat × Nat) (content : Option (Content Cap)) : CapState :=
  { state with slots := CSpace.put state.slots slot.1 slot.2 content }

def transfer (change : Content Cap → Option (Content Cap)) (moves : Bool)
    (dest source : AbsoluteCPtr) : CapM Unit := do
  let target ← dest.slot
  let state ← get
  if (state.slots target.1 target.2).isSome then throw .deleteFirst
  else
    let origin ← source.slot
    match state.slots origin.1 origin.2 with
    | none => throw .failedLookup
    | some content =>
      match change content with
      | none => throw .illegalOperation
      | some changed => modify fun state =>
          if moves then (state.put target (some changed)).put origin none else state.put target (some changed)

def copy : AbsoluteCPtr → AbsoluteCPtr → CapM Unit := transfer some false

def mint (data : Nat) : AbsoluteCPtr → AbsoluteCPtr → CapM Unit :=
  transfer (updateCapData false data) false

def mutate (data : Nat) : AbsoluteCPtr → AbsoluteCPtr → CapM Unit :=
  transfer (updateCapData true data) true

/-- Only capabilities whose object has others are deleted. -/
def delete (place : AbsoluteCPtr) : CapM Unit := do
  let target ← place.slot
  modify fun state => state.put target none

/-- `CNodeCapData`: the guard in front of its size, which takes the lowest six bits. -/
def skip (bits : Nat) : Nat := bits

def skipHighBits (bits : Nat) : Nat := skip (wordBits - bits)

/-- What `tcb_set_space` and `tcb_configure` make of a node. -/
def spaceRoot (cnode data : Nat) : CapM NodeCap := do
  let content ← capAt cnode
  match updateCapData false data content with
  | some (.node cap) => return cap
  | _ => throw .illegalOperation

variable (untypedSize : Nat)

def objectContent (object : Nat) : ObjectType → Content Cap
  | .cnode sizeBits => .node ⟨object, sizeBits, 0, 0⟩
  | type => .other (.object type object 0)

def destination (dest : AbsoluteCPtr) (index : Nat) : CapM (Nat × Nat) := do
  let node ← if dest.depth = 0 then nodeAt dest.root else do
    let slot ← dest.slot
    let state ← get
    match state.slots slot.1 slot.2 with
    | some (.node cap) => pure cap
    | _ => throw .failedLookup
  let state ← get
  if 2 ^ node.radix ≤ index then throw .rangeError
  else if (state.slots node.node index).isSome then throw .deleteFirst
  else return (node.node, index)

def untypedRetype (type : ObjectType) (dest : AbsoluteCPtr) (index : Nat) : CapM Unit := do
  let slot ← destination dest index
  let state ← get
  let start := Kernel.Untyped.start state.watermark type.sizeBits
  if untypedSize < start + 2 ^ type.sizeBits then throw .notEnoughMemory
  else set ({ state with
    slots := Function.update state.slots state.nextObject fun _ => none
    nextObject := state.nextObject + 1
    watermark := start + 2 ^ type.sizeBits }.put slot (some (objectContent state.nextObject type)))

/-- `empty_slots.next().unwrap()`, which is all that `allocate_normal_cap` does. -/
def nextSlot : CapM Nat := do
  let state ← get
  if state.emptySlots.2 ≤ state.emptySlots.1 then throw .noSlot
  else
    set { state with emptySlots := (state.emptySlots.1 + 1, state.emptySlots.2) }
    return state.emptySlots.1

def allocateVariableSizedOrigin (sizeBits : Nat) : CapM Nat := do
  let slotIndex ← nextSlot
  untypedRetype untypedSize (.cnode sizeBits) (relativeSelf cnodeSlot) slotIndex
  return slotIndex

def allocateSlot : CapM (Nat × Nat × Nat) := do
  let rawSlotIndex ← nextSlot
  let slotIndex := rawSlotIndex &&& 0xfff
  let cnodeIndex := rawSlotIndex >>> 12
  if slotIndex = 0 then untypedRetype untypedSize (.cnode 12) (relativeSelf cnodeSlot) cnodeIndex
  return (slotIndex, cnodeIndex, rawSlotIndex)

def allocateAndRetype (type : ObjectType) : CapM Nat := do
  let slot ← allocateSlot untypedSize
  untypedRetype untypedSize type (relativeBitsWithDepth cnodeSlot slot.2.1 52) slot.1
  return slot.2.2

def allocateAll : List ObjectType → CapM Unit
  | [] => return ()
  | type :: rest => do
    let _ ← allocateAndRetype untypedSize type
    allocateAll rest

def cnodeRadixBits : Nat := 12

def rebuildCspace : CapM Unit := do
  let cnode ← allocateVariableSizedOrigin untypedSize cnodeRadixBits
  mint (skip 0) (relativeBitsWithDepth cnode 0 cnodeRadixBits) (relative cnodeSlot cnodeSlot)
  mutate (skipHighBits cnodeRadixBits) (relative cnodeSlot 0) (relative cnodeSlot cnodeSlot)
  mint (skipHighBits (cnodeRadixBits * 2)) (relative 0 cnodeSlot) (relative 0 cnode)
  delete (relative cnodeSlot 0)
  let _ ← capAt tcbSlot
  let _ ← capAt vspaceSlot
  let root ← spaceRoot cnode (skipHighBits (2 * cnodeRadixBits))
  modify fun state => { state with root := root }

/-- The slots of the root task with the parts of a thread. -/
structure Task where
  tcb : Nat
  cnode : Nat
  vspace : Nat
deriving DecidableEq, Repr

def Task.absCptr (task : Task) (cptrBits : Nat) : AbsoluteCPtr := relative task.cnode cptrBits

def defaultThreadFaultEp : Nat := 18

def defaultThreadIrqEp : Nat := 20

def defaultCustomSlot : Nat := 26

/-- `image` are the tables and the frames that the image takes. -/
def makeChildVspace (cnode : Nat) (image : List ObjectType) : CapM Nat := do
  let innerCnode ← allocateAndRetype untypedSize (.cnode cnodeRadixBits)
  let childVspace ← allocateAndRetype untypedSize .vspace
  mutate (skip 0) (relativeBitsWithDepth cnode 0 cnodeRadixBits) (absCptr innerCnode)
  mutate (skipHighBits (2 * cnodeRadixBits)) (absCptr 0) (absCptr cnode)
  mutate (skipHighBits (2 * cnodeRadixBits)) (absCptr cnode) (absCptr 0)
  allocateAll untypedSize image
  -- the frame of the IPC buffer
  let _ ← allocateAndRetype untypedSize .granule
  return childVspace

/-- `Sel4TaskHelper::new` -/
def Task.new (task : Task) (faultEp badge irqEp : Nat) : CapM Unit := do
  mint badge (task.absCptr defaultThreadFaultEp) (Root.absCptr faultEp)
  mint badge (task.absCptr defaultThreadIrqEp) (Root.absCptr irqEp)
  copy (task.absCptr asidPoolSlot) (Root.absCptr asidPoolSlot)
  copy (task.absCptr asidControlSlot) (Root.absCptr asidControlSlot)

def Task.configure (task : Task) (radixBits : Nat) : CapM Unit := do
  mint (skipHighBits radixBits) (task.absCptr cnodeSlot) (Root.absCptr task.cnode)
  copy (task.absCptr tcbSlot) (Root.absCptr task.tcb)
  copy (task.absCptr vspaceSlot) (Root.absCptr task.vspace)
  match ← capAt task.tcb with
  | .other (.object .tcb tcb _) =>
    let root ← spaceRoot task.cnode (skipHighBits radixBits)
    modify fun state => { state with roots := Function.update state.roots tcb (some root) }
  | _ => throw .invalidCapability

/-- `stack` are the tables and the frames of the stack. -/
def buildKernelThread (faultEp badge irqEp : Nat) (image stack : List ObjectType) : CapM Task := do
  let cnode ← allocateAndRetype untypedSize (.cnode cnodeRadixBits)
  let vspace ← makeChildVspace untypedSize cnode image
  let tcb ← allocateAndRetype untypedSize .tcb
  let task : Task := { tcb, cnode, vspace }
  task.new faultEp badge irqEp
  task.configure (2 * cnodeRadixBits)
  allocateAll untypedSize stack
  return task

/-- What depends on the images and on the device: the objects that are taken on the way. -/
structure Load where
  image : List ObjectType
  stack : List ObjectType
  /-- Behind the window of the device, and for direct memory access. -/
  device : List ObjectType

def startThreads (kernelLoad blkLoad netLoad : Load) : CapM (Task × Task × Task) := do
  let faultEp ← allocateAndRetype untypedSize .endpoint
  let irqEp ← allocateAndRetype untypedSize .endpoint
  let _commonIrqHandler ← nextSlot
  let kernel ← buildKernelThread untypedSize faultEp 0 irqEp kernelLoad.image kernelLoad.stack
  let blk ← buildKernelThread untypedSize faultEp 1 irqEp blkLoad.image blkLoad.stack
  let net ← buildKernelThread untypedSize faultEp 2 irqEp netLoad.image netLoad.stack
  return (kernel, blk, net)

/-- The part of `main` that prepares each of the threads, on the path where nothing panics on the
way: the search for the device, its retype, the checks of its address and the mapping of its window
are those of `prepareDevices`, and only the slots and the objects that they take are here. -/
def handOut (kernelUntyped : Nat) (kernel blk net : Task) (blkLoad netLoad : Load) : CapM Unit := do
  copy (kernel.absCptr defaultCustomSlot) (absCptr kernelUntyped)
  let blkDevEp ← allocateAndRetype untypedSize .endpoint
  let blkIrqNot ← allocateAndRetype untypedSize .notification
  copy (kernel.absCptr (defaultCustomSlot + 1)) (absCptr blkDevEp)
  copy (blk.absCptr defaultCustomSlot) (absCptr blkIrqNot)
  copy (blk.absCptr (defaultCustomSlot + 2)) (absCptr blkDevEp)
  let blkDevice ← allocateSlot untypedSize
  let frame ← destination (relativeBitsWithDepth cnodeSlot blkDevice.2.1 52) blkDevice.1
  modify fun state => state.put frame (some (.other .device))
  allocateAll untypedSize blkLoad.device
  let netDevEp ← allocateAndRetype untypedSize .endpoint
  let netIrqNot ← allocateAndRetype untypedSize .notification
  copy (kernel.absCptr (defaultCustomSlot + 2)) (absCptr netDevEp)
  copy (net.absCptr defaultCustomSlot) (absCptr netIrqNot)
  copy (net.absCptr (defaultCustomSlot + 2)) (absCptr netDevEp)
  let netDevice ← allocateSlot untypedSize
  copy (absCptr netDevice.2.2) (absCptr blkDevice.2.2)
  allocateAll untypedSize netLoad.device

/-- `main` up to `run_tasks`, as far as capabilities go. The images are taken to be parsed and
mapped: what they take is in the loads, and the `unwrap`s of that are left out, so that a run
which ends well stands for a boot that succeeds, but not every stop of `main` is one of these. -/
def prepare (kernelUntyped : Nat) (kernelLoad blkLoad netLoad : Load) : CapM (Task × Task × Task) := do
  rebuildCspace untypedSize
  let tasks ← startThreads untypedSize kernelLoad blkLoad netLoad
  handOut untypedSize kernelUntyped tasks.1 tasks.2.1 tasks.2.2 blkLoad netLoad
  return tasks

variable {untypedSize : Nat} {state : CapState} {cptr node index slot top leaf : Nat}
  {cap : NodeCap} {content changed : Content Cap}
  {place dest source : AbsoluteCPtr} {target origin : Nat × Nat}
    {change : Content Cap → Option (Content Cap)}

@[grind =] theorem CapState.put_slots (content : Option (Content Cap)) (other place : Nat) :
    (state.put target content).slots other place =
      if other = target.1 ∧ place = target.2 then content else state.slots other place :=
  put_apply other place

@[grind =] theorem CapState.put_root (content : Option (Content Cap)) :
    (state.put target content).root = state.root := rfl

theorem run_then {α β : Type} {program : CapM α} {next : α → CapM β} {value : α} {after : CapState}
    (ran : program.run state = .ok value after) :
    (program >>= next).run state = (next value).run after := by
  rw [EStateM.run_bind, ran]

theorem capAt_run (found : lookup state.slots state.root wordBits cptr = some content) :
    (capAt cptr).run state = .ok content state := by
  simp only [capAt, EStateM.run_bind, EStateM.run_get, found, EStateM.run_pure]

theorem nodeAt_run (found : lookup state.slots state.root wordBits cptr = some (.node cap)) :
    (nodeAt cptr).run state = .ok cap state := by
  simp only [nodeAt, EStateM.run_bind, capAt_run found, EStateM.run_pure]

theorem spaceRoot_run {data : Nat}
    (found : lookup state.slots state.root wordBits cptr = some content)
    (changes : updateCapData false data content = some (.node cap)) :
    (spaceRoot cptr data).run state = .ok cap state := by
  rw [spaceRoot, run_then (capAt_run found), changes]
  rfl

theorem slot_run (root : lookup state.slots state.root wordBits place.root = some (.node cap))
    (depth : 0 < place.depth ∧ place.depth ≤ wordBits)
    (resolved : resolve state.slots wordBits cap place.path place.depth = .ok ⟨node, index, 0⟩) :
    place.slot.run state = .ok (node, index) state := by
  have range : ¬ (place.depth = 0 ∨ wordBits < place.depth) := by omega
  unfold AbsoluteCPtr.slot
  rw [run_then (nodeAt_run root), run_then (EStateM.run_get _), if_neg range, resolved]
  rfl

theorem transfer_run (moves : Bool) (reached : dest.slot.run state = .ok target state)
    (empty : state.slots target.1 target.2 = none) (started : source.slot.run state = .ok origin state)
    (found : state.slots origin.1 origin.2 = some content) (changes : change content = some changed) :
    (transfer change moves dest source).run state =
      .ok () (if moves then (state.put target (some changed)).put origin none else state.put target (some changed)) := by
  simp only [transfer, EStateM.run_bind, reached, EStateM.run_get, empty, Option.isSome_none,
    Bool.false_eq_true, if_false, started, found, changes]
  rfl

theorem destination_run (reached : place.slot.run state = .ok target state)
    (depth : place.depth ≠ 0) (found : state.slots target.1 target.2 = some (.node cap))
    (small : index < 2 ^ cap.radix) (empty : state.slots cap.node index = none) :
    (destination place index).run state = .ok (cap.node, index) state := by
  simp only [destination, if_neg depth, EStateM.run_bind, reached, EStateM.run_get, found,
    EStateM.run_pure, if_neg (Nat.not_le.mpr small), empty, Option.isSome_none, Bool.false_eq_true,
    if_false]

theorem untypedRetype_run (untypedSize : Nat) (type : ObjectType)
    (reached : (destination dest index).run state = .ok target state)
    (blank : ∀ index, state.slots state.nextObject index = none) :
    (untypedRetype untypedSize type dest index).run state = .error .notEnoughMemory state ∨
    ∃ watermark, (untypedRetype untypedSize type dest index).run state =
      .ok () ({ state with nextObject := state.nextObject + 1, watermark }.put target
        (some (objectContent state.nextObject type))) := by
  have cleared : Function.update state.slots state.nextObject (fun _ => none) = state.slots :=
    (congrArg _ (funext blank).symm).trans (Function.update_eq_self ..)
  by_cases short : untypedSize < Kernel.Untyped.start state.watermark type.sizeBits + 2 ^ type.sizeBits
  · left
    simp only [untypedRetype, EStateM.run_bind, reached, EStateM.run_get, if_pos short]
    rfl
  · right
    refine ⟨Kernel.Untyped.start state.watermark type.sizeBits + 2 ^ type.sizeBits, ?_⟩
    simp only [untypedRetype, EStateM.run_bind, reached, EStateM.run_get, if_neg short, EStateM.run_set, cleared]

def bootCap : NodeCap := ⟨0, 12, 52, 0⟩

def topCap (node : Nat) : NodeCap := ⟨node, 12, 40, 0⟩

def leafCap (node : Nat) : NodeCap := ⟨node, 12, 0, 0⟩

theorem resolve_boot {slots : Slots Cap} (small : slot < 4096) :
    resolve slots wordBits bootCap slot wordBits = .ok ⟨0, slot, 0⟩ :=
  (resolve_exact small : resolve slots (63 + 1) ⟨0, 12, 52, 0⟩ slot (52 + 12) = _)

theorem resolve_top {slots : Slots Cap} (found : slots top 0 = some (.node (leafCap leaf)))
    (small : slot < 4096) :
    resolve slots wordBits (topCap top) slot wordBits = .ok ⟨leaf, slot, 0⟩ := by
  have first : resolve slots (63 + 1) (topCap top) slot (40 + 12 + 12) = _ :=
    resolve_first (by decide) (Nat.lt_of_lt_of_le small (by decide))
  rw [show slot / 2 ^ 12 = 0 from Nat.div_eq_of_lt small, found] at first
  have last : resolve slots (62 + 1) (leafCap leaf) slot 12 = _ := resolve_last
  rw [show slot % 2 ^ 12 = slot from Nat.mod_eq_of_lt small] at last
  exact first.trans last

theorem lookup_boot (root : state.root = bootCap) (small : slot < 4096)
    (found : state.slots 0 slot = some content) :
    lookup state.slots state.root wordBits slot = some content := by
  unfold lookup
  rw [root, resolve_boot small]
  exact found

theorem lookup_top (root : state.root = topCap 1)
    (first : state.slots 1 0 = some (.node (leafCap 0))) (small : slot < 4096)
    (found : state.slots 0 slot = some content) :
    lookup state.slots state.root wordBits slot = some content := by
  unfold lookup
  rw [root, resolve_top first small]
  exact found

theorem slot_boot (found : lookup state.slots state.root wordBits cptr = some (.node bootCap))
    (small : slot < 4096) :
    (relative cptr slot).slot.run state = .ok (0, slot) state :=
  slot_run found ⟨Nat.zero_lt_succ 63, Nat.le_refl 64⟩ (resolve_boot small)

theorem slot_top (found : lookup state.slots state.root wordBits cptr = some (.node (topCap top)))
    (first : state.slots top 0 = some (.node (leafCap leaf))) (small : slot < 4096) :
    (relative cptr slot).slot.run state = .ok (leaf, slot) state :=
  slot_run found ⟨Nat.zero_lt_succ 63, Nat.le_refl 64⟩ (resolve_top first small)

theorem slot_own_run (root : state.root = topCap 1) (first : state.slots 1 0 = some (.node (leafCap 0)))
    (cnode : state.slots 0 cnodeSlot = some (.node (topCap 1))) (small : slot < 4096) :
    (absCptr slot).slot.run state = .ok (0, slot) state :=
  slot_top (lookup_top root first (by decide) cnode) first small

theorem slot_leaf (found : lookup state.slots state.root wordBits cptr = some (.node (leafCap node))) :
    (relativeBitsWithDepth cptr 0 cnodeRadixBits).slot.run state = .ok (node, 0) state :=
  slot_run found ⟨Nat.zero_lt_succ 11, (by decide : 12 ≤ 64)⟩
    (resolve_last : resolve state.slots (63 + 1) ⟨node, 12, 0, 0⟩ 0 12 = _)

/-- The root task as it is started: one node, and the slots behind the initial capabilities empty.
-/
structure Booted (state : CapState) : Prop where
  root : state.root = bootCap
  cnode : state.slots 0 cnodeSlot = some (.node bootCap)
  null : state.slots 0 0 = none
  initial : ∀ slot ∈ [tcbSlot, vspaceSlot, asidControlSlot, asidPoolSlot], state.slots 0 slot =
    some (.other (.initial slot))
  object : state.nextObject = 1
  blank : ∀ node index, 1 ≤ node → state.slots node index = none
  range : asidPoolSlot < state.emptySlots.1 ∧ state.emptySlots.1 ≤ 4096 ∧ state.emptySlots.2 ≤ 4096
  vacant : ∀ slot, state.emptySlots.1 ≤ slot → slot < state.emptySlots.2 → state.slots 0 slot = none

/-- What the boot may run out of. -/
def Short (reason : CapPanic) (_ : CapState) : Prop := reason = .noSlot ∨ reason = .notEnoughMemory

/-- The new node, the capability to which is in the first empty slot, comes in front of the old one.
-/
def CapState.rebuilt (state : CapState) (watermark : Nat) : CapState :=
  { ((state.put (0, state.emptySlots.1) (some (.node (leafCap 1)))).put (1, 0)
    (some (.node (leafCap 0)))).put (0, cnodeSlot)
      (some (.node (topCap 1))) with
    root := topCap 1
    nextObject := 2
    watermark
    emptySlots := (state.emptySlots.1 + 1, state.emptySlots.2) }

@[grind =] theorem CapState.rebuilt_slots (watermark : Nat) :
    (state.rebuilt watermark).slots node index =
    if node = 0 ∧ index = cnodeSlot then some (.node (topCap 1))
    else if node = 1 ∧ index = 0 then some (.node (leafCap 0))
    else if node = 0 ∧ index = state.emptySlots.1 then some (.node (leafCap 1))
    else state.slots node index := by
  simp only [CapState.rebuilt, CapState.put_slots]

def CapState.taking (state : CapState) : CapState :=
  { state with emptySlots := (state.emptySlots.1 + 1, state.emptySlots.2) }

@[grind =] theorem CapState.taking_slots : state.taking.slots node index = state.slots node index := rfl

@[grind =] theorem CapState.taking_root : state.taking.root = state.root := rfl

theorem nextSlot_run (state : CapState) : nextSlot.run state = .error .noSlot state ∨
    state.emptySlots.1 < state.emptySlots.2 ∧ nextSlot.run state = .ok state.emptySlots.1 state.taking := by
  by_cases full : state.emptySlots.2 ≤ state.emptySlots.1
  · left
    simp only [nextSlot, EStateM.run_bind, EStateM.run_get, if_pos full]
    rfl
  · right
    refine ⟨Nat.lt_of_not_le full, ?_⟩
    simp only [nextSlot, EStateM.run_bind, EStateM.run_get, if_neg full, EStateM.run_set,
      EStateM.run_pure, CapState.taking]

theorem destination_self_run
    (found : lookup state.slots state.root wordBits cptr = some (.node cap))
    (small : index < 2 ^ cap.radix) (empty : state.slots cap.node index = none) :
    (destination (relativeSelf cptr) index).run state = .ok (cap.node, index) state := by
  unfold destination relativeSelf
  rw [if_pos rfl, run_then (nodeAt_run found), run_then (EStateM.run_get _),
    if_neg (Nat.not_le.mpr small), if_neg (by rw [empty]; exact Bool.false_ne_true)]
  rfl

theorem Booted.origin_run (untypedSize : Nat) (booted : Booted state) :
    (∃ reason after, (allocateVariableSizedOrigin untypedSize cnodeRadixBits).run state =
      .error reason after ∧ Short reason after) ∨
    state.emptySlots.1 < state.emptySlots.2 ∧ ∃ watermark,
      (allocateVariableSizedOrigin untypedSize cnodeRadixBits).run state =
      .ok state.emptySlots.1 ({ state.taking with nextObject := 2, watermark }.put (0, state.emptySlots.1)
        (some (.node (leafCap 1)))) := by
  have range := booted.range
  obtain full | ⟨left, taken⟩ := nextSlot_run state
  · refine Or.inl ⟨.noSlot, state, ?_, Or.inl rfl⟩
    simp only [allocateVariableSizedOrigin, EStateM.run_bind, full]
  · have own : lookup state.slots state.root wordBits cnodeSlot = some (.node bootCap) :=
      lookup_boot booted.root (by decide) booted.cnode
    have inside : state.emptySlots.1 < 2 ^ bootCap.radix := by
      change _ < 4096
      omega
    have reached : (destination (relativeSelf cnodeSlot) state.emptySlots.1).run state.taking = _ :=
      destination_self_run own inside (booted.vacant _ (Nat.le_refl _) left)
    obtain short | ⟨watermark, made⟩ := untypedRetype_run untypedSize (.cnode cnodeRadixBits) reached
      fun index => booted.blank _ index (Nat.le_of_eq booted.object.symm)
    · refine Or.inl ⟨.notEnoughMemory, state.taking, ?_, Or.inr rfl⟩
      simp only [allocateVariableSizedOrigin, EStateM.run_bind, taken, short]
    · refine Or.inr ⟨left, watermark, ?_⟩
      simp only [allocateVariableSizedOrigin, EStateM.run_bind, taken, made, EStateM.run_pure]
      rw [show state.taking.nextObject = 1 from booted.object]
      rfl

theorem rebuildMoves_run {cnode : Nat} (root : state.root = bootCap)
    (range : asidPoolSlot < cnode ∧ cnode < 4096)
    (fresh : state.slots 0 cnode = some (.node (leafCap 1)))
    (own : state.slots 0 cnodeSlot = some (.node bootCap)) (null : state.slots 0 0 = none)
    (blank : state.slots 1 0 = none) {tcb vspace : Content Cap}
    (thread : state.slots 0 tcbSlot = some tcb) (space : state.slots 0 vspaceSlot = some vspace) :
    (do mint (skip 0) (relativeBitsWithDepth cnode 0 cnodeRadixBits) (relative cnodeSlot cnodeSlot)
        mutate (skipHighBits cnodeRadixBits) (relative cnodeSlot 0) (relative cnodeSlot cnodeSlot)
        mint (skipHighBits (cnodeRadixBits * 2)) (relative 0 cnodeSlot) (relative 0 cnode)
        delete (relative cnodeSlot 0)
        let _ ← capAt tcbSlot
        let _ ← capAt vspaceSlot
        let root ← spaceRoot cnode (skipHighBits (2 * cnodeRadixBits))
        modify fun state => { state with root := root } : CapM Unit).run state =
      .ok () { (state.put (1, 0) (some (.node (leafCap 0)))).put (0, cnodeSlot) (some (.node (topCap 1))) with
        root := topCap 1 } := by
  let held := state.put (1, 0) (some (.node (leafCap 0)))
  let lent := (held.put (0, 0) (some (.node bootCap))).put (0, cnodeSlot) none
  let given := lent.put (0, cnodeSlot) (some (.node (topCap 1)))
  have small : cnodeSlot < 4096 := by decide
  have slots : asidPoolSlot = 6 ∧ cnodeSlot = 2 ∧ tcbSlot = 1 ∧ vspaceSlot = 3 := ⟨rfl, rfl, rfl, rfl⟩
  have last : given.put (0, 0) none = held.put (0, cnodeSlot) (some (.node (topCap 1))) := by
    refine congrArg (fun slots => { state with slots }) (funext fun node => funext fun index => ?_)
    change ((given.put (0, 0) none).slots node index) =
      (held.put (0, cnodeSlot) (some (.node (topCap 1)))).slots node index
    grind
  have own' : lookup held.slots held.root wordBits cnodeSlot = some (.node bootCap) :=
    lookup_boot root small (by grind)
  have moved : lookup lent.slots lent.root wordBits 0 = some (.node bootCap) :=
    lookup_boot root (by decide) (by grind)
  have first : (mint (skip 0) (relativeBitsWithDepth cnode 0 cnodeRadixBits)
    (relative cnodeSlot cnodeSlot)).run state = .ok () held :=
    transfer_run false (slot_leaf (lookup_boot root range.2 fresh)) blank
      (slot_boot (lookup_boot root small own) small) own rfl
  have second : (mutate (skipHighBits cnodeRadixBits) (relative cnodeSlot 0)
    (relative cnodeSlot cnodeSlot)).run held =
      .ok () lent :=
    transfer_run true (slot_boot own' (by decide)) (by grind) (slot_boot own' small)
      (by grind : _ = some (.node bootCap)) rfl
  have third : (mint (skipHighBits (cnodeRadixBits * 2)) (relative 0 cnodeSlot)
    (relative 0 cnode)).run lent = .ok () given :=
    transfer_run false (slot_boot moved small) (by grind) (slot_boot moved range.2)
      (by grind : _ = some (.node (leafCap 1))) rfl
  have back : lookup given.slots given.root wordBits cnodeSlot = some (.node (topCap 1)) :=
    lookup_boot root small (by grind)
  have reached : (relative cnodeSlot 0).slot.run given = .ok (0, 0) given :=
    slot_top back (by grind) (by decide)
  have finds : ∀ {slot : Nat} {content : Content Cap}, slot < 4096 → slot ≠ cnodeSlot →
    state.slots 0 slot = some content →
      lookup (held.put (0, cnodeSlot) (some (.node (topCap 1)))).slots held.root wordBits slot = some content :=
    fun inside other found => lookup_boot root inside (by grind)
  have fourth : (delete (relative cnodeSlot 0)).run given =
    .ok () (held.put (0, cnodeSlot) (some (.node (topCap 1)))) :=
    (run_then reached).trans (congrArg _ last)
  rw [run_then first, run_then second, run_then third, run_then fourth,
    run_then (capAt_run (finds (by decide) (by decide) thread)),
    run_then (capAt_run (finds (by decide) (by decide) space)),
    run_then (spaceRoot_run (finds range.2 (by grind) fresh) rfl)]
  rfl

theorem rebuildCspace_spec (untypedSize : Nat) (booted : Booted state) :
    Triple (fun now => now = state) (rebuildCspace untypedSize)
      (fun _ after => state.emptySlots.1 < state.emptySlots.2 ∧ ∃ watermark, after = state.rebuilt watermark) Short := by
  intro now same
  rw [same]
  obtain ⟨reason, after, failed, short⟩ | ⟨left, watermark, made⟩ := booted.origin_run untypedSize
  · rw [rebuildCspace, EStateM.run_bind, failed]
    exact short
  · obtain ⟨root, cnode, null, initial, -, blank, range, -⟩ := booted
    have slots : asidPoolSlot = 6 ∧ cnodeSlot = 2 ∧ tcbSlot = 1 ∧ vspaceSlot = 3 := ⟨rfl, rfl, rfl, rfl⟩
    rw [rebuildCspace, run_then made]
    have first : state.slots 1 0 = none := blank 1 0 (Nat.le_refl 1)
    rw [rebuildMoves_run (by grind) (by grind) (by grind) (by grind) (by grind) (by grind)
      (by grind : _ = some (.other (.initial tcbSlot))) (by grind : _ = some (.other (.initial vspaceSlot)))]
    exact ⟨left, watermark, rfl⟩

theorem lookup_bootCap {slots : Slots Cap} {address : Nat} (word : address < 2 ^ 64) :
    lookup slots bootCap wordBits address = if address < 4096 then slots 0 address else none := by
  unfold lookup
  by_cases small : address < 4096
  · rw [resolve_boot small, if_pos small]
  · have outside : resolve slots (63 + 1) ⟨0, 12, 52, 0⟩ address (52 + 12 + 0) = _ :=
      resolve_guard (Nat.le_of_not_lt small) word
    rw [show resolve slots wordBits bootCap address wordBits = _ from outside, if_neg small]

theorem lookup_topCap {slots : Slots Cap} {address : Nat}
    (only : ∀ index, slots top index = if index = 0 then some (.node (leafCap leaf)) else none)
    (word : address < 2 ^ 64) :
    lookup slots (topCap top) wordBits address = if address < 4096 then slots leaf address else none :=
  (lookup_nested (by decide) (by decide) only word : lookup slots ⟨top, 12, 40, 0⟩ (40 + 12 + 12)
    address = _)

/-- The root task goes on with the addresses that it had. Only its own node has changed, and the
slot that was taken has the new one. -/
theorem rebuilt_addresses_stay (untypedSize : Nat) (booted : Booted state) :
    Triple (fun now => now = state) (rebuildCspace untypedSize)
      (fun _ after => ∀ address < 2 ^ 64, lookup after.slots after.root wordBits address =
        if address = cnodeSlot then some (.node (topCap 1))
        else if address = state.emptySlots.1 then some (.node (leafCap 1))
        else lookup state.slots state.root wordBits address) Short := by
  refine (rebuildCspace_spec untypedSize booted).weaken (fun _ same => same) ?_ fun _ _ short => short
  rintro - _ ⟨left, watermark, rfl⟩ address word
  obtain ⟨root, -, -, -, -, blank, range, -⟩ := booted
  rw [root, lookup_bootCap word]
  have only : ∀ index, (state.rebuilt watermark).slots 1 index =
      if index = 0 then some (.node (leafCap 0)) else none := by
    intro index
    have := blank 1 index (Nat.le_refl 1)
    grind
  refine (lookup_topCap only word).trans ?_
  grind [cnodeSlot]

def smallBoot : CapState where
  slots node index := if node ≠ 0 ∨ index = 0 ∨ 40 ≤ index then none
    else if index = cnodeSlot then some (.node bootCap) else some (.other (.initial index))
  root := bootCap
  roots _ := none
  nextObject := 1
  watermark := 0
  emptySlots := (40, 4096)

theorem smallBoot_booted : Booted smallBoot where
  root := rfl
  cnode := rfl
  null := rfl
  initial := by decide
  object := rfl
  blank node index above := if_pos (Or.inl (Nat.ne_of_gt above))
  range := by decide
  vacant slot above _ := if_pos (Or.inr (Or.inr above))

theorem rebuilt_smallBoot : returnValue ((rebuildCspace (2 ^ 22)).run smallBoot) = some () ∧
    Triple (fun now => now = smallBoot) (rebuildCspace (2 ^ 22))
      (fun _ after => ∀ address < 2 ^ 64, lookup after.slots after.root wordBits address =
        if address = cnodeSlot then some (.node (topCap 1))
        else if address = 40 then some (.node (leafCap 1))
        else lookup smallBoot.slots smallBoot.root wordBits address) Short :=
  ⟨by decide +kernel, rebuilt_addresses_stay _ smallBoot_booted⟩

end RootTaskDemo.Root
