import RootTaskDemo.Kernel.Loop
import RootTaskDemo.Lib.Runs

namespace RootTaskDemo.Kernel

open Lib Thread

variable {ν : Type} {platform : Platform}

/-! The slots that the object allocator hands out, whichever way it is asked for
one. A node of 4096 slots is made when a slot is the first of its node, but only
on the way through `allocate_slot`. -/

def allocateNormalCap : KernelM ν CPtr := do
  let state ← read
  let rawSlotIndex := state.emptySlots.1
  if state.emptySlots.2 ≤ rawSlotIndex then panicWith .noSlot
  else
    update fun state => { state with emptySlots := (rawSlotIndex + 1, state.emptySlots.2) }
    return rawSlotIndex

inductive AllocCall where
  | slot
  | retype (type : ObjectType)
  | normalCap
deriving DecidableEq, Repr

/-- The index in the node, the index of the node, and the slot. -/
def AllocCall.run (platform : Platform) : AllocCall → KernelM ν (Nat × Nat × CPtr)
  | .slot => allocateSlot platform
  | .retype type => do
    let slot ← allocateAndRetype platform type
    return (slot &&& 0xfff, slot >>> 12, slot)
  | .normalCap => do
    let slot ← allocateNormalCap
    return (slot &&& 0xfff, slot >>> 12, slot)

structure HandedOut where
  slotIndex : Nat
  cnodeIndex : Nat
  raw : CPtr
  nodeExists : Bool
deriving DecidableEq, Repr

def handOut (platform : Platform) (call : AllocCall) : KernelM ν HandedOut := do
  let slot ← call.run platform
  let state ← read
  return { slotIndex := slot.1, cnodeIndex := slot.2.1, raw := slot.2.2, nodeExists := state.cnodes slot.2.1 }

def handOutAll (platform : Platform) : List AllocCall → KernelM ν (List HandedOut)
  | [] => return []
  | call :: rest => do
    let first ← handOut platform call
    let later ← handOutAll platform rest
    return first :: later

theorem and_fff (slot : Nat) : slot &&& 0xfff = slot % 4096 :=
  Nat.and_two_pow_sub_one_eq_mod slot 12

theorem shiftRight_node (slot : Nat) : slot >>> 12 = slot / 4096 :=
  Nat.shiftRight_eq_div_pow slot 12

structure Advanced (cnodes : Nat → Bool) (before after : KernelState ν) : Prop where
  counter : after.emptySlots = (before.emptySlots.1 + 1, before.emptySlots.2)
  cspace : after.cspace = before.cspace
  cnodes : after.cnodes = cnodes

def KernelState.nodesWith (state : KernelState ν) : Nat → Bool :=
  if state.emptySlots.1 % 4096 = 0
    then Function.update state.cnodes (state.emptySlots.1 / 4096) true else state.cnodes

def KernelState.NodeFits (state : KernelState ν) : Prop :=
  state.emptySlots.1 % 4096 = 0 → state.cnodes (state.emptySlots.1 / 4096) = false

def outOfMemory : Fault := .panicked (.invocation .notEnoughMemory)

theorem retypeCNode_spec {state : KernelState ν} {index : Nat} (missing : state.cnodes index = false) :
    RunFrom state (unwrapped (retypeCNode platform index))
      (fun _ after => ∃ watermark,
        after = { state with watermark, cnodes := Function.update state.cnodes index true })
      (fun fault => fault = outOfMemory) := by
  refine .bind (.read_bind ?_ : MemTriple _ _ (fun result after =>
    result = .error .notEnoughMemory ∨ result = .ok () ∧ ∃ watermark,
      after = { state with watermark, cnodes := Function.update state.cnodes index true }) _) fun result => ?_
  · rintro state rfl
    dsimp only
    rw [missing, if_neg Bool.false_ne_true]
    split
    · exact .pure fun _ _ => Or.inl rfl
    · refine .update_bind (.pure ?_)
      rintro _ rfl
      exact Or.inr ⟨rfl, _, rfl⟩
  · cases result with
    | error error =>
      refine .stop ?_
      rintro _ (⟨⟨⟩⟩ | ⟨⟨⟩, -⟩)
      rfl
    | ok value =>
      refine .pure ?_
      rintro _ (⟨⟨⟩⟩ | ⟨-, made⟩)
      exact made

theorem allocateSlot_spec {state : KernelState ν} (left : state.emptySlots.1 < state.emptySlots.2)
    (fits : state.NodeFits) :
    RunFrom state (allocateSlot platform)
      (fun slot after => slot = (state.emptySlots.1 % 4096, state.emptySlots.1 / 4096, state.emptySlots.1) ∧
        Advanced state.nodesWith state after) (fun fault => fault = outOfMemory) := by
  refine .read_bind ?_
  rintro state rfl
  dsimp only
  rw [if_neg (Nat.not_le.mpr left), and_fff, shiftRight_node]
  refine .update_bind ?_
  by_cases first : state.emptySlots.1 % 4096 = 0
  · rw [if_pos first]
    have missing : ({ state with emptySlots := (state.emptySlots.1 + 1, state.emptySlots.2) } :
      KernelState ν).cnodes
        (state.emptySlots.1 / 4096) = false := fits first
    refine (retypeCNode_spec missing).bind fun _ => .pure ?_
    rintro _ ⟨watermark, rfl⟩
    refine ⟨rfl, rfl, rfl, ?_⟩
    rw [KernelState.nodesWith, if_pos first]
  · rw [if_neg first]
    refine .pure ?_
    rintro _ rfl
    refine ⟨rfl, rfl, rfl, ?_⟩
    rw [KernelState.nodesWith, if_neg first]

theorem allocateNormalCap_spec {state : KernelState ν}
    (left : state.emptySlots.1 < state.emptySlots.2) :
    RunFrom state allocateNormalCap
      (fun slot after => slot = state.emptySlots.1 ∧ Advanced state.cnodes state after)
        (fun fault => fault = outOfMemory) := by
  refine .read_bind ?_
  rintro state rfl
  dsimp only
  rw [if_neg (Nat.not_le.mpr left)]
  refine .update_bind (.pure ?_)
  rintro _ rfl
  exact ⟨rfl, rfl, rfl, rfl⟩

theorem untypedRetype_fits {state : KernelState ν} {type : ObjectType} {dest : CPtr}
    (free : state.cspace dest = none) (node : state.cnodes (dest / 4096) = true) :
    RunFrom state (unwrapped (untypedRetype platform type dest))
      (fun _ after => after.emptySlots = state.emptySlots ∧ after.cnodes = state.cnodes ∧
        after.cspace = Function.update state.cspace dest (some (type.cap dest))) (fun fault => fault = outOfMemory) := by
  refine .bind (.read_bind ?_ : MemTriple _ _ (fun result after =>
    result = .error .notEnoughMemory ∨ result = .ok () ∧ after.emptySlots = state.emptySlots ∧
      after.cnodes = state.cnodes ∧ after.cspace =
        Function.update state.cspace dest (some (type.cap dest))) _) fun result => ?_
  · rintro state rfl
    dsimp only
    rw [shiftRight_node, node, if_neg (not_not.mpr rfl), free, Option.isSome_none, if_neg Bool.false_ne_true]
    split
    · exact .pure fun _ _ => Or.inl rfl
    · refine .update_bind (.pure ?_)
      rintro _ rfl
      exact Or.inr ⟨rfl, rfl, rfl, rfl⟩
  · cases result with
    | error error =>
      refine .stop ?_
      rintro _ (⟨⟨⟩⟩ | ⟨⟨⟩, -⟩)
      rfl
    | ok value =>
      refine .pure ?_
      rintro _ (⟨⟨⟩⟩ | ⟨-, made⟩)
      exact made

/-- The slots up to `stop` that are left are empty, and the next one lies in a node
that is there unless it is the first of its node. -/
structure Stocked (counter stop : Nat) (state : KernelState ν) : Prop where
  range : state.emptySlots = (counter, stop)
  vacant : ∀ slot, counter ≤ slot → slot < stop → state.cspace slot = none
  node : counter % 4096 ≠ 0 → state.cnodes (counter / 4096) = true

/-- At the first slot of a node the call makes the node if and only if it is not there. -/
def AllocCall.MeetsNode (call : AllocCall) (state : KernelState ν) : Prop :=
  state.emptySlots.1 % 4096 = 0 → (call = .normalCap ↔ state.cnodes (state.emptySlots.1 / 4096) = true)

instance (call : AllocCall) (state : KernelState ν) : Decidable (call.MeetsNode state) :=
  inferInstanceAs (Decidable (_ → (_ ↔ _)))

/-- A slot inside the range, in its place in a node that is there. -/
structure HandedOut.Sound (first stop : Nat) (slot : HandedOut) : Prop where
  above : first ≤ slot.raw
  below : slot.raw < stop
  place : (slot.slotIndex, slot.cnodeIndex) = (slot.raw % 4096, slot.raw / 4096)
  inNode : slot.nodeExists = true

section Step

variable {counter stop : Nat} {before after : KernelState ν}

theorem Stocked.next {cnodes : Nat → Bool} (stocked : Stocked counter stop before)
    (advanced : Advanced cnodes before after) (node : cnodes (counter / 4096) = true) :
    Stocked (counter + 1) stop after := by
  refine ⟨by rw [advanced.counter, stocked.range], fun slot above below => ?_, fun inside => ?_⟩
  · rw [advanced.cspace]
    exact stocked.vacant slot (Nat.le_of_succ_le above) below
  · rw [advanced.cnodes, show (counter + 1) / 4096 = counter / 4096 by omega]
    exact node

theorem Stocked.retyped (stocked : Stocked (counter + 1) stop before) {cap : Option Cap}
    (same : after.emptySlots = before.emptySlots ∧ after.cnodes = before.cnodes ∧
      after.cspace = Function.update before.cspace counter cap) : Stocked (counter + 1) stop after := by
  obtain ⟨range, cnodes, cspace⟩ := same
  refine ⟨by rw [range, stocked.range], fun slot above below =>
    ?_, fun inside => by rw [cnodes]; exact stocked.node inside⟩
  rw [cspace, Function.update_of_ne (Nat.ne_of_gt above)]
  exact stocked.vacant slot above below

theorem run_takes {call : AllocCall} {state : KernelState ν} (stocked : Stocked counter stop state)
    (left : counter < stop) (meets : call.MeetsNode state) :
    RunFrom state (call.run platform)
      (fun slot after => slot = (counter % 4096, counter / 4096, counter) ∧ Stocked (counter + 1) stop after ∧
        after.cnodes (counter / 4096) = true) (fun fault => fault = outOfMemory) := by
  have range := stocked.range
  have inside : state.emptySlots.1 < state.emptySlots.2 := by rw [range]; exact left
  have counterEq : state.emptySlots.1 = counter := by rw [range]
  unfold AllocCall.MeetsNode at meets
  rw [counterEq] at meets
  -- `allocate_slot` leaves the node in place
  have slotted : call ≠ .normalCap → RunFrom state (allocateSlot platform)
      (fun slot after => slot = (counter % 4096, counter / 4096, counter) ∧ Stocked (counter + 1) stop after ∧
        after.cnodes (counter / 4096) = true ∧ after.cspace = state.cspace) (fun fault => fault = outOfMemory) := by
    intro other
    have fits : state.NodeFits := by
      intro first
      rw [counterEq] at first ⊢
      exact Bool.eq_false_iff.mpr fun present => other ((meets first).mpr present)
    have node : state.nodesWith (counter / 4096) = true := by
      unfold KernelState.nodesWith
      rw [counterEq]
      split
      · rw [Function.update_self]
      · rename_i later
        exact stocked.node later
    refine (allocateSlot_spec inside fits).mono ?_
    rintro slot after ⟨rfl, advanced⟩
    rw [counterEq]
    exact ⟨rfl, stocked.next advanced node, by rw [advanced.cnodes, node], advanced.cspace⟩
  cases call with
  | slot => exact (slotted (by rintro ⟨⟩)).mono fun _ _ spec => ⟨spec.1, spec.2.1, spec.2.2.1⟩
  | retype type =>
    refine .bind (.bind (slotted (by rintro ⟨⟩)) fun slot => .fixed ?_ :
      MemTriple _ _ (fun slot after => slot = counter ∧ Stocked (counter + 1) stop after ∧
        after.cnodes (counter / 4096) = true) _) fun slot => .pure ?_
    · rintro middle ⟨rfl, next, node, cspace⟩
      have free : middle.cspace counter = none := by
        rw [cspace]
        exact stocked.vacant counter (Nat.le_refl _) left
      refine (untypedRetype_fits free node).bind fun _ => .pure fun after same => ?_
      exact ⟨rfl, next.retyped same, by rw [same.2.1, node]⟩
    · rintro after ⟨rfl, spec⟩
      exact ⟨by rw [and_fff, shiftRight_node], spec⟩
  | normalCap =>
    have node : state.cnodes (counter / 4096) = true := by
      by_cases first : counter % 4096 = 0
      · exact (meets first).mp rfl
      · exact stocked.node first
    refine (allocateNormalCap_spec inside).bind fun slot => .pure ?_
    rintro after ⟨rfl, advanced⟩
    rw [counterEq, and_fff, shiftRight_node]
    exact ⟨rfl, stocked.next advanced node, by rw [advanced.cnodes, node]⟩

theorem handOut_takes {call : AllocCall} {state : KernelState ν}
    (stocked : Stocked counter stop state) (left : counter < stop) (meets : call.MeetsNode state) :
    RunFrom state (handOut platform call)
      (fun slot after => slot = ⟨counter % 4096, counter / 4096, counter, true⟩ ∧ Stocked (counter + 1) stop after)
      (fun fault => fault = outOfMemory) := by
  refine (run_takes stocked left meets).bind fun slot => .read_bind ?_
  rintro after ⟨rfl, next, node⟩
  refine .pure ?_
  rintro _ rfl
  exact ⟨by rw [node], next⟩

end Step

/-- What a run of the allocator comes to: slots that are distinct and sound, unless
there is no memory left for an object. -/
structure SlotsSound (first stop : Nat)
    (result : EStateM.Result Fault (KernelWorld ν) (List HandedOut)) : Prop where
  distinct : ∀ slots world, result = .ok slots world → (slots.map HandedOut.raw).Nodup
  sound : ∀ slots world, result = .ok slots world → ∀ slot ∈ slots, slot.Sound first stop
  stopped : ∀ fault world, result = .error fault world → fault = outOfMemory

theorem handOutAll_takes {calls : List AllocCall} {counter stop : Nat} {world : KernelWorld ν}
    (stocked : Stocked counter stop world.memory) (room : counter + calls.length ≤ stop)
    (met : MeetsAlong (fun call => do let _ ← handOut platform call)
      (fun call world => call.MeetsNode world.memory) calls world) :
    match (handOutAll platform calls).run world with
    | .ok slots _ =>
      slots = (List.range' counter calls.length).map fun raw => ⟨raw % 4096, raw / 4096, raw, true⟩
    | .error fault _ => fault = outOfMemory := by
  induction calls generalizing counter world with
  | nil => rfl
  | cons call rest ih =>
    rw [List.length_cons] at room
    obtain ⟨meets, later⟩ := met
    have step : RunFrom world.memory (handOut platform call) _ _ :=
      handOut_takes stocked (by omega) meets
    have takes := step.triple world rfl
    rw [EStateM.run_bind] at later
    rw [handOutAll, EStateM.run_bind]
    cases ran : (handOut platform call).run world with
    | error fault after =>
      rw [ran] at takes
      exact takes
    | ok slot after =>
      rw [ran] at takes later
      obtain ⟨rfl, next⟩ := takes
      have rest := ih next (by omega) later
      dsimp only
      rw [EStateM.run_bind]
      cases ran' : (handOutAll platform _).run after with
      | error fault last =>
        rw [ran'] at rest
        exact rest
      | ok slots last =>
        rw [ran'] at rest
        dsimp only at rest ⊢
        rw [rest, List.length_cons, List.range'_succ, List.map_cons]
        rfl

/-- As long as the first slot of each node is taken by a call that makes the node
exactly if it is missing, all slots are distinct, inside the range and in a node
that is there, and no node is made twice. -/
theorem slots_handed_out (platform : Platform) (world : KernelWorld ν) (first stop : Nat)
    (range : world.memory.emptySlots = (first, stop))
    (vacant : ∀ slot, first ≤ slot → slot < stop → world.memory.cspace slot = none)
    (node : world.memory.cnodes (first / 4096) = true) (calls : List AllocCall)
    (room : first + calls.length ≤ stop)
    (met : MeetsAlong (fun call => do let _ ← handOut platform call)
      (fun call world => call.MeetsNode world.memory) calls world) :
    SlotsSound first stop ((handOutAll platform calls).run world) := by
  have stocked : Stocked first stop world.memory := ⟨range, vacant, fun _ => node⟩
  have takes := handOutAll_takes stocked room met
  cases ran : (handOutAll platform calls).run world with
  | error fault after =>
      rw [ran] at takes
      exact ⟨by rintro _ _ ⟨⟩, by rintro _ _ ⟨⟩, by rintro _ _ ⟨⟩; exact takes⟩
  | ok slots after =>
      rw [ran] at takes
      have raws : slots.map HandedOut.raw = List.range' first calls.length := by
        rw [takes, List.map_map]
        exact List.map_id _
      refine ⟨?_, ?_, by rintro _ _ ⟨⟩⟩
      · rintro _ _ ⟨⟩
        rw [raws]
        exact List.nodup_range'
      · rintro _ _ ⟨⟩ slot member
        have inside := List.mem_map_of_mem member (f := HandedOut.raw)
        rw [raws, List.mem_range'_1] at inside
        rw [takes] at member
        obtain ⟨raw, -, rfl⟩ := List.mem_map.mp member
        exact ⟨inside.1, Nat.lt_of_lt_of_le inside.2 room, rfl, rfl⟩

def KernelWorld.nearNode : World Lock (List UInt64) (KernelState Unit) :=
  { KernelWorld.boot () with
    memory := { KernelState.boot () with
      cnodes := fun index => index == 0
      emptySlots := (0xffe, 0x2000) } }

theorem slots_handed_out_nearNode :
    SlotsSound 0xffe 0x2000 ((handOutAll smallPlatform [.normalCap, .retype .endpoint, .slot, .normalCap,
      .retype .granule]).run KernelWorld.nearNode) := by
  refine slots_handed_out smallPlatform KernelWorld.nearNode 0xffe 0x2000 rfl ?_ (by decide) _
    (by decide) (by decide +kernel)
  intro slot above _
  have apart : slot ≠ kernelVSpace := by
    unfold kernelVSpace
    omega
  change Function.update (fun _ => none) kernelVSpace (some (Cap.vspace kernelVSpace)) slot = none
  rw [Function.update_of_ne apart]

/-- A capability without an object takes the first slot of a node that nobody makes,
and the next object finds no node. -/
theorem slot_without_node :
    returnValue ((handOutAll smallPlatform [.normalCap, .retype .endpoint, .normalCap]).run KernelWorld.nearNode) =
        some [⟨0xffe, 0, 0xffe, true⟩, ⟨0xfff, 0, 0xfff, true⟩, ⟨0, 1, 0x1000, false⟩] ∧
      stopReason ((handOutAll smallPlatform [.normalCap, .retype .endpoint, .normalCap, .retype .granule]).run
        KernelWorld.nearNode) = some (.panicked (.invocation .failedLookup)) := by
  decide +kernel

end RootTaskDemo.Kernel
