import RootTaskDemo.Kernel.NewTasks
import RootTaskDemo.Kernel.Walk

namespace RootTaskDemo.Kernel

open Common Lib Thread

variable {ν α : Type} {platform : Platform} {before after state origin : KernelState ν}

/-! The threads that seL4 knows of. While a task is made, the threads of the others stay
as they were configured. -/

def TcbsKept (before after : KernelState ν) : Prop :=
  ∀ tcb, before.cspace tcb = some (.tcb tcb) → after.cspace tcb = some (.tcb tcb) ∧ after.tcbs tcb =
    before.tcbs tcb

instance : IsPreorder (KernelState ν) TcbsKept where
  refl _ _ found := ⟨found, rfl⟩
  trans _ _ _ first second tcb found := by
    obtain ⟨slot, same⟩ := first tcb found
    obtain ⟨slot', same'⟩ := second tcb slot
    exact ⟨slot', same'.trans same⟩

theorem TcbsKept.of_same (cspace : after.cspace = before.cspace) (tcbs : after.tcbs = before.tcbs) :
    TcbsKept before after := by
  intro tcb found
  rw [cspace, tcbs]
  exact ⟨found, rfl⟩

theorem TcbsKept.of_slot {slot : CPtr} {cap : Option Cap}
    (cspace : after.cspace = Function.update before.cspace slot cap)
    (other : before.cspace slot ≠ some (.tcb slot))
    (tcbs : ∀ tcb, tcb ≠ slot → after.tcbs tcb = before.tcbs tcb) :
    TcbsKept before after := by
  intro tcb found
  have different : tcb ≠ slot := by
    rintro rfl
    exact other found
  rw [cspace, Function.update_of_ne different]
  exact ⟨found, tcbs tcb different⟩

theorem storeByte_tcbs (address : Nat) (byte : UInt8) :
    Evolves TcbsKept (storeByte platform address byte : KernelM ν Unit) := by
  refine .bind .read fun state => ?_
  split
  · split
    · exact .stop
    · exact .update fun _ => .of_same rfl rfl
  · exact .update fun _ => .of_same rfl rfl

theorem allocateSlot_tcbs : Evolves TcbsKept (allocateSlot platform : KernelM ν _) := by
  refine fun state => (allocateSlot_frame state).partly ?_
  rintro _ _ ⟨emptySlots, watermark, cnodes, rfl⟩
  exact .of_same rfl rfl

theorem allocateAndRetype_tcbs (type : ObjectType) :
    Evolves TcbsKept (allocateAndRetype platform type : KernelM ν CPtr) := by
  refine fun state => (allocateAndRetype_spec state type).partly fun slot after allocated => ?_
  refine .of_slot allocated.cspace ?_ allocated.tcbs
  rw [allocated.free]
  exact nofun

theorem frameMap_tcbs (cap vspace : CPtr) (vaddr : Nat) (rights : CapRights) :
    Evolves TcbsKept (frameMap platform cap vspace vaddr rights : KernelM ν _) := by
  refine fun state => (frameMap_spec state cap vspace vaddr rights).partly fun result after spec => ?_
  cases result with
  | ok value =>
    obtain ⟨object, space, mapped, -, frame, -, rfl⟩ := spec
    refine .of_slot rfl ?_ fun _ _ => rfl
    rw [frame]
    exact nofun
  | error error =>
    cases spec
    exact refl state

theorem frameUnmap_tcbs (cap : CPtr) :
    Evolves TcbsKept (unwrapped (frameUnmap cap) : KernelM ν Unit) := by
  refine fun state => (unwrapped_spec (frameUnmap_spec state cap) fun _ => trivial).partly ?_
  rintro value after ⟨object, mapped, frame, rfl⟩
  obtain ⟨vspaces, unmaps⟩ := unmapFrame_frame state object mapped
  rw [unmaps]
  refine .of_slot rfl ?_ fun tcb _ => rfl
  rw [frame]
  exact nofun

theorem ptMap_tcbs (cap vspace : CPtr) (vaddr : Nat) :
    Evolves TcbsKept (unwrapped (ptMap platform cap vspace vaddr) : KernelM ν Unit) := by
  refine fun state => (unwrapped_spec (ptMap_spec state cap vspace vaddr) fun _ => trivial).partly ?_
  rintro value after ⟨object, space, level, table, -, -, rfl⟩
  refine .of_slot rfl ?_ fun _ _ => rfl
  rw [table]
  exact nofun

theorem cnodeCopy_tcbs (dest src : CPtr) :
    Evolves TcbsKept (unwrapped (cnodeCopy dest src) : KernelM ν Unit) := by
  refine fun state => (unwrapped_spec (cnodeCopy_spec state dest src) fun _ => trivial).partly ?_
  rintro value after ⟨free, cap, rfl, -⟩
  refine .of_slot rfl ?_ fun _ _ => rfl
  rw [free]
  exact nofun

theorem mapPageLoop_tcbs (vaddr : Nat) (page : CPtr) (tries : Nat) (self : Sel4Task) :
    Evolves TcbsKept (Sel4Task.mapPageLoop platform vaddr page tries self : KernelM ν _) := by
  have table : Evolves TcbsKept (allocate platform .pageTable : KernelM ν CPtr) :=
    .locked (allocateAndRetype_tcbs _)
  induction tries generalizing self with
  | zero => exact .pure
  | succ tries ih =>
    refine (frameMap_tcbs _ _ _ _).bind fun result => ?_
    cases result with
    | ok _ => exact .pure
    | error error =>
      cases error with
      | failedLookup => exact table.bind fun pt => (ptMap_tcbs _ _ _).bind fun _ => ih _
      | _ => exact .stop

theorem withPage_tcbs (cap : CPtr) {body : KernelM ν α} (inside : Evolves TcbsKept body) :
    Evolves TcbsKept (withPage platform cap body) := by
  have seated : Evolves TcbsKept (withSeat platform tempSlot platform.pageSeat body) :=
    (unwrapped_evolves (frameMap_tcbs _ _ _ _)).bind fun _ => inside.bind fun _ =>
      (frameUnmap_tcbs _).bind fun _ => .pure
  intro state
  refine (unwrapped_spec (cnodeCopy_spec state tempSlot cap) fun _ => trivial).bind fun _ => .fixed ?_
  rintro copied ⟨free, copy, rfl, -⟩
  refine (seated _).bind fun value => .fixed fun worked kept => ?_
  refine (cnodeDelete_frame worked tempSlot).raising.bind fun _ => .pure ?_
  rintro after ⟨vspaces, deleted⟩ tcb found
  have cspace : after.cspace = Function.update worked.cspace tempSlot none := by rw [deleted]
  have tcbs : after.tcbs = worked.tcbs := by rw [deleted]
  have different : tcb ≠ tempSlot := by
    rintro rfl
    rw [free] at found
    cases found
  rw [cspace, tcbs, Function.update_of_ne different]
  refine kept tcb ?_
  rw [cspace_setCap, Function.update_of_ne different]
  exact found

theorem tcbs_walk : TaskWalk platform (fun {_ : Type} (program : KernelM ν _) =>
    Evolves TcbsKept program)
    (fun {_ : Type} (program : KernelM ν _) => Evolves TcbsKept program) where
  laws := ⟨Evolves.bind, .pure, fun _ => .stop, .read, storeByte_tcbs, .update fun _ => .of_same rfl rfl⟩
  quiet kept := kept
  bind := Evolves.bind
  locked _ _ := .locked
  retype := allocateAndRetype_tcbs
  copied _ := (Evolves.locked allocateSlot_tcbs).bind fun _ => (cnodeCopy_tcbs _ _).bind fun _ => .pure
  frameMap _ _ _ _ := unwrapped_evolves (frameMap_tcbs _ _ _ _)
  frameUnmap := frameUnmap_tcbs
  mapPageLoop := mapPageLoop_tcbs
  withPage cap _ := withPage_tcbs cap

theorem changeTcb_spec (state : KernelState ν) {tcb : CPtr}
    (found : state.cspace tcb = some (.tcb tcb)) (change : Tcb → Tcb) :
    Delivers state (unwrapped (changeTcb tcb change))
      fun _ after => after = { state with tcbs := Function.update state.tcbs tcb (change (state.tcbs tcb)) } := by
  have changed : Delivers state (changeTcb tcb change)
      fun result after => result = .ok () ∧
        after = { state with tcbs := Function.update state.tcbs tcb (change (state.tcbs tcb)) } := by
    refine .read_bind ?_
    rintro _ rfl
    rw [found]
    exact .update_bind (.pure fun _ same => ⟨rfl, same⟩)
  refine changed.bind fun result => .fixed ?_
  rintro _ ⟨rfl, rfl⟩
  exact .pure fun _ same => same

end RootTaskDemo.Kernel
