import RootTaskDemo.Kernel.SyscallBooks

namespace RootTaskDemo.Kernel

open Common Lib Thread
open Function (update_self update_of_ne)

variable {ν α : Type} {platform : Platform} {lossless : Prop}
variable {after before : KernelState ν} {slot : CPtr} {program : KernelM ν α} {through : Nat → Prop}
variable {strict : Prop} {body : KernelM ν α} {type : ObjectType}

/-! Which slots hold a frame, and what changes that. -/

def HasFrame (state : KernelState ν) (slot : CPtr) : Prop :=
  ∃ frame mapped, state.cspace slot = some (.frame frame mapped)

theorem hasFrame_iff {state : KernelState ν} :
    HasFrame state slot ↔ ∃ frame, state.frameOf slot = some frame := by
  simp only [HasFrame, frameOf_iff]

/-- Every frame stays in its slot, and every address space keeps its capabilities. A
frame that comes is named by a slot that was free; none comes where none may be lost. -/
structure Steady (lossless : Prop) (before after : KernelState ν) : Prop where
  frames : ∀ slot frame, before.frameOf slot = some frame → after.frameOf slot = some frame
  fresh : ∀ slot frame, after.frameOf slot = some frame →
    before.frameOf slot = some frame ∨ ¬ lossless ∧ before.cspace slot = none ∧ frame = slot
  roots : ∀ slot space, before.cspace slot = some (.vspace space) → after.cspace slot =
    some (.vspace space)
  live : NoneFreed before after
  tasks : after.tasks = before.tasks
  counter : before.idCounter ≤ after.idCounter

instance : IsPreorder (KernelState ν) (Steady lossless) where
  refl _ := ⟨fun _ _ found => found, fun _ _ found => Or.inl found, fun _ _ found =>
    found, fun _ free => free, rfl,
    Nat.le_refl _⟩
  trans _ _ _ first second := by
    refine ⟨fun slot frame found => second.frames slot frame (first.frames slot frame found),
      fun slot frame found => ?_,
      fun slot space found => second.roots slot space (first.roots slot space found),
      fun slot free => first.live slot (second.live slot free), second.tasks.trans first.tasks,
      first.counter.trans second.counter⟩
    rcases second.fresh slot frame found with older | ⟨allowed, free, named⟩
    · exact first.fresh slot frame older
    · exact Or.inr ⟨allowed, first.live slot free, named⟩

theorem Steady.hasFrame (steady : Steady lossless before after)
    (has : HasFrame before slot) : HasFrame after slot := by
  obtain ⟨frame, found⟩ := hasFrame_iff.mp has
  exact hasFrame_iff.mpr ⟨frame, steady.frames slot frame found⟩

theorem Steady.hasFrame_iff (steady : Steady lossless before after) (strict : lossless) (slot : CPtr) :
    HasFrame after slot ↔ HasFrame before slot := by
  refine ⟨fun has => ?_, steady.hasFrame⟩
  obtain ⟨frame, found⟩ := Kernel.hasFrame_iff.mp has
  exact Kernel.hasFrame_iff.mpr ⟨frame, (steady.fresh slot frame found).resolve_right fun new =>
    new.1 strict⟩

theorem Steady.named (steady : Steady lossless before after) (named : FramesNamed before) :
    FramesNamed after := by
  intro slot frame mapped found
  rcases steady.fresh slot frame (frameOf_frame found) with older | ⟨_, _, here⟩
  · obtain ⟨mapped', older⟩ := frameOf_iff.mp older
    exact named slot frame mapped' older
  · exact here

theorem Steady.of_cspace (cspace : after.cspace = before.cspace) (tasks : after.tasks = before.tasks)
    (counter : before.idCounter ≤ after.idCounter) : Steady lossless before after := by
  have same : ∀ slot, after.frameOf slot = before.frameOf slot := fun slot => by
    unfold KernelState.frameOf
    rw [cspace]
  exact ⟨fun slot frame found => (same slot).trans found, fun slot frame found =>
    Or.inl ((same slot).symm.trans found),
    fun slot space found => by rw [cspace]; exact found, fun slot free => by
      rwa [cspace] at free, tasks, counter⟩

theorem DataOnly.steady
    (evolves : Evolves (DataOnly strict through) program) : Evolves (Steady lossless) program :=
  evolves.mono fun _ _ same => .of_cspace same.cspace same.tasks same.counter.ge

theorem Quiet.steady
    (quiet : Quiet strict through before after) : Steady lossless before after :=
  .of_cspace quiet.cspace quiet.tasks quiet.counter.ge

theorem Steady.mono {loose : Prop} (steady : Steady lossless before after)
    (weaker : loose → lossless) : Steady loose before after :=
  { steady with fresh := fun slot frame found =>
    (steady.fresh slot frame found).imp_right fun ⟨allowed, new⟩ =>
      ⟨fun strict => allowed (weaker strict), new⟩ }

def Steadily (lossless : Prop) (before after : KernelState ν) : Prop :=
  before.cspace kernelVSpace = some (.vspace kernelVSpace) → Steady lossless before after

instance : IsPreorder (KernelState ν) (Steadily lossless) where
  refl state _ := refl state
  trans _ _ _ first second root :=
    IsTrans.trans _ _ _ (first root) (second ((first root).roots _ _ root))

theorem Steady.steadily (evolves : Evolves (Steady lossless) program) :
    Evolves (Steadily lossless) program := evolves.mono fun _ _ steady _ => steady

theorem Quietly.steadily
    (evolves : Evolves (Quietly strict through) program) : Evolves (Steadily lossless) program :=
  evolves.mono fun _ _ quiet root => (quiet root).steady

theorem Steady.of_update {cap : Cap}
    (cspace : after.cspace = Function.update before.cspace slot (some cap))
    (tasks : after.tasks = before.tasks) (counter : after.idCounter = before.idCounter)
    (frames : ∀ frame, (∃ mapped, cap = .frame frame mapped) ↔ before.frameOf slot = some frame)
    (roots : ∀ space, before.cspace slot ≠ some (.vspace space)) :
    Steady lossless before after := by
  have same : ∀ other frame, after.frameOf other = some frame ↔ before.frameOf other = some frame := by
    intro other frame
    by_cases here : other = slot
    · subst here
      rw [← frames, frameOf_iff, cspace, update_self]
      simp only [Option.some.injEq]
    · rw [frameOf_iff, frameOf_iff, cspace, update_of_ne here]
  refine ⟨fun other frame => (same other frame).mpr, fun other frame found =>
    Or.inl ((same other frame).mp found),
    fun other space found => ?_, fun other free => free_of_update (cspace ▸ free), tasks, counter.ge⟩
  have different : other ≠ slot := by
    rintro rfl
    exact roots space found
  rw [cspace, update_of_ne different]
  exact found

theorem Steady.of_frame {frame : ObjId} {mapped mapped' : Option (ObjId × Nat)}
    (found : before.cspace slot = some (.frame frame mapped))
    (cspace : after.cspace = Function.update before.cspace slot (some (.frame frame mapped')))
    (tasks : after.tasks = before.tasks) (counter : after.idCounter = before.idCounter) :
    Steady lossless before after :=
  .of_update cspace tasks counter (by simp [frameOf_frame found]) (by simp [found])

theorem Steady.of_other {cap : Cap} (missing : before.frameOf slot = none)
    (cspace : after.cspace = Function.update before.cspace slot (some cap))
    (tasks : after.tasks = before.tasks) (counter : after.idCounter = before.idCounter)
    (other : ∀ frame mapped, cap ≠ .frame frame mapped)
    (roots : ∀ space, before.cspace slot ≠ some (.vspace space)) : Steady lossless before after :=
  .of_update cspace tasks counter (by simp [missing, other]) roots

theorem frameMap_steady (cap vspace : CPtr) (vaddr : Nat) (rights : CapRights) :
    Evolves (Steady lossless) (frameMap platform cap vspace vaddr rights : KernelM ν _) := by
  refine fun state => (frameMap_spec state cap vspace vaddr rights).partly ?_
  intro result after spec
  cases result with
  | ok _ =>
    obtain ⟨object, space, mapped, _, found, _, rfl⟩ := spec
    exact .of_frame found rfl rfl rfl
  | error error =>
    obtain rfl : after = state := spec
    exact refl after

theorem frameUnmap_steady (cap : CPtr) :
    Evolves (Steady lossless) (unwrapped (frameUnmap cap) : KernelM ν Unit) := by
  refine fun state => (unwrapped_spec (frameUnmap_spec state cap) fun _ => trivial).partly ?_
  rintro _ after ⟨object, mapped, found, rfl⟩
  obtain ⟨vspaces, unmaps⟩ := unmapFrame_frame state object mapped
  rw [unmaps]
  exact .of_frame found rfl rfl rfl

theorem ptMap_steady (cap vspace : CPtr) (vaddr : Nat) :
    Evolves (Steady lossless) (unwrapped (ptMap platform cap vspace vaddr) : KernelM ν Unit) := by
  refine fun state => (unwrapped_spec (ptMap_spec state cap vspace vaddr) fun _ => trivial).partly ?_
  rintro _ after ⟨object, space, level, found, _, _, rfl⟩
  exact .of_other (by simp [KernelState.frameOf, found]) rfl rfl rfl nofun (by simp [found])

theorem Allocated.steady (allocated : Allocated type slot before after)
    (other : lossless → type ≠ .granule) : Steady lossless before after := by
  have missing : before.frameOf slot = none := by simp [KernelState.frameOf, allocated.free]
  have roots : ∀ space, before.cspace slot ≠ some (.vspace space) := by simp [allocated.free]
  cases type with
  | granule =>
    refine ⟨fun known frame found => ?_, fun known frame found => ?_, fun known space => allocated.caps,
      fun known => allocated.free_of_free, allocated.tasks, allocated.counter.ge⟩
    · obtain ⟨mapped, found⟩ := frameOf_iff.mp found
      exact frameOf_frame (allocated.caps found)
    · by_cases here : known = slot
      · subst here
        refine Or.inr ⟨fun strict => other strict rfl, allocated.free, ?_⟩
        obtain ⟨mapped, found⟩ := frameOf_iff.mp found
        rw [allocated.cspace, update_self] at found
        cases found
        rfl
      · rw [frameOf_iff, allocated.cspace, update_of_ne here, ← frameOf_iff] at found
        exact Or.inl found
  | pageTable | vspace | tcb | cnode sizeBits | endpoint | notification =>
    exact .of_other missing allocated.cspace allocated.tasks allocated.counter (by simp [ObjectType.cap]) roots

theorem allocate_steady (other : lossless → type ≠ .granule) :
    Evolves (Steady lossless) (allocate platform type : KernelM ν CPtr) :=
  fun state => (allocate_spec state type).partly fun _ _ allocated => allocated.steady other

theorem withSeat_steady (cap : CPtr) (seat : Nat) (inside : Evolves (Steady lossless) body) :
    Evolves (Steady lossless) (withSeat platform cap seat body) :=
  (unwrapped_evolves (frameMap_steady _ _ _ _)).bind fun _ => inside.bind fun _ =>
    (frameUnmap_steady cap).bind fun _ =>
    Evolves.pure

theorem mapPageLoop_steady (vaddr : Nat) (page : CPtr) (tries : Nat) (self : Sel4Task) :
    Evolves (Steady lossless) (Sel4Task.mapPageLoop platform vaddr page tries self : KernelM ν _) := by
  induction tries generalizing self with
  | zero => exact .pure
  | succ tries ih =>
    refine (frameMap_steady _ _ _ _).bind fun result => ?_
    cases result with
    | ok _ => exact .pure
    | error error =>
      cases error with
      | failedLookup =>
        exact (allocate_steady fun _ => by decide).bind fun _ => (ptMap_steady _ _ _).bind fun _ => ih _
      | _ => exact .stop

theorem mapPage_steady (self : Sel4Task) (vaddr : Nat) (page : CPtr) :
    Evolves (Steady lossless) (self.mapPage platform vaddr page : KernelM ν _) := by
  unfold Sel4Task.mapPage
  split
  · exact .stop
  · exact mapPageLoop_steady vaddr page _ self

theorem withPage_steady (cap : CPtr) (inside : Evolves (Steady lossless) body) :
    Evolves (Steady lossless) (withPage platform cap body) := by
  intro state
  refine (unwrapped_spec (cnodeCopy_spec state tempSlot cap) fun _ => trivial).bind fun _ => .fixed ?_
  rintro copied ⟨free, copy, rfl, _⟩
  refine (withSeat_steady tempSlot platform.pageSeat inside _).bind fun value =>
    .fixed fun worked steady => ?_
  refine (cnodeDelete_frame worked tempSlot).raising.bind fun _ => .pure ?_
  rintro after ⟨vspaces, deleted⟩
  have cspaceEq : after.cspace = Function.update worked.cspace tempSlot none := by rw [deleted]
  have tasksEq : after.tasks = worked.tasks := by rw [deleted]
  have counterEq : after.idCounter = worked.idCounter := by rw [deleted]
  have emptied : after.cspace tempSlot = none := by rw [cspaceEq, update_self]
  have borrowed : ∀ {slot}, slot ≠ tempSlot → (state.setCap tempSlot (some copy)).cspace slot =
    state.cspace slot :=
    fun different => update_of_ne different ..
  have returned : ∀ {slot}, slot ≠ tempSlot → after.cspace slot = worked.cspace slot := by
    intro slot different
    rw [cspaceEq, update_of_ne different]
  refine ⟨fun slot frame found => ?_, fun slot frame found => ?_, fun slot space found =>
    ?_, fun slot isFree => ?_,
    tasksEq.trans steady.tasks, steady.counter.trans counterEq.ge⟩
  · have here : slot ≠ tempSlot := by
      rintro rfl
      simp [KernelState.frameOf, free] at found
    rw [frameOf_iff, ← borrowed here, ← frameOf_iff] at found
    rw [frameOf_iff, returned here, ← frameOf_iff]
    exact steady.frames slot frame found
  · have here : slot ≠ tempSlot := by
      rintro rfl
      simp [KernelState.frameOf, emptied] at found
    rw [frameOf_iff, returned here, ← frameOf_iff] at found
    have worked := steady.fresh slot frame found
    rw [borrowed here, frameOf_iff, borrowed here, ← frameOf_iff] at worked
    exact worked
  · have here : slot ≠ tempSlot := by
      rintro rfl
      rw [free] at found
      cases found
    rw [returned here]
    exact steady.roots slot space ((borrowed here).trans found)
  · by_cases here : slot = tempSlot
    · rw [here]
      exact free
    · exact (borrowed here).symm.trans (steady.live slot ((returned here).symm.trans isFree))

theorem clonePage_steady (newPageCap pageCap : CPtr) :
    Evolves (Steady lossless) (clonePage platform newPageCap pageCap : KernelM ν Unit) := by
  have copy : Evolves (DataOnly False anyPage)
      (copyBytes platform platform.pageSeat platform.extPageSeat pageSize : KernelM ν Unit) := copyBytes_dataOnly _ _ _
  exact withSeat_steady _ _ (withPage_steady _ (DataOnly.steady copy))

theorem tcb_steady (cap : CPtr) (change : Tcb → Tcb) :
    Evolves (Steady lossless) (unwrapped (changeTcb cap change) : KernelM ν Unit) :=
  DataOnly.steady (tcb_dataOnly cap change)

theorem tcbReadAllRegisters_steady (cap : CPtr) :
    Evolves (Steady lossless) (unwrapped (tcbReadAllRegisters cap) : KernelM ν _) :=
  have quiet : Evolves (DataOnly False noPage) (unwrapped (tcbReadAllRegisters cap) : KernelM ν _) :=
    tcbReadAllRegisters_dataOnly cap
  DataOnly.steady quiet

theorem genCap_steady (size item : Nat) (num : Option Nat) :
    Evolves (Steady False) (genCap platform size item num : KernelM ν CPtr) := by
  refine (allocate_steady False.elim).bind fun newCap =>
    (unwrapped_evolves (frameMap_steady _ _ _ _)).bind fun _ => ?_
  dsimp only
  split
  · exact .stop
  · exact (DataOnly.steady (copyBytes_dataOnly _ _ _ : Evolves (DataOnly False anyPage) _)).bind fun _ => .pure

theorem allowsRequests_steadily : AllowsRequests platform
    (Steadily False : KernelState ν → KernelState ν → Prop) :=
  ⟨Quietly.steadily, fun size item num => Steady.steadily (genCap_steady size item num)⟩

end RootTaskDemo.Kernel
