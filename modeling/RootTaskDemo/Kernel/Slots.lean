import RootTaskDemo.Kernel.Allocator
import RootTaskDemo.Kernel.Frame
import RootTaskDemo.Kernel.Walk

namespace RootTaskDemo.Kernel

open Common Lib Thread
open Function (update_self update_of_ne)

variable {ν α : Type} {platform : Platform}
variable {invariant : KernelState ν → Prop} {slot : CPtr} {program : KernelM ν (Except Sel4Error α)}

/-! Three uses of the slots of the kernel thread: the allocator hands them out one
after the other, a message brings a capability into the receive slot, and helpers
borrow the temporary slot. -/

def defaultEmptySlotIndex : CPtr := 32

def kernelThreadSlotNums : Nat := 1 <<< 10

def defaultThreadRecvSlot : CPtr := kernelThreadSlotNums - 1

/-- The slots that are left, up to the receive slot, are empty, and so is the temporary one. -/
structure Vacant (state : KernelState ν) : Prop where
  start : defaultEmptySlotIndex ≤ state.emptySlots.1
  stop : state.emptySlots.2 = kernelThreadSlotNums
  left : ∀ slot, state.emptySlots.1 ≤ slot → slot < defaultThreadRecvSlot → state.cspace slot = none
  temp : state.cspace tempSlot = none

def Excused (fault : Fault) (state : KernelState ν) : Prop :=
  fault = destinationTaken → defaultThreadRecvSlot < state.emptySlots.1

variable {state before after : KernelState ν}

theorem Excused.other {fault : Fault} (other : fault ≠ destinationTaken) : Excused fault state :=
  fun same => absurd same other

theorem Vacant.ne (vacant : Vacant state) {cap : Cap} (found : state.cspace slot = some cap) :
    slot ≠ tempSlot ∧ (state.emptySlots.1 ≤ slot → ¬ slot < defaultThreadRecvSlot) := by
  refine ⟨?_, fun above below => ?_⟩
  · rintro rfl
    rw [vacant.temp] at found
    cases found
  · rw [vacant.left slot above below] at found
    cases found

theorem Vacant.same (vacant : Vacant before) (cspace : after.cspace = before.cspace)
    (emptySlots : after.emptySlots = before.emptySlots) : Vacant after := by
  refine ⟨emptySlots ▸ vacant.start, emptySlots ▸ vacant.stop, ?_, cspace ▸ vacant.temp⟩
  rw [cspace, emptySlots]
  exact vacant.left

def Lent (state : KernelState ν) : Prop := Vacant (state.setCap tempSlot none)

theorem Lent.changed {cap : Option Cap} (lent : Lent before)
    (cspace : after.cspace = Function.update before.cspace tempSlot cap)
    (emptySlots : after.emptySlots = before.emptySlots) :
    Lent after := by
  refine Vacant.same lent ?_ emptySlots
  rw [cspace_setCap, cspace_setCap, cspace, Function.update_idem]

theorem Vacant.lent (vacant : Vacant state) : Lent state := by
  refine vacant.same ?_ rfl
  rw [cspace_setCap, ← vacant.temp, Function.update_eq_self]

theorem Lent.emptied (lent : Lent before)
    (cspace : after.cspace = Function.update before.cspace tempSlot none)
    (emptySlots : after.emptySlots = before.emptySlots) : Vacant after :=
  Vacant.same lent cspace emptySlots

theorem Vacant.changed (vacant : Vacant before) {cap : Option Cap}
    (cspace : after.cspace = Function.update before.cspace slot cap)
    (emptySlots : after.emptySlots = before.emptySlots)
    (outside : cap = none ∨ slot ≠ tempSlot ∧ (before.emptySlots.1 ≤ slot → ¬ slot < defaultThreadRecvSlot)) :
    Vacant after := by
  have kept : ∀ other, before.cspace other = none →
      (other = tempSlot ∨ before.emptySlots.1 ≤ other ∧ other < defaultThreadRecvSlot) → after.cspace other = none := by
    intro other free place
    rw [cspace]
    by_cases here : other = slot
    · subst here
      rw [update_self]
      rcases outside with emptied | ⟨notTemp, notLeft⟩
      · exact emptied
      · rcases place with temp | ⟨above, below⟩
        · exact absurd temp notTemp
        · exact absurd below (notLeft above)
    · rw [update_of_ne here]
      exact free
  refine ⟨emptySlots ▸ vacant.start, emptySlots ▸ vacant.stop, fun slot above below =>
    ?_, kept _ vacant.temp (Or.inl rfl)⟩
  rw [emptySlots] at above
  exact kept slot (vacant.left slot above below) (Or.inr ⟨above, below⟩)

def SlotSafe (program : KernelM ν α) : Prop := Guarded Vacant Excused program

theorem undisturbing_guarded
    (same : ∀ {before after}, invariant before → Undisturbed before after → invariant after)
    {program : KernelM ν α} (undisturbing : Undisturbing program) :
    Guarded invariant Excused program :=
  Guarded.of_each fun state holds => (undisturbing state).weaken (fun _ now => now)
    (fun _ _ step => same holds step) fun _ other _ => Excused.other other

def Answered (done : KernelState ν → Prop) (refused : Sel4Error → KernelState ν → Prop) :
    Except Sel4Error α → KernelState ν → Prop
  | .ok _ => done
  | .error error => refused error

theorem unwrapped_stops {pre done : KernelState ν → Prop}
    {stops : Fault → KernelState ν → Prop}
    (spec : MemTriple pre program (Answered done fun error => stops (.panicked (.invocation error)))
      (fun _ => False)) :
    Triple (fun world => pre world.memory) (unwrapped program) (fun _ world => done world.memory)
      (fun fault world => stops fault world.memory) := by
  have asked : Triple (fun world : KernelWorld ν => pre world.memory) program
      (fun result world => Answered done (fun error => stops (.panicked (.invocation error))) result world.memory)
      (fun fault world => stops fault world.memory) :=
    spec.triple.weaken (fun _ holds => holds) (fun _ _ holds => holds) fun _ _ never => never.elim
  refine asked.bind fun result => ?_
  cases result with
  | ok value => exact Triple.pure fun _ holds => holds
  | error error => exact fun _ holds => holds

theorem unwrapped_guarded
    (spec : ∀ state, invariant state → Delivers state program
      (Answered invariant fun error _ => error ≠ .deleteFirst)) :
    Guarded invariant Excused (unwrapped program) := by
  refine Guarded.fixed fun state holds =>
    unwrapped_stops ((spec state holds).weaken (fun _ same => same) ?_ fun _ never => never)
  intro result after holds
  cases result with
  | ok value => exact holds
  | error error => exact Excused.other fun same => holds (Panic.invocation.inj (Fault.panicked.inj same))

structure KernelState.Changes (before : KernelState ν) (cap : CPtr) (after : KernelState ν) : Prop where
  frame : ∃ object mapped, before.cspace cap = some (.frame object mapped)
  cspace : ∃ changed, after.cspace = Function.update before.cspace cap changed
  emptySlots : after.emptySlots = before.emptySlots

theorem Vacant.changes (vacant : Vacant before) {cap : CPtr} (changes : before.Changes cap after) :
    Vacant after := by
  obtain ⟨⟨object, mapped, found⟩, ⟨changed, cspace⟩, emptySlots⟩ := changes
  exact vacant.changed cspace emptySlots (Or.inr (vacant.ne found))

theorem frameMap_unrefused (state : KernelState ν) (cap vspace : CPtr) (vaddr : Nat)
    (rights : CapRights) :
    Delivers state (frameMap platform cap vspace vaddr rights)
      (Answered (state.Changes cap) fun error after => after = state ∧ error ≠ .deleteFirst ∧ (error = .failedLookup →
        ∀ space, state.cspace vspace = some (.vspace space) → (missingLevel platform (state.vspaces space) vaddr).isSome)) := by
  refine .read_bind ?_
  rintro state rfl
  split
  · rename_i object mapped space capEq spaceEq
    split
    · exact .pure fun _ same => ⟨same, by decide, by rintro ⟨⟩⟩
    · split
      · exact .pure fun _ same => ⟨same, by decide, by rintro ⟨⟩⟩
      · split
        · exact .pure fun _ same => ⟨same, by decide, by rintro ⟨⟩⟩
        · split
          · exact .pure fun _ same => ⟨same, by decide, by rintro ⟨⟩⟩
          · split
            · rename_i missing
              refine .pure fun _ same => ⟨same, by decide, fun _ other otherEq => ?_⟩
              rw [spaceEq] at otherEq
              cases otherEq
              exact missing
            · refine .update_bind (.pure ?_)
              rintro _ rfl
              exact ⟨⟨object, mapped, capEq⟩, ⟨_, rfl⟩, rfl⟩
  · exact .pure fun _ same => ⟨same, by decide, by rintro ⟨⟩⟩

theorem frameMap_guarded {cap : CPtr}
    (changes : ∀ {before after}, invariant before → before.Changes cap after → invariant after)
    (vspace : CPtr) (vaddr : Nat) (rights : CapRights) :
    Guarded invariant Excused (unwrapped (frameMap platform cap vspace vaddr rights)) := by
  refine unwrapped_guarded fun state holds =>
    (frameMap_unrefused state cap vspace vaddr rights).weaken (fun _ same => same)
    ?_ fun _ never => never
  intro result after spec
  cases result with
  | ok value => exact changes holds spec
  | error error => exact spec.2.1

theorem frameUnmap_unrefused (state : KernelState ν) (cap : CPtr) :
    Delivers state (frameUnmap cap) (Answered (state.Changes cap) fun error _ => error ≠ .deleteFirst) := by
  refine .read_bind ?_
  rintro state rfl
  split
  · rename_i object mapped capEq
    refine .update_bind (.pure ?_)
    rintro _ rfl
    obtain ⟨vspaces, unmaps⟩ := unmapFrame_frame state object mapped
    rw [unmaps]
    exact ⟨⟨object, mapped, capEq⟩, ⟨some (.frame object none), rfl⟩, rfl⟩
  · exact .pure fun _ _ => (by decide : Sel4Error.invalidCapability ≠ .deleteFirst)

theorem frameUnmap_guarded {cap : CPtr}
    (changes : ∀ {before after}, invariant before → before.Changes cap after → invariant after) :
    Guarded invariant Excused (unwrapped (frameUnmap cap)) := by
  refine unwrapped_guarded fun state holds =>
    (frameUnmap_unrefused state cap).weaken (fun _ same => same)
    ?_ fun _ never => never
  intro result after spec
  cases result with
  | ok value => exact changes holds spec
  | error error => exact spec

theorem cnodeDelete_slotSafe (slot : CPtr) : SlotSafe (cnodeDelete platform slot : KernelM ν Unit) :=
  Guarded.of_each fun state vacant => (cnodeDelete_frame state slot).weaken (fun _ same => same)
    (by rintro _ _ ⟨vspaces, rfl⟩; exact vacant.changed rfl rfl (Or.inl rfl)) fun _ never => never.elim

structure KernelState.Fills (before : KernelState ν) (dest : CPtr) (after : KernelState ν) : Prop where
  free : before.cspace dest = none
  cspace : ∃ cap, after.cspace = Function.update before.cspace dest (some cap)
  emptySlots : after.emptySlots = before.emptySlots

def KernelState.Refuses (before : KernelState ν) (dest : CPtr) (error : Sel4Error)
    (after : KernelState ν) : Prop :=
  after = before ∧ (error = .deleteFirst → before.cspace dest ≠ none)

theorem cnodeCopy_fills (state : KernelState ν) (dest src : CPtr) :
    Delivers state (cnodeCopy dest src) (Answered (state.Fills dest) (state.Refuses dest)) := by
  refine .read_bind ?_
  rintro state rfl
  split
  · rename_i cap found
    exact .pure fun _ same => ⟨same, fun _ free => by rw [found] at free; cases free⟩
  · exact .pure fun _ same => ⟨same, by rintro ⟨⟩⟩
  · exact .pure fun _ same => ⟨same, by rintro ⟨⟩⟩
  · rename_i free _
    refine .update_bind (.pure ?_)
    rintro _ rfl
    exact ⟨free, ⟨_, rfl⟩, rfl⟩
  · rename_i free _
    refine .update_bind (.pure ?_)
    rintro _ rfl
    exact ⟨free, ⟨_, rfl⟩, rfl⟩

theorem untypedRetype_fills (state : KernelState ν) (type : ObjectType) (dest : CPtr) :
    Delivers state (untypedRetype platform type dest) (Answered (state.Fills dest) (state.Refuses dest)) := by
  refine .read_bind ?_
  rintro state rfl
  dsimp only
  split
  · exact .pure fun _ same => ⟨same, by rintro ⟨⟩⟩
  · split
    · rename_i taken
      exact .pure fun _ same => ⟨same, fun _ free => by rw [free] at taken; cases taken⟩
    · rename_i free
      split
      · exact .pure fun _ same => ⟨same, by rintro ⟨⟩⟩
      · refine .update_bind (.pure ?_)
        rintro _ rfl
        exact ⟨Option.not_isSome_iff_eq_none.mp free, ⟨_, rfl⟩, rfl⟩

structure Handed (slot : CPtr) (state : KernelState ν) : Prop where
  start : defaultEmptySlotIndex ≤ slot
  range : state.emptySlots = (slot + 1, kernelThreadSlotNums)
  left : ∀ other, slot ≤ other → other < defaultThreadRecvSlot → state.cspace other = none
  temp : state.cspace tempSlot = none

theorem Handed.filled (handed : Handed slot before) (fills : before.Fills slot after) :
    Vacant after := by
  obtain ⟨-, ⟨cap, cspace⟩, emptySlots⟩ := fills
  have notTemp : tempSlot ≠ slot := Nat.ne_of_lt (Nat.lt_of_lt_of_le (by decide) handed.start)
  rw [handed.range] at emptySlots
  refine ⟨?_, by rw [emptySlots], fun other above below => ?_, ?_⟩
  · rw [emptySlots]
    exact Nat.le_succ_of_le handed.start
  · rw [emptySlots] at above
    rw [cspace, update_of_ne (Nat.ne_of_gt above)]
    exact handed.left other (Nat.le_of_succ_le above) below
  · rw [cspace, update_of_ne notTemp]
    exact handed.temp

theorem Handed.excused (handed : Handed slot before) {error : Sel4Error}
    (refuses : before.Refuses slot error after) :
    Excused (.panicked (.invocation error)) after := by
  obtain ⟨rfl, refused⟩ := refuses
  intro same
  have taken := refused (Panic.invocation.inj (Fault.panicked.inj same))
  rw [handed.range]
  by_contra below
  exact taken (handed.left slot (Nat.le_refl slot) (Nat.lt_of_succ_le (Nat.not_lt.mp below)))

theorem allocateSlot_handed (vacant : Vacant state) :
    RunFrom state (allocateSlot platform)
      (fun slot after => Handed slot.2.2 after) (fun fault => fault ≠ destinationTaken) := by
  refine .read_bind ?_
  rintro state rfl
  dsimp only
  split
  · exact .stop fun _ _ => by rintro ⟨⟩
  · rename_i below
    -- all slots of the range lie inside the first node
    have start : 32 ≤ state.emptySlots.1 := vacant.start
    have stop : state.emptySlots.2 = 1024 := vacant.stop
    have inside : state.emptySlots.1 &&& 0xfff ≠ 0 := by
      rw [and_fff]
      omega
    rw [if_neg inside]
    refine .update_bind (.pure ?_)
    rintro _ rfl
    exact ⟨vacant.start, by rw [vacant.stop], vacant.left, vacant.temp⟩

theorem filled_slotSafe {hand : KernelM ν (Nat × Nat × CPtr)}
    {fill : CPtr → KernelM ν (Except Sel4Error Unit)}
    (hands : ∀ state, Vacant state → RunFrom state hand (fun slot after => Handed slot.2.2 after)
      (fun fault => fault ≠ destinationTaken))
    (fills : ∀ slot state, Delivers state (fill slot) (Answered (state.Fills slot) (state.Refuses slot))) :
    SlotSafe (do let slot ← hand; unwrapped (fill slot.2.2); return slot.2.2) := by
  have handed : Triple (fun world : KernelWorld ν => Vacant world.memory) hand
      (fun slot world => Handed slot.2.2 world.memory) (fun fault world => Excused fault world.memory) :=
    (MemTriple.fixed hands).triple.weaken (fun _ vacant => vacant) (fun _ _ spec => spec)
      fun _ _ other => Excused.other other
  have filled : ∀ slot, Triple (fun world : KernelWorld ν => Handed slot world.memory)
      (unwrapped (fill slot)) (fun _ world => Vacant world.memory) (fun fault world => Excused fault world.memory) := by
    refine fun slot => unwrapped_stops
      (.fixed fun state handed => (fills slot state).weaken (fun _ same => same) ?_
      fun _ never => never)
    intro result after spec
    cases result with
    | ok value => exact handed.filled spec
    | error error => exact handed.excused spec
  exact handed.bind fun slot => (filled slot.2.2).bind fun _ => Triple.pure fun _ vacant => vacant

theorem allocateAndRetype_slotSafe (type : ObjectType) :
    SlotSafe (allocateAndRetype platform type : KernelM ν CPtr) :=
  filled_slotSafe (fun _ => allocateSlot_handed) fun slot state => untypedRetype_fills state type slot

theorem copyToNew_slotSafe (cap : CPtr) : SlotSafe (copyToNew platform cap : KernelM ν CPtr) :=
  filled_slotSafe (fun _ vacant => .locked (allocateSlot_handed vacant)) fun slot state =>
    cnodeCopy_fills state slot cap

theorem Allocated.missing {type : ObjectType} (allocated : Allocated type slot before after)
    {space : ObjId} {vaddr : Nat}
    (missing : (missingLevel platform (before.vspaces space) vaddr).isSome) :
    (missingLevel platform (after.vspaces space) vaddr).isSome := by
  rw [allocated.vspaces]
  by_cases here : space = slot
  · rw [here, update_self]
    rw [missingLevel, List.find?_isSome] at missing ⊢
    obtain ⟨level, member, -⟩ := missing
    exact ⟨level, member, rfl⟩
  · rw [update_of_ne here]
    exact missing

theorem ptMap_slotSafe {cap vspace : CPtr} {vaddr : Nat}
    (missing : ∀ space, state.cspace vspace = some (.vspace space) →
      (missingLevel platform (state.vspaces space) vaddr).isSome) (vacant : Vacant state) :
    Triple (fun world => world.memory = state) (unwrapped (ptMap platform cap vspace vaddr))
      (fun _ world => Vacant world.memory) (fun fault world => Excused fault world.memory) := by
  have spec : Delivers state (ptMap platform cap vspace vaddr)
      (Answered Vacant fun error => Excused (.panicked (.invocation error))) := by
    refine .read_bind ?_
    rintro state rfl
    split
    · rename_i object space capEq spaceEq
      split
      · rename_i absent
        have present := missing space spaceEq
        rw [absent] at present
        cases present
      · refine .update_bind (.pure ?_)
        rintro _ rfl
        exact vacant.changed rfl rfl (Or.inr (vacant.ne capEq))
    · exact .pure fun _ _ => Excused.other (by rintro ⟨⟩)
  exact unwrapped_stops spec

theorem mapPageLoop_slotSafe (vaddr : Nat) (page : CPtr) (tries : Nat) (self : Sel4Task) :
    SlotSafe (Sel4Task.mapPageLoop platform vaddr page tries self : KernelM ν _) := by
  induction tries generalizing self with
  | zero => exact Guarded.pure
  | succ tries ih =>
    refine Guarded.fixed fun state vacant => ?_
    refine Triple.bind ((frameMap_unrefused state page self.vspace vaddr .all).triple.weaken (fun _ same => same)
      (fun _ _ spec => spec) fun _ _ never => never.elim) fun result => ?_
    cases result with
    | ok value => exact Triple.pure fun world changes => vacant.changes changes
    | error error =>
      by_cases table : error = .failedLookup
      · subst table
        rintro world ⟨rfl, -, missing⟩
        -- the new table goes where one was missing
        have allocated : Triple (fun now => now.memory = world.memory) (allocate platform .pageTable)
            (fun slot now => Vacant now.memory ∧ Allocated .pageTable slot world.memory now.memory)
            (fun fault now => Excused fault now.memory) :=
          (Triple.both (Guarded.locked (allocateAndRetype_slotSafe .pageTable))
            (allocate_spec world.memory .pageTable).triple).weaken (fun _ same => ⟨same ▸ vacant, same⟩)
            (fun _ _ spec => spec) fun _ _ fault => fault.1
        refine (allocated.bind fun slot => ?_) world rfl
        rintro now ⟨vacantNow, made⟩
        refine (Triple.bind (ptMap_slotSafe (fun space found => ?_) vacantNow) fun _ => ih _) now rfl
        have older : self.vspace ≠ slot := by
          rintro here
          rw [made.cspace, here, update_self] at found
          cases found
        rw [made.cspace, update_of_ne older] at found
        exact made.missing (missing rfl space found)
      · have other : ∀ world : KernelWorld ν, error ≠ .deleteFirst →
            Excused (.panicked (.invocation error)) world.memory := fun world different =>
          Excused.other fun same => different (Panic.invocation.inj (Fault.panicked.inj same))
        cases error with
        | failedLookup => exact absurd rfl table
        | _ => exact fun world spec => other world spec.2.1

theorem withPage_slotSafe (cap : CPtr) {body : KernelM ν α} (inside : Undisturbing body) :
    SlotSafe (withPage platform cap body) := by
  have copied : Triple (fun world : KernelWorld ν => Vacant world.memory)
      (unwrapped (cnodeCopy tempSlot cap)) (fun _ world => Lent world.memory)
        (fun fault world => Excused fault world.memory) := by
    refine unwrapped_stops (.fixed fun state vacant =>
      (cnodeCopy_fills state tempSlot cap).weaken (fun _ same => same)
      ?_ fun _ never => never)
    intro result after spec
    cases result with
    | ok value =>
      obtain ⟨-, ⟨copy, cspace⟩, emptySlots⟩ := spec
      exact vacant.lent.changed cspace emptySlots
    | error error =>
      exact Excused.other fun same => spec.2 (Panic.invocation.inj (Fault.panicked.inj same)) vacant.temp
  have changes : ∀ {before after : KernelState ν}, Lent before → before.Changes tempSlot after → Lent after := by
    rintro before after lent ⟨-, ⟨changed, cspace⟩, emptySlots⟩
    exact lent.changed cspace emptySlots
  have same : ∀ {before after : KernelState ν}, Lent before → Undisturbed before after → Lent after := by
    intro before after lent step
    refine Vacant.same lent ?_ step.emptySlots
    rw [cspace_setCap, cspace_setCap, step.cspace]
  have seated : Guarded Lent Excused (withSeat platform tempSlot platform.pageSeat body) :=
    (frameMap_guarded changes _ _ _).bind fun _ => (undisturbing_guarded same inside).bind fun _ =>
      (frameUnmap_guarded changes).bind fun _ => Guarded.pure
  have deleted : Triple (fun world : KernelWorld ν => Lent world.memory)
      (cnodeDelete platform tempSlot) (fun _ world => Vacant world.memory)
        (fun fault world => Excused fault world.memory) :=
    (.fixed fun state lent => (cnodeDelete_frame state tempSlot).weaken (fun _ now => now)
      (by rintro _ _ ⟨vspaces, rfl⟩; exact lent.emptied rfl rfl) fun _ never => never :
        MemTriple Lent (cnodeDelete platform tempSlot) (fun _ => Vacant) (fun _ => False)).triple.weaken
      (fun _ lent => lent) (fun _ _ vacant => vacant) fun _ _ never => never.elim
  exact copied.bind fun _ => Triple.bind seated fun _ => deleted.bind fun _ =>
    Triple.pure fun _ vacant => vacant

theorem slotSafe_walk : Walk platform (fun {_ : Type} (program : KernelM ν _) => SlotSafe program) where
  bind first rest := Guarded.bind first rest
  locked _ _ body := Guarded.locked body
  reply _ := Guarded.reply
  laws := undisturbing_calm
  quiet inside := undisturbing_guarded (fun vacant step => vacant.same step.cspace step.emptySlots)
    inside
  retype := allocateAndRetype_slotSafe
  copied := copyToNew_slotSafe
  frameMap _ := frameMap_guarded fun vacant changes => vacant.changes changes
  frameUnmap _ := frameUnmap_guarded fun vacant changes => vacant.changes changes
  mapPageLoop := mapPageLoop_slotSafe
  withPage := withPage_slotSafe
  delete := cnodeDelete_slotSafe

end RootTaskDemo.Kernel
