import RootTaskDemo.Kernel.BookRuns
import RootTaskDemo.Kernel.Slots

namespace RootTaskDemo.Kernel

open Common Lib Thread
open Function (update_self update_of_ne)

variable {ν α : Type} {platform : Platform}
variable {input : KernelInput} {env : Env ν}

/-! The kernel thread from its start: the allocator gets its range, the interrupt
handler comes with a message, and then the first task is started and served. -/

def serialDeviceIrq : Nat := 33

/-- `OBJ_ALLOCATOR.lock().init(..)` -/
def initAllocator (start stop : Nat) : KernelM ν Unit :=
  locked .objAllocator (update fun state => { state with emptySlots := (start, stop) })

/-- A capability that comes with a message is put into the receive slot if that is empty. -/
def receiveCap (slot : CPtr) (cap : Cap) : KernelM ν Unit :=
  update fun state => if (state.cspace slot).isNone then state.setCap slot (some cap) else state

def irqHandlerSetNotification (handler notification : CPtr) : KernelM ν (Except Sel4Error Unit) := do
  let state ← read
  match state.cspace handler, state.cspace notification with
  | some (.irqHandler _), some (.notification _) => return .ok ()
  | _, _ => return .error .invalidCapability

def irqHandlerAck (handler : CPtr) : KernelM ν (Except Sel4Error Unit) := do
  let state ← read
  match state.cspace handler with
  | some (.irqHandler _) => return .ok ()
  | _ => return .error .invalidCapability

/-- The root task answers the request and sends the handler, and an interrupt comes. -/
def testIrqWithCapTransfer (platform : Platform) : KernelM ν Unit := do
  let notification ← allocate platform .notification
  receiveCap defaultThreadRecvSlot (.irqHandler serialDeviceIrq)
  unwrapped (irqHandlerSetNotification defaultThreadRecvSlot notification)
  unwrapped (irqHandlerAck defaultThreadRecvSlot)

def main (env : Env ν) (inputs : List KernelInput) : KernelM ν Unit := do
  initAllocator defaultEmptySlotIndex kernelThreadSlotNums
  testIrqWithCapTransfer env.platform
  let ep ← allocate env.platform .endpoint
  kernelRun env (UInt64.ofNat ep) inputs

variable {state before after : KernelState ν}

/-- The thread as it is started: the slots it may use are empty. -/
structure Launched (state : KernelState ν) : Prop where
  free : ∀ slot, defaultEmptySlotIndex ≤ slot → slot < kernelThreadSlotNums → state.cspace slot = none
  temp : state.cspace tempSlot = none

theorem initAllocator_vacant : MemTriple (Launched : KernelState ν → Prop)
    (initAllocator defaultEmptySlotIndex kernelThreadSlotNums)
    (fun _ after => Vacant after ∧ after.emptySlots.1 = defaultEmptySlotIndex ∧
      after.cspace defaultThreadRecvSlot = none)
    (fun _ => False) := by
  refine .locked (.update fun state launched => ?_)
  have recv : state.cspace defaultThreadRecvSlot = none := launched.free _ (by decide) (by decide)
  exact ⟨⟨Nat.le_refl _, rfl, fun slot above below =>
    launched.free slot above (Nat.lt_succ_of_lt below), launched.temp⟩, rfl, recv⟩

theorem receiveCap_slotSafe (cap : Cap) :
    SlotSafe (receiveCap defaultThreadRecvSlot cap : KernelM ν Unit) := by
  refine Guarded.of_each fun state vacant => .update ?_
  rintro state rfl
  split
  · exact vacant.changed rfl rfl (Or.inr ⟨by decide, fun _ => Nat.lt_irrefl _⟩)
  · exact vacant

theorem irqHandlerSetNotification_undisturbing (handler notification : CPtr) :
    Undisturbing (unwrapped (irqHandlerSetNotification handler notification) : KernelM ν Unit) := by
  unfold unwrapped irqHandlerSetNotification
  simp only [bind_assoc]
  refine .bind .read fun state => ?_
  split
  · exact .pure
  · exact .panic (by rintro ⟨⟩)

theorem irqHandlerAck_undisturbing (handler : CPtr) :
    Undisturbing (unwrapped (irqHandlerAck handler) : KernelM ν Unit) := by
  unfold unwrapped irqHandlerAck
  simp only [bind_assoc]
  refine .bind .read fun state => ?_
  split
  · exact .pure
  · exact .panic (by rintro ⟨⟩)

theorem testIrqWithCapTransfer_slotSafe : SlotSafe
    (testIrqWithCapTransfer platform : KernelM ν Unit) := by
  have walk : Walk platform (fun {_ : Type} (program : KernelM ν _) => SlotSafe program) := slotSafe_walk
  refine walk.bind (walk.allocate _) fun notification => walk.bind (receiveCap_slotSafe _) fun _ => ?_
  exact walk.bind (walk.quiet (irqHandlerSetNotification_undisturbing _ _)) fun _ =>
    walk.quiet (irqHandlerAck_undisturbing _)

theorem kernelRun_slotSafe (env : Env ν) (ep : UInt64) (inputs : List KernelInput) :
    SlotSafe (kernelRun env ep inputs) := by
  have walk : Walk env.platform (fun {_ : Type} (program : KernelM ν _) => SlotSafe program) :=
    slotSafe_walk
  refine walk.bind (walk.startChild ep) fun _ => ?_
  induction inputs with
  | nil => exact walk.pure
  | cons input rest ih => exact walk.bind (walk.serve input) fun _ => ih

theorem main_guarded (env : Env ν) (inputs : List KernelInput) :
    Triple (fun world => Launched world.memory) (main env inputs) (fun _ world => Vacant world.memory)
      (fun fault world => Excused fault world.memory) := by
  have walk : Walk env.platform (fun {_ : Type} (program : KernelM ν _) => SlotSafe program) :=
    slotSafe_walk
  have started : SlotSafe (do
      testIrqWithCapTransfer env.platform
      let ep ← allocate env.platform .endpoint
      kernelRun env (UInt64.ofNat ep) inputs : KernelM ν Unit) :=
    walk.bind testIrqWithCapTransfer_slotSafe fun _ => walk.bind (walk.allocate _) fun _ =>
      kernelRun_slotSafe env _ inputs
  exact Triple.bind (initAllocator_vacant.triple.weaken (fun _ launched => launched)
    (fun _ _ spec => spec.1)
    fun _ _ never => never.elim) fun _ => started

def untilReceive (platform : Platform) : KernelM ν CPtr := do
  initAllocator defaultEmptySlotIndex kernelThreadSlotNums
  allocate platform .notification

theorem allocate_next (state : KernelState ν) (type : ObjectType) :
    Yields state (allocate platform type) fun slot _ => slot = state.emptySlots.1 := by
  have slot : Yields state (allocateSlot platform) fun slot _ => slot.2.2 = state.emptySlots.1 := by
    refine .read_bind ?_
    rintro state rfl
    dsimp only
    split
    · exact .stop fun _ _ => trivial
    · refine .update_bind ?_
      split
      · exact MemTriple.anything.bind fun _ => .pure fun _ _ => rfl
      · exact .pure fun _ _ => rfl
  exact .locked (slot.bind fun slot => .fixed fun _ same =>
    MemTriple.anything.bind fun _ => .pure fun _ _ => same)

theorem untilReceive_leaves : Leads (Launched : KernelState ν → Prop) (untilReceive platform)
    (fun _ after => after.cspace defaultThreadRecvSlot = none) := by
  refine (initAllocator_vacant.partly fun _ _ spec => spec).bind fun _ =>
    MemTriple.fixed fun state spec => ?_
  refine ((allocate_spec state .notification).also (allocate_next state .notification)).partly ?_
  rintro slot after ⟨allocated, slotEq⟩
  have apart : defaultThreadRecvSlot ≠ slot := by
    rw [slotEq, spec.2.1]
    decide
  rw [allocated.cspace, update_of_ne apart]
  exact spec.2.2

structure SlotsApart (env : Env ν) (inputs : List KernelInput) (world : KernelWorld ν) : Prop where
  /-- No destination was found taken. -/
  unrefused : stopReason ((main env inputs).run world) ≠ some destinationTaken
  /-- The receive slot is empty when the handler comes. -/
  receivable : ∀ slot after, (untilReceive env.platform).run world = .ok slot after →
    after.memory.cspace defaultThreadRecvSlot = none
  /-- No slot that was handed out is one of the two others. -/
  apart : ∀ slot, defaultEmptySlotIndex ≤ slot →
    slot < (finalState ((main env inputs).run world)).memory.emptySlots.1 →
    slot ≠ tempSlot ∧ slot ≠ defaultThreadRecvSlot
  /-- The next message finds the temporary slot and all that are left empty. -/
  ready : stopReason ((main env inputs).run world) = none →
    Vacant (finalState ((main env inputs).run world)).memory

/-- As long as the allocator has not come to the receive slot, no two uses of a slot clash. -/
theorem slots_apart (env : Env ν) (inputs : List KernelInput) (world : KernelWorld ν)
    (launched : Launched world.memory)
    (kept : (finalState ((main env inputs).run world)).memory.emptySlots.1 ≤ defaultThreadRecvSlot) :
    SlotsApart env inputs world := by
  refine ⟨fun taken => ?_, fun slot after ran => untilReceive_leaves.triple.of_run launched ran,
    fun slot above below => ?_,
    fun returned => ?_⟩
  · have run := main_guarded env inputs world launched
    cases outcome : (main env inputs).run world with
    | ok value after =>
        rw [outcome] at taken
        cases taken
    | error fault after =>
        rw [outcome] at taken kept run
        exact Nat.not_lt.mpr kept (run (Option.some.inj taken))
  · exact ⟨Nat.ne_of_gt (Nat.lt_of_lt_of_le (by decide) above), Nat.ne_of_lt (Nat.lt_of_lt_of_le below kept)⟩
  · have run := main_guarded env inputs world launched
    cases outcome : (main env inputs).run world with
    | ok value after =>
        rw [outcome] at run
        exact run
    | error fault after =>
        rw [outcome] at returned
        cases returned

def KernelWorld.launch (net : ν) : KernelWorld ν :=
  { KernelWorld.boot net with memory := { KernelState.boot net with cnodes := fun index => index == 0 } }

theorem launch_launched (net : ν) : Launched (KernelWorld.launch net).memory := by
  refine ⟨fun slot above _ => ?_, rfl⟩
  have apart : slot ≠ kernelVSpace := Nat.ne_of_gt (Nat.lt_of_lt_of_le (by decide) above)
  exact update_of_ne apart (some (Cap.vspace kernelVSpace)) fun _ => none

theorem slots_apart_tidyRun :
    Launched (KernelWorld.launch ()).memory ∧
      (finalState ((main smallEnv tidyRun).run (KernelWorld.launch ()))).memory.emptySlots.1 ≤ defaultThreadRecvSlot ∧
      stopReason ((main smallEnv tidyRun).run (KernelWorld.launch ())) = none ∧
      SlotsApart smallEnv tidyRun (KernelWorld.launch ()) :=
  ⟨launch_launched (), by decide +kernel, by decide +kernel,
    slots_apart smallEnv tidyRun (KernelWorld.launch ()) (launch_launched ()) (by decide +kernel)⟩

section Faults

variable {badge vaddr : Nat}

structure Faulting (platform : Platform) (badge vaddr : Nat) (state : KernelState ν) : Prop where
  vacant : Vacant state
  node : state.cnodes 0 = true
  recv : state.cspace defaultThreadRecvSlot ≠ none
  memory : state.watermark + 2 ^ 13 * (kernelThreadSlotNums - state.emptySlots.1) ≤ platform.untypedSize
  target : ∃ task space thread, state.tasks[badge]? = some task ∧ state.cspace task.vspace =
    some (.vspace space) ∧
    space < state.emptySlots.1 ∧ state.cspace task.tcb = some (.tcb thread) ∧
    missingLevel platform (state.vspaces space) vaddr = none

def KernelState.withGranule (state : KernelState ν) : KernelState ν :=
  let slot := state.emptySlots.1
  { state with
    emptySlots := (slot + 1, state.emptySlots.2)
    watermark := Untyped.start state.watermark 12 + 2 ^ 12
    cspace := Function.update state.cspace slot (some (.frame slot none))
    frames := Function.update state.frames slot fun _ => 0
    vspaces := Function.update state.vspaces slot .empty
    tcbs := Function.update state.tcbs slot { context := .default, vspace := 0, ipcBuffer := 0, bufferFrame := 0, running := false } }

theorem start_granule (watermark : Nat) : Untyped.start watermark 12 + 2 ^ 12 ≤ watermark + 2 ^ 13 := by
  unfold Untyped.start
  omega

theorem Faulting.handed (faulting : Faulting platform badge vaddr state)
    (below : state.emptySlots.1 < kernelThreadSlotNums) :
    Delivers state (allocateSlot platform)
      fun slot after => slot.2.2 = state.emptySlots.1 ∧
        after = { state with emptySlots := (state.emptySlots.1 + 1, state.emptySlots.2) } := by
  have start : 32 ≤ state.emptySlots.1 := faulting.vacant.start
  have small : state.emptySlots.1 < 1024 := below
  have inside : state.emptySlots.1 &&& 0xfff ≠ 0 := by
    rw [and_fff]
    omega
  refine .read_bind ?_
  rintro state rfl
  dsimp only
  rw [if_neg (Nat.not_le.mpr (faulting.vacant.stop ▸ below)), if_neg inside]
  exact .update_bind (.pure fun _ same => ⟨rfl, same⟩)

theorem Faulting.allocates (faulting : Faulting platform badge vaddr state) (below : state.emptySlots.1 < defaultThreadRecvSlot) :
    Delivers state (allocate platform .granule)
      fun slot after => slot = state.emptySlots.1 ∧ after = state.withGranule := by
  have small : state.emptySlots.1 < kernelThreadSlotNums := Nat.lt_succ_of_lt below
  have node : state.cnodes (state.emptySlots.1 >>> 12) = true := by
    rw [shiftRight_node, Nat.div_eq_of_lt (Nat.lt_trans small (by decide))]
    exact faulting.node
  have free := faulting.vacant.left _ (Nat.le_refl _) below
  have room : Untyped.start state.watermark 12 + 2 ^ 12 ≤ platform.untypedSize := by
    have := start_granule state.watermark
    have := faulting.memory
    omega
  refine .locked ((faulting.handed small).bind fun slot => .fixed ?_)
  rintro handed ⟨slotEq, handedEq⟩
  have retyped : Delivers handed (unwrapped (untypedRetype platform .granule slot.2.2))
      fun _ after => after = state.withGranule := by
    refine unwrapped_ok () (.read_bind ?_)
    rintro _ rfl
    rw [slotEq, handedEq]
    simp only [ObjectType.sizeBits, node, not_true_eq_false, if_false, free, Option.isSome_none, Bool.false_eq_true,
      Nat.not_lt.mpr room]
    exact .update_bind (.pure fun _ same => ⟨rfl, same⟩)
  exact retyped.bind fun _ => .pure fun _ same => ⟨slotEq, same⟩

theorem Faulting.clashes (faulting : Faulting platform badge vaddr state)
    (last : state.emptySlots.1 = defaultThreadRecvSlot) :
    RunFrom state (allocate platform .granule) (fun _ _ => False)
      (fun fault => fault = destinationTaken) := by
  have taken : (state.cspace defaultThreadRecvSlot).isSome := Option.isSome_iff_ne_none.mpr faulting.recv
  have node : state.cnodes (defaultThreadRecvSlot >>> 12) = true := faulting.node
  refine .locked (((faulting.handed (last ▸ by decide)).onStop
      fun _ never => never.elim).bind fun slot => .fixed ?_)
  rintro handed ⟨slotEq, handedEq⟩
  have refused : RunFrom handed (unwrapped (untypedRetype platform .granule slot.2.2))
      (fun _ _ => False) (fun fault => fault = destinationTaken) := by
    refine .bind (.read_bind ?_ : MemTriple _ _ (fun result _ => result = .error .deleteFirst) _) fun result =>
      MemTriple.fixed ?_
    · rintro _ rfl
      rw [slotEq, last, handedEq]
      simp only [node, not_true_eq_false, if_false, taken, if_true]
      exact .pure fun _ _ => rfl
    · rintro _ rfl
      exact .stop fun _ _ => rfl
  exact refused.bind fun _ => .pure fun _ never => never.elim

theorem missingLevel_congr {space other : VSpace} (same : space.tables = other.tables) :
    missingLevel platform space vaddr = missingLevel platform other vaddr := by
  unfold missingLevel
  rw [same]

theorem mapPage_places {task : Sel4Task} {space : ObjId} {cap : CPtr} {frame : ObjId}
    (aligned : vaddr % pageSize = 0) (user : vaddr + pageSize ≤ platform.userTop)
    (capEq : state.cspace cap = some (.frame frame none))
    (spaceEq : state.cspace task.vspace = some (.vspace space))
    (tables : missingLevel platform (state.vspaces space) vaddr = none) :
    Delivers state (task.mapPage platform vaddr cap)
      fun task' after => task' = { task with mappedPage := task.mappedPage.insert vaddr cap } ∧
        after = (state.setPage space vaddr (some { frame, rights := .all })).setCap cap
          (some (.frame frame (some (space, vaddr)))) := by
  obtain ⟨tries, levels⟩ := Nat.exists_eq_add_of_le' platform.levels_pos
  unfold Sel4Task.mapPage
  rw [if_neg (not_not.mpr aligned), levels]
  refine .bind (.read_bind ?_ : MemTriple _ _ (fun result after => result = .ok () ∧
    after = (state.setPage space vaddr (some { frame, rights := .all })).setCap cap
      (some (.frame frame (some (space, vaddr))))) _)
    fun result => .fixed ?_
  · rintro state rfl
    simp only [capEq, spaceEq, Option.any_none, Bool.false_eq_true, if_false, Nat.not_lt.mpr user,
      aligned, ne_eq, not_true_eq_false, tables, Option.isSome_none]
    exact .update_bind (.pure fun _ same => ⟨rfl, same⟩)
  · rintro after ⟨rfl, rfl⟩
    exact .pure fun _ same => ⟨rfl, same⟩

structure FaultAt (platform : Platform) (badge vaddr : Nat) (input : KernelInput) : Prop where
  sender : input.badge = badge
  fault : input.incoming = .vmFault vaddr
  aligned : vaddr % pageSize = 0
  user : vaddr + pageSize ≤ platform.userTop

theorem FaultAt.serve_eq (at_ : FaultAt env.platform badge vaddr input) :
    serve env input = handleVmFault env badge vaddr := by
  unfold serve
  rw [at_.fault, at_.sender]

theorem FaultAt.page (at_ : FaultAt platform badge vaddr input) : alignBits vaddr 12 = vaddr :=
  Nat.div_mul_cancel (Nat.dvd_of_mod_eq_zero at_.aligned)

theorem serve_clashes (at_ : FaultAt env.platform badge vaddr input)
    (faulting : Faulting env.platform badge vaddr state)
    (last : state.emptySlots.1 = defaultThreadRecvSlot) :
    RunFrom state (serve env input) (fun _ _ => False) (fun fault => fault = destinationTaken) := by
  rw [at_.serve_eq]
  exact (faulting.clashes last).bind fun _ => .fixed fun _ never => never.elim

theorem serve_takes (at_ : FaultAt env.platform badge vaddr input)
    (faulting : Faulting env.platform badge vaddr state)
    (below : state.emptySlots.1 < defaultThreadRecvSlot) :
    Delivers state (serve env input)
      fun _ after => Faulting env.platform badge vaddr after ∧ after.emptySlots.1 = state.emptySlots.1 + 1 := by
  obtain ⟨task, space, thread, found, spaceEq, older, tcbEq, tables⟩ := faulting.target
  have start : 32 ≤ state.emptySlots.1 := faulting.vacant.start
  have small : state.emptySlots.1 < 1023 := below
  have free := faulting.vacant.left _ (Nat.le_refl _) below
  have kept : ∀ {slot cap} new, state.cspace slot = some cap →
      Function.update state.cspace state.emptySlots.1 new slot = some cap := by
    intro slot cap new taken
    rw [update_of_ne, taken]
    rintro rfl
    rw [free] at taken
    cases taken
  have tablesKept : state.withGranule.vspaces space = state.vspaces space :=
    update_of_ne (Nat.ne_of_lt older) _ _
  have resumes : ∀ (now : KernelState ν) (cap : CPtr), now.cspace cap = some (.tcb thread) →
      MemTriple (fun state => state = now) (unwrapped (tcbResume cap))
        (fun _ after => ∃ tcbs, after = { now with tcbs }) (fun _ => False) := by
    intro now cap tcb
    refine unwrapped_ok () (.read_bind ?_)
    rintro _ rfl
    simp only [tcb]
    exact .update_bind (.pure fun _ same => ⟨rfl, _, same⟩)
  rw [at_.serve_eq]
  refine (faulting.allocates below).bind fun slot => .fixed ?_
  rintro _ ⟨rfl, rfl⟩
  refine .locked ((taskOf_returns (show state.withGranule.tasks[badge]? = some task from found)).bind fun sender =>
    MemTriple.fixed ?_)
  rintro _ ⟨rfl, rfl⟩
  rw [at_.page]
  refine (mapPage_places at_.aligned at_.user (update_self ..) (kept _ spaceEq)
    (tablesKept ▸ tables)).bind fun task' =>
    MemTriple.fixed ?_
  rintro _ ⟨rfl, rfl⟩
  -- what became of the slot is known by the last thing put into it
  have cspaceEq : ∀ new, Function.update state.withGranule.cspace state.emptySlots.1 new =
      Function.update state.cspace state.emptySlots.1 new := fun new => Function.update_idem ..
  refine .update_bind ((resumes _ sender.tcb ?_).mono ?_)
  · exact (congrFun (cspaceEq _) _).trans (kept _ tcbEq)
  · rintro _ after ⟨tcbs, rfl⟩
    have handed : Handed state.emptySlots.1
        ({ state with emptySlots := (state.emptySlots.1 + 1, state.emptySlots.2) } : KernelState ν) :=
      ⟨faulting.vacant.start, by rw [faulting.vacant.stop], faulting.vacant.left, faulting.vacant.temp⟩
    refine ⟨⟨handed.filled ⟨free, ⟨_, cspaceEq _⟩, rfl⟩, faulting.node, ?_, ?_, ?_⟩, rfl⟩
    · refine Eq.trans_ne (congrFun (cspaceEq _) _) ?_
      rw [update_of_ne (Nat.ne_of_gt below)]
      exact faulting.recv
    · have taken := start_granule state.watermark
      have memory : state.watermark + 2 ^ 13 * (1024 - state.emptySlots.1) ≤ env.platform.untypedSize := faulting.memory
      change Untyped.start state.watermark
        12 + 2 ^ 12 + 2 ^ 13 * (1024 - (state.emptySlots.1 + 1)) ≤ env.platform.untypedSize
      omega
    · refine ⟨_, space, thread, Std.TreeMap.getElem?_insert_self, (congrFun (cspaceEq _) _).trans (kept _ spaceEq),
        Nat.lt_succ_of_lt older, (congrFun (cspaceEq _) _).trans (kept _ tcbEq), ?_⟩
      rw [← tables]
      refine missingLevel_congr ((congrArg VSpace.tables (update_self space _ _)).trans ?_)
      rw [tablesKept]

theorem faults_clash (at_ : FaultAt env.platform badge vaddr input) (left : Nat) :
    MemTriple (fun state => Faulting env.platform badge vaddr state ∧ state.emptySlots.1 + left =
      defaultThreadRecvSlot)
      (runAll (serve env) (List.replicate (left + 1) input)) (fun _ _ => False)
        (fun fault => fault = destinationTaken) := by
  induction left with
  | zero =>
    refine .fixed fun state start => (serve_clashes at_ start.1 start.2).bind fun _ => ?_
    exact .fixed fun _ never => never.elim
  | succ left ih =>
    refine .fixed fun state start => ?_
    obtain ⟨faulting, count⟩ := start
    have step : RunFrom state (serve env input) (fun _ after =>
        Faulting env.platform badge vaddr after ∧ after.emptySlots.1 = state.emptySlots.1 + 1)
        (fun fault => fault = destinationTaken) := (serve_takes at_ faulting (by omega)).raising
    refine step.bind fun _ => ih.weaken (fun after taken => ⟨taken.1, ?_⟩) (fun _ _ never => never)
      fun _ same => same
    rw [taken.2]
    omega

theorem main_eq (env : Env ν) (inputs : List KernelInput) :
    main env inputs = (do main env []; runAll (serve env) inputs) := by
  simp only [main, kernelRun, runAll, bind_assoc, pure_bind]

theorem main_clashes {world : KernelWorld ν} {left : Nat}
    (at_ : FaultAt env.platform badge vaddr input)
    (returned : returnValue ((main env []).run world) = some ())
    (faulting : Faulting env.platform badge vaddr (finalState ((main env []).run world)).memory)
    (count : (finalState ((main env []).run world)).memory.emptySlots.1 + left = defaultThreadRecvSlot) :
    stopReason ((main env (List.replicate (left + 1) input)).run world) = some destinationTaken := by
  rw [main_eq, EStateM.run_bind, ran_of_returnValue returned]
  have clash := (faults_clash at_ left).triple _ ⟨faulting, count⟩
  dsimp only
  cases outcome : (runAll (serve env) (List.replicate (left + 1) input)).run
    (finalState ((main env []).run world)) with
  | ok value after =>
    rw [outcome] at clash
    exact clash.elim
  | error fault after =>
    rw [outcome] at clash
    exact congrArg some clash

end Faults

def faultAgain : KernelInput :=
    { badge := 1, incoming := .vmFault 0x30000, outcome := ⟨true, true, true⟩ }

theorem launch_faulting : Faulting smallPlatform 1 0x30000
    (finalState ((main smallEnv []).run (KernelWorld.launch ()))).memory := by
  have returned : returnValue ((main smallEnv []).run (KernelWorld.launch ())) = some () := by
    decide +kernel
  have vacant := (main_guarded smallEnv []).of_run (launch_launched ()) (ran_of_returnValue returned)
  have holds : ((finalState ((main smallEnv []).run (KernelWorld.launch ()))).memory.tasks[1]?.any
    fun task =>
      (finalState ((main smallEnv []).run (KernelWorld.launch ()))).memory.cspace task.vspace = some (.vspace 34) ∧
      (finalState ((main smallEnv []).run (KernelWorld.launch ()))).memory.cspace task.tcb = some (.tcb 35)) = true := by
    decide +kernel
  obtain ⟨task, found, caps⟩ := (Option.any_eq_true _ _).mp holds
  obtain ⟨spaceEq, tcbEq⟩ := of_decide_eq_true caps
  exact ⟨vacant, by decide +kernel, by decide +kernel, by decide +kernel, task, 34, 35, found,
    spaceEq, by decide +kernel, tcbEq,
    by decide +kernel⟩

/-- The slot of the interrupt handler is the last one of the allocator's range. -/
theorem recv_slot_handed_out :
    Launched (KernelWorld.launch ()).memory ∧
      stopReason ((main smallEnv (List.replicate (966 + 1) faultAgain)).run
        (KernelWorld.launch ())) = some destinationTaken := by
  have page : FaultAt smallEnv.platform 1 0x30000 faultAgain := ⟨rfl, rfl, by decide, by decide⟩
  have returned : returnValue ((main smallEnv []).run (KernelWorld.launch ())) = some () := by
    decide +kernel
  exact ⟨launch_launched (), main_clashes page returned launch_faulting (by decide +kernel)⟩

end RootTaskDemo.Kernel
