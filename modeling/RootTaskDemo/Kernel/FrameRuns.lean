import Mathlib.Data.List.Perm.Subperm
import RootTaskDemo.Kernel.BookRuns
import RootTaskDemo.Kernel.Programs

namespace RootTaskDemo.Kernel

open Common Lib Thread

variable {ν α : Type} {platform : Platform} {lossless : Prop} {spare : List CPtr}
  {tasks : Std.TreeMap Nat Sel4Task} {key badge : Nat}
  {self self' : Sel4Task} {before after state origin : KernelState ν}

/-! Every record names a frame in every run, and every frame is on record in the runs
that neither forget one nor send one to the net thread. -/

def SendsNothing (badge addr : Nat) (state : KernelState ν) : Prop :=
  ∀ task ∈ state.tasks[badge]?, state.itemAt task addr libcSocketAddrSize = none

theorem sendsNothing_tidy (tidy : Tidy lossless state) {addr : Nat}
    (nothing : SendsNothing badge addr state) (next : Sel4Task → List UInt8 → KernelM ν SysResult) :
    Yields state
      (locked .taskMap do
        let task ← taskOf badge
        match ← readItem platform libcSocketAddrSize task addr with
        | .error error => return .error error
        | .ok bytes => next task bytes)
      fun _ => Tidy lossless := by
  refine .locked ((taskOf_spec state badge).bind fun task => .fixed ?_)
  rintro state ⟨rfl, found⟩
  refine (readItem_tidy tidy (by decide) task addr).bind fun result => .fixed ?_
  rintro middle ⟨⟨tidyNow, _⟩, item⟩
  split
  · exact .pure fun _ same => same ▸ tidyNow
  · rename_i bytes
    have read := item bytes rfl
    rw [nothing task found] at read
    cases read

theorem request_tidy {program : KernelM ν SysResult} (tidy : Tidy lossless state)
    (strictly : lossless → Yields state program fun _ => Tidy lossless)
    (steadily : Evolves (Steadily False) program) :
    Yields state program fun _ => Tidy lossless := by
  by_cases strict : lossless
  · exact strictly strict
  · exact (Tidy.steadily (steadily.mono fun _ _ step root => (step root).mono strict)).startingAt tidy

/-- What a system call must not do: unmap a page, grow the heap over one, copy the
memory of a task into which the IPC buffer of the copy falls, start a program, or
send a frame to the net thread. -/
def CallKeepsFrames (env : Env ν) (badge sysId : Nat) (args : Nat → Nat) (state : KernelState ν) :
    Prop :=
  match env.sysno sysId with
  | some .munmap => UnmapsNothing badge (args 0) (args 1) state
  | some .brk => GrowsFresh badge (args 0) state
  | some .clone => ClonesBuffer env.decodeCloneArgs badge (args 0) state
  | some .bind | some .connect => SendsNothing badge (args 1) state
  | some .sendto => SendsNothing badge (args 4) state
  | some .execve | some .recvfrom => state.tasks[badge]? = none
  | _ => True

theorem CallKeepsFrames.delivered {env : Env ν} {sysId : Nat} {args : Nat → Nat}
    (keeps : CallKeepsFrames env badge sysId args state) (regs : MsgRegs) :
    CallKeepsFrames env badge sysId args { state with msgRegs := regs } := by
  unfold CallKeepsFrames at keeps ⊢
  revert keeps
  cases env.sysno sysId with
  | none => exact id
  | some number => cases number <;> exact id

theorem handleIpcCall_tidy (env : Env ν) (outcome : CloneOutcome) (sysId : Nat) (args : Nat → Nat)
    (tidy : Tidy lossless state) (keeps : lossless → CallKeepsFrames env badge sysId args state) :
    Yields state (handleIpcCall env outcome badge sysId args) fun _ => Tidy lossless := by
  have quiet : ∀ {strict : Prop} {through : Nat → Prop} {program : KernelM ν SysResult},
      Evolves (Quietly strict through) program →
      Yields state program fun _ => Tidy lossless :=
    fun quietly => (Tidy.steadily (Quietly.steadily quietly)).startingAt tidy
  have looking : ∀ answer : Sel4Task → Nat, Evolves (Quietly False noPage)
      (locked .taskMap (do let task ← taskOf badge; return .ok (answer task)) : KernelM ν SysResult) :=
    fun _ => .locked ((taskOf_quietly badge).bind fun _ => .pure)
  have nothing : ∀ result : SysResult, Yields state (pure result : KernelM ν _)
      fun _ => Tidy lossless := fun result => .pure fun _ same => same ▸ tidy
  unfold CallKeepsFrames at keeps
  unfold handleIpcCall
  dsimp only
  cases numberEq : env.sysno sysId with
  | none => exact nothing _
  | some number =>
    rw [numberEq] at keeps
    cases number with
    | write => exact quiet (sysWrite_quietly _ _ _ _ : Evolves (Quietly False noPage) _)
    | brk => exact sysBrk_tidy tidy keeps
    | mmap => exact sysMmap_tidy tidy _ _ _ _
    | munmap => exact sysUnmap_tidy tidy keeps
    | exit => exact sysExit_tidy tidy _
    | exitGroup => exact sysExit_tidy tidy _
    | getpid => exact quiet (looking Sel4Task.pid)
    | execve => exact sysExec_tidy tidy env.shim keeps
    | clone => exact sysClone_tidy tidy outcome keeps
    | gettid => exact nothing _
    | schedYield => exact nothing _
    | getppid => exact quiet (looking Sel4Task.pid)
    | setTidAddress => exact sysSetTidAddress_tidy tidy _
    | getuid => exact quiet (looking Sel4Task.id)
    | geteuid => exact quiet (looking Sel4Task.id)
    | socket => exact quiet (sysSocket_quietly _)
    | accept => exact quiet (sysAccept_quietly _ _ _ _ _)
    | bind =>
      exact request_tidy tidy (fun strict => sendsNothing_tidy tidy (keeps strict) _)
        (sysBind_evolves _ _ _ allowsRequests_steadily _ _ _)
    | connect =>
      exact request_tidy tidy (fun strict => sendsNothing_tidy tidy (keeps strict) _)
        (sysConnect_evolves _ _ _ allowsRequests_steadily _ _ _)
    | listen => exact quiet (sysListen_quietly _ _ _)
    | sendto =>
      exact request_tidy tidy (fun strict => sendsNothing_tidy tidy (keeps strict) _)
        (sysSendto_evolves _ _ allowsRequests_steadily _ _ _ _ _)
    | recvfrom => exact request_tidy tidy (fun strict => noTask_tidy (keeps strict) _) (sysRecvfrom_evolves _ _ allowsRequests_steadily _ _ _ _)
    | shutdown => exact quiet (sysShutdown_quietly _ _ _)
    | other => exact nothing _

def KernelInput.KeepsFrames (env : Env ν) (input : KernelInput) (state : KernelState ν) : Prop :=
  match input.incoming with
  | .vmFault addr => FaultsFresh input.badge addr state
  | .otherFault => True
  | .message info regs => CustomMessageLabel.tryFrom info = some .sysCall →
      CallKeepsFrames env input.badge (regs 0).toNat (fun index => (regs (index + 1)).toNat) state

theorem serve_tidy (env : Env ν) (input : KernelInput) (tidy : Tidy lossless state)
    (keeps : lossless → input.KeepsFrames env state) :
    Yields state (serve env input) fun _ => Tidy lossless := by
  obtain ⟨badge, incoming, outcome⟩ := input
  unfold serve
  cases incoming with
  | vmFault addr => exact handleVmFault_tidy env tidy keeps
  | otherFault => exact .pure fun _ same => same ▸ tidy
  | message info regs =>
    refine .update_bind ?_
    have delivered : Tidy lossless { state with msgRegs := regs } :=
      tidy.steady (.of_cspace rfl rfl (Nat.le_refl _))
    have replied : ∀ regs, Leads (Tidy lossless) (replyWith regs : KernelM ν Unit) (fun _ => Tidy lossless) :=
      fun regs => Tidy.evolves (DataOnly.steady (replyWith_dataOnly regs))
    split
    · exact (replied []).weaken (fun _ same => same ▸ delivered) (fun _ _ tidy => tidy) fun _ _ => trivial
    · rename_i decoded
      exact (handleIpcCall_tidy env outcome _ _ delivered fun strict =>
        (keeps strict decoded).delivered regs).bind fun _ => replied _
    · exact .stop fun _ _ => trivial
    · exact .pure fun _ same => same ▸ delivered

def KernelState.livePages (state : KernelState ν) : List CPtr :=
  state.tasks.toList.flatMap fun entry => entry.2.mappedPage.toList.map Prod.snd

theorem mem_livePages {slot : CPtr} : slot ∈ state.livePages ↔ ∃ owner, Owns state.tasks owner slot := by
  unfold KernelState.livePages Owns
  simp only [List.mem_flatMap, List.mem_map, Prod.exists, Std.TreeMap.mem_toList_iff_getElem?_eq_some]
  constructor
  · rintro ⟨key, task, found, vaddr, cap, recorded, rfl⟩
    exact ⟨key, vaddr, task, found, recorded⟩
  · rintro ⟨key, vaddr, task, found, recorded⟩
    exact ⟨key, task, found, vaddr, slot, recorded, rfl⟩

/-- Every frame is recorded for one page of one task, so there are no more of them
than pages. -/
structure FramesAccounted (state : KernelState ν) : Prop where
  recorded : ∀ slot, HasFrame state slot → ∃! owner : Nat × Nat, Owns state.tasks owner slot
  bounded : ∀ slots : List CPtr, slots.Nodup → (∀ slot ∈ slots, HasFrame state slot) →
    slots.length ≤ state.livePages.length

theorem Tidy.accounted (tidy : Tidy True state) : FramesAccounted state := by
  have recorded : ∀ slot, HasFrame state slot → ∃! owner : Nat × Nat, Owns state.tasks owner slot := by
    intro slot has
    obtain ⟨frames, _⟩ := tidy.ledger.frames trivial
    rcases frames.complete slot has with spare | ⟨owner, owned⟩
    · cases spare
    · exact ⟨owner, owned, fun other owned' => frames.exclusive.unique _ _ _ owned' owned⟩
  refine ⟨recorded, fun slots nodup framed => ?_⟩
  refine (nodup.subperm fun slot member => ?_).length_le
  exact mem_livePages.mpr (recorded slot (framed slot member)).exists

theorem Booted.tidy (booted : Booted state) (bare : lossless → ∀ slot, ¬ HasFrame state slot) :
    Tidy lossless state := by
  have absent : ∀ (key : Nat) (task : Sel4Task), state.tasks[key]? ≠ some task := by
    intro key task found
    simp [booted.tasks] at found
  have unowned : ∀ owner cap, ¬ Owns state.tasks owner cap := by
    rintro owner cap ⟨task, found, _⟩
    exact absent _ task found
  refine ⟨⟨booted.kernel, booted.named, fun key task found => absurd found (absent key task),
    fun owner cap owned => absurd owned (unowned owner cap), by
      simp, fun strict => ⟨⟨⟨?_, ?_⟩, by simp, ?_⟩, List.nodup_nil⟩⟩,
    fun key member => ?_⟩
  · exact fun owner cap owned => absurd owned (unowned owner cap)
  · exact fun owner owner' cap owned _ => absurd owned (unowned owner cap)
  · exact fun slot has => absurd has (bare strict slot)
  · simp [booted.tasks] at member

theorem kernelRun_tidy {env : Env ν} {ep : UInt64} {world : KernelWorld ν}
    (booted : Booted world.memory) {inputs : List KernelInput}
    (returned : stopReason ((kernelRun env ep inputs).run world) = none) :
    Tidy False (finalState ((kernelRun env ep inputs).run world)).memory := by
  let always : KernelInput → KernelState ν → Prop := fun _ _ => True
  exact kernelRun_invariant (startChild_tidy env ep (booted.tidy False.elim) False.elim)
    (fun input state tidy (_ : always input state) => serve_tidy env input tidy False.elim)
      (meetsAlong_true _ _) returned

theorem frames_accounted (env : Env ν) (ep : UInt64) (world : KernelWorld ν)
    (booted : Booted world.memory) (bare : ∀ slot, ¬ HasFrame world.memory slot)
    (room : env.child.LeavesRoom) (inputs : List KernelInput)
    (met : MeetsAlong (serve env) (fun input world => input.KeepsFrames env world.memory) inputs
      (finalState ((startChild env ep).run world)))
    (returned : stopReason ((kernelRun env ep inputs).run world) = none) :
    FramesAccounted (finalState ((kernelRun env ep inputs).run world)).memory := by
  have tidy : Tidy True (finalState ((kernelRun env ep inputs).run world)).memory :=
    kernelRun_invariant (startChild_tidy env ep (booted.tidy fun _ => bare) fun _ => room)
      (fun input _ tidy keeps => serve_tidy env input tidy fun _ => keeps) met returned
  exact tidy.accounted

instance (badge addr length : Nat) (state : KernelState ν) :
    Decidable (UnmapsNothing badge addr length state) :=
  @Option.decidableForallMem _ (fun task : Sel4Task => ∀ vaddr ∈ pageSteps (alignDown4k addr)
    (alignUp4k ((addr + length) % 2 ^ 64)), vaddr ∉ task.mappedPage)
      (fun _ => List.decidableBAll _ _) state.tasks[badge]?

instance (badge addr : Nat) (state : KernelState ν) : Decidable (GrowsFresh badge addr state) :=
  inferInstanceAs (Decidable (_ → _ → ∀ task ∈ state.tasks[badge]?,
    ∀ vaddr ∈ pageSteps task.heap addr, vaddr ∉ task.mappedPage))

instance (badge addr : Nat) (state : KernelState ν) : Decidable (FaultsFresh badge addr state) :=
  inferInstanceAs (Decidable (∀ task ∈ state.tasks[badge]?, alignBits addr 12 ∉ task.mappedPage))

instance (badge addr : Nat) (state : KernelState ν) : Decidable (SendsNothing badge addr state) :=
  inferInstanceAs (Decidable
    (∀ task ∈ state.tasks[badge]?, state.itemAt task addr libcSocketAddrSize = none))

instance (decode : List UInt8 → CloneArgs) (badge cloneArgs : Nat) (state : KernelState ν) :
    Decidable (ClonesBuffer decode badge cloneArgs state) :=
  inferInstanceAs (Decidable
    (∀ task ∈ state.tasks[badge]?, ∀ bytes ∈ state.itemAt task cloneArgs cloneArgsSize,
    ∀ flags ∈ fromBits cloneFlagsAll (decode bytes).flags, flags &&& cloneVm = 0 →
      cloneIpcBufferAddr ∉ task.mappedPage))

instance (env : Env ν) (badge sysId : Nat) (args : Nat → Nat) (state : KernelState ν) :
    Decidable (CallKeepsFrames env badge sysId args state) := by
  unfold CallKeepsFrames
  exact match env.sysno sysId with
    | some .munmap => inferInstanceAs (Decidable (UnmapsNothing badge (args 0) (args 1) state))
    | some .brk => inferInstanceAs (Decidable (GrowsFresh badge (args 0) state))
    | some .clone => inferInstanceAs (Decidable (ClonesBuffer env.decodeCloneArgs badge (args 0) state))
    | some .bind => inferInstanceAs (Decidable (SendsNothing badge (args 1) state))
    | some .connect => inferInstanceAs (Decidable (SendsNothing badge (args 1) state))
    | some .sendto => inferInstanceAs (Decidable (SendsNothing badge (args 4) state))
    | some .execve => inferInstanceAs (Decidable (state.tasks[badge]? = none))
    | some .recvfrom => inferInstanceAs (Decidable (state.tasks[badge]? = none))
    | none | some .write | some .mmap | some .exit | some .exitGroup | some .getpid | some .gettid | some .schedYield
    | some .getppid | some .setTidAddress | some .getuid | some .geteuid | some .socket | some .accept | some .listen
    | some .shutdown | some .other => isTrue trivial

instance (env : Env ν) (input : KernelInput) (state : KernelState ν) :
    Decidable (input.KeepsFrames env state) :=
  match input with
  | ⟨_, .vmFault _, _⟩ => inferInstanceAs (Decidable (FaultsFresh _ _ state))
  | ⟨_, .otherFault, _⟩ => isTrue trivial
  | ⟨_, .message _ _, _⟩ => inferInstanceAs (Decidable (_ → CallKeepsFrames env _ _ _ state))

instance (file : ElfFile) : Decidable file.LeavesRoom :=
  decidable_of_iff (_ ∧ _) ⟨fun room => ⟨room.1, room.2⟩, fun room => ⟨room.stack, room.buffer⟩⟩

theorem boot_bare (net : ν) (slot : CPtr) : ¬ HasFrame (KernelState.boot net) slot := by
  rintro ⟨frame, mapped, found⟩
  simp only [KernelState.boot] at found
  by_cases here : slot = kernelVSpace
  · rw [here, Function.update_self] at found
    cases found
  · rw [Function.update_of_ne here] at found
    cases found

def keepingRun : List KernelInput :=
  [.call 1 [222, 0x20000, 0x1000, 3, 0x32],
    { badge := 1, incoming := .vmFault 0x30008, outcome := ⟨true, true, true⟩ },
    .call 1 [214, uspaceHeapBase.toUInt64], .call 1 [214, uspaceHeapBase.toUInt64 + 0x1000],
      .call 1 [220, 0x10000]]

theorem frames_accounted_keepingRun :
    FramesAccounted (finalState ((kernelRun smallEnv 0 keepingRun).run (KernelWorld.boot ()))).memory :=
  frames_accounted smallEnv 0 (KernelWorld.boot ()) (boot_booted ()) (boot_bare ())
    (by decide +kernel) keepingRun
    (by decide +kernel) (by decide +kernel)

theorem not_accounted_of_lost (slot : CPtr)
    (lost : ((state.frameOf slot).isSome && !state.livePages.contains slot) = true) :
    ¬ FramesAccounted state := by
  intro accounted
  rw [Bool.and_eq_true, Bool.not_eq_true', List.contains_eq_mem, decide_eq_false_iff_not] at lost
  refine lost.2 (mem_livePages.mpr (accounted.recorded slot ?_).exists)
  have framed := lost.1
  unfold KernelState.frameOf at framed
  split at framed
  · rename_i object mapped found
    exact ⟨object, mapped, found⟩
  · cases framed

def unmappingRun : List KernelInput :=
    [.call 1 [222, 0x20000, 0x1000, 3, 0x32], .call 1 [215, 0x20000, 0x1000]]

/-- A fault on a page that is mapped, such as a write to one that is only to be read. -/
def faultingRun : List KernelInput :=
    [{ badge := 1, incoming := .vmFault 0x10008, outcome := ⟨true, true, true⟩ }]

def emptyNetEnv : Env Unit :=
  { smallEnv with
    link := fun _ _ _ net => some { words := [0], page := none, net }
    sysno := fun _ => some .recvfrom }

def receivingRun : List KernelInput := [.call 1 [207, 3, 0x10000, 0x10]]

/-- The frames of an unmapped page, of one mapped again, of a program that is
replaced and of a request to the net thread. -/
theorem frames_lost :
    (∀ inputs ∈ [unmappingRun, faultingRun, replacingRun],
      stopReason ((kernelRun smallEnv 0 inputs).run (KernelWorld.boot ())) = none ∧
        ¬ FramesAccounted (finalState ((kernelRun smallEnv 0 inputs).run (KernelWorld.boot ()))).memory) ∧
    stopReason ((kernelRun emptyNetEnv 0 receivingRun).run (KernelWorld.boot ())) = none ∧
      ¬ FramesAccounted (finalState ((kernelRun emptyNetEnv 0 receivingRun).run (KernelWorld.boot ()))).memory := by
  refine ⟨?_, by decide +kernel, not_accounted_of_lost 4119 (by decide +kernel)⟩
  rw [List.forall_mem_cons, List.forall_mem_cons, List.forall_mem_singleton]
  exact ⟨⟨by decide +kernel, not_accounted_of_lost 4119 (by decide +kernel)⟩,
    ⟨by decide +kernel, not_accounted_of_lost 4099 (by decide +kernel)⟩,
    by decide +kernel, not_accounted_of_lost 4119 (by decide +kernel)⟩

end RootTaskDemo.Kernel
