import RootTaskDemo.Kernel.SyscallBooks

namespace RootTaskDemo.Kernel

open Common Lib Thread

variable {ν : Type}

/-! The records of every task agree with its address space in every run that
shares no address space and loses no page. -/

variable {standard : Standard}
variable {condition : KernelInput → KernelState ν → Prop} {world : KernelWorld ν}
  {state : KernelState ν}

theorem replyWith_dataOnly (regs : List UInt64) :
    Evolves (DataOnly True noPage) (replyWith regs : KernelM ν Unit) :=
  Evolves.bind (.update fun _ => .of_frames rfl rfl rfl rfl rfl) fun _ => .reply

def KernelInput.KeepsBooks (env : Env ν) (input : KernelInput) (state : KernelState ν) : Prop :=
  match input.incoming with
  | .message info regs => CustomMessageLabel.tryFrom info = some .sysCall →
      CallKeepsBooks env input.badge (regs 0).toNat (fun index => (regs (index + 1)).toNat) state
  | _ => True

def KernelInput.sysno (env : Env ν) (input : KernelInput) : Option Sysno :=
  match input.incoming with
  | .message info regs =>
    if CustomMessageLabel.tryFrom info = some .sysCall then env.sysno (regs 0).toNat else none
  | _ => none

def KernelInput.StartsNoThread (env : Env ν) (input : KernelInput) (state : KernelState ν) : Prop :=
  match input.incoming with
  | .message info regs => CustomMessageLabel.tryFrom info = some .sysCall →
      Kernel.StartsNoThread env input.outcome input.badge (regs 0).toNat (fun index => (regs (index + 1)).toNat) state
  | _ => True

/-- The input concerns the memory, the threads or the files of its sender: it is a
fault or no socket call. -/
def KernelInput.IsLocal (env : Env ν) (input : KernelInput) : Prop :=
  ∀ number ∈ input.sysno env, number.isSocketCall = false

theorem KernelInput.KeepsBooks.startsNoThread {env : Env ν} {input : KernelInput}
    (keeps : input.KeepsBooks env state) : input.StartsNoThread env state := by
  obtain ⟨badge, incoming, outcome⟩ := input
  cases incoming with
  | vmFault addr => trivial
  | otherFault => trivial
  | message info regs =>
    intro decoded isClone
    have keeps := keeps decoded
    unfold CallKeepsBooks at keeps
    rw [isClone] at keeps
    exact Or.inl keeps

theorem serve_spec (env : Env ν) (input : KernelInput) {origin : KernelState ν}
    (books : Orderly standard origin) (keeps : standard.tables → input.KeepsBooks env origin) :
    Yields origin (serve env input)
      fun _ after => (input.StartsNoThread env origin → Orderly standard after) ∧
        (input.IsLocal env → Isolated standard (input.sysno env = some .clone) input.badge origin after) := by
  obtain ⟨badge, incoming, outcome⟩ := input
  unfold serve
  cases incoming with
  | vmFault addr =>
    exact (handleVmFault_accounted env addr).weaken (fun _ same => by rw [same]; exact books.watched)
      (fun _ _ accounted => ⟨fun _ => accounted.orderly, fun _ => accounted.isolated⟩) fun _ _ => trivial
  | otherFault =>
    exact .pure fun _ same => by rw [same]; exact ⟨fun _ => books, fun _ => books.watched.isolated⟩
  | message info regs =>
    refine .update_bind ?_
    have same : DataOnly standard.honesty noPage origin { origin with msgRegs := regs } :=
      .of_frames rfl rfl rfl rfl rfl
    have watched : Watched standard badge origin { origin with msgRegs := regs } := books.watched.kept same.kept
    have quiet : ∀ {now : KernelState ν}, DataOnly True noPage { origin with msgRegs := regs } now →
        Orderly standard now ∧ ∀ cloning, Isolated standard cloning badge origin now := fun later =>
      ⟨(watched.books.kept later.kept).orderly, fun _ => watched.isolated.unchanged later⟩
    split
    · exact (replyWith_dataOnly [] _).partly fun _ _ later => ⟨fun _ => (quiet later).1, fun _ => (quiet later).2 _⟩
    · rename_i decoded
      have number : KernelInput.sysno env ⟨badge, .message info regs, outcome⟩ =
        env.sysno (regs 0).toNat := if_pos decoded
      refine (handleIpcCall_served env outcome (regs 0).toNat
        (fun index => (regs (index + 1)).toNat) watched.books.orderly
        fun complete => keeps complete decoded).bind fun result => .fixed fun served after => ?_
      refine (replyWith_dataOnly _ _).partly fun _ replied later => ⟨fun starts => ?_, fun isLocal => ?_⟩
      · exact (Books.kept (after.orderly (starts decoded)) later.kept).orderly
      · unfold KernelInput.IsLocal at isLocal
        rw [number] at isLocal ⊢
        exact ((after.isolated isLocal).since watched).unchanged later
    · exact .stop fun _ _ => trivial
    · refine .pure fun _ now => ?_
      rw [now]
      exact ⟨fun _ => (quiet (refl _)).1, fun _ => (quiet (refl _)).2 _⟩

/-- The kernel thread before its first task. -/
structure Booted (state : KernelState ν) : Prop where
  tasks : state.tasks = ∅
  kernel : state.cspace kernelVSpace = some (.vspace kernelVSpace)
  named : FramesNamed state

theorem Booted.orderly (booted : Booted state) (honest : standard.honesty → PagesHonest state) :
    Orderly standard state := by
  have absent : ∀ (key : Nat) (task : Sel4Task), state.tasks[key]? ≠ some task := by
    intro key task found
    simp [booted.tasks] at found
  refine ⟨rfl, booted.kernel, booted.named, honest, fun key member => ?_, fun key task found =>
    absurd found (absent key task),
    fun key _ task _ found => absurd found (absent key task)⟩
  simp [booted.tasks] at member

theorem startChild_orderly (env : Env ν) (ep : UInt64) :
    Leads (Orderly standard) (startChild env ep) (fun _ => Orderly standard) := by
  refine .fixed fun state books => ?_
  refine (new_holding books).bind fun task => .fixed ?_
  rintro created ⟨holding, newcomer⟩
  refine ((loadElf_holding task env.child).startingAt holding).bind fun loaded => .fixed ?_
  rintro loadedState ⟨holding, first⟩
  refine ((mapStack_holding _ _ _ _ loaded).startingAt holding).bind fun stacked => .fixed ?_
  rintro stackedState ⟨holding, second⟩
  refine ((allocate_holding .granule).startingAt (holding.mono fun _ _ left => left.1)).bind
    fun buffer =>
    (mapPage_clean stacked.2 _ buffer).bind fun complete => .fixed ?_
  rintro mapped ⟨holding, third⟩
  have same := (first.trans second).trans third
  refine ((Held.evolves (tcb_within _ _)).startingAt holding).bind fun _ =>
    (Held.evolves (tcb_within _ _)).bind fun _ =>
    (Held.evolves (tcb_within _ _)).bind fun _ => .locked ?_
  rw [same.id]
  exact (setTask_accounted complete complete (.refl complete) rfl rfl
    (Or.inr ⟨trivial, newcomer.absent, same.id⟩)).partly
        fun _ _ (accounted : Accounted standard True task.id state _) => accounted.orderly

def KernelState.frameAt (state : KernelState ν) (vspace : CPtr) (vaddr : Nat) : Option ObjId :=
  match state.cspace vspace with
  | some (.vspace space) => (state.pages space vaddr).map Mapping.frame
  | _ => none

/-- A page is recorded with a capability exactly if the frame of the capability is
what is mapped there. -/
def Sel4Task.AgreesWith (task : Sel4Task) (state : KernelState ν) : Prop :=
  ∀ (vaddr : Nat) (cap : CPtr), task.mappedPage[vaddr]? = some cap ↔
    ∃ frame, state.frameOf cap = some frame ∧ state.frameAt task.vspace vaddr = some frame

def completeBooks : Standard := ⟨True, False⟩

theorem InOrder.agrees {task : Sel4Task} (inOrder : InOrder completeBooks task state)
    (named : FramesNamed state) : task.AgreesWith state := by
  intro vaddr cap
  have mirror := inOrder.tracks.mirror trivial
  have shown : state.frameAt task.vspace vaddr = (state.pages task.vspace vaddr).map Mapping.frame := by
    unfold KernelState.frameAt
    rw [inOrder.tracks.root]
  rw [shown]
  constructor
  · intro recorded
    obtain ⟨mapping, present, capEq⟩ := mirror.recorded vaddr cap recorded
    refine ⟨mapping.frame, ?_, by rw [present, Option.map_some]⟩
    unfold KernelState.frameOf
    rw [capEq]
  · rintro ⟨frame, frameEq, pageEq⟩
    obtain ⟨mapping, present, rfl⟩ := Option.map_eq_some_iff.mp pageEq
    obtain ⟨record, recorded, recordEq⟩ := mirror.backs_of_entry present
    -- frames go by the name of their only slot
    obtain rfl := named record mapping.frame _ recordEq
    unfold KernelState.frameOf at frameEq
    split at frameEq
    · rename_i object mapped capEq
      obtain rfl := named cap object mapped capEq
      cases frameEq
      exact recorded
    · cases frameEq

/-- The first task is started, and the messages that follow are served. -/
def kernelRun (env : Env ν) (ep : UInt64) (inputs : List KernelInput) : KernelM ν Unit := do
  startChild env ep
  runAll (serve env) inputs

theorem kernelRun_invariant {env : Env ν} {ep : UInt64}
    {inputs : List KernelInput} {invariant : KernelState ν → Prop}
    (start : Yields world.memory (startChild env ep) fun _ => invariant)
    (kept : ∀ input state, invariant state → condition input state →
      Yields state (serve env input) fun _ => invariant)
    (met : MeetsAlong (serve env) (fun input world => condition input world.memory) inputs
      (finalState ((startChild env ep).run world)))
    (returned : stopReason ((kernelRun env ep inputs).run world) = none) :
    invariant (finalState ((kernelRun env ep inputs).run world)).memory := by
  have step : ∀ (input : KernelInput) (_ : Nat), Triple
      (fun world : KernelWorld ν => invariant world.memory ∧ condition input world.memory)
      (serve env input) (fun _ world => invariant world.memory) (fun _ _ => True) := fun input _ =>
    (.fixed fun state holds => kept input state holds.1 holds.2 :
      Leads (fun state => invariant state ∧ condition input state) (serve env input) (fun _ => invariant)).triple
  rw [kernelRun, EStateM.run_bind] at returned ⊢
  cases started : (startChild env ep).run world with
  | error fault after =>
    rw [started] at returned
    cases returned
  | ok value after =>
    rw [started] at returned met
    dsimp only at returned ⊢
    have first := start.triple.of_run rfl started
    cases ran : (runAll (serve env) inputs).run after with
    | error fault last =>
      rw [ran] at returned
      cases returned
    | ok value last => exact (runAll_invariant step inputs 0).of_run ⟨first, met⟩ ran

theorem kernelRun_orderly {env : Env ν} {ep : UInt64}
    {inputs : List KernelInput} (booted : Booted world.memory)
    (honest : standard.honesty → PagesHonest world.memory)
    (kept : ∀ input state, condition input state →
      input.StartsNoThread env state ∧ (standard.tables → input.KeepsBooks env state))
    (met : MeetsAlong (serve env) (fun input world => condition input world.memory) inputs
      (finalState ((startChild env ep).run world)))
    (returned : stopReason ((kernelRun env ep inputs).run world) = none) :
    Orderly standard (finalState ((kernelRun env ep inputs).run world)).memory := by
  refine kernelRun_invariant ((startChild_orderly env ep).startingAt (booted.orderly honest)) ?_ met
    returned
  intro input state books holds
  obtain ⟨starts, keeps⟩ := kept input state holds
  exact (serve_spec env input books keeps).partly fun _ _ served => served.1 starts

theorem mapped_pages_agree (env : Env ν) (ep : UInt64) (world : KernelWorld ν)
    (booted : Booted world.memory) (inputs : List KernelInput)
    (met : MeetsAlong (serve env) (fun input world => input.KeepsBooks env world.memory) inputs
      (finalState ((startChild env ep).run world)))
    (returned : stopReason ((kernelRun env ep inputs).run world) = none) (badge : Nat) (task : Sel4Task)
    (found : (finalState ((kernelRun env ep inputs).run world)).memory.tasks[badge]? = some task) :
    task.AgreesWith (finalState ((kernelRun env ep inputs).run world)).memory := by
  have orderly : Orderly completeBooks (finalState ((kernelRun env ep inputs).run world)).memory :=
    kernelRun_orderly booted False.elim (fun _ _ keeps => ⟨keeps.startsNoThread, fun _ => keeps⟩) met returned
  exact (Books.inOrder orderly badge task found).agrees (Books.named orderly)

instance (decode : List UInt8 → CloneArgs) (badge cloneArgs : Nat) (state : KernelState ν) :
    Decidable (ClonesApart decode badge cloneArgs state) :=
  @Option.decidableForallMem _ _ (fun task => @Option.decidableForallMem _ _
    (fun bytes => @Option.decidableForallMem _ _ (fun flags => Nat.decEq (flags &&& cloneVm) 0)
      (fromBits cloneFlagsAll (decode bytes).flags)) (state.itemAt task cloneArgs cloneArgsSize)) state.tasks[badge]?

instance (program : Program) (badge : Nat) (state : KernelState ν) :
    Decidable (ExecCovers program badge state) :=
  @Option.decidableForallMem _ (fun task : Sel4Task => ∀ vaddr ∈ task.mappedPage.keys, vaddr ∈
    execPages program)
    (fun task => List.decidableBAll (fun vaddr => vaddr ∈ execPages program) task.mappedPage.keys)
      state.tasks[badge]?

instance (env : Env ν) (badge sysId : Nat) (args : Nat → Nat) (state : KernelState ν) :
    Decidable (CallKeepsBooks env badge sysId args state) := by
  unfold CallKeepsBooks
  split
  · exact inferInstanceAs (Decidable (ClonesApart _ _ _ _))
  · exact inferInstanceAs (Decidable (ExecCovers _ _ _))
  · exact isTrue trivial

instance (env : Env ν) (input : KernelInput) (state : KernelState ν) :
    Decidable (input.KeepsBooks env state) := by
  unfold KernelInput.KeepsBooks
  split
  · exact inferInstanceAs (Decidable (_ → CallKeepsBooks _ _ _ _ _))
  · exact isTrue trivial

theorem boot_booted (net : ν) : Booted (KernelState.boot net) := by
  refine ⟨rfl, ?_, fun slot frame mapped found => ?_⟩
  · simp only [KernelState.boot, Function.update_self]
  simp only [KernelState.boot] at found
  by_cases here : slot = kernelVSpace
  · rw [here, Function.update_self] at found
    cases found
  · rw [Function.update_of_ne here] at found
    cases found

def aarch64Sysno : Nat → Option Sysno
  | 64 => some .write
  | 93 => some .exit
  | 172 => some .getpid
  | 178 => some .gettid
  | 214 => some .brk
  | 215 => some .munmap
  | 220 => some .clone
  | 221 => some .execve
  | 222 => some .mmap
  | _ => none

def smallEnv : Env Unit where
  platform := smallPlatform
  link _ _ _ _ := none
  errno := .sequential
  layout := .tagged
  decodeCloneArgs bytes := { stack := 0, flags := 256 * (bytes.getD 1 0).toNat, initFn := 0, initArgv := 0 }
  sysno := aarch64Sysno
  child := { data := [0, 1, 0, 0], programs := [⟨true, 0, 0x10000, 4, 8⟩], sections := [(0x10000, 8)],
             entryPoint := 0x10000, tbss := none }
  shim := { segments := [⟨0x10000, 8, [5, 6, 7, 8], 5⟩],
            file := { data := [5, 6, 7, 8], programs := [], sections := [(0x10000, 8)], entryPoint := 0x10000, tbss := none } }

def KernelInput.call (badge : Nat) (words : List UInt64) : KernelInput :=
  { badge, outcome := ⟨true, true, true⟩,
    incoming := .message ⟨CustomMessageLabel.sysCall.toLabel, 0, 0, words.length⟩
      (MsgRegs.write (fun _ => 0) words) }

def tidyRun : List KernelInput :=
  [.call 1 [222, 0x20000, 0x1000, 3, 0x32],
    { badge := 1, incoming := .vmFault 0x30008, outcome := ⟨true, true, true⟩ },
    .call 1 [215, 0x20000, 0x1000], .call 1 [215, 0x30000, 0x1000], .call 1 [221]]

theorem mapped_pages_agree_tidyRun :
    ∃ task, (finalState ((kernelRun smallEnv 0 tidyRun).run (KernelWorld.boot ()))).memory.tasks[1]? = some task ∧
      task.AgreesWith (finalState ((kernelRun smallEnv 0 tidyRun).run (KernelWorld.boot ()))).memory := by
  have present : ((finalState ((kernelRun smallEnv 0 tidyRun).run (KernelWorld.boot ()))).memory.tasks[1]?).isSome := by
    decide +kernel
  obtain ⟨task, found⟩ := Option.isSome_iff_exists.mp present
  exact ⟨task, found, mapped_pages_agree smallEnv 0 (KernelWorld.boot ()) (boot_booted ()) tidyRun (by decide +kernel)
    (by decide +kernel) 1 task found⟩

theorem disagrees_of_unrecorded (state : KernelState ν) (badge vaddr : Nat)
    (lost : (state.tasks[badge]?.any fun task => task.mappedPage[vaddr]?.isNone &&
      (state.frameAt task.vspace vaddr).any fun frame => state.frameOf frame == some frame) = true) :
    ∃ task, state.tasks[badge]? = some task ∧ ¬ task.AgreesWith state := by
  obtain ⟨task, found, holds⟩ := (Option.any_eq_true _ _).mp lost
  rw [Bool.and_eq_true] at holds
  obtain ⟨unrecorded, shown⟩ := holds
  obtain ⟨frame, frameEq, capEq⟩ := (Option.any_eq_true _ _).mp shown
  refine ⟨task, found, fun agrees => ?_⟩
  have recorded := (agrees vaddr frame).mpr ⟨frame, beq_iff_eq.mp capEq, frameEq⟩
  rw [recorded] at unrecorded
  cases unrecorded

def replacingRun : List KernelInput := [.call 1 [222, 0x20000, 0x1000, 3, 0x32], .call 1 [221]]

def sharingRun : List KernelInput := [.call 1 [220, 0x10000]]

/-- The old page stays mapped after `execve`, and the IPC buffer of a thread shows
up in the address space of its parent. -/
theorem mapped_pages_forgotten :
    (stopReason ((kernelRun smallEnv 0 replacingRun).run (KernelWorld.boot ())) = none ∧
      ∃ task, (finalState ((kernelRun smallEnv 0 replacingRun).run (KernelWorld.boot ()))).memory.tasks[1]? = some task ∧
        ¬ task.AgreesWith (finalState ((kernelRun smallEnv 0 replacingRun).run (KernelWorld.boot ()))).memory) ∧
    stopReason ((kernelRun smallEnv 0 sharingRun).run (KernelWorld.boot ())) = none ∧
      ∃ task, (finalState ((kernelRun smallEnv 0 sharingRun).run (KernelWorld.boot ()))).memory.tasks[1]? = some task ∧
        ¬ task.AgreesWith (finalState ((kernelRun smallEnv 0 sharingRun).run (KernelWorld.boot ()))).memory :=
  ⟨⟨by decide +kernel, disagrees_of_unrecorded _ 1 0x20000 (by decide +kernel)⟩,
    by decide +kernel, disagrees_of_unrecorded _ 1 cloneIpcBufferAddr (by decide +kernel)⟩

end RootTaskDemo.Kernel
