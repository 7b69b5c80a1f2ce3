import RootTaskDemo.Kernel.BookRuns

namespace RootTaskDemo.Kernel

open Common Lib Thread

variable {ν : Type}
variable {state : KernelState ν}

/-! As long as no thread shares the address space of another, no task can tell from
its own memory what the others have asked for. -/

/-- Books that say nothing of what is mapped besides the records, but whose pages
show each frame only where it belongs. -/
def honestBooks : Standard := ⟨False, True⟩

def KernelState.mappingAt (state : KernelState ν) (vspace : CPtr) (vaddr : Nat) : Option Mapping :=
  match state.cspace vspace with
  | some (.vspace space) => state.pages space vaddr
  | _ => none

/-- Two states that are the same to a task: in what its address space maps, in what
its records name, and in the contents of both. -/
structure Sel4Task.SameView (task : Sel4Task) (before after : KernelState ν) : Prop where
  mappings : ∀ vaddr, after.mappingAt task.vspace vaddr = before.mappingAt task.vspace vaddr
  mapped : ∀ (vaddr : Nat) (mapping : Mapping), before.mappingAt task.vspace vaddr = some mapping →
    after.frames mapping.frame = before.frames mapping.frame
  recorded : ∀ (vaddr : Nat) (cap : CPtr) (frame : ObjId), task.mappedPage[vaddr]? = some cap →
    before.frameOf cap = some frame → after.frameOf cap = some frame ∧ after.frames frame = before.frames frame

/-- Every record names a frame, and no two records the same one. -/
structure FramesExclusive (state : KernelState ν) : Prop where
  frames : ∀ (key : Nat) (task : Sel4Task) (vaddr : Nat) (cap : CPtr), state.tasks[key]? = some task →
    task.mappedPage[vaddr]? = some cap → (state.frameOf cap).isSome
  once : ∀ (key key' : Nat) (task task' : Sel4Task) (vaddr vaddr' : Nat) (cap cap' : CPtr),
    state.tasks[key]? = some task → state.tasks[key']? = some task' →
    task.mappedPage[vaddr]? = some cap → task'.mappedPage[vaddr']? = some cap' →
    state.frameOf cap = state.frameOf cap' → key = key' ∧ vaddr = vaddr'

theorem Orderly.exclusive {standard : Standard} (books : Orderly standard state) :
    FramesExclusive state := by
  refine ⟨fun key task vaddr cap found recorded => ?_,
    fun key key' task task' vaddr vaddr' cap cap' found found' recorded recorded' same => ?_⟩
  · obtain ⟨frame, capEq⟩ := (books.inOrder key task found).tracks.caps vaddr cap recorded
    rw [frameOf_frame capEq]
    rfl
  · obtain ⟨frame, capEq⟩ := (books.inOrder key task found).tracks.caps vaddr cap recorded
    obtain ⟨frame', capEq'⟩ := (books.inOrder key' task' found').tracks.caps vaddr' cap' recorded'
    rw [frameOf_frame capEq, frameOf_frame capEq'] at same
    -- the name of the frame is the slot of its capability, which has one place
    obtain rfl := books.named _ _ _ capEq
    obtain rfl := books.named _ _ _ capEq'
    obtain rfl := Option.some.inj same
    rw [capEq] at capEq'
    simp only [Option.some.injEq, Cap.frame.injEq, Prod.mk.injEq, true_and] at capEq'
    exact ⟨books.distinct key key' task task' found found' capEq'.1, capEq'.2⟩

theorem mappingAt_root {vspace : CPtr} (root : state.cspace vspace = some (.vspace vspace))
    (vaddr : Nat) : state.mappingAt vspace vaddr = state.pages vspace vaddr := by
  unfold KernelState.mappingAt
  rw [root]

theorem Untouched.sameView {origin : KernelState ν} {task : Sel4Task}
    (untouched : Untouched honestBooks origin task state)
    (inOrder : InOrder honestBooks task origin) (named : FramesNamed origin)
    (honest : PagesHonest origin) :
    task.SameView origin state := by
  have root := inOrder.tracks.root
  refine ⟨fun vaddr => ?_, fun vaddr mapping shown => ?_, fun vaddr cap frame recorded frameEq => ?_⟩
  · rw [mappingAt_root root, mappingAt_root (untouched.root.trans root), untouched.pages]
  · rw [mappingAt_root root] at shown
    exact (untouched.frames trivial _ _ (honest _ _ _ shown)).2
  · obtain ⟨object, capEq⟩ := inOrder.tracks.caps vaddr cap recorded
    rw [frameOf_frame capEq] at frameEq
    cases frameEq
    obtain rfl := named _ _ _ capEq
    obtain ⟨same, contents⟩ := untouched.frames trivial _ _ capEq
    exact ⟨frameOf_frame (same.trans capEq), contents⟩

/-- How the table of tasks may differ after an input: the entry of its sender, or one
newcomer under its own name. -/
def EntersAtMost (cloning : Prop) (badge : Nat) (before after : KernelState ν) : Prop :=
  after.tasks = before.tasks ∨
    (∃ task, badge ∈ before.tasks ∧ after.tasks = before.tasks.insert badge task) ∨
    (cloning ∧ ∃ task, task.id ∉ before.tasks ∧ after.tasks = before.tasks.insert task.id task)

theorem Isolated.entersAtMost {standard : Standard} {cloning : Prop} {badge : Nat}
    {origin : KernelState ν} (isolated : Isolated standard cloning badge origin state) :
    EntersAtMost cloning badge origin state := by
  rcases isolated.entered with same | ⟨key, task, tasksEq, ⟨present, rfl⟩ | ⟨cloning, absent, rfl⟩⟩
  · exact Or.inl same
  · exact Or.inr (Or.inl ⟨task, present, tasksEq⟩)
  · exact Or.inr (Or.inr ⟨cloning, task, absent, tasksEq⟩)

theorem tasks_isolated (env : Env ν) (ep : UInt64) (world : KernelWorld ν)
    (booted : Booted world.memory) (honest : PagesHonest world.memory) (inputs : List KernelInput)
    (met : MeetsAlong (serve env) (fun input world => input.StartsNoThread env world.memory) inputs
      (finalState ((startChild env ep).run world)))
    (returned : stopReason ((kernelRun env ep inputs).run world) = none) (input : KernelInput)
    (isLocal : input.IsLocal env) :
    FramesExclusive (finalState ((kernelRun env ep inputs).run world)).memory ∧
    (stopReason ((serve env input).run (finalState ((kernelRun env ep inputs).run world))) = none →
      (∀ (other : Nat) (task : Sel4Task), other ≠ input.badge →
        (finalState ((kernelRun env ep inputs).run world)).memory.tasks[other]? = some task →
        (finalState ((serve env input).run (finalState ((kernelRun env ep inputs).run world)))).memory.tasks[other]? =
          some task ∧
        task.SameView (finalState ((kernelRun env ep inputs).run world)).memory
          (finalState ((serve env input).run (finalState ((kernelRun env ep inputs).run world)))).memory) ∧
      EntersAtMost (input.sysno env = some .clone) input.badge (finalState ((kernelRun env ep inputs).run world)).memory
        (finalState ((serve env input).run (finalState ((kernelRun env ep inputs).run world)))).memory) := by
  have books : Orderly honestBooks (finalState ((kernelRun env ep inputs).run world)).memory :=
    kernelRun_orderly booted (fun _ => honest) (fun _ _ starts => ⟨starts, False.elim⟩) met returned
  refine ⟨books.exclusive, fun served => ?_⟩
  cases ran : (serve env input).run (finalState ((kernelRun env ep inputs).run world)) with
  | error fault after =>
      rw [ran] at served
      cases served
  | ok value after =>
      have isolated := ((serve_spec env input books False.elim).triple.of_run rfl ran).2 isLocal
      refine ⟨fun other task different found => ?_, isolated.entersAtMost⟩
      obtain ⟨known, untouched⟩ := isolated.others other task different found
      exact ⟨known, untouched.sameView (books.inOrder other task found) books.named (books.honest trivial)⟩

instance (env : Env ν) (input : KernelInput) (state : KernelState ν) :
    Decidable (input.StartsNoThread env state) :=
  match input with
  | ⟨_, .vmFault _, _⟩ => isTrue trivial
  | ⟨_, .otherFault, _⟩ => isTrue trivial
  | ⟨_, .message _ _, _⟩ => inferInstanceAs (Decidable (_ → _ → _ ∨ _))

theorem boot_honest (net : ν) : PagesHonest (KernelState.boot net) := fun _ _ _ => nofun

/-- The first task unmaps its stack and IPC buffer and forks, so that one page is left to copy. -/
def forkingRun : List KernelInput :=
  [.call 1 [215, (uspaceStackTop - 16 * pageSize).toUInt64, 16 * 4096], .call 1 [215, 0x11000, 0x1000],
    .call 1 [220, 0x10002]]

def forkedWorld : World Lock (List UInt64) (KernelState Unit) :=
  finalState ((kernelRun smallEnv 0 forkingRun).run (KernelWorld.boot ()))

def childMaps : KernelInput := .call 2 [222, 0x20000, 0x1000, 3, 0x32]

theorem forkingRun_meets :
    MeetsAlong (serve smallEnv) (fun input world => input.StartsNoThread smallEnv world.memory) forkingRun
      (finalState ((startChild smallEnv 0).run (KernelWorld.boot ()))) :=
  meetsAlong_cons (by decide +kernel)
    (meetsAlong_cons (by decide +kernel) (meetsAlong_cons (by decide +kernel) trivial))

set_option maxRecDepth 100000 in
theorem forkingRun_returns : stopReason
    ((kernelRun smallEnv 0 forkingRun).run (KernelWorld.boot ())) = none ∧
    forkedWorld.memory.tasks.keys = [1, 2] ∧ stopReason ((serve smallEnv childMaps).run forkedWorld) = none := by
  decide +kernel

theorem tasks_isolated_forkedWorld :
    forkedWorld.memory.tasks.keys = [1, 2] ∧ FramesExclusive forkedWorld.memory ∧
      stopReason ((serve smallEnv childMaps).run forkedWorld) = none ∧
      (∃ parent, forkedWorld.memory.tasks[1]? = some parent ∧
        (finalState ((serve smallEnv childMaps).run forkedWorld)).memory.tasks[1]? = some parent ∧
        parent.SameView forkedWorld.memory (finalState ((serve smallEnv childMaps).run forkedWorld)).memory) ∧
      EntersAtMost (childMaps.sysno smallEnv = some .clone) 2 forkedWorld.memory
        (finalState ((serve smallEnv childMaps).run forkedWorld)).memory := by
  obtain ⟨returned, keys, served⟩ := forkingRun_returns
  have present : 1 ∈ forkedWorld.memory.tasks := by
    rw [← Std.TreeMap.mem_keys, keys]
    decide
  obtain ⟨parent, found⟩ := found_of_mem present
  have maps : childMaps.sysno smallEnv = some .mmap := by decide
  have isLocal : childMaps.IsLocal smallEnv := by
    rintro number called
    cases maps.symm.trans called
    rfl
  unfold forkedWorld at *
  obtain ⟨exclusive, isolated⟩ :=
    tasks_isolated smallEnv 0 (KernelWorld.boot ()) (boot_booted ()) (boot_honest ())
    forkingRun forkingRun_meets returned childMaps isLocal
  obtain ⟨others, enters⟩ := isolated served
  exact ⟨keys, exclusive, served, ⟨parent, found, others 1 parent (by decide) found⟩, enters⟩

end RootTaskDemo.Kernel
