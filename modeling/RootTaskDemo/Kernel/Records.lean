import RootTaskDemo.Kernel.SyscallBooks

namespace RootTaskDemo.Kernel

open Common Lib Thread

variable {ν α : Type} {platform : Platform}

/-! What the operations on a task return, whatever the state they start in. -/

/-- What a task keeps whatever is mapped for it. -/
structure ThreadPart where
  id : Nat
  tcb : CPtr
  heap : Nat

def Sel4Task.thread (task : Sel4Task) : ThreadPart := ⟨task.id, task.tcb, task.heap⟩

def KeepsThread (self : Sel4Task) (program : KernelM ν α) (task : α → Sel4Task) : Prop :=
  MemTriple (fun _ => True) program (fun value _ => (task value).thread = self.thread) (fun _ => True)

namespace KeepsThread

variable {β : Type} {self : Sel4Task} {program : KernelM ν α} {next : α → KernelM ν β}
  {task : α → Sel4Task} {last : β → Sel4Task}

theorem after (rest : ∀ value, KeepsThread self (next value) last) :
    KeepsThread self (program >>= next) last :=
  MemTriple.anything.bind rest

theorem bind (first : KeepsThread self program task)
    (rest : ∀ value, KeepsThread (task value) (next value) last) :
    KeepsThread self (program >>= next) last := by
  refine MemTriple.bind first fun value => .fixed fun _ same => ?_
  exact ((rest value).startingAt trivial).partly fun _ _ later => later.trans same

theorem pure {value : α} (same : (task value).thread = self.thread) :
    KeepsThread self (Pure.pure value : KernelM ν α) task :=
  MemTriple.pure fun _ _ => same

theorem panic {reason : Panic} : KeepsThread self (panicWith reason : KernelM ν α) task :=
  .stop fun _ _ => trivial

end KeepsThread

theorem mapPage_thread (self : Sel4Task) (vaddr : Nat) (page : CPtr) :
    KeepsThread self (self.mapPage platform vaddr page : KernelM ν _) id := by
  have loop : ∀ tries self,
      KeepsThread self (Sel4Task.mapPageLoop platform vaddr page tries self : KernelM ν _) id := by
    intro tries
    induction tries with
    | zero => exact fun self => .pure rfl
    | succ tries ih =>
      refine fun self => .after fun result => ?_
      cases result with
      | ok _ => exact .pure rfl
      | error error =>
        cases error with
        | failedLookup =>
          exact .after fun pt => .after fun _ => ih _
        | _ => exact .panic
  unfold Sel4Task.mapPage
  split
  · exact .panic
  · exact loop _ self

theorem loadElf_thread (self : Sel4Task) (file : ElfFile) :
    KeepsThread self (self.loadElf platform file : KernelM ν _) id := by
  have pages : ∀ stop vaddrEnd fuel offset vaddr mappedPage self, KeepsThread self
      (Sel4Task.loadPages platform file stop vaddrEnd fuel offset vaddr mappedPage self :
        KernelM ν (Std.TreeMap Nat CPtr × Sel4Task)) Prod.snd := by
    intro stop vaddrEnd fuel
    induction fuel with
    | zero => exact fun _ _ _ self => .pure rfl
    | succ fuel ih =>
      intro offset vaddr mappedPage self
      unfold Sel4Task.loadPages
      split
      · refine .after fun cap => ?_
        dsimp only
        split
        · exact .after fun offset => .bind (mapPage_thread self _ cap) fun self' => ih _ _ _ self'
        · exact .after fun offset => .bind (mapPage_thread self _ cap) fun self' => ih _ _ _ self'
      · exact .pure rfl
  have segments : ∀ programs mappedPage self, KeepsThread self
      (Sel4Task.loadSegments platform file programs mappedPage self : KernelM ν _) id := by
    intro programs
    induction programs with
    | nil => exact fun _ self => .pure rfl
    | cons ph rest ih => exact fun _ self => .bind (pages _ _ _ _ _ _ self) fun loaded => ih loaded.1 loaded.2
  exact segments _ _ self

theorem mapStack_thread (self : Sel4Task) (entryPoint start stop : Nat) (args : List (List UInt8)) :
    KeepsThread self (self.mapStack platform entryPoint start stop args : KernelM ν _) Prod.snd := by
  have pages : ∀ vaddrs stackPtr self, KeepsThread self
      (Sel4Task.mapStackPages platform entryPoint stop args vaddrs stackPtr self : KernelM ν _) Prod.snd := by
    intro vaddrs
    induction vaddrs with
    | nil => exact fun _ self => .pure rfl
    | cons vaddr rest ih =>
      refine fun _ self => .after fun page => ?_
      dsimp only
      split
      · exact .after fun stackPtr => .bind (mapPage_thread self vaddr page) fun self' => ih stackPtr self'
      · exact .after fun stackPtr => .bind (mapPage_thread self vaddr page) fun self' => ih stackPtr self'
  unfold Sel4Task.mapStack
  split
  · exact .panic
  · split
    · exact .panic
    · exact pages _ _ self

theorem cloneSpace_thread (task newTask : Sel4Task) (shared : Bool) :
    KeepsThread newTask (cloneSpace platform task newTask shared : KernelM ν _) id := by
  have pages : ∀ (entries : List (Nat × CPtr)) (dst : Sel4Task),
      KeepsThread dst (cloneVspace platform entries dst : KernelM ν _) id := by
    intro entries
    induction entries with
    | nil => exact fun dst => .pure rfl
    | cons entry rest ih =>
      exact fun dst => .after fun newPage => .after fun _ =>
        .bind (mapPage_thread dst entry.1 newPage) fun dst' => ih dst'
  unfold cloneSpace
  split
  · exact .after fun slot => .after fun _ => .pure rfl
  · exact pages _ newTask

theorem new_id (state : KernelState ν) :
    Yields state (Sel4Task.new platform) fun self _ => self.id = state.idCounter := by
  refine (new_spec state).partly ?_
  rintro _ _ ⟨vspace, tcb, cnode, first, second, third, newSpace, newTcb, newCNode, rfl, rfl⟩
  exact newCNode.counter.trans (newTcb.counter.trans newSpace.counter)

theorem cloneTask_id (outcome : CloneOutcome) (task : Sel4Task) (args : CloneArgs) (flags : Nat)
    (state : KernelState ν) :
    Yields state (cloneTask platform outcome task args flags)
      fun result _ => ∀ id, result = .ok id → id = state.idCounter := by
  refine (new_id state).bind fun newTask => MemTriple.fixed fun _ named => ?_
  split
  · exact MemTriple.anything.bind fun _ => .pure fun _ _ _ => nofun
  · refine ((cloneSpace_thread task newTask _).startingAt trivial).bind fun spaced =>
      MemTriple.fixed fun _ first => ?_
    refine MemTriple.anything.bind fun buffer => .bind (mapPage_thread spaced _ buffer) fun mapped =>
      MemTriple.fixed fun _ second => ?_
    split
    · exact MemTriple.anything.bind fun _ => .pure fun _ _ _ => nofun
    · refine MemTriple.anything.bind fun _ => MemTriple.anything.bind fun _ => MemTriple.anything.bind fun _ =>
        MemTriple.anything.bind fun _ => MemTriple.anything.bind fun _ => .pure fun _ _ => ?_
      rintro _ ⟨rfl⟩
      exact (congrArg ThreadPart.id (second.trans first)).trans named

theorem sysClone_id (decode : List UInt8 → CloneArgs) (outcome : CloneOutcome) (badge cloneArgs : Nat)
    {state : KernelState ν} (kernel : state.cspace kernelVSpace = some (.vspace kernelVSpace)) :
    Yields state (sysClone platform decode outcome badge cloneArgs)
      fun result _ => ∀ id, result = .ok id → state.idCounter ≤ id := by
  refine .locked ((taskOf_spec state badge).bind fun task => .fixed ?_)
  rintro state ⟨rfl, -⟩
  split
  · exact .pure fun _ _ _ => nofun
  · have reads : Evolves (Within True kernelVSpace)
      (readItem platform cloneArgsSize task cloneArgs : KernelM ν _) :=
      Quietly.within (readItem_quietly _ _ _)
    refine (reads state).bind fun result => .fixed fun read within => ?_
    have grows : state.idCounter ≤ read.idCounter := (within ⟨kernel, kernel⟩).counter
    split
    · exact .pure fun _ _ _ => nofun
    · split
      · exact .pure fun _ _ _ => nofun
      · exact (cloneTask_id outcome task _ _ read).partly fun _ _ named id eq => grows.trans (named id eq).ge

end RootTaskDemo.Kernel
