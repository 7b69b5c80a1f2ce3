import RootTaskDemo.Kernel.Forking

namespace RootTaskDemo.Kernel

open Common Lib Thread
open Function (update_self update_of_ne)

variable {ν : Type} {platform : Platform} {badge : Nat}
  {before middle after state origin : KernelState ν}
variable {parent task : Sel4Task} {shared : Bool} {space : ObjId}
variable {child draft : Sel4Task} {decode : List UInt8 → CloneArgs} {buffer key : Nat}

/-! Where the clones have their IPC buffers: all at one address, whatever is there, which
is right as long as no two of them share an address space. -/

structure Made (origin : KernelState ν) (task : Sel4Task) (state : KernelState ν) : Prop where
  tcbs : TcbsKept origin state
  pages : ∀ space cap, origin.cspace space = some cap → state.pages space = origin.pages space
  newSpace : origin.cspace task.vspace = none
  newThread : origin.cspace task.tcb = none
  space : state.cspace task.vspace = some (.vspace task.vspace)
  thread : state.cspace task.tcb = some (.tcb task.tcb)
  empty : state.pages task.vspace = fun _ => none

theorem Allocated.pages {type : ObjectType} {slot : CPtr}
    (allocated : Allocated type slot before after) {cap : Cap}
    (found : before.cspace space = some cap) : after.pages space = before.pages space := by
  unfold KernelState.pages
  rw [allocated.vspaces, update_of_ne (allocated.ne found)]

theorem new_made (origin : KernelState ν) :
    Yields origin (Sel4Task.new platform) fun self after => Made origin self after := by
  refine ((tcbs_walk.new origin).also (new_spec origin)).partly ?_
  rintro _ _ ⟨kept, vspace, tcb, cnode, first, second, third, newSpace, newTcb, newCNode, rfl, rfl⟩
  have spaceFirst : first.cspace vspace = some (.vspace vspace) := by
    rw [newSpace.cspace, update_self]; rfl
  have spaceSecond := newTcb.caps spaceFirst
  have threadSecond : second.cspace tcb = some (.tcb tcb) := by rw [newTcb.cspace, update_self]; rfl
  refine ⟨kept, fun space cap found => ?_, newSpace.free, newSpace.free_of_free newTcb.free,
    newCNode.caps spaceSecond,
    newCNode.caps threadSecond, ?_⟩
  · have foundFirst := newSpace.caps found
    exact (newCNode.pages (newTcb.caps foundFirst)).trans
      ((newTcb.pages foundFirst).trans (newSpace.pages found))
  · refine (newCNode.pages spaceSecond).trans ((newTcb.pages spaceFirst).trans ?_)
    unfold KernelState.pages
    rw [newSpace.vspaces, update_self]
    rfl

def GetsSpace (origin : KernelState ν) (parent : Sel4Task) (shared : Bool) (space : ObjId) : Prop :=
  if shared then origin.cspace parent.vspace = some (.vspace space) else origin.cspace space = none

def LeftFree (origin : KernelState ν) (parent : Sel4Task) (shared : Bool) (vaddr : Nat) : Prop :=
  if shared then origin.frameAt parent.vspace vaddr = none else vaddr ∉ parent.mappedPage

theorem frameAt_eq_none {vspace : CPtr} (target : state.cspace vspace = some (.vspace space))
    (vaddr : Nat) :
    state.frameAt vspace vaddr = none ↔ ¬ (state.pages space vaddr).isSome := by
  unfold KernelState.frameAt
  rw [target]
  simp

theorem cloneVspace_shows (entries : List (Nat × CPtr)) (dst : Sel4Task) (state : KernelState ν)
    (rooted : Rooted space state) (user : space ≠ kernelVSpace)
    (target : state.cspace dst.vspace = some (.vspace space))
    (mirror : ∀ vaddr, (state.pages space vaddr).isSome ↔ vaddr ∈ dst.mappedPage) :
    Yields state (cloneVspace platform entries dst)
      fun dst' after => after.cspace dst'.vspace = some (.vspace space) ∧
        ∀ vaddr, (after.pages space vaddr).isSome ↔ vaddr ∈ dst'.mappedPage := by
  induction entries generalizing dst state with
  | nil =>
    refine .pure fun after same => ?_
    rw [same]
    exact ⟨target, mirror⟩
  | cons entry rest ih =>
    refine (allocate_spec state .granule).bind fun page => .fixed fun extended allocated => ?_
    have first : Kept False kernelVSpace state extended := allocated.kept
    have copies : Yields extended (clonePage platform page entry.2)
        fun _ after => Within False kernelVSpace extended after := clonePage_within page entry.2 extended
    refine copies.bind fun _ => .fixed fun filled within => ?_
    have kernel : Rooted kernelVSpace extended := ⟨allocated.caps rooted.kernel, allocated.caps rooted.kernel⟩
    have both : Kept False kernelVSpace state filled := first.trans (within kernel)
    have rootedNow : Rooted space filled :=
      ⟨both.caps _ _ rooted.kernel trivial, both.caps _ _ rooted.space trivial⟩
    have targetNow := both.caps _ _ target trivial
    refine (mapPage_spec False dst entry.1 page filled rootedNow targetNow).bind fun dst' => .fixed ?_
    rintro mapped ⟨⟨tabled, rights, kept, same, maps⟩, pts, rfl, -⟩
    have keptNow : Kept False space filled mapped :=
      kept.trans (maps.kept (Or.inl (kept.caps _ _ targetNow trivial)))
    refine ih _ mapped (keptNow.rooted rootedNow) (keptNow.caps _ _ targetNow trivial) fun vaddr => ?_
    obtain ⟨object, space', place, targetEq, -, -, rfl⟩ := maps
    cases (kept.caps _ _ targetNow trivial).symm.trans targetEq
    rw [pages_setCap, pages_setPage_self, same, both.pages space rooted.space user user]
    simp only [Std.TreeMap.mem_insert, compare_eq_iff_eq]
    by_cases here : vaddr = entry.1
    · simp [here]
    · rw [update_of_ne here, mirror]
      exact ⟨Or.inr, fun member => member.resolve_left fun same => here same.symm⟩

theorem cloneSpace_shows {newTask : Sel4Task} (tidy : Tidy False origin)
    (found : origin.tasks[badge]? = some parent) (made : Made origin newTask state)
    (growing : Growing False origin [] origin.tasks newTask.id newTask state)
    (empty : newTask.mappedPage = ∅) (shared : Bool) :
    Yields state (cloneSpace platform parent newTask shared)
      fun draft after => (∃ space, after.cspace draft.vspace = some (.vspace space) ∧
        GetsSpace origin parent shared space) ∧
        ∀ vaddr, after.frameAt draft.vspace vaddr = none ↔
          if shared then origin.frameAt parent.vspace vaddr = none else vaddr ∉ draft.mappedPage := by
  cases shared with
  | true =>
    obtain ⟨space, target, root⟩ := tidy.ledger.rooted badge parent found
    have handed : Evolves (DataOnly True noPage) (locked .objAllocator (allocateSlot platform) : KernelM ν _) :=
      Evolves.locked allocateSlot_dataOnly
    refine (handed state).bind fun slot => .fixed fun numbered same => ?_
    have targetNow : numbered.cspace parent.vspace = some (.vspace space) := by
      rw [same.cspace]
      exact growing.roots _ _ target
    refine (unwrapped_spec (cnodeCopy_vspace targetNow) fun _ => trivial).bind fun _ => .pure ?_
    rintro copied ⟨free, rfl⟩
    have copy : (numbered.setCap slot.2.2 (some (.vspace space))).cspace slot.2.2 =
      some (.vspace space) := update_self ..
    refine ⟨⟨space, copy, target⟩, fun vaddr => ?_⟩
    rw [if_pos rfl, frameAt_eq_none copy, frameAt_eq_none target, pages_setCap, same.pages,
      made.pages space _ root]
  | false =>
    have user : newTask.vspace ≠ kernelVSpace := by
      intro same
      have free := made.newSpace
      rw [same, tidy.ledger.kernel] at free
      cases free
    have mirror : ∀ vaddr, (state.pages newTask.vspace vaddr).isSome ↔ vaddr ∈ newTask.mappedPage := by
      intro vaddr
      rw [made.empty]
      simpa using not_mem_of_empty empty vaddr
    refine (cloneVspace_shows parent.mappedPage.toList newTask state
      ⟨growing.keeping.ledger.kernel, made.space⟩ user made.space
      mirror).partly ?_
    rintro draft after ⟨target, shows⟩
    refine ⟨⟨newTask.vspace, target, made.newSpace⟩, fun vaddr => ?_⟩
    rw [if_neg (by decide), frameAt_eq_none target, shows]

/-- A task that is not entered yet, with slots that nobody had and a thread of its own. -/
structure Drafted (origin : KernelState ν) (parent : Sel4Task) (shared : Bool) (spare : List CPtr)
    (draft : Sel4Task) (state : KernelState ν) : Prop where
  growing : Growing False origin spare origin.tasks draft.id draft state
  absent : draft.id ∉ origin.tasks
  tcbs : TcbsKept origin state
  newThread : origin.cspace draft.tcb = none
  thread : state.cspace draft.tcb = some (.tcb draft.tcb)
  space : ∃ space, state.cspace draft.vspace = some (.vspace space) ∧
    GetsSpace origin parent shared space

theorem cloneDraft_drafted (tidy : Tidy False origin) (found : origin.tasks[badge]? = some parent)
    (flags : Nat) :
    Yields origin (cloneDraft platform parent flags)
      fun draft after => Drafted origin parent (sharesSpace flags) [] draft after ∧
        ∀ vaddr, after.frameAt draft.vspace vaddr = none ↔ LeftFree origin parent (sharesSpace flags) vaddr := by
  refine ((new_growing tidy).also (new_made origin)).bind fun newTask => .fixed ?_
  rintro created ⟨⟨growing, absent, empty⟩, made⟩
  have apart : badge ≠ newTask.id := by
    rintro rfl
    exact absent (mem_of_found found)
  refine (((((cloneSpace_pages found apart empty _).startingAt growing).also
    ((cloneSpace_thread parent newTask _).startingAt trivial)).also
      (tcbs_walk.cloneSpace parent newTask _ created)).also
    (cloneSpace_shows tidy found made growing empty _)).partly ?_
  rintro draft after ⟨⟨⟨⟨growing, -, pages⟩, same⟩, tcbs⟩, space, shows⟩
  have thread : draft.tcb = newTask.tcb := congrArg ThreadPart.tcb same
  have name : draft.id = newTask.id := congrArg ThreadPart.id same
  refine ⟨⟨name ▸ growing, name ▸ absent, IsTrans.trans _ _ _ made.tcbs tcbs, thread ▸ made.newThread,
    thread ▸ (tcbs _ made.thread).1, space⟩, fun vaddr => ?_⟩
  rw [shows, pages, LeftFree]
  cases sharesSpace flags with
  | true => rfl
  | false => simp

theorem allocate_drafted (drafted : Drafted origin parent shared [] draft state) :
    Yields state (allocate platform .granule)
      fun page after => Drafted origin parent shared [page] draft after := by
  obtain ⟨space, target, gets⟩ := drafted.space
  refine (((allocate_growing.startingAt drafted.growing).also (tcbs_walk.allocate _ state)).also
    (allocate_spec state _)).partly ?_
  rintro page after ⟨⟨growing, tcbs⟩, allocated⟩
  exact ⟨growing, drafted.absent, IsTrans.trans _ _ _ drafted.tcbs tcbs, drafted.newThread,
    (tcbs _ drafted.thread).1, space,
    allocated.caps target, gets⟩

theorem mapPage_shows (self : Sel4Task) (vaddr : Nat) (page : CPtr) (rooted : Rooted space state)
    (target : state.cspace self.vspace = some (.vspace space)) (named : FramesNamed state) :
    Yields state (self.mapPage platform vaddr page)
      fun self' after => after.cspace self'.vspace = some (.vspace space) ∧
        after.frameAt self'.vspace vaddr = some page := by
  refine (mapPage_spec False self vaddr page state rooted target).partly ?_
  rintro self' after ⟨⟨middle, rights, kept, -, maps⟩, pts, rfl, -⟩
  have target' : after.cspace self.vspace = some (.vspace space) :=
    (kept.trans (maps.kept (Or.inl (kept.caps _ _ target trivial)))).caps _ _ target trivial
  refine ⟨target', ?_⟩
  obtain ⟨object, space', place, targetEq, frame, -, rfl⟩ := maps
  cases (kept.caps _ _ target trivial).symm.trans targetEq
  obtain rfl : object = page := kept.named named page object place frame
  simp only [KernelState.frameAt, target', pages_setCap, pages_setPage_self, update_self,
    Option.map_some]

theorem mapBuffer_drafted {page : CPtr}
    (drafted : Drafted origin parent shared [page] draft state) :
    Yields state (draft.mapPage platform cloneIpcBufferAddr page)
      fun child after => Drafted origin parent shared [] child after ∧
        after.frameAt child.vspace cloneIpcBufferAddr = some page := by
  obtain ⟨space, target, gets⟩ := drafted.space
  have ledger := drafted.growing.keeping.ledger
  obtain ⟨space', target', root⟩ := ledger.rooted draft.id draft (Std.TreeMap.getElem?_insert_self ..)
  cases target.symm.trans target'
  refine ((((mapPage_growing False.elim).startingAt drafted.growing).also
    (tcbs_walk.mapPage draft _ page state)).also
    (mapPage_shows draft _ page ⟨ledger.kernel, root⟩ target ledger.named)).partly ?_
  rintro child after ⟨⟨⟨growing, same, -⟩, tcbs⟩, target, shown⟩
  have thread : child.tcb = draft.tcb := same.tcb
  have name : child.id = draft.id := same.id
  refine ⟨⟨name ▸ growing, name ▸ drafted.absent, IsTrans.trans _ _ _ drafted.tcbs tcbs,
    thread ▸ drafted.newThread, ?_,
    space, target, gets⟩, shown⟩
  rw [thread]
  exact (tcbs _ drafted.thread).1

structure OthersKept (before after : KernelState ν) : Prop where
  roots : ∀ slot space, before.cspace slot = some (.vspace space) → after.cspace slot =
    some (.vspace space)
  threads : TcbsKept before after

theorem OthersKept.trans (first : OthersKept before middle) (second : OthersKept middle after) :
    OthersKept before after :=
  ⟨fun slot space found => second.roots slot space (first.roots slot space found),
    IsTrans.trans _ _ _ first.threads second.threads⟩

/-- The thread of a task has its IPC buffer at an address at which the task has the frame that
the thread was configured with. -/
structure BufferAt (buffer : Nat) (task : Sel4Task) (state : KernelState ν) : Prop where
  thread : state.cspace task.tcb = some (.tcb task.tcb)
  address : (state.tcbs task.tcb).ipcBuffer = buffer
  shown : state.frameAt task.vspace buffer = some (state.tcbs task.tcb).bufferFrame

theorem bufferAt_configured {tcb : Tcb} (thread : state.cspace task.tcb = some (.tcb task.tcb))
    (address : tcb.ipcBuffer = buffer) (shown : state.frameAt task.vspace buffer = some tcb.bufferFrame)
    (tasks : Std.TreeMap Nat Sel4Task) :
    BufferAt buffer task { state with tcbs := Function.update state.tcbs task.tcb tcb, tasks } := by
  have mine : Function.update state.tcbs task.tcb tcb task.tcb = tcb := update_self ..
  refine ⟨thread, ?_, ?_⟩
  · exact (congrArg Tcb.ipcBuffer mine).trans address
  · exact shown.trans (congrArg (fun tcb : Tcb => some tcb.bufferFrame) mine.symm)

structure CloneEntered (before : KernelState ν) (parent : Sel4Task) (shared : Bool)
    (child : Sel4Task) (after : KernelState ν) : Prop where
  kept : OthersKept before after
  tasks : after.tasks = before.tasks.insert child.id child
  absent : child.id ∉ before.tasks
  buffer : BufferAt cloneIpcBufferAddr child after
  space : ∃ space, after.cspace child.vspace = some (.vspace space) ∧
    GetsSpace before parent shared space

structure NoneEntered (before after : KernelState ν) : Prop where
  kept : OthersKept before after
  tasks : after.tasks = before.tasks

theorem drop_enters_none {self : Sel4Task}
    (growing : Growing False origin [] origin.tasks self.id self state)
    (tcbs : TcbsKept origin state) :
    Yields state (self.drop platform) fun _ after => NoneEntered origin after := by
  refine (deleteAll_frame self.slots state).partly ?_
  rintro _ after ⟨vspaces, deleted⟩
  have cspace : ∀ slot, after.cspace slot = if slot ∈ self.slots then none
    else state.cspace slot := by simp [deleted]
  have tasks : after.tasks = state.tasks := by rw [deleted]
  have sameTcbs : after.tcbs = state.tcbs := by rw [deleted]
  have stays : ∀ {slot cap}, origin.cspace slot = some cap → after.cspace slot = state.cspace slot := by
    intro slot cap found
    rw [cspace, if_neg]
    intro member
    rw [growing.fresh slot (List.mem_append_left _ member)] at found
    cases found
  refine ⟨⟨fun slot space found => (stays found).trans (growing.roots slot space found),
    fun tcb found => ?_⟩,
    tasks.trans growing.keeping.entered⟩
  obtain ⟨slot, same⟩ := tcbs tcb found
  exact ⟨(stays found).trans slot, (congrFun sameTcbs tcb).trans same⟩

theorem Drafted.configured (drafted : Drafted origin parent shared [] draft state) {tcb : Tcb}
    (buffer : tcb.ipcBuffer = cloneIpcBufferAddr)
    (shown : state.frameAt draft.vspace cloneIpcBufferAddr = some tcb.bufferFrame) :
    CloneEntered origin parent shared draft
      { state with tcbs := Function.update state.tcbs draft.tcb tcb, tasks := state.tasks.insert draft.id draft } := by
  refine ⟨⟨drafted.growing.roots, fun other found => ?_⟩, ?_, drafted.absent,
    bufferAt_configured drafted.thread buffer shown _, drafted.space⟩
  · have different : other ≠ draft.tcb := by
      rintro rfl
      rw [drafted.newThread] at found
      cases found
    obtain ⟨slot, same⟩ := drafted.tcbs other found
    exact ⟨slot, (update_of_ne different ..).trans same⟩
  · exact congrArg (·.insert draft.id draft) drafted.growing.keeping.entered

theorem tcbReadAllRegisters_reads (state : KernelState ν) (cap : CPtr) :
    Yields state (unwrapped (tcbReadAllRegisters cap)) fun _ after => after = state := by
  refine unwrapped_spec (.read_bind ?_) fun _ => trivial
  rintro state rfl
  split
  · exact .pure fun _ same _ _ => same
  · exact .pure fun _ same _ _ => same

theorem cloneFinish_enters (outcome : CloneOutcome) (args : CloneArgs)
    (drafted : Drafted origin parent shared [] draft state) :
    Yields state (cloneFinish platform outcome parent args draft)
      fun _ after => NoneEntered origin after ∨ ∃ child, CloneEntered origin parent shared child after := by
  refine (allocate_drafted drafted).bind fun page => .fixed fun extended drafted => ?_
  refine (mapBuffer_drafted drafted).bind fun child => .fixed ?_
  rintro furnished ⟨drafted, shown⟩
  split
  · exact (drop_enters_none drafted.growing drafted.tcbs).bind fun _ => .pure fun _ none => Or.inl none
  · have thread : ∀ tcbs, ({ furnished with tcbs } : KernelState ν).cspace child.tcb = some (.tcb child.tcb) :=
      fun _ => drafted.thread
    refine (changeTcb_spec _ drafted.thread _).raising.bind fun _ =>
      (tcbReadAllRegisters_reads _ parent.tcb).bind fun regs => ?_
    refine (changeTcb_spec _ (thread _) _).raising.bind fun _ =>
      (changeTcb_spec _ (thread _) _).raising.bind fun _ =>
      MemTriple.update_bind (.pure ?_)
    rintro _ rfl
    refine Or.inr ⟨child, ?_⟩
    simp only [Function.update_idem, update_self]
    exact drafted.configured rfl shown

theorem cloneTask_enters (tidy : Tidy False origin) (outcome : CloneOutcome)
    (found : origin.tasks[badge]? = some parent) (args : CloneArgs) (flags : Nat) :
    Yields origin (cloneTask platform outcome parent args flags)
      fun _ after => NoneEntered origin after ∨ ∃ child,
        CloneEntered origin parent (sharesSpace flags) child after := by
  by_cases mint : outcome.mint = true
  · rw [cloneTask_eq mint]
    exact (cloneDraft_drafted tidy found flags).bind fun draft => .fixed fun state drafted =>
      cloneFinish_enters outcome args drafted.1
  · refine ((new_growing tidy).also (new_made origin)).bind fun newTask => .fixed ?_
    rintro created ⟨⟨growing, -⟩, made⟩
    rw [if_pos mint]
    exact (drop_enters_none growing made.tcbs).bind fun _ => .pure fun _ none => Or.inl none

structure OnlyRead (before after : KernelState ν) : Prop where
  cspace : after.cspace = before.cspace
  pages : ∀ space, space ≠ kernelVSpace → after.pages space = before.pages space
  threads : TcbsKept before after
  tasks : after.tasks = before.tasks

theorem OnlyRead.kept (read : OnlyRead before after) : OthersKept before after :=
  ⟨fun slot space found => by rw [read.cspace]; exact found, read.threads⟩

theorem cloneStart_only_reads (tidy : Tidy False state) (decode : List UInt8 → CloneArgs)
    (cloneArgs : Nat) :
    Yields state (cloneStart platform decode badge cloneArgs)
      fun result after => (OnlyRead state after ∧ Tidy False after) ∧
        ∀ call, result = .ok call → CloneRequest decode badge cloneArgs state call.parent call.args call.flags := by
  refine (taskOf_spec state badge).bind fun parent => .fixed ?_
  rintro state ⟨rfl, found⟩
  split
  · refine .pure ?_
    rintro _ rfl
    exact ⟨⟨⟨rfl, fun _ _ => rfl, refl _, rfl⟩, tidy⟩, nofun⟩
  · have quietly : Evolves (Quietly False noPage)
      (readItem platform cloneArgsSize parent cloneArgs : KernelM ν _) :=
      readItem_quietly cloneArgsSize parent cloneArgs
    have positive : 0 < cloneArgsSize := by decide
    refine (((quietly state).also (tcbs_walk.readItem _ parent cloneArgs state)).also
      (readItem_reads tidy.ledger.kernel positive parent cloneArgs)).bind fun result => .fixed ?_
    rintro middle ⟨⟨quiet, threads⟩, item⟩
    have quiet := quiet tidy.ledger.kernel
    have read : OnlyRead state middle ∧ Tidy False middle :=
      ⟨⟨quiet.cspace, quiet.pages, threads, quiet.tasks⟩, tidy.steady quiet.steady⟩
    split
    · exact .pure fun _ same => ⟨same ▸ read, nofun⟩
    · rename_i bytes
      split
      · exact .pure fun _ same => ⟨same ▸ read, nofun⟩
      · rename_i flags flagsEq
        refine .pure fun _ same => ⟨same ▸ read, ?_⟩
        rintro call ⟨rfl⟩
        exact ⟨found, ⟨bytes, item bytes rfl, rfl⟩, flagsEq⟩

inductive CloneEffect (decode : List UInt8 → CloneArgs) (badge cloneArgs : Nat)
    (before after : KernelState ν) : Prop where
  | none (entered : NoneEntered before after)
  | one (parent : Sel4Task) (args : CloneArgs) (flags : Nat) (request : CloneRequest decode badge
    cloneArgs before parent args flags)
    (child : Sel4Task) (entered : CloneEntered before parent (sharesSpace flags) child after)

theorem OnlyRead.before_clone (read : OnlyRead before middle)
    (entered : CloneEntered middle parent shared child after) :
    CloneEntered before parent shared child after := by
  obtain ⟨kept, tasks, absent, buffer, space, target, gets⟩ := entered
  refine ⟨read.kept.trans kept, read.tasks ▸ tasks, read.tasks ▸ absent, buffer, space, target, ?_⟩
  rw [GetsSpace, read.cspace] at gets
  exact gets

theorem sysClone_effect (tidy : Tidy False state) (decode : List UInt8 → CloneArgs)
    (outcome : CloneOutcome) (cloneArgs : Nat) :
    Yields state (sysClone platform decode outcome badge cloneArgs)
      fun _ after => CloneEffect decode badge cloneArgs state after := by
  rw [sysClone_start]
  refine .locked ((cloneStart_only_reads tidy decode cloneArgs).bind fun result => .fixed ?_)
  rintro middle ⟨⟨read, tidyNow⟩, asked⟩
  cases result with
  | error error =>
    refine .pure ?_
    rintro _ rfl
    exact .none ⟨read.kept, read.tasks⟩
  | ok call =>
    have request := asked call rfl
    refine (cloneTask_enters tidyNow outcome (read.tasks ▸ request.caller) call.args call.flags).partly ?_
    rintro _ after (none | ⟨child, entered⟩)
    · exact .none ⟨read.kept.trans none.kept, none.tasks.trans read.tasks⟩
    · exact .one call.parent call.args call.flags request child (read.before_clone entered)

def KernelState.spaceOf (state : KernelState ν) (task : Sel4Task) : Option ObjId :=
  match state.cspace task.vspace with
  | some (.vspace space) => some space
  | _ => none

def KernelState.ipcBufferOf (state : KernelState ν) (task : Sel4Task) : Option Nat :=
  match state.cspace task.tcb with
  | some (.tcb tcb) => some (state.tcbs tcb).ipcBuffer
  | _ => none

/-- No two tasks with one address space have their IPC buffers at one address. -/
def BuffersPrivate (state : KernelState ν) : Prop :=
  ∀ (key key' : Nat) (task task' : Sel4Task) (space : ObjId) (buffer : Nat), state.tasks[key]? =
    some task →
    state.tasks[key']? = some task' → state.spaceOf task = some space → state.spaceOf task' = some space →
      state.ipcBufferOf task = some buffer → state.ipcBufferOf task' = some buffer → key = key'

theorem not_buffersPrivate {key' : Nat} (different : key ≠ key')
    (first : (state.tasks[key]?.map fun task => (state.spaceOf task, state.ipcBufferOf task)) =
      some (some space, some buffer))
    (second : (state.tasks[key']?.map fun task => (state.spaceOf task, state.ipcBufferOf task)) =
      some (some space, some buffer)) :
    ¬ BuffersPrivate state := by
  intro apart
  obtain ⟨task, found, mine⟩ := Option.map_eq_some_iff.mp first
  obtain ⟨task', found', theirs⟩ := Option.map_eq_some_iff.mp second
  exact different (apart key key' task task' space buffer found found' (congrArg Prod.fst mine)
    (congrArg Prod.fst theirs)
    (congrArg Prod.snd mine) (congrArg Prod.snd theirs))

structure Lodged (state : KernelState ν) : Prop where
  tidy : Tidy False state
  threads : ∀ (key : Nat) (task : Sel4Task), state.tasks[key]? = some task → state.cspace task.tcb =
    some (.tcb task.tcb)
  user : ∀ (key : Nat) (task : Sel4Task), state.tasks[key]? = some task → state.spaceOf task ≠
    some kernelVSpace

theorem spaceOf_eq (target : state.cspace task.vspace = some (.vspace space)) :
    state.spaceOf task = some space := by
  rw [KernelState.spaceOf, target]

theorem ipcBufferOf_eq (thread : state.cspace task.tcb = some (.tcb task.tcb)) :
    state.ipcBufferOf task = some (state.tcbs task.tcb).ipcBuffer := by
  rw [KernelState.ipcBufferOf, thread]

structure Unmoved (before after : KernelState ν) (task : Sel4Task) : Prop where
  thread : after.cspace task.tcb = some (.tcb task.tcb)
  space : after.spaceOf task = before.spaceOf task
  buffer : after.ipcBufferOf task = before.ipcBufferOf task

theorem Lodged.unmoved (lodged : Lodged before) (kept : OthersKept before after)
    (found : before.tasks[key]? = some task) : Unmoved before after task := by
  obtain ⟨space, target, -⟩ := lodged.tidy.ledger.rooted key task found
  obtain ⟨thread, same⟩ := kept.threads task.tcb (lodged.threads key task found)
  refine ⟨thread, ?_, ?_⟩
  · rw [spaceOf_eq target, spaceOf_eq (kept.roots _ _ target)]
  · rw [ipcBufferOf_eq thread, ipcBufferOf_eq (lodged.threads key task found), same]

theorem NoneEntered.lodged (none : NoneEntered before after) (tidy : Tidy False after)
    (lodged : Lodged before) : Lodged after := by
  refine ⟨tidy, fun key task found => ?_, fun key task found => ?_⟩
  · exact (lodged.unmoved none.kept (none.tasks ▸ found)).thread
  · rw [(lodged.unmoved none.kept (none.tasks ▸ found)).space]
    exact lodged.user key task (none.tasks ▸ found)

theorem NoneEntered.buffersPrivate (none : NoneEntered before after) (lodged : Lodged before)
    (apart : BuffersPrivate before) :
    BuffersPrivate after := by
  intro key key' task task' space buffer found found' home home' here here'
  rw [none.tasks] at found found'
  rw [(lodged.unmoved none.kept found).space] at home
  rw [(lodged.unmoved none.kept found').space] at home'
  rw [(lodged.unmoved none.kept found).buffer] at here
  rw [(lodged.unmoved none.kept found').buffer] at here'
  exact apart key key' task task' space buffer found found' home home' here here'

structure CloneStep where
  badge : Nat
  cloneArgs : Nat
  outcome : CloneOutcome

def CloneStep.run (platform : Platform) (decode : List UInt8 → CloneArgs) (step : CloneStep) :
    KernelM ν Unit := do
  let _ ← sysClone platform decode step.outcome step.badge step.cloneArgs

/-- The page that a clone call takes for the IPC buffer is not mapped in the address space
that it has made for the child. -/
def PicksFree (platform : Platform) (decode : List UInt8 → CloneArgs) (step : CloneStep)
    (world : KernelWorld ν) : Prop :=
  ∀ call draft after, (locked .taskMap (cloneToSpace platform decode step.badge step.cloneArgs)).run
    world = .ok (.ok (call, draft)) after →
    after.memory.frameAt draft.vspace cloneIpcBufferAddr = none

/-- The page is not mapped by the caller, and no task in its address space has its IPC buffer
there if the clone is to be one more of them. -/
def PicksApart (decode : List UInt8 → CloneArgs) (step : CloneStep) (state : KernelState ν) : Prop :=
  ∀ parent args flags, CloneRequest decode step.badge step.cloneArgs state parent args flags →
    LeftFree state parent (sharesSpace flags) cloneIpcBufferAddr ∧
      (sharesSpace flags = true → ∀ (key : Nat) (task : Sel4Task), state.tasks[key]? = some task →
        state.spaceOf task = state.spaceOf parent → state.ipcBufferOf task ≠ some cloneIpcBufferAddr)

theorem Lodged.shares (lodged : Lodged before) (gets : GetsSpace before parent shared space)
    (found : before.tasks[key]? = some task) (home : before.spaceOf task = some space) :
    shared = true ∧ before.spaceOf parent = some space := by
  cases shared with
  | true => exact ⟨rfl, spaceOf_eq gets⟩
  | false =>
    obtain ⟨space', target, root⟩ := lodged.tidy.ledger.rooted key task found
    cases (spaceOf_eq target).symm.trans home
    cases root.symm.trans gets

theorem CloneEntered.lodged (entered : CloneEntered before parent shared child after)
    (tidy : Tidy False after) (lodged : Lodged before) (found : before.tasks[badge]? = some parent) : Lodged after := by
  obtain ⟨space, target, gets⟩ := entered.space
  have user : space ≠ kernelVSpace := by
    rintro rfl
    cases shared with
    | true => exact lodged.user badge parent found (spaceOf_eq gets)
    | false => cases lodged.tidy.ledger.kernel.symm.trans gets
  refine ⟨tidy, fun key task held => ?_, fun key task held => ?_⟩
  · rw [entered.tasks] at held
    rcases lookup_insert _ _ _ held with ⟨-, rfl⟩ | ⟨-, older⟩
    · exact entered.buffer.thread
    · exact (lodged.unmoved entered.kept older).thread
  · rw [entered.tasks] at held
    rcases lookup_insert _ _ _ held with ⟨-, rfl⟩ | ⟨-, older⟩
    · rw [spaceOf_eq target]
      exact fun same => user (Option.some.inj same)
    · rw [(lodged.unmoved entered.kept older).space]
      exact lodged.user key task older

theorem CloneEntered.buffersPrivate (entered : CloneEntered before parent shared child after)
    (lodged : Lodged before) (apart : BuffersPrivate before)
    (others : shared = true → ∀ (key : Nat) (task : Sel4Task), before.tasks[key]? = some task →
      before.spaceOf task = before.spaceOf parent → before.ipcBufferOf task ≠
      some cloneIpcBufferAddr) :
    BuffersPrivate after := by
  obtain ⟨home, target, gets⟩ := entered.space
  have alone : ∀ (key : Nat) (task : Sel4Task) (space : ObjId) (buffer : Nat), before.tasks[key]? =
    some task →
      after.spaceOf child = some space → after.spaceOf task = some space →
        after.ipcBufferOf child = some buffer → after.ipcBufferOf task ≠ some buffer := by
    intro key task space buffer found mine theirs here there
    have unmoved := lodged.unmoved entered.kept found
    cases (spaceOf_eq target).symm.trans mine
    cases ((ipcBufferOf_eq entered.buffer.thread).trans (congrArg some entered.buffer.address)).symm.trans here
    rw [unmoved.space] at theirs
    rw [unmoved.buffer] at there
    obtain ⟨isShared, same⟩ := lodged.shares gets found theirs
    exact others isShared key task found (theirs.trans same.symm) there
  intro key key' task task' space buffer held held' mine theirs here there
  rw [entered.tasks] at held held'
  rcases lookup_insert _ _ _ held with ⟨rfl, rfl⟩ | ⟨-, older⟩
  · rcases lookup_insert _ _ _ held' with ⟨rfl, rfl⟩ | ⟨-, older'⟩
    · rfl
    · exact absurd there (alone key' task' space buffer older' mine theirs here)
  · rcases lookup_insert _ _ _ held' with ⟨rfl, rfl⟩ | ⟨-, older'⟩
    · exact absurd here (alone key task space buffer older theirs mine there)
    · rw [(lodged.unmoved entered.kept older).space] at mine
      rw [(lodged.unmoved entered.kept older').space] at theirs
      rw [(lodged.unmoved entered.kept older).buffer] at here
      rw [(lodged.unmoved entered.kept older').buffer] at there
      exact apart key key' task task' space buffer older older' mine theirs here there

theorem OnlyRead.leftFree {vaddr : Nat} (read : OnlyRead before after) (lodged : Lodged before)
    (found : before.tasks[badge]? = some parent) (free : LeftFree before parent shared vaddr) :
    LeftFree after parent shared vaddr := by
  cases shared with
  | false => exact free
  | true =>
    obtain ⟨space, target, -⟩ := lodged.tidy.ledger.rooted badge parent found
    have user : space ≠ kernelVSpace := fun same => lodged.user badge parent found (same ▸ spaceOf_eq target)
    have target' : after.cspace parent.vspace = some (.vspace space) := read.cspace ▸ target
    have unmapped := (frameAt_eq_none target vaddr).mp free
    rw [← read.pages space user] at unmapped
    exact (frameAt_eq_none target' vaddr).mpr unmapped

theorem cloneToSpace_picks {step : CloneStep} (lodged : Lodged state)
    (apart : PicksApart decode step state) :
    Yields state (cloneToSpace platform decode step.badge step.cloneArgs)
      fun result after => ∀ call draft, result = .ok (call, draft) →
        after.frameAt draft.vspace cloneIpcBufferAddr = none := by
  refine (cloneStart_only_reads lodged.tidy decode step.cloneArgs).bind fun result => .fixed ?_
  rintro middle ⟨⟨read, tidy⟩, asked⟩
  cases result with
  | error error => exact .pure fun _ _ _ _ => nofun
  | ok call =>
    have request := asked call rfl
    have free := read.leftFree lodged request.caller (apart call.parent call.args call.flags request).1
    refine (cloneDraft_drafted tidy (read.tasks ▸ request.caller) call.flags).bind fun draft => .pure ?_
    rintro after ⟨-, shows⟩ _ _ ⟨⟩
    exact (shows cloneIpcBufferAddr).mpr free

theorem cloneStep_keeps {step : CloneStep} (lodged : Lodged state) (private_ : BuffersPrivate state)
    (apart : PicksApart decode step state) :
    Yields state (step.run platform decode) fun _ after => Lodged after ∧ BuffersPrivate after := by
  refine ((sysClone_effect lodged.tidy decode step.outcome step.cloneArgs).also
    (sysClone_tidy lodged.tidy step.outcome False.elim)).bind fun _ => .pure ?_
  rintro after ⟨none | ⟨parent, args, flags, request, child, entered⟩, tidy⟩
  · exact ⟨none.lodged tidy lodged, none.buffersPrivate lodged private_⟩
  · exact ⟨entered.lodged tidy lodged request.caller,
      entered.buffersPrivate lodged private_ (apart parent args flags request).2⟩

/-- In every run of clone calls each of which finds its page free, from any state in which
the buffers are private, they are so in all states, and every clone gets a page that is free. -/
theorem buffers_stay_private (decode : List UInt8 → CloneArgs) (world : KernelWorld ν)
    (lodged : Lodged world.memory) (apart : BuffersPrivate world.memory) (steps : List CloneStep)
    (met : MeetsAlong (CloneStep.run platform decode)
      (fun step world => PicksApart decode step world.memory) steps world) :
    MeetsAlong (CloneStep.run platform decode)
        (fun step world => BuffersPrivate world.memory ∧ PicksFree platform decode step world) steps world ∧
      ∀ after, (runAll (CloneStep.run platform decode) steps).run world = .ok () after →
        BuffersPrivate after.memory := by
  have kept : ∀ step : CloneStep, Triple
      (fun world : KernelWorld ν =>
        (Lodged world.memory ∧ BuffersPrivate world.memory) ∧ PicksApart decode step world.memory)
      (step.run platform decode) (fun _ world => Lodged world.memory ∧ BuffersPrivate world.memory)
        (fun _ _ => True) := fun step =>
    (.fixed fun state holds => cloneStep_keeps holds.1.1 holds.1.2 holds.2 :
      Leads (fun state => (Lodged state ∧ BuffersPrivate state) ∧ PicksApart decode step state)
        (step.run platform decode)
        (fun _ state => Lodged state ∧ BuffersPrivate state)).triple
  have picks : ∀ (step : CloneStep) (world : KernelWorld ν),
      Lodged world.memory ∧ BuffersPrivate world.memory → PicksApart decode step world.memory →
        BuffersPrivate world.memory ∧ PicksFree platform decode step world := by
    intro step world holds apart
    refine ⟨holds.2, fun call draft after ran => ?_⟩
    exact (MemTriple.locked (cloneToSpace_picks holds.1 apart)).triple.of_run rfl ran call draft rfl
  refine ⟨met.strengthen kept picks ⟨lodged, apart⟩, fun after ran => ?_⟩
  exact ((runAll_invariant (fun step _ => kept step) steps 0).of_run ⟨⟨lodged, apart⟩, met⟩ ran).2

theorem startChild_bufferAt (env : Env ν) (ep : UInt64) (tidy : Tidy False state) :
    Yields state (startChild env ep)
      fun _ after => ∃ task : Sel4Task, after.tasks[task.id]? = some task ∧
        BufferAt env.child.ipcBufferAddr task after := by
  refine ((new_growing tidy).also (new_made state)).bind fun task => .fixed ?_
  rintro created ⟨⟨growing, unpaged⟩, made⟩
  refine (((loadSegments_keeping env.child _ unpaged.pages).startingAt growing.keeping).also
    (tcbs_walk.loadElf task env.child created)).bind fun loaded => .fixed ?_
  rintro loadedState ⟨⟨keeping, first, -⟩, loadTcbs⟩
  refine (((mapStack_keeping _ _ _ _ False.elim).startingAt keeping).also
    (tcbs_walk.mapStack loaded _ _ _ _ loadedState)).bind
    fun stacked => .fixed ?_
  rintro stackedState ⟨⟨keeping, second⟩, stackTcbs⟩
  refine ((allocate_keeping.startingAt keeping).also (tcbs_walk.allocate _ stackedState)).bind
    fun buffer => .fixed ?_
  rintro allocated ⟨keeping, allocTcbs⟩
  obtain ⟨space, target, root⟩ := keeping.root
  refine ((mapPage_shows stacked.2 _ buffer ⟨keeping.ledger.kernel, root⟩ target
    keeping.ledger.named).also
    ((tcbs_walk.mapPage stacked.2 _ buffer allocated).also
      ((mapPage_thread stacked.2 _ buffer).startingAt trivial))).bind
    fun complete => .fixed ?_
  rintro mapped ⟨⟨-, shown⟩, mapTcbs, third⟩
  have same : complete.tcb = task.tcb :=
    (congrArg ThreadPart.tcb third).trans (second.same.tcb.trans first.tcb)
  have thread : ∀ tcbs, ({ mapped with tcbs } : KernelState ν).cspace complete.tcb =
      some (.tcb complete.tcb) := fun _ => by
    rw [same]
    exact (mapTcbs _ (allocTcbs _ (stackTcbs _ (loadTcbs _ made.thread).1).1).1).1
  refine (changeTcb_spec mapped (thread mapped.tcbs) _).raising.bind fun _ =>
    (changeTcb_spec _ (thread _) _).raising.bind fun _ => (changeTcb_spec _ (thread _) _).raising.bind fun _ =>
      MemTriple.locked (.update ?_)
  rintro _ rfl
  refine ⟨complete, Std.TreeMap.getElem?_insert_self .., ?_⟩
  have threadNow : mapped.cspace complete.tcb = some (.tcb complete.tcb) := thread mapped.tcbs
  simp only [Function.update_idem, update_self]
  refine bufferAt_configured threadNow ?_ ?_ _
  · rfl
  · exact shown

theorem Entered.only (entered : Entered before task after) (booted : Booted before)
    {other : Sel4Task} (found : after.tasks[key]? = some other) : key = task.id ∧ other = task := by
  rw [entered.tasks, booted.tasks] at found
  rcases lookup_insert _ _ _ found with same | ⟨-, never⟩
  · exact same
  · simp at never

theorem startChild_first (env : Env ν) (ep : UInt64) (booted : Booted state) :
    Yields state (startChild env ep)
      fun _ after => ∃ task, Entered state task after ∧ BufferAt env.child.ipcBufferAddr task after := by
  have tidy : Tidy False state := booted.tidy False.elim
  refine ((startChild_enters env ep tidy).also (startChild_bufferAt env ep tidy)).partly ?_
  rintro _ after ⟨⟨task, entered⟩, task', found, buffer⟩
  obtain ⟨-, rfl⟩ := entered.only booted found
  exact ⟨task', entered, buffer⟩

theorem sysClone_bufferAt (tidy : Tidy False state) (decode : List UInt8 → CloneArgs)
    (outcome : CloneOutcome) (cloneArgs : Nat) :
    Yields state (sysClone platform decode outcome badge cloneArgs) fun result after => ∀ id, result = .ok id →
      ∃ child, child.id = id ∧ Entered state child after ∧ BufferAt cloneIpcBufferAddr child after := by
  refine ((sysClone_cloned tidy decode outcome cloneArgs).also
    (sysClone_effect tidy decode outcome cloneArgs)).partly ?_
  rintro result after ⟨cloned, effect⟩ id returned
  obtain ⟨_, _, _, child, name, -, cloned⟩ := cloned id returned
  have found := cloned.found
  refine ⟨child, name, cloned.toEntered, ?_⟩
  rcases effect with none | ⟨_, _, _, _, child', entered⟩
  · rw [none.tasks] at found
    exact absurd (mem_of_found found) cloned.absent
  · rw [entered.tasks] at found
    rcases lookup_insert _ _ _ found with ⟨-, rfl⟩ | ⟨-, older⟩
    · exact entered.buffer
    · exact absurd (mem_of_found older) cloned.absent

theorem startChild_lodged (env : Env ν) (ep : UInt64) (booted : Booted state) :
    Yields state (startChild env ep) fun _ after => Lodged after ∧ BuffersPrivate after := by
  have orderly : Orderly ⟨False, False⟩ state := booted.orderly False.elim
  refine (((startChild_orderly env ep).startingAt orderly).also
    (startChild_first env ep booted)).partly ?_
  rintro _ after ⟨orderly, task, entered, buffer⟩
  refine ⟨⟨entered.tidy, fun key other found => ?_, fun key other found => ?_⟩, ?_⟩
  · obtain ⟨-, rfl⟩ := entered.only booted found
    exact buffer.thread
  · have tracks := (Books.inOrder orderly key other found).tracks
    rw [spaceOf_eq tracks.root]
    exact fun same => tracks.user (Option.some.inj same)
  · intro key key' other other' _ _ found found' _ _ _ _
    exact (entered.only booted found).1.trans (entered.only booted found').1.symm

theorem firstWorld_lodged : Lodged firstWorld.memory ∧ BuffersPrivate firstWorld.memory := by
  have started : (kernelRun smallEnv 0 [] : KernelM Unit Unit) = startChild smallEnv 0 := bind_pure_unit
  have returns : returnValue ((startChild smallEnv 0).run (KernelWorld.boot ())) = some () := by
    decide +kernel
  unfold firstWorld
  rw [started]
  exact (startChild_lodged smallEnv 0 (boot_booted ())).triple.of_run rfl (ran_of_returnValue returns)

def threadStep : CloneStep := ⟨1, 0x10000, ⟨true, true, true⟩⟩

def threadRun (steps : List CloneStep) :
    EStateM.Result Fault (World Lock (List UInt64) (KernelState Unit)) Unit :=
  (runAll (CloneStep.run smallEnv.platform smallEnv.decodeCloneArgs) steps).run firstWorld

theorem firstWorld_picks : PicksApart smallEnv.decodeCloneArgs threadStep firstWorld.memory := by
  have free : (firstWorld.memory.tasks[1]?.all fun task =>
    (firstWorld.memory.frameAt task.vspace cloneIpcBufferAddr).isNone &&
      decide (cloneIpcBufferAddr ∉ task.mappedPage)) = true := by decide +kernel
  have elsewhere : (firstWorld.memory.tasks.toList.all fun entry =>
      decide (firstWorld.memory.ipcBufferOf entry.2 ≠ some cloneIpcBufferAddr)) = true := by decide +kernel
  intro parent args flags request
  have caller : firstWorld.memory.tasks[1]? = some parent := request.caller
  rw [caller] at free
  simp only [Option.all_some, Bool.and_eq_true, Option.isNone_iff_eq_none, decide_eq_true_eq] at free
  refine ⟨?_, fun _ key task found _ => ?_⟩
  · unfold LeftFree
    split
    · exact free.1
    · exact free.2
  · exact of_decide_eq_true (List.all_eq_true.mp elsewhere (key, task)
      (Std.TreeMap.mem_toList_iff_getElem?_eq_some.mpr found))

theorem buffers_stay_private_thread :
    returnValue (threadRun [threadStep]) = some () ∧
      PicksFree smallEnv.platform smallEnv.decodeCloneArgs threadStep firstWorld ∧
      BuffersPrivate (finalState (threadRun [threadStep])).memory := by
  have returns : returnValue (threadRun [threadStep]) = some () := by decide +kernel
  have met : MeetsAlong (CloneStep.run smallEnv.platform smallEnv.decodeCloneArgs)
      (fun step world => PicksApart smallEnv.decodeCloneArgs step world.memory) [threadStep] firstWorld :=
    meetsAlong_cons firstWorld_picks trivial
  have holds := buffers_stay_private smallEnv.decodeCloneArgs firstWorld firstWorld_lodged.1
    firstWorld_lodged.2 [threadStep] met
  exact ⟨returns, holds.1.1.2, holds.2 _ (ran_of_returnValue returns)⟩

def secondDraft : EStateM.Result Fault (World Lock (List UInt64) (KernelState Unit))
    (Except Errno (CloneCall × Sel4Task)) :=
  (locked .taskMap (cloneToSpace smallEnv.platform smallEnv.decodeCloneArgs threadStep.badge
    threadStep.cloneArgs)).run
    (finalState (threadRun [threadStep]))

theorem secondDraft_taken : ∃ call draft, secondDraft =
    .ok (.ok (call, draft)) (finalState secondDraft) ∧
    (finalState secondDraft).memory.frameAt draft.vspace cloneIpcBufferAddr ≠ none := by
  have taken : (((returnValue secondDraft).bind Except.toOption).any fun made =>
      ((finalState secondDraft).memory.frameAt made.2.vspace cloneIpcBufferAddr).isSome) = true := by decide +kernel
  obtain ⟨⟨call, draft⟩, drafted, mapped⟩ := (Option.any_eq_true _ _).mp taken
  obtain ⟨result, returned, isOk⟩ := Option.bind_eq_some_iff.mp drafted
  cases result with
  | error error => cases isOk
  | ok value =>
    obtain rfl : value = (call, draft) := Option.some.inj isOk
    exact ⟨call, draft, ran_of_returnValue returned, Option.isSome_iff_ne_none.mp mapped⟩

/-- The IPC buffer of the second thread is mapped over the one of the first. -/
theorem second_thread_takes_buffer :
    Lodged firstWorld.memory ∧ BuffersPrivate firstWorld.memory ∧
      returnValue (threadRun [threadStep, threadStep]) = some () ∧
      ¬ PicksFree smallEnv.platform smallEnv.decodeCloneArgs threadStep (finalState (threadRun [threadStep])) ∧
      ¬ BuffersPrivate (finalState (threadRun [threadStep, threadStep])).memory := by
  refine ⟨firstWorld_lodged.1, firstWorld_lodged.2, by decide +kernel, fun picks => ?_, ?_⟩
  · obtain ⟨call, draft, ran, mapped⟩ := secondDraft_taken
    exact mapped (picks call draft (finalState secondDraft) ran)
  · exact not_buffersPrivate (by decide : 2 ≠ 3)
      (by decide +kernel : _ = some (some 0x1000, some cloneIpcBufferAddr))
      (by decide +kernel)

end RootTaskDemo.Kernel
