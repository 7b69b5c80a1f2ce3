import RootTaskDemo.Kernel.SyscallFrame
import RootTaskDemo.Kernel.TaskBooks

namespace RootTaskDemo.Kernel

open Common Lib Thread
open Function (update_self update_of_ne)

variable {ν α : Type} {platform : Platform} {standard : Standard} {job : Job ν} {stale : Nat → Prop}
  {badge : Nat}
  {origin : KernelState ν} {cloning : Prop} {strict : Prop} {task : Sel4Task}
variable {state : KernelState ν} {space : ObjId} {post : α → KernelState ν → Prop}
variable {next : Sel4Task → KernelM ν α} {program : KernelM ν α} {self : Sel4Task}

/-! Every system call keeps the books, those that replace or share an address
space under a condition on the state they start in. Those that do not concern the
network leave every task but the caller's alone. -/

def Orderly (standard : Standard) (state : KernelState ν) : Prop := Books standard state.tasks state

theorem Books.orderly {tasks : Std.TreeMap Nat Sel4Task} (books : Books standard tasks state) :
    Orderly standard state := by
  unfold Orderly
  rw [books.entered]
  exact books

theorem Orderly.evolves (evolves : Evolves (Within strict kernelVSpace) program) :
    Leads (Orderly standard) program (fun _ => Orderly standard) :=
  evolves.keeps fun _ _ within books => (Books.kept books (within ⟨books.kernel, books.kernel⟩)).orderly

/-- What a call of one task leaves alone: the other tasks, their pages and what is in
them. At most one task is entered, under the badge or as a newcomer. -/
structure Isolated (standard : Standard) (cloning : Prop) (badge : Nat)
    (origin state : KernelState ν) : Prop where
  others : ∀ (other : Nat) (task : Sel4Task), other ≠ badge → origin.tasks[other]? = some task →
    state.tasks[other]? = some task ∧ Untouched standard origin task state
  entered : state.tasks = origin.tasks ∨ ∃ key task, state.tasks = origin.tasks.insert key task ∧
    (key ∈ origin.tasks ∧ key = badge ∨ cloning ∧ key ∉ origin.tasks ∧ task.id = key)

structure Accounted (standard : Standard) (cloning : Prop) (badge : Nat)
    (origin state : KernelState ν) : Prop where
  orderly : Orderly standard state
  isolated : Isolated standard cloning badge origin state

/-- A call leaves the books in order and the other tasks alone. -/
abbrev Accounts (standard : Standard) (cloning : Prop) (badge : Nat) (origin : KernelState ν)
    (program : KernelM ν α) : Prop :=
  Leads (Watched standard badge origin) program fun _ => Accounted standard cloning badge origin

theorem Watched.isolated (watched : Watched standard badge origin state) :
    Isolated standard cloning badge origin state :=
  ⟨fun other task different found =>
    ⟨watched.books.entered ▸ found, watched.others other task different found⟩,
    Or.inl watched.books.entered⟩

theorem Watched.accounted (watched : Watched standard badge origin state) :
    Accounted standard cloning badge origin state :=
  ⟨watched.books.orderly, watched.isolated⟩

theorem Isolated.unchanged {before after : KernelState ν}
    (isolated : Isolated standard cloning badge origin before)
    (same : DataOnly True noPage before after) : Isolated standard cloning badge origin after := by
  refine ⟨fun other task different found => ?_, same.tasks ▸ isolated.entered⟩
  obtain ⟨known, untouched⟩ := isolated.others other task different found
  refine ⟨same.tasks ▸ known, same.cspace ▸ untouched.root, same.pages ▸ untouched.pages,
    fun asked frame vaddr settled => ?_⟩
  rw [same.frames_eq, same.cspace]
  exact untouched.frames asked frame vaddr settled

theorem Accounted.unchanged (data : Evolves (DataOnly True noPage) program) :
    Leads (Accounted standard cloning badge origin) program (fun _ => Accounted standard cloning badge origin) :=
  data.keeps fun _ _ same accounted =>
    ⟨(Books.kept accounted.orderly same.kept).orderly, accounted.isolated.unchanged same⟩

theorem Isolated.since {entry : KernelState ν} (isolated : Isolated standard cloning badge entry state)
    (watched : Watched standard badge origin entry) : Isolated standard cloning badge origin state := by
  obtain ⟨others, entered⟩ := isolated
  rw [watched.books.entered] at others entered
  refine ⟨fun other task different found => ?_, entered⟩
  obtain ⟨known, later⟩ := others other task different found
  have earlier := watched.others other task different found
  refine ⟨known, later.root.trans earlier.root, later.pages.trans earlier.pages,
    fun asked frame vaddr settled => ?_⟩
  obtain ⟨sameCap, contents⟩ := earlier.frames asked frame vaddr settled
  obtain ⟨sameCap', contents'⟩ := later.frames asked frame vaddr (sameCap.trans settled)
  exact ⟨sameCap'.trans sameCap, contents'.trans contents⟩

theorem taskOf_spec (state : KernelState ν) (badge : Nat) :
    Yields state (taskOf badge) fun task now => now = state ∧ state.tasks[badge]? = some task := by
  refine .read_bind ?_
  rintro state rfl
  cases found : state.tasks[badge]? with
  | none => exact .stop fun _ _ => trivial
  | some task => exact .pure fun _ same => ⟨same, rfl⟩

theorem onTask_watched
    (rest : ∀ task, origin.tasks[badge]? = some task →
      Leads (Watched standard badge origin) (next task) post) :
    Leads (Watched standard badge origin) (locked .taskMap (taskOf badge >>= next)) post := by
  refine .locked (.fixed fun state watched => ?_)
  refine (taskOf_spec state badge).bind fun task => .fixed ?_
  rintro state ⟨rfl, found⟩
  exact (rest task (watched.books.entered ▸ found)).startingAt watched

theorem onTask_holding
    (rest : ∀ task, origin.tasks[badge]? = some task →
      Leads (Holding ⟨standard, badge, origin⟩ clean task) (next task) post) :
    Leads (Watched standard badge origin) (locked .taskMap (taskOf badge >>= next)) post :=
  onTask_watched fun task found => (rest task found).weaken (fun _ watched => watched.holding found)
    (fun _ _ holds => holds) fun _ _ => trivial

theorem Held.relabel {task' : Sel4Task} {records : Nat → Option CPtr}
    (held : Held job stale task records state) (same : SameTask task task')
    (tables : ∀ pt ∈ task'.mappedPt, pt ∈ task.mappedPt) : Held job stale task' records state := by
  obtain ⟨working, tcb, cnode, pts⟩ := held
  rw [← same.vspace] at working
  refine ⟨working, ?_, ?_, fun pt member => ?_⟩
  · rw [same.tcb]
    exact tcb
  · rw [same.cnode]
    exact cnode
  · rw [same.vspace]
    exact pts pt (tables pt member)

theorem isolated_entering {key : Nat} (entered : state.tasks = origin.tasks)
    (untouched : ∀ (other : Nat) (task : Sel4Task), other ≠ badge → other ≠ key →
      origin.tasks[other]? = some task → Untouched standard origin task state)
    (entry : key ∈ origin.tasks ∧ key = badge ∨ cloning ∧ key ∉ origin.tasks ∧ task.id = key) :
    Isolated standard cloning badge origin { state with tasks := state.tasks.insert key task } := by
  refine ⟨fun other task' different found => ?_, Or.inr ⟨key, task, by rw [entered], entry⟩⟩
  have outside : other ≠ key := by
    rintro rfl
    rcases entry with entry | entry
    · exact different entry.2
    · refine entry.2.1 ?_
      rw [Std.TreeMap.mem_iff_isSome_getElem?, found]
      rfl
  have same := untouched other task' different outside found
  refine ⟨?_, same.root, same.pages, same.frames⟩
  dsimp only
  rw [entered, Std.TreeMap.getElem?_insert, if_neg fun equal =>
    outside (compare_eq_iff_eq.mp equal).symm]
  exact found

theorem setTask_accounted (task task' : Sel4Task) (same : SameTask task task')
    (tables : task'.mappedPt = task.mappedPt) (pages : task'.mappedPage = task.mappedPage)
    (entry : job.key ∈ job.origin.tasks ∧ job.key = badge ∨ cloning ∧ job.key ∉ job.origin.tasks ∧
      task'.id = job.key) :
    Leads (Holding job clean task) (setTask job.key task')
      (fun _ => Accounted job.standard cloning badge job.origin) := by
  refine .update fun state holding => ?_
  have records : task'.records = task.records := by
    unfold Sel4Task.records
    rw [pages]
  have relabelled : Holding job clean task' state := by
    unfold Holding
    rw [records]
    exact holding.relabel same fun _ member => tables ▸ member
  refine ⟨?_, isolated_entering holding.working.entered
    (fun other task _ different found => (holding.working.others other task different found).2.2) entry⟩
  have entered := relabelled.enter.orderly
  rw [← holding.working.entered] at entered
  exact entered

theorem setCaller_accounted {found : Sel4Task} (task task' : Sel4Task) (same : SameTask task task')
    (tables : task'.mappedPt = task.mappedPt) (pages : task'.mappedPage = task.mappedPage)
    (present : origin.tasks[badge]? = some found) :
    Leads (Holding ⟨standard, badge, origin⟩ clean task) (setTask badge task')
      (fun _ => Accounted standard cloning badge origin) := by
  refine setTask_accounted task task' same tables pages (Or.inl ⟨?_, rfl⟩)
  rw [Std.TreeMap.mem_iff_isSome_getElem?, present]
  rfl

theorem tcb_dataOnly (cap : CPtr) (change : Tcb → Tcb) :
    Evolves (DataOnly True noPage) (unwrapped (changeTcb cap change) : KernelM ν Unit) :=
  unwrapped_evolves (changeTcb_dataOnly cap change)

theorem tcb_within (cap : CPtr) (change : Tcb → Tcb) :
    Evolves (Within strict kernelVSpace) (unwrapped (changeTcb cap change) : KernelM ν Unit) := by
  have data : Evolves (DataOnly strict noPage) (unwrapped (changeTcb cap change) : KernelM ν Unit) :=
    unwrapped_evolves (changeTcb_dataOnly cap change)
  exact DataOnly.within data

theorem sysMmap_accounted (addr length prot flags : Nat) :
    Accounts standard cloning badge origin (sysMmap platform badge addr length prot flags) := by
  refine onTask_watched fun task found => ?_
  split
  · refine ((mapMissing_holding _ task).weaken (fun _ (watched : Watched standard badge origin _) =>
      watched.holding found) (fun _ _ mapped => mapped) fun _ _ => trivial).bind fun task' => .fixed ?_
    rintro middle ⟨holding, _⟩
    exact ((setCaller_accounted task' task' (.refl task') rfl rfl found).startingAt holding).bind fun _ =>
      MemTriple.pure fun _ accounted => accounted
  · exact .pure fun _ watched => watched.accounted

theorem sysUnmap_accounted (addr length : Nat) :
    Accounts standard cloning badge origin (sysUnmap badge addr length) := by
  refine onTask_holding fun task found => ?_
  refine (unmapPresent_holding _ task).bind fun task' => .fixed ?_
  rintro middle ⟨holding, _⟩
  exact ((setCaller_accounted task' task' (.refl task') rfl rfl found).startingAt holding).bind fun _ =>
    MemTriple.pure fun _ accounted => accounted

theorem brk_holding (self : Sel4Task) (value : Nat) :
    Leads (Holding job clean self) (self.brk platform value)
      (fun result after => Holding job clean result.2 after ∧ SameTask self result.2) := by
  unfold Sel4Task.brk
  split
  · exact .pure fun _ holding => ⟨holding, .refl self⟩
  · exact (mapFresh_holding _ self).bind fun self' => .pure fun _ mapped => mapped

theorem sysBrk_accounted (addr : Nat) :
    Accounts standard cloning badge origin (sysBrk platform badge addr) := by
  refine onTask_watched fun task found => ?_
  have entered : ∀ task', Leads (Holding ⟨standard, badge, origin⟩ clean task')
      (setTask badge { task' with heap := addr } >>= fun _ => pure (.ok 0 : SysResult))
      (fun _ => Accounted standard cloning badge origin) :=
    fun task' => (setCaller_accounted task' { task' with heap := addr } ⟨rfl, rfl, rfl, rfl⟩ rfl rfl
      found).bind fun _ =>
      MemTriple.pure fun _ accounted => accounted
  split
  · exact .pure fun _ watched => watched.accounted
  · dsimp only
    refine .fixed fun state watched => ?_
    split
    · refine ((brk_holding task addr).startingAt (watched.holding found)).bind fun grown => .fixed ?_
      rintro middle ⟨holding, _⟩
      exact (MemTriple.pure fun _ same => same ▸ holding).bind entered
    · exact (MemTriple.pure fun _ same => same ▸ watched.holding found).bind entered

theorem handleVmFault_accounted (env : Env ν) (addr : Nat) :
    Accounts standard cloning badge origin (handleVmFault env badge addr) := by
  refine (Watched.evolves (allocate_within .granule)).bind fun page =>
    onTask_holding fun task found => ?_
  refine (mapPage_clean task _ page).bind fun task' => .fixed ?_
  rintro middle ⟨holding, _⟩
  exact ((setCaller_accounted task' task' (.refl task') rfl rfl found).startingAt holding).bind fun _ =>
    Accounted.unchanged (tcb_dataOnly _ _)

theorem sysExit_accounted (exitCode : Int) :
    Accounts standard cloning badge origin (sysExit badge exitCode) := by
  refine onTask_holding fun task found => ?_
  exact (setCaller_accounted task { task with exit := some exitCode } ⟨rfl, rfl, rfl, rfl⟩ rfl rfl
    found).bind fun _ =>
    (Accounted.unchanged (tcb_dataOnly _ _)).bind fun _ => .pure fun _ accounted => accounted

theorem sysSetTidAddress_accounted (tidptr : Nat) :
    Accounts standard cloning badge origin (sysSetTidAddress badge tidptr) := by
  refine onTask_holding fun task found => ?_
  exact (setCaller_accounted task { task with clearChildTid := some tidptr } ⟨rfl, rfl, rfl, rfl⟩
    rfl rfl found).bind fun _ =>
    MemTriple.pure fun _ accounted => accounted

theorem copyPage_dataOnly {src page : Nat} (aligned : page % pageSize = 0) :
    Evolves (DataOnly strict (· = page)) (copyBytes platform src page pageSize : KernelM ν Unit) := by
  intro state
  have loaded : Yields state (loadBytes platform src pageSize)
      fun bytes now => DataOnly strict (· = page) state now ∧ bytes.length = pageSize :=
    (loadBytes_dataOnly src pageSize state).also ((loadBytes_length src pageSize).weaken (fun _ _ => trivial)
      (fun _ _ length => length) fun _ _ => trivial)
  refine loaded.bind fun bytes => .fixed ?_
  rintro middle ⟨same, length⟩
  exact (storeBytes_inPage aligned 0 bytes (by omega) middle).partly fun _ _ later =>
    IsTrans.trans _ _ _ same later

theorem clonePage_within (newPageCap pageCap : CPtr) :
    Evolves (Within strict kernelVSpace) (clonePage platform newPageCap pageCap : KernelM ν Unit) := by
  by_cases aligned : platform.extPageSeat % pageSize = 0
  · exact withSeat_within _ _ (withPage_quietly _ (copyPage_dataOnly aligned) fun _ => platform.seats_differ)
  · exact fun state => (frameMap_aligned state _ _ _ aligned).bind fun _ => .fixed fun _ never => never.elim

theorem cloneVspace_holding (pages : List (Nat × CPtr)) (dst : Sel4Task) :
    Leads (Holding job clean dst) (cloneVspace platform pages dst)
      (fun dst' after => Holding job clean dst' after ∧ SameTask dst dst') := by
  induction pages generalizing dst with
  | nil => exact .pure fun _ holding => ⟨holding, .refl dst⟩
  | cons page rest ih =>
    obtain ⟨vaddr, pageCap⟩ := page
    refine (allocate_holding .granule).bind fun newPageCap =>
      (Held.evolves (clonePage_within newPageCap pageCap)).bind
      fun _ => (mapPage_clean dst vaddr newPageCap).bind fun dst' => .fixed fun middle mapped => ?_
    exact (mapped.2.followedBy (ih dst')).startingAt mapped.1

theorem tcbReadAllRegisters_dataOnly (cap : CPtr) :
    Evolves (DataOnly strict noPage) (unwrapped (tcbReadAllRegisters cap) : KernelM ν _) := by
  refine unwrapped_evolves (.bind Evolves.read fun state => ?_)
  split
  · exact .pure
  · exact .pure

theorem cloneTask_accounted (books : Orderly standard origin) (outcome : CloneOutcome)
    (task : Sel4Task) (args : CloneArgs) {flags : Nat} (apart : flags &&& cloneVm = 0) :
    Yields origin (cloneTask platform outcome task args flags)
      fun _ => Accounted standard True badge origin := by
  refine (new_holding books).bind fun newTask => .fixed ?_
  rintro created ⟨holding, newcomer⟩
  have dropped : ∀ self, SameTask newTask self →
      Leads (Holding ⟨standard, newTask.id, origin⟩ clean self)
        (self.drop platform >>= fun _ => pure (.error .enomem : SysResult))
        (fun _ => Accounted standard True badge origin) := by
    intro self same
    rw [← same.id]
    exact (drop_watched books (newcomer.same same)).bind fun _ => .pure fun _ watched => watched.accounted
  split
  · exact (dropped newTask (.refl newTask)).startingAt holding
  · have copied : cloneSpace platform task newTask (decide (flags &&& cloneVm ≠ 0)) =
        (cloneVspace platform task.mappedPage.toList newTask : KernelM ν _) := by
      simp [cloneSpace, apart]
    rw [copied]
    refine ((cloneVspace_holding _ newTask).startingAt holding).bind fun cloned => .fixed ?_
    rintro middle ⟨holding, first⟩
    refine ((allocate_holding .granule).startingAt holding).bind fun buffer =>
      (mapPage_clean cloned cloneIpcBufferAddr buffer).bind fun complete => .fixed ?_
    rintro furnished ⟨holding, second⟩
    have same := first.trans second
    split
    · exact (dropped complete same).startingAt holding
    · refine ((Held.evolves (tcb_within _ _)).startingAt holding).bind fun _ =>
        (Held.evolves (DataOnly.within (tcbReadAllRegisters_dataOnly _))).bind fun regs =>
          (Held.evolves (tcb_within _ _)).bind fun _ =>
        (Held.evolves (tcb_within _ _)).bind fun _ => ?_
      rw [same.id]
      exact (setTask_accounted complete complete (.refl complete) rfl rfl
        (Or.inr ⟨trivial, newcomer.absent, same.id⟩)).bind fun _ => .pure fun _ accounted => accounted

theorem cnodeCopy_vspace {dest src : CPtr}
    (found : state.cspace src = some (.vspace space)) :
    Yields state (cnodeCopy dest src)
      fun result after => ∀ value, result = .ok value → state.cspace dest = none ∧
        after = state.setCap dest (some (.vspace space)) := by
  refine .read_bind ?_
  rintro state rfl
  cases free : state.cspace dest with
  | some cap => exact .pure fun _ _ _ => nofun
  | none =>
    rw [found]
    refine .update_bind (.pure ?_)
    rintro _ rfl _ _
    exact ⟨rfl, rfl⟩

theorem copied_kept {dest : CPtr} (free : state.cspace dest = none) :
    Kept strict kernelVSpace state (state.setCap dest (some (.vspace space))) := by
  have older : ∀ {slot cap}, state.cspace slot = some cap →
      Function.update state.cspace dest (some (.vspace space)) slot = some cap := by
    intro slot cap found
    have apart : slot ≠ dest := by
      rintro rfl
      rw [free] at found
      cases found
    rw [update_of_ne apart]
    exact found
  refine ⟨fun slot cap found _ => older found, fun slot => free_of_update, fun _ _ _ _ => rfl, ?_,
    fun _ honest view vaddr mapping shown => older (honest view vaddr mapping shown),
      fun _ _ _ _ _ _ _ => rfl, rfl, Nat.le_refl _⟩
  intro named slot frame mapped found
  by_cases here : slot = dest
  · rw [here, cspace_setCap, update_self] at found
    cases found
  · rw [cspace_setCap, update_of_ne here] at found
    exact named slot frame mapped found

/-- The slots of a thread that is being started in the address space of its parent:
all of them were free at the start. -/
structure Lodger (origin : KernelState ν) (space : ObjId) (thread : Sel4Task)
    (state : KernelState ν) : Prop where
  root : state.cspace thread.vspace = some (.vspace space)
  slots : ∀ slot ∈ thread.slots, origin.cspace slot = none ∧ ∃ cap, state.cspace slot = some cap ∧
    Settled cap ∧ cap.In space

theorem Lodger.kept {other : ObjId} {thread : Sel4Task} {before after : KernelState ν}
    (lodger : Lodger origin space thread before) (kept : Kept strict other before after) :
    Lodger origin space thread after := by
  refine ⟨kept.caps _ _ lodger.root trivial, fun slot member => ?_⟩
  obtain ⟨free, cap, found, settled, inside⟩ := lodger.slots slot member
  exact ⟨free, cap, kept.caps _ _ found settled, settled, inside⟩

def NoneFreed (origin state : KernelState ν) : Prop :=
  ∀ slot, state.cspace slot = none → origin.cspace slot = none

theorem new_bare (origin : KernelState ν) :
    Yields origin (Sel4Task.new platform)
      fun self after => self.mappedPt = [] ∧ self.mappedPage = ∅ ∧ NoneFreed origin after := by
  refine (new_spec origin).partly ?_
  rintro _ _ ⟨vspace, tcb, cnode, first, second, third, newSpace, newTcb, newCNode, rfl, rfl⟩
  exact ⟨rfl, rfl, fun slot free =>
    newSpace.free_of_free (newTcb.free_of_free (newCNode.free_of_free free))⟩

theorem mem_slots_insert {vaddr : Nat} {page slot : CPtr} {pts : List CPtr}
    (member : slot ∈ ({ self with mappedPage := self.mappedPage.insert vaddr page,
                                  mappedPt := self.mappedPt ++ pts } : Sel4Task).slots) :
    slot ∈ self.slots ∨ slot ∈ pts ∨ slot = page := by
  simp only [Sel4Task.slots, List.mem_append, List.mem_map, Prod.exists] at member ⊢
  rcases member with (basic | old | new) | ⟨other, cap, recorded, rfl⟩
  · exact Or.inl (Or.inl (Or.inl basic))
  · exact Or.inl (Or.inl (Or.inr old))
  · exact Or.inr (Or.inl new)
  · rw [Std.TreeMap.mem_toList_iff_getElem?_eq_some, Std.TreeMap.getElem?_insert] at recorded
    split at recorded
    · exact Or.inr (Or.inr (Option.some.inj recorded).symm)
    · exact Or.inl (Or.inr ⟨other, cap, Std.TreeMap.mem_toList_iff_getElem?_eq_some.mpr recorded, rfl⟩)

theorem cloneSpace_shared {newTask : Sel4Task} {created : KernelState ν}
    (watched : Watched standard badge origin created)
    (root : created.cspace task.vspace = some (.vspace space)) (newcomer : Newcomer origin newTask)
    (furnished : Furnished newTask created) (noTables : newTask.mappedPt = [])
    (noPages : newTask.mappedPage = ∅) (older : NoneFreed origin created) :
    Yields created (cloneSpace platform task newTask true)
      fun self after => Watched standard badge origin after ∧ Lodger origin space self after ∧ NoneFreed origin after ∧
        self.id = newTask.id := by
  refine (MemTriple.locked (allocateSlot_dataOnly created)).bind fun slot => .fixed fun taken same => ?_
  have keptTaken : Kept standard.honesty kernelVSpace created taken := by
    refine DataOnly.kept (⟨same.cspace, same.vspaces, same.tasks, same.counter, fun _ => same.frames trivial⟩ :
      DataOnly standard.honesty noPage created taken)
  refine (unwrapped_spec (cnodeCopy_vspace (same.cspace ▸ root)) fun _ => trivial).bind fun _ =>
    .fixed ?_
  rintro copied ⟨free, rfl⟩
  have kept : Kept standard.honesty kernelVSpace created
    (taken.setCap slot.2.2 (some (.vspace space))) :=
    keptTaken.trans (copied_kept free)
  refine .pure ?_
  rintro _ rfl
  have rootCopied : (taken.setCap slot.2.2 (some (.vspace space))).cspace slot.2.2 =
    some (.vspace space) :=
    update_self ..
  refine ⟨watched.kept kept, ⟨rootCopied, fun other member => ?_⟩, fun other isFree =>
    older other (kept.live other isFree), rfl⟩
  obtain ⟨tcb, tcbEq⟩ := furnished.tcb
  obtain ⟨cnode, cnodeEq⟩ := furnished.cnode
  simp only [Sel4Task.slots, noTables, noPages, List.append_nil, List.mem_append,
    List.mem_cons] at member
  rcases member with (rfl | rfl | rfl | never) | never
  · exact ⟨newcomer.tcb, _, kept.caps _ _ tcbEq trivial, trivial, trivial⟩
  · exact ⟨newcomer.cnode, _, kept.caps _ _ cnodeEq trivial, trivial, trivial⟩
  · exact ⟨older _ (keptTaken.live _ free), _, rootCopied, trivial, rfl⟩
  · cases never
  · simp at never

theorem mapPage_lodger (vaddr : Nat) {page : CPtr} (watched : Watched standard badge origin state)
    (lodger : Lodger origin space self state) (older : NoneFreed origin state)
    (user : space ≠ kernelVSpace) (root : state.cspace space = some (.vspace space))
    (mine : NoneElse standard badge origin space) (fresh : origin.cspace page = none) :
    Yields state (self.mapPage platform vaddr page)
      fun self' after => Watched standard badge origin after ∧ Lodger origin space self' after ∧ self'.id = self.id := by
  refine (mapPage_spec standard.honesty self vaddr page state ⟨watched.books.kernel, root⟩
    lodger.root).weaken
    (fun _ same => same) ?_ fun _ _ => trivial
  rintro self' after ⟨⟨middle, rights, first, _, maps⟩, pts, rfl, tables⟩
  have target := first.caps _ _ lodger.root trivial
  have kept : Kept standard.honesty space state after := first.trans (maps.kept (Or.inl target))
  have moved := lodger.kept kept
  refine ⟨watched.keptIn kept mine, ⟨moved.root, fun slot member => ?_⟩, rfl⟩
  rcases mem_slots_insert member with old | table | rfl
  · exact moved.slots slot old
  · obtain ⟨free, object, place, found⟩ := tables slot table
    exact ⟨older slot free, _, found, trivial, place, rfl⟩
  · obtain ⟨object, target', mapped, targetEq, _, _, rfl⟩ := maps
    obtain rfl : space = target' := by
      rw [target] at targetEq
      cases targetEq
      rfl
    exact ⟨fresh, _, update_self .., user, vaddr, rfl⟩

def CloneOutcome.succeeds (outcome : CloneOutcome) : Bool :=
  outcome.mint && outcome.configure && outcome.schedule

/-- A thread in the address space of its parent changes nothing for the other tasks.
If it cannot be started, the books are as they were. -/
theorem cloneTask_shared (books : Orderly standard origin) (loose : ¬ standard.tables)
    (outcome : CloneOutcome) (found : origin.tasks[badge]? = some task) (args : CloneArgs)
    {flags : Nat} (shared : flags &&& cloneVm ≠ 0) :
    Yields origin (cloneTask platform outcome task args flags)
      fun _ after => Isolated standard True badge origin after ∧
        (outcome.succeeds = false → Orderly standard after) := by
  have mine : NoneElse standard badge origin task.vspace := fun key other foundOther same =>
    ⟨books.distinct key badge other task foundOther found same, loose⟩
  have user := (books.inOrder badge task found).tracks.user
  have failed : ∀ {state : KernelState ν}, Watched standard badge origin state →
      Isolated standard True badge origin state ∧ (outcome.succeeds = false → Orderly standard state) :=
    fun watched => ⟨watched.isolated, fun _ => watched.books.orderly⟩
  refine ((new_holding books).also (new_bare origin)).bind fun newTask => .fixed ?_
  rintro created ⟨⟨holding, newcomer⟩, noTables, noPages, older⟩
  split
  · exact ((drop_watched books newcomer).startingAt holding).bind fun _ => .pure fun _ watched => failed watched
  · rename_i minted
    obtain ⟨watched, _⟩ := Holding.watched badge holding newcomer
    rw [decide_eq_true shared]
    refine (cloneSpace_shared watched (watched.books.inOrder badge task found).tracks.root newcomer
      holding.furnished
      noTables noPages older).bind fun lodging => .fixed ?_
    rintro shown ⟨watched, lodger, older, sameId⟩
    refine (allocate_spec shown .granule).bind fun buffer => .fixed fun furnished allocated => ?_
    have kept : Kept standard.honesty kernelVSpace shown furnished := allocated.kept
    have watched := watched.kept kept
    refine (mapPage_lodger cloneIpcBufferAddr watched (lodger.kept kept)
      (fun slot free => older slot (kept.live slot free))
      user (watched.books.inOrder badge task found).tracks.root mine (older _ allocated.free)).bind fun complete =>
      MemTriple.fixed ?_
    rintro mapped ⟨watched, lodger, sameId'⟩
    split
    · have disposable : Disposable standard badge origin task.vspace complete.slots := by
        refine ⟨user, mine, fun slot member => ?_⟩
        have free := (lodger.slots slot member).1
        refine ⟨?_, fun key other foundOther => books.unused free foundOther⟩
        rintro rfl
        rw [books.kernel] at free
        cases free
      refine ((deleteAll_watched complete.slots disposable).startingAt ⟨watched, fun slot member cap capEq => ?_⟩).bind
        fun _ => .pure fun _ watched => failed watched
      obtain ⟨_, cap', capEq', _, inside⟩ := lodger.slots slot member
      obtain rfl : cap = cap' := Option.some.inj (capEq.symm.trans capEq')
      exact inside
    · rename_i configured
      refine ((Watched.evolves (tcb_within _ _)).startingAt watched).bind fun _ =>
        (Watched.evolves (DataOnly.within (tcbReadAllRegisters_dataOnly _))).bind fun regs =>
          (Watched.evolves (tcb_within _ _)).bind fun _ =>
        (Watched.evolves (tcb_within _ _)).bind fun _ => .bind (.update fun state watched => ?_)
          fun _ => .pure fun _ isolated => isolated
      refine ⟨isolated_entering watched.books.entered (fun other task different _ => watched.others other task different)
        (Or.inr ⟨trivial, ?_, rfl⟩), fun fails => ?_⟩
      · rw [sameId', sameId]
        exact newcomer.absent
      · simp_all [CloneOutcome.succeeds]

def ClonesApart (decode : List UInt8 → CloneArgs) (badge cloneArgs : Nat) (state : KernelState ν) :
    Prop :=
  ∀ task ∈ state.tasks[badge]?, ∀ bytes ∈ state.itemAt task cloneArgs cloneArgsSize,
    ∀ flags ∈ fromBits cloneFlagsAll (decode bytes).flags, flags &&& cloneVm = 0

theorem sysClone_isolated (books : Orderly standard origin) (decode : List UInt8 → CloneArgs)
    (outcome : CloneOutcome) (cloneArgs : Nat)
    (apart : standard.tables → ClonesApart decode badge cloneArgs origin) :
    Yields origin (sysClone platform decode outcome badge cloneArgs)
      fun _ after => Isolated standard True badge origin after ∧
        (ClonesApart decode badge cloneArgs origin ∨ outcome.succeeds = false → Orderly standard after) := by
  have unchanged : ∀ {state : KernelState ν}, Watched standard badge origin state →
      Isolated standard True badge origin state ∧
        (ClonesApart decode badge cloneArgs origin ∨ outcome.succeeds = false → Orderly standard state) :=
    fun watched => ⟨watched.isolated, fun _ => watched.books.orderly⟩
  refine .locked ((taskOf_spec origin badge).bind fun task => .fixed ?_)
  rintro origin ⟨rfl, found⟩
  split
  · exact .pure fun _ same => unchanged (by rw [same]; exact books.watched)
  · have read : Yields origin (readItem platform cloneArgsSize task cloneArgs)
        fun result now => Watched standard badge origin now ∧
          ∀ bytes, result = .ok bytes → origin.itemAt task cloneArgs cloneArgsSize = some bytes :=
      ((Watched.evolves (Quietly.within (readItem_quietly _ task cloneArgs))).startingAt books.watched).also
        (readItem_reads books.kernel (by decide) task cloneArgs)
    refine read.bind fun result => .fixed ?_
    rintro middle ⟨watched, item⟩
    split
    · exact .pure fun _ same => unchanged (same ▸ watched)
    · rename_i bytes
      split
      · exact .pure fun _ same => unchanged (same ▸ watched)
      · rename_i flags flagsEq
        have foundNow : middle.tasks[badge]? = some task := watched.books.entered ▸ found
        by_cases shared : flags &&& cloneVm = 0
        · exact (cloneTask_accounted watched.books.orderly outcome task (decode bytes) shared).partly
              fun _ _ accounted => ⟨accounted.isolated.since watched, fun _ => accounted.orderly⟩
        · have mixed : ¬ ClonesApart decode badge cloneArgs origin := fun clones =>
            shared (clones task found bytes (item bytes rfl) flags flagsEq)
          exact (cloneTask_shared watched.books.orderly (fun complete => mixed (apart complete)) outcome foundNow
            (decode bytes) shared).partly
                fun _ _ cloned => ⟨cloned.1.since watched, fun allowed => cloned.2 (allowed.resolve_left mixed)⟩

variable {strict : Prop} {task : Sel4Task} {records : Nat → Option CPtr}

theorem allocatePages_held (count : Nat) :
    Leads (Held job stale task records) (allocatePages platform count)
      (fun pages after => Held job stale task records after ∧ pages.length = count) := by
  induction count with
  | zero => exact .pure fun _ held => ⟨held, rfl⟩
  | succ count ih =>
    refine (Held.evolves (allocateAndRetype_within .granule)).bind fun page => ih.bind fun rest => .pure ?_
    exact fun _ allocated => ⟨allocated.1, congrArg (· + 1) allocated.2⟩

theorem copyData_within (freePageAddr : Nat) (pages : List ImagePage) (data : List UInt8)
    (offset : Nat) :
    Evolves (Within strict kernelVSpace)
      (copyData platform freePageAddr pages data offset : KernelM ν Unit) := by
  induction pages generalizing data offset with
  | nil => exact .pure
  | cons page rest ih =>
    exact (withSeat_within _ _ (DataOnly.quietly (storeBytes_dataOnly _ _))).bind fun _ => ih _ _

theorem slicePages_within (pages : List ImagePage) (start count : Nat) :
    Evolves (Within strict kernelVSpace) (slicePages pages start count : KernelM ν _) := by
  unfold slicePages
  split
  · exact .pure
  · exact .stop

theorem loadSegment_held (footprint : Nat × Nat) (freePageAddr : Nat) (pages : List ImagePage)
    (seg : Segment) :
    Leads (Held job stale task records)
      (loadSegment platform footprint freePageAddr pages seg)
      (fun pages' after => Held job stale task records after ∧ pages'.length = pages.length) := by
  refine (Held.evolves (slicePages_within pages _ _)).bind fun _ =>
    (Held.evolves (slicePages_within _ _ _)).bind fun _ =>
    (Held.evolves (copyData_within _ _ _ _)).bind fun _ => .pure fun _ held => ⟨held, ?_⟩
  rw [List.length_mapIdx]

theorem loadImage_held (footprint : Nat × Nat) (freePageAddr : Nat) (segments : List Segment)
    (pages : List ImagePage) :
    Leads (Held job stale task records)
      (loadImage platform footprint freePageAddr segments pages)
      (fun pages' after => Held job stale task records after ∧ pages'.length = pages.length) := by
  induction segments generalizing pages with
  | nil => exact .pure fun _ held => ⟨held, rfl⟩
  | cons seg rest ih =>
    refine (loadSegment_held footprint freePageAddr pages seg).bind fun pages' => .fixed ?_
    rintro middle ⟨held, length⟩
    rw [← length]
    exact (ih pages').startingAt held

theorem mapPages_held (addr : Nat) (pages : List ImagePage) (mappedPage : Std.TreeMap Nat CPtr) :
    Leads (Held job stale task ({ task with mappedPage } : Sel4Task).records : KernelState ν → Prop)
      (mapPages platform task.vspace addr pages mappedPage)
      (fun mappedPage after => Held job
        (fun vaddr => stale vaddr ∧ vaddr ∉ List.range' addr pages.length granuleSize) task
        ({ task with mappedPage } : Sel4Task).records after) := by
  induction pages generalizing addr mappedPage stale with
  | nil => exact .pure fun _ held => held.mono fun _ _ old => ⟨old, nofun⟩
  | cons page rest ih =>
    refine .fixed fun state held => ?_
    refine (unwrapped_frameMap_spec state page.1 task.vspace addr page.2).bind fun _ =>
      .fixed fun middle maps => ?_
    have kept : Kept job.standard.honesty task.vspace state middle := maps.kept (Or.inl held.working.own.root)
    have mapped := held.working.maps maps
    rw [← records_insert { task with mappedPage } addr page.1 task.mappedPt] at mapped
    refine ((ih (addr + granuleSize) (mappedPage.insert addr page.1)).startingAt
      ⟨mapped, held.furnished.of_caps kept.caps⟩).partly ?_
    intro mappedPage after held
    refine held.mono fun _ vaddr left => ⟨left.1.1, fun member => ?_⟩
    rw [List.length_cons, List.range'_succ] at member
    rcases List.mem_cons.mp member with here | member
    · exact left.1.2 here
    · exact left.2 member

theorem mapImage_held (footprint : Nat × Nat) (segments : List Segment) (freePageAddr : Nat) :
    Leads (Held job stale task (fun _ => none) : KernelState ν → Prop)
      (mapImage platform ∅ task.vspace footprint segments freePageAddr)
      (fun mappedPage after => Held job
        (fun vaddr => stale vaddr ∧
          vaddr ∉ List.range' footprint.1 ((footprint.2 - footprint.1) / granuleSize) granuleSize) task
        ({ task with mappedPage } : Sel4Task).records after) := by
  have noRecords : (fun _ => none) = ({ task with mappedPage := ∅ } : Sel4Task).records :=
    (records_of_empty rfl).symm
  rw [noRecords]
  refine (allocatePages_held _).bind fun pages => .fixed ?_
  rintro allocated ⟨held, length⟩
  refine ((loadImage_held footprint freePageAddr segments pages).startingAt held).bind fun pages' =>
    .fixed ?_
  rintro loaded ⟨held, length'⟩
  rw [← length, ← length']
  exact (mapPages_held footprint.1 pages' ∅).startingAt held

theorem Holding.forget (holding : Holding job clean task state) :
    Held job (fun vaddr => (task.records vaddr).isSome) task (fun _ => none) state := by
  obtain ⟨working, furnished⟩ := holding
  exact ⟨{ working with own := ⟨working.own.root, working.own.user, nofun, fun complete =>
    (working.own.mirror complete).forget⟩ },
    furnished⟩

def execPages (program : Program) : List Nat :=
  match footprint program.segments with
  | none => []
  | some footprint =>
    List.range' footprint.1 ((footprint.2 - footprint.1) / granuleSize) granuleSize ++
      pageSteps (uspaceStackTop - uspaceStackSize) uspaceStackTop ++ [program.file.ipcBufferAddr]

def ExecCovers (program : Program) (badge : Nat) (state : KernelState ν) : Prop :=
  ∀ task ∈ state.tasks[badge]?, ∀ vaddr ∈ task.mappedPage.keys, vaddr ∈ execPages program

theorem sysExec_accounted (program : Program)
    (covers : standard.tables → ExecCovers program badge origin) :
    Accounts standard cloning badge origin (sysExec platform program badge) := by
  refine onTask_holding fun task found => ?_
  have covered : standard.tables → ∀ vaddr, (task.records vaddr).isSome → vaddr ∈ execPages program :=
    fun complete vaddr present => covers complete task found vaddr
      (Std.TreeMap.mem_keys.mpr (Std.TreeMap.mem_iff_isSome_getElem?.mpr present))
  unfold execPages at covered
  split
  · exact .stop fun _ _ => trivial
  · rename_i footprint footprintEq
    rw [footprintEq] at covered
    refine ((MemTriple.locked (mapImage_held _ _ _)).weaken (fun _ holding => Holding.forget holding)
      (fun _ _ held => held) fun _ _ => trivial).bind fun mappedPage => .fixed fun imaged held => ?_
    have renewed : Holding ⟨standard, badge, origin⟩ (fun vaddr => (task.records vaddr).isSome ∧
        vaddr ∉ List.range' footprint.1 ((footprint.2 - footprint.1) / granuleSize) granuleSize)
        { task with mappedPage, mappedPt := [] } imaged := held.relabel ⟨rfl, rfl, rfl, rfl⟩ nofun
    refine ((mapStack_holding _ _ _ _ _).startingAt renewed).bind fun stacked => .fixed ?_
    rintro stackedState ⟨holding, _⟩
    refine ((allocate_holding .granule).startingAt holding).bind fun buffer =>
      (mapPage_holding stacked.2 _ buffer).bind fun complete => .fixed ?_
    rintro mapped ⟨holding, _⟩
    have nothingStale : Holding ⟨standard, badge, origin⟩ clean complete mapped := by
      refine holding.mono fun asked vaddr left => ?_
      have member := covered asked vaddr left.1.1.1
      simp only [List.mem_append, List.mem_singleton] at member
      rcases member with (inImage | inStack) | buffer
      · exact left.1.1.2 inImage
      · exact left.1.2 inStack
      · exact left.2 buffer
    exact ((Held.evolves (tcb_within _ _)).startingAt nothingStale).bind fun _ =>
      (Held.evolves (tcb_within _ _)).bind fun _ =>
      (setCaller_accounted complete { complete with exit := some 0 } ⟨rfl, rfl, rfl, rfl⟩ rfl rfl found).bind fun _ =>
      (Accounted.unchanged (tcb_dataOnly _ _)).bind fun _ => .pure fun _ accounted => accounted

/-- What a system call must not ask for: to share an address space, or to replace
the program of a task that has pages the new one does not map. -/
def CallKeepsBooks (env : Env ν) (badge sysId : Nat) (args : Nat → Nat) (state : KernelState ν) : Prop :=
  match env.sysno sysId with
  | some .clone => ClonesApart env.decodeCloneArgs badge (args 0) state
  | some .execve => ExecCovers env.shim badge state
  | _ => True

def StartsNoThread (env : Env ν) (outcome : CloneOutcome) (badge sysId : Nat) (args : Nat → Nat)
    (state : KernelState ν) :
    Prop :=
  env.sysno sysId = some .clone → ClonesApart env.decodeCloneArgs badge (args 0) state ∨
    outcome.succeeds = false

def Sysno.isSocketCall : Sysno → Bool
  | .socket | .accept | .bind | .connect | .listen | .sendto | .recvfrom | .shutdown => true
  | _ => false

/-- What a call leaves behind: the books if it starts no thread, and the other tasks
untouched if it is no socket call. -/
structure Served (standard : Standard) (env : Env ν) (outcome : CloneOutcome) (badge sysId : Nat)
    (args : Nat → Nat) (origin after : KernelState ν) : Prop where
  orderly : StartsNoThread env outcome badge sysId args origin → Orderly standard after
  isolated : (∀ number ∈ env.sysno sysId, number.isSocketCall = false) →
    Isolated standard (env.sysno sysId = some .clone) badge origin after

theorem handleIpcCall_served (env : Env ν) (outcome : CloneOutcome) (sysId : Nat) (args : Nat → Nat)
    (books : Orderly standard origin)
    (keeps : standard.tables → CallKeepsBooks env badge sysId args origin) :
    Yields origin (handleIpcCall env outcome badge sysId args)
      fun _ after => Served standard env outcome badge sysId args origin after := by
  have local' : ∀ {program : KernelM ν SysResult},
      Accounts standard (env.sysno sysId = some .clone) badge origin program →
      Yields origin program fun _ after => Served standard env outcome badge sysId args origin after :=
    fun spec => spec.weaken (fun _ same => by rw [same]; exact books.watched)
      (fun _ _ accounted => ⟨fun _ => accounted.orderly, fun _ => accounted.isolated⟩) fun _ _ => trivial
  have quiet : ∀ {program : KernelM ν SysResult}, Evolves (Quietly standard.honesty noPage) program →
      Yields origin program fun _ after => Served standard env outcome badge sysId args origin after :=
    fun quietly => local' ((Watched.evolves (Quietly.within quietly)).partly fun _ _ watched =>
      watched.accounted)
  have socketCall : ∀ {program : KernelM ν SysResult} {number : Sysno}, env.sysno sysId = some number →
      number.isSocketCall = true → Evolves (Within False kernelVSpace) program →
      Yields origin program fun _ after => Served standard env outcome badge sysId args origin after := by
    intro program number numberEq isCall evolves
    refine (Orderly.evolves evolves).weaken (fun _ same => same ▸ books)
      (fun _ _ orderly => ⟨fun _ => orderly, ?_⟩)
      fun _ _ => trivial
    intro isNone
    rw [isNone number numberEq] at isCall
    cases isCall
  have looking : ∀ answer : Sel4Task → Nat, Evolves (Quietly standard.honesty noPage)
      (locked .taskMap (do let task ← taskOf badge; return .ok (answer task)) : KernelM ν SysResult) :=
    fun _ => .locked ((taskOf_quietly badge).bind fun _ => .pure)
  unfold CallKeepsBooks at keeps
  unfold handleIpcCall
  dsimp only
  cases numberEq : env.sysno sysId with
  | none => exact quiet Evolves.pure
  | some number =>
    rw [numberEq] at keeps
    cases number with
    | write => exact quiet (sysWrite_quietly _ _ _ _)
    | brk => exact local' (sysBrk_accounted _)
    | mmap => exact local' (sysMmap_accounted _ _ _ _)
    | munmap => exact local' (sysUnmap_accounted _ _)
    | exit => exact local' (sysExit_accounted _)
    | exitGroup => exact local' (sysExit_accounted _)
    | getpid => exact quiet (looking Sel4Task.pid)
    | execve => exact local' (sysExec_accounted env.shim keeps)
    | clone =>
      refine (sysClone_isolated books env.decodeCloneArgs outcome (args 0) keeps).partly
          fun _ _ cloned => ⟨fun starts => cloned.2 (starts numberEq), fun _ => ?_⟩
      rw [numberEq, eq_self]
      exact cloned.1
    | gettid => exact quiet Evolves.pure
    | schedYield => exact quiet Evolves.pure
    | getppid => exact quiet (looking Sel4Task.pid)
    | setTidAddress => exact local' (sysSetTidAddress_accounted _)
    | getuid => exact quiet (looking Sel4Task.id)
    | geteuid => exact quiet (looking Sel4Task.id)
    | socket => exact socketCall numberEq rfl (Quietly.within (sysSocket_quietly _))
    | accept => exact socketCall numberEq rfl (Quietly.within (sysAccept_quietly _ _ _ _ _))
    | bind => exact socketCall numberEq rfl (sysBind_evolves _ _ _ allowsRequests_within _ _ _)
    | connect => exact socketCall numberEq rfl (sysConnect_evolves _ _ _ allowsRequests_within _ _ _)
    | listen => exact socketCall numberEq rfl (Quietly.within (sysListen_quietly _ _ _))
    | sendto => exact socketCall numberEq rfl (sysSendto_evolves _ _ allowsRequests_within _ _ _ _ _)
    | recvfrom => exact socketCall numberEq rfl (sysRecvfrom_evolves _ _ allowsRequests_within _ _ _ _)
    | shutdown => exact socketCall numberEq rfl (Quietly.within (sysShutdown_quietly _ _ _))
    | other => exact quiet Evolves.pure

end RootTaskDemo.Kernel
