import RootTaskDemo.Kernel.Ledger

namespace RootTaskDemo.Kernel

open Common Lib Thread

variable {ν α : Type} {platform : Platform} {lossless : Prop} {spare : List CPtr}
  {tasks : Std.TreeMap Nat Sel4Task}
  {key badge : Nat} {self self' : Sel4Task} {before after state origin : KernelState ν}

/-! The frames of a task that is being made: until it is entered, nobody else knows of
its slots, so it may be dropped with all of them. -/

/-- A task all of whose slots, and of the frames set aside for it, were free at the origin. -/
structure Growing (lossless : Prop) (origin : KernelState ν) (spare : List CPtr)
    (tasks : Std.TreeMap Nat Sel4Task) (key : Nat) (task : Sel4Task) (state : KernelState ν) :
    Prop where
  keeping : Keeping lossless spare tasks key task state
  freed : NoneFreed origin state
  roots : ∀ slot space, origin.cspace slot = some (.vspace space) → state.cspace slot =
    some (.vspace space)
  fresh : ∀ slot ∈ task.slots ++ spare, origin.cspace slot = none

theorem Growing.evolves {program : KernelM ν α} (evolves : Evolves (Steady lossless) program) :
    Leads (Growing lossless origin spare tasks key self) program
      (fun _ => Growing lossless origin spare tasks key self) :=
  evolves.keeps fun _ _ steady growing =>
    ⟨growing.keeping.steady steady, fun slot free => growing.freed slot (steady.live slot free),
      fun slot space found => steady.roots slot space (growing.roots slot space found), growing.fresh⟩

theorem allocate_growing :
    Leads (Growing lossless origin spare tasks key self) (allocate platform .granule)
      (fun page => Growing lossless origin (page :: spare) tasks key self) := by
  refine .fixed fun state growing => (allocate_spec state .granule).partly ?_
  intro page after allocated
  refine ⟨growing.keeping.allocated allocated, fun slot free =>
    growing.freed slot (allocated.free_of_free free),
    fun slot space found => allocated.caps (growing.roots slot space found), fun slot member => ?_⟩
  simp only [List.mem_append, List.mem_cons] at member
  rcases member with mine | rfl | aside
  · exact growing.fresh slot (List.mem_append_left _ mine)
  · exact growing.freed slot allocated.free
  · exact growing.fresh slot (List.mem_append_right _ aside)

theorem mapPage_growing {vaddr : Nat} {page : CPtr} (missing : lossless → vaddr ∉ self.mappedPage) :
    Leads (Growing lossless origin (page :: spare) tasks key self) (self.mapPage platform vaddr page)
      (fun self' after => Growing lossless origin spare tasks key self' after ∧ SameTask self self' ∧
        ∀ other, other ∈ self'.mappedPage ↔ other = vaddr ∨ other ∈ self.mappedPage) := by
  refine .fixed fun state growing =>
    (mapPage_mapped growing.keeping vaddr page).partly ?_
  rintro self' after ⟨steady, mapped⟩
  refine ⟨⟨(growing.keeping.steady steady).give missing mapped.records mapped.same.vspace,
    fun slot free => growing.freed slot (steady.live slot free),
    fun slot space found => steady.roots slot space (growing.roots slot space found),
      fun slot member => ?_⟩, mapped.same,
    mem_mapped mapped.records⟩
  rcases List.mem_append.mp member with mine | aside
  · rcases mapped.slots slot mine with old | rfl | free
    · exact growing.fresh slot (List.mem_append_left _ old)
    · exact growing.fresh slot (List.mem_append_right _ (List.mem_cons_self ..))
    · exact growing.freed slot free
  · exact growing.fresh slot (List.mem_append_right _ (List.mem_cons_of_mem _ aside))

theorem cloneVspace_growing {pages : List (Nat × CPtr)}
    (missing : lossless → Missing (pages.map Prod.fst) self) :
    Leads (Growing lossless origin spare tasks key self) (cloneVspace platform pages self)
      (fun self' after => Growing lossless origin spare tasks key self' after ∧
        Grown (pages.map Prod.fst) self self') := by
  induction pages generalizing self with
  | nil => exact .pure fun _ growing => ⟨growing, .refl self⟩
  | cons page rest ih =>
    obtain ⟨vaddr, pageCap⟩ := page
    refine allocate_growing.bind fun newPageCap =>
      (Growing.evolves (clonePage_steady newPageCap pageCap)).bind fun _ =>
      (mapPage_growing fun strict => (missing strict).absent vaddr (List.mem_cons_self ..)).bind fun self' => .fixed ?_
    rintro mapped ⟨growing, same, first⟩
    exact ((ih fun strict => (missing strict).rest first).startingAt growing).partly
      fun _ _ ⟨growing, grown⟩ => ⟨growing, .cons same first grown⟩

structure Unpaged (origin : KernelState ν) (task : Sel4Task) : Prop where
  absent : task.id ∉ origin.tasks
  pages : task.mappedPage = ∅

theorem not_mem_of_empty (empty : self.mappedPage = ∅) (vaddr : Nat) : vaddr ∉ self.mappedPage := by
  rw [empty]
  exact Std.TreeMap.not_mem_emptyc

theorem Ledger.join (ledger : Ledger lossless spare tasks state) (absent : key ∉ tasks)
    (empty : self.mappedPage = ∅)
    (root : ∃ space, state.cspace self.vspace = some (.vspace space) ∧ state.cspace space =
      some (.vspace space)) :
    Ledger lossless spare (tasks.insert key self) state := by
  have owners : ∀ owner cap, Owns (tasks.insert key self) owner cap ↔ Owns tasks owner cap := by
    intro owner cap
    rw [owns_insert, Std.TreeMap.getElem?_eq_none (not_mem_of_empty empty _)]
    constructor
    · rintro (⟨_, never⟩ | ⟨_, owned⟩)
      · cases never
      · exact owned
    · intro owned
      refine Or.inr ⟨?_, owned⟩
      rintro rfl
      obtain ⟨task, found, _⟩ := owned
      exact absent (mem_of_found found)
  refine ⟨ledger.kernel, ledger.named, fun other task found => ?_,
    fun owner cap owned => ledger.backed owner cap ((owners owner cap).mp owned), ledger.aside,
    fun strict => ⟨(ledger.frames strict).1.congr owners fun _ => Iff.rfl, (ledger.frames strict).2⟩⟩
  rcases lookup_insert _ _ _ found with ⟨rfl, rfl⟩ | ⟨_, older⟩
  · exact root
  · exact ledger.rooted other task older

theorem new_growing (tidy : Tidy lossless origin) :
    Yields origin (Sel4Task.new platform)
      fun self after => Growing lossless origin [] origin.tasks self.id self after ∧ Unpaged origin self := by
  refine (new_spec origin).partly ?_
  rintro _ _ ⟨vspace, tcb, cnode, first, second, third, newSpace, newTcb, newCNode, rfl, rfl⟩
  have steadyThird : Steady lossless origin third :=
    IsTrans.trans _ _ _ (newSpace.steady fun _ => by decide)
    (IsTrans.trans _ _ _ (newTcb.steady fun _ => by decide) (newCNode.steady fun _ => by simp))
  have steady : Steady lossless origin { third with idCounter := third.idCounter + 1 } :=
    IsTrans.trans _ _ _ steadyThird (Steady.of_cspace rfl rfl (Nat.le_succ _))
  have root : third.cspace vspace = some (.vspace vspace) :=
    newCNode.caps (newTcb.caps (by rw [newSpace.cspace, Function.update_self]; rfl))
  have absent : third.idCounter ∉ origin.tasks := fun member =>
    Nat.lt_irrefl _ ((tidy.counter _ member).trans_le steadyThird.counter)
  refine ⟨⟨⟨steady.tasks, fun other member => (tidy.counter other member).trans_le steady.counter,
    Nat.lt_succ_self _,
    (tidy.ledger.steady steady).join absent rfl ⟨vspace, root, root⟩⟩, steady.live, steady.roots,
      fun slot member => ?_⟩, absent, rfl⟩
  have noPages : (∅ : Std.TreeMap Nat CPtr).toList = [] := rfl
  simp only [Sel4Task.slots, noPages, List.map_nil, List.append_nil, List.mem_cons,
    List.not_mem_nil, or_false] at member
  rcases member with rfl | rfl | rfl
  · exact newSpace.free_of_free newTcb.free
  · exact newSpace.free_of_free (newTcb.free_of_free newCNode.free)
  · exact newSpace.free

theorem deleteAll_frame (slots : List CPtr) (state : KernelState ν) :
    Yields state (Sel4Task.deleteAll platform slots) fun _ after => ∃ vspaces, after =
      { state with cspace := fun slot => if slot ∈ slots then none else state.cspace slot, vspaces } := by
  induction slots generalizing state with
  | nil =>
    refine .pure ?_
    rintro state rfl
    exact ⟨state.vspaces, by simp⟩
  | cons slot rest ih =>
    refine (cnodeDelete_frame state slot).raising.bind fun _ => .fixed ?_
    rintro _ ⟨vspaces, rfl⟩
    refine (ih _).partly ?_
    rintro _ _ ⟨vspaces, rfl⟩
    refine ⟨vspaces, ?_⟩
    congr 1
    funext other
    by_cases here : other = slot
    · simp [here]
    · simp [here]

theorem drop_tidy (tidy : Tidy lossless origin) (absent : self.id ∉ origin.tasks) :
    Leads (Growing lossless origin [] origin.tasks self.id self) (self.drop platform)
      (fun _ => Tidy lossless) := by
  refine .fixed fun state growing => (deleteAll_frame self.slots state).partly ?_
  rintro _ after ⟨vspaces, deleted⟩
  have cspaceEq : ∀ slot, after.cspace slot = if slot ∈ self.slots then none
    else state.cspace slot := by simp [deleted]
  have tasksEq : after.tasks = state.tasks := by rw [deleted]
  have counterEq : after.idCounter = state.idCounter := by rw [deleted]
  have keeping := growing.keeping
  have fresh : ∀ slot ∈ self.slots, origin.cspace slot = none := fun slot member =>
    growing.fresh slot (List.mem_append_left _ member)
  have stays : ∀ {slot cap}, origin.cspace slot = some cap → slot ∉ self.slots := by
    intro slot cap found member
    rw [fresh slot member] at found
    cases found
  have roots : ∀ {slot space}, origin.cspace slot = some (.vspace space) → after.cspace slot =
      some (.vspace space) := by
    intro slot space found
    rw [cspaceEq, if_neg (stays found)]
    exact growing.roots slot space found
  have entered : after.tasks = origin.tasks := tasksEq.trans keeping.entered
  have keeps : ∀ owner cap, Owns after.tasks owner cap ↔
      Owns (origin.tasks.insert self.id self) owner cap ∧ cap ∉ self.slots := by
    intro owner cap
    rw [entered, owns_insert]
    constructor
    · intro owned
      obtain ⟨frame, mapped, found⟩ := tidy.ledger.backed owner cap owned
      refine ⟨Or.inr ⟨?_, owned⟩, stays found⟩
      rintro same
      obtain ⟨task, found, _⟩ := owned
      exact absent (by rw [← same, Std.TreeMap.mem_iff_isSome_getElem?, found]; rfl)
    · rintro ⟨⟨_, mine⟩ | ⟨_, owned⟩, elsewhere⟩
      · refine absurd ?_ elsewhere
        simp only [Sel4Task.slots, List.mem_append, List.mem_map, Prod.exists]
        exact Or.inr ⟨owner.2, cap, Std.TreeMap.mem_toList_iff_getElem?_eq_some.mpr mine, rfl⟩
      · exact owned
  have living : ∀ slot, HasFrame after slot ↔ HasFrame state slot ∧ slot ∉ self.slots := by
    intro slot
    unfold HasFrame
    rw [cspaceEq]
    by_cases dead : slot ∈ self.slots
    · simp [dead]
    · simp [dead]
  refine ⟨⟨roots tidy.ledger.kernel, fun slot frame mapped found => ?_, fun other task found => ?_,
    fun owner cap owned => ?_, by simp, fun strict => ?_⟩, fun other member => ?_⟩
  · rw [cspaceEq] at found
    split at found
    · cases found
    · exact keeping.ledger.named slot frame mapped found
  · rw [entered] at found
    obtain ⟨space, target, root⟩ := tidy.ledger.rooted other task found
    exact ⟨space, roots target, roots root⟩
  · obtain ⟨owned, elsewhere⟩ := (keeps owner cap).mp owned
    exact (living cap).mpr ⟨keeping.ledger.backed owner cap owned, elsewhere⟩
  · exact ⟨(keeping.ledger.frames strict).1.bury keeps living (by simp), List.nodup_nil⟩
  · rw [entered] at member
    rw [counterEq]
    exact keeping.counter other member

theorem cloneSpace_growing {task : Sel4Task} (found : tasks[badge]? = some task) (apart : badge ≠ key) :
    Leads (Growing lossless origin spare tasks key self) (cloneSpace platform task self true)
      (fun self' after => Growing lossless origin spare tasks key self' after ∧ self'.id = self.id ∧
        self'.mappedPage = self.mappedPage) := by
  refine (Growing.evolves (.locked (DataOnly.steady allocateSlot_dataOnly))).bind fun slot =>
    MemTriple.fixed fun state growing => ?_
  obtain ⟨space, target, root⟩ := growing.keeping.ledger.rooted badge task (by
    rw [Std.TreeMap.getElem?_insert, if_neg fun equal => apart (compare_eq_iff_eq.mp equal).symm]
    exact found)
  refine (unwrapped_spec (cnodeCopy_vspace target) fun _ => trivial).bind fun _ => .pure ?_
  rintro copied ⟨free, rfl⟩
  have steady : Steady lossless state (state.setCap slot.2.2 (some (.vspace space))) :=
    .of_other (by simp [KernelState.frameOf, free]) rfl rfl rfl nofun (by simp [free])
  have copiedRoot : (state.setCap slot.2.2 (some (.vspace space))).cspace slot.2.2 =
    some (.vspace space) :=
    Function.update_self ..
  refine ⟨⟨(growing.keeping.steady steady).relabel ⟨space, copiedRoot, steady.roots _ _ root⟩
    fun _ => rfl,
    fun other isFree => growing.freed other (steady.live other isFree),
    fun other space' isRoot => steady.roots other space' (growing.roots other space' isRoot),
      fun other member => ?_⟩, rfl, rfl⟩
  by_cases here : other = slot.2.2
  · rw [here]
    exact growing.freed _ free
  · refine growing.fresh other ?_
    simp only [Sel4Task.slots, List.cons_append, List.nil_append, List.mem_cons, List.mem_append,
      here, false_or] at member ⊢
    tauto

theorem cloneSpace_pages {task : Sel4Task} (found : tasks[badge]? = some task) (apart : badge ≠ key)
    (empty : self.mappedPage = ∅) (shared : Bool) :
    Leads (Growing lossless origin spare tasks key self) (cloneSpace platform task self shared)
      (fun self' after => Growing lossless origin spare tasks key self' after ∧ self'.id = self.id ∧
        ∀ vaddr, vaddr ∈ self'.mappedPage ↔ shared = false ∧ vaddr ∈ task.mappedPage) := by
  cases shared with
  | true =>
    refine (cloneSpace_growing found apart).partly fun self' after spaced =>
      ⟨spaced.1, spaced.2.1, fun vaddr => ?_⟩
    simpa using not_mem_of_empty (spaced.2.2.trans empty) vaddr
  | false =>
    have missing : Missing (task.mappedPage.toList.map Prod.fst) self := by
      rw [Std.TreeMap.map_fst_toList_eq_keys]
      exact ⟨Std.TreeMap.nodup_keys, fun vaddr _ => not_mem_of_empty empty vaddr⟩
    refine (cloneVspace_growing fun _ => missing).partly fun self' after spaced =>
      ⟨spaced.1, spaced.2.same.id, fun vaddr => ?_⟩
    rw [spaced.2.pages, Std.TreeMap.map_fst_toList_eq_keys, Std.TreeMap.mem_keys]
    simpa using fun recorded => absurd recorded (not_mem_of_empty empty vaddr)

/-- A clone that is to have copies of the pages of its parent puts its IPC buffer over
none of them. -/
def ClonesBuffer (decode : List UInt8 → CloneArgs) (badge cloneArgs : Nat) (state : KernelState ν) :
    Prop :=
  ∀ task ∈ state.tasks[badge]?, ∀ bytes ∈ state.itemAt task cloneArgs cloneArgsSize,
    ∀ flags ∈ fromBits cloneFlagsAll (decode bytes).flags, flags &&& cloneVm = 0 →
      cloneIpcBufferAddr ∉ task.mappedPage

theorem cloneTask_tidy (tidy : Tidy lossless origin) (outcome : CloneOutcome) {task : Sel4Task}
    (found : origin.tasks[badge]? = some task) (args : CloneArgs) {flags : Nat}
    (buffer : lossless → flags &&& cloneVm = 0 → cloneIpcBufferAddr ∉ task.mappedPage) :
    Yields origin (cloneTask platform outcome task args flags) fun _ => Tidy lossless := by
  refine (new_growing tidy).bind fun newTask => .fixed ?_
  rintro created ⟨growing, absent, empty⟩
  have dropped : ∀ self : Sel4Task, self.id = newTask.id →
      Leads (Growing lossless origin [] origin.tasks newTask.id self)
        (self.drop platform >>= fun _ => pure (.error .enomem : SysResult)) (fun _ => Tidy lossless) := by
    intro self same
    rw [← same] at absent ⊢
    exact (drop_tidy tidy absent).bind fun _ => .pure fun _ tidy => tidy
  have apart : badge ≠ newTask.id := by
    rintro rfl
    exact absent (mem_of_found found)
  split
  · exact (dropped newTask rfl).startingAt growing
  · refine ((cloneSpace_pages found apart empty _).startingAt growing).bind fun cloned => .fixed ?_
    rintro spacedState ⟨growing, same, pages⟩
    have missing : lossless → cloneIpcBufferAddr ∉ cloned.mappedPage := by
      intro strict recorded
      obtain ⟨copied, recorded⟩ := (pages _).mp recorded
      exact buffer strict (by simpa using copied) recorded
    refine (allocate_growing.startingAt growing).bind fun page => (mapPage_growing missing).bind fun complete =>
      MemTriple.fixed ?_
    rintro furnished ⟨growing, second, _⟩
    have sameId := second.id.trans same
    split
    · exact (dropped complete sameId).startingAt growing
    · refine ((Keeping.evolves (tcb_steady _ _)).startingAt growing.keeping).bind fun _ =>
        (Keeping.evolves (tcbReadAllRegisters_steady _)).bind fun regs => (Keeping.evolves (tcb_steady _ _)).bind fun _ =>
        (Keeping.evolves (tcb_steady _ _)).bind fun _ => ?_
      rw [sameId]
      exact (setTask_tidy complete complete rfl fun _ => rfl).bind fun _ => .pure fun _ tidy => tidy

theorem readItem_tidy {size : Nat} (tidy : Tidy lossless state) (positive : 0 < size)
    (task : Sel4Task) (addr : Nat) :
    Yields state (readItem platform size task addr)
      fun result after => (Tidy lossless after ∧ after.tasks = state.tasks) ∧
        ∀ bytes, result = .ok bytes → state.itemAt task addr size = some bytes := by
  refine MemTriple.also ?_ (readItem_reads tidy.ledger.kernel positive task addr)
  have quietly : Evolves (Quietly False noPage) (readItem platform size task addr : KernelM ν _) :=
    readItem_quietly size task addr
  exact (quietly state).partly
      fun _ after step => ⟨tidy.steady (step tidy.ledger.kernel).steady, (step tidy.ledger.kernel).tasks⟩

theorem sysClone_tidy (tidy : Tidy lossless state) {decode : List UInt8 → CloneArgs}
    (outcome : CloneOutcome) {cloneArgs : Nat}
    (buffer : lossless → ClonesBuffer decode badge cloneArgs state) :
    Yields state (sysClone platform decode outcome badge cloneArgs) fun _ => Tidy lossless := by
  refine .locked ((taskOf_spec state badge).bind fun task => .fixed ?_)
  rintro state ⟨rfl, found⟩
  split
  · exact .pure fun _ same => same ▸ tidy
  · refine (readItem_tidy tidy (by decide) task cloneArgs).bind fun result => .fixed ?_
    rintro middle ⟨⟨tidyNow, tasksEq⟩, item⟩
    split
    · exact .pure fun _ same => same ▸ tidyNow
    · rename_i bytes
      split
      · exact .pure fun _ same => same ▸ tidyNow
      · rename_i flags flagsEq
        exact cloneTask_tidy tidyNow outcome (tasksEq ▸ found) (decode bytes)
          fun strict => buffer strict task found bytes (item bytes rfl) flags flagsEq

end RootTaskDemo.Kernel
