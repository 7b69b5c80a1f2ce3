import RootTaskDemo.Kernel.Census
import RootTaskDemo.Lib.Ownership

namespace RootTaskDemo.Kernel

open Common Lib Thread

variable {ν α : Type} {platform : Platform} {lossless : Prop}
variable {pages : List Nat} {vaddr : Nat} {page : CPtr} {program : KernelM ν α}

/-! The frames that were handed out, against the records of the tasks. A frame that
no record names is lost: nothing else remembers its slot. -/

def Owns (tasks : Std.TreeMap Nat Sel4Task) (owner : Nat × Nat) (cap : CPtr) : Prop :=
  ∃ task, tasks[owner.1]? = some task ∧ task.mappedPage[owner.2]? = some cap

/-- Every record names a frame. If none may be lost, every frame is recorded once or
set aside for the moment. -/
structure Ledger (lossless : Prop) (spare : List CPtr) (tasks : Std.TreeMap Nat Sel4Task)
    (state : KernelState ν) : Prop where
  kernel : state.cspace kernelVSpace = some (.vspace kernelVSpace)
  named : FramesNamed state
  rooted : ∀ (key : Nat) (task : Sel4Task), tasks[key]? = some task →
    ∃ space, state.cspace task.vspace = some (.vspace space) ∧ state.cspace space = some (.vspace space)
  backed : ∀ owner cap, Owns tasks owner cap → HasFrame state cap
  aside : ∀ cap ∈ spare, HasFrame state cap
  frames : lossless → Inventory (Owns tasks) (HasFrame state) (· ∈ spare) ∧ spare.Nodup

/-- The books while the task under `key` is worked on, in a table that has not changed. -/
structure Keeping (lossless : Prop) (spare : List CPtr) (tasks : Std.TreeMap Nat Sel4Task)
    (key : Nat) (task : Sel4Task) (state : KernelState ν) : Prop where
  entered : state.tasks = tasks
  counter : ∀ other ∈ tasks, other < state.idCounter
  known : key < state.idCounter
  ledger : Ledger lossless spare (tasks.insert key task) state

/-- No frame is set aside between two messages. -/
structure Tidy (lossless : Prop) (state : KernelState ν) : Prop where
  ledger : Ledger lossless [] state.tasks state
  counter : ∀ other ∈ state.tasks, other < state.idCounter

variable {spare : List CPtr} {tasks : Std.TreeMap Nat Sel4Task} {key : Nat} {self self' : Sel4Task}
  {before after state origin : KernelState ν}

theorem owns_insert (owner : Nat × Nat) (cap : CPtr) :
    Owns (tasks.insert key self) owner cap ↔
      owner.1 = key ∧ self.mappedPage[owner.2]? = some cap ∨ owner.1 ≠ key ∧ Owns tasks owner cap := by
  unfold Owns
  constructor
  · rintro ⟨task, found, recorded⟩
    rcases lookup_insert tasks key self found with ⟨same, rfl⟩ | ⟨different, found⟩
    · exact Or.inl ⟨same, recorded⟩
    · exact Or.inr ⟨different, task, found, recorded⟩
  · rintro (⟨rfl, recorded⟩ | ⟨different, task, found, recorded⟩)
    · exact ⟨self, Std.TreeMap.getElem?_insert_self, recorded⟩
    · refine ⟨task, ?_, recorded⟩
      rw [Std.TreeMap.getElem?_insert, if_neg fun equal => different (compare_eq_iff_eq.mp equal).symm]
      exact found

theorem Ledger.steady (ledger : Ledger lossless spare tasks before)
    (steady : Steady lossless before after) :
    Ledger lossless spare tasks after := by
  refine ⟨steady.roots _ _ ledger.kernel, steady.named ledger.named, fun key task found => ?_,
    fun owner cap owned => steady.hasFrame (ledger.backed owner cap owned),
    fun cap member => steady.hasFrame (ledger.aside cap member), fun strict => ?_⟩
  · obtain ⟨space, target, root⟩ := ledger.rooted key task found
    exact ⟨space, steady.roots _ _ target, steady.roots _ _ root⟩
  · exact ⟨(ledger.frames strict).1.congr (fun _ _ => Iff.rfl) (steady.hasFrame_iff strict),
      (ledger.frames strict).2⟩

theorem Keeping.steady (keeping : Keeping lossless spare tasks key self before)
    (steady : Steady lossless before after) :
    Keeping lossless spare tasks key self after :=
  ⟨steady.tasks.trans keeping.entered, fun other member =>
    (keeping.counter other member).trans_le steady.counter,
    keeping.known.trans_le steady.counter, keeping.ledger.steady steady⟩

theorem Keeping.evolves (evolves : Evolves (Steady lossless) program) :
    Leads (Keeping lossless spare tasks key self) program (fun _ => Keeping lossless spare tasks key self) :=
  evolves.keeps fun _ _ steady keeping => keeping.steady steady

theorem Tidy.steady (tidy : Tidy lossless before) (steady : Steady lossless before after) :
    Tidy lossless after := by
  refine ⟨?_, fun other member => ?_⟩
  · rw [steady.tasks]
    exact tidy.ledger.steady steady
  · rw [steady.tasks] at member
    exact (tidy.counter other member).trans_le steady.counter

theorem Tidy.steadily (steadily : Evolves (Steadily lossless) program) :
    Leads (Tidy lossless) program (fun _ => Tidy lossless) :=
  steadily.keeps fun _ _ step tidy => tidy.steady (step tidy.ledger.kernel)

theorem Tidy.evolves (evolves : Evolves (Steady lossless) program) :
    Leads (Tidy lossless) program (fun _ => Tidy lossless) :=
  Tidy.steadily (Steady.steadily evolves)

theorem rooted_insert (ledger : Ledger lossless spare (tasks.insert key self) state)
    (root : ∃ space, state.cspace self'.vspace = some (.vspace space) ∧ state.cspace space =
      some (.vspace space))
    (other : Nat) (task : Sel4Task) (found : (tasks.insert key self')[other]? = some task) :
    ∃ space, state.cspace task.vspace = some (.vspace space) ∧ state.cspace space = some (.vspace space) := by
  rcases lookup_insert _ _ _ found with ⟨rfl, rfl⟩ | ⟨different, older⟩
  · exact root
  · refine ledger.rooted other task ?_
    rw [Std.TreeMap.getElem?_insert, if_neg fun equal => different (compare_eq_iff_eq.mp equal).symm]
    exact older

theorem Ledger.relabel (ledger : Ledger lossless spare (tasks.insert key self) state)
    (root : ∃ space, state.cspace self'.vspace = some (.vspace space) ∧ state.cspace space =
      some (.vspace space))
    (pages : ∀ vaddr : Nat, self'.mappedPage[vaddr]? = self.mappedPage[vaddr]?) :
    Ledger lossless spare (tasks.insert key self') state := by
  have owners : ∀ owner cap, Owns (tasks.insert key self') owner cap ↔
      Owns (tasks.insert key self) owner cap := by
    intro owner cap
    rw [owns_insert, owns_insert, pages]
  exact ⟨ledger.kernel, ledger.named, rooted_insert ledger root,
    fun owner cap owned => ledger.backed owner cap ((owners owner cap).mp owned), ledger.aside,
    fun strict => ⟨(ledger.frames strict).1.congr owners fun _ => Iff.rfl, (ledger.frames strict).2⟩⟩

theorem Keeping.relabel (keeping : Keeping lossless spare tasks key self state)
    (root : ∃ space, state.cspace self'.vspace = some (.vspace space) ∧ state.cspace space =
      some (.vspace space))
    (pages : ∀ vaddr : Nat, self'.mappedPage[vaddr]? = self.mappedPage[vaddr]?) :
    Keeping lossless spare tasks key self' state :=
  ⟨keeping.entered, keeping.counter, keeping.known, keeping.ledger.relabel root pages⟩

theorem Keeping.root (keeping : Keeping lossless spare tasks key self state) :
    ∃ space, state.cspace self.vspace = some (.vspace space) ∧ state.cspace space = some (.vspace space) :=
  keeping.ledger.rooted key self Std.TreeMap.getElem?_insert_self

theorem Keeping.allocated (keeping : Keeping lossless spare tasks key self before)
    (allocated : Allocated .granule page before after) :
    Keeping lossless (page :: spare) tasks key self after := by
  have fresh : ¬ HasFrame before page := by
    rintro ⟨frame, mapped, found⟩
    exact allocated.ne found rfl
  have frames : ∀ slot, HasFrame after slot ↔ slot = page ∨ HasFrame before slot := by
    intro slot
    unfold HasFrame
    rw [allocated.cspace]
    by_cases here : slot = page
    · subst here
      simp [ObjectType.cap]
    · simp [here]
  have steady : Steady False before after := allocated.steady False.elim
  refine ⟨allocated.tasks.trans keeping.entered, allocated.counter ▸ keeping.counter,
    allocated.counter ▸ keeping.known,
    allocated.caps keeping.ledger.kernel, steady.named keeping.ledger.named, fun other task found => ?_,
    fun owner cap owned => steady.hasFrame (keeping.ledger.backed owner cap owned),
      fun cap member => ?_, fun strict => ?_⟩
  · obtain ⟨space, target, root⟩ := keeping.ledger.rooted other task found
    exact ⟨space, allocated.caps target, allocated.caps root⟩
  · exact (frames cap).mpr ((List.mem_cons.mp member).imp_right (keeping.ledger.aside cap))
  · obtain ⟨inventory, nodup⟩ := keeping.ledger.frames strict
    exact ⟨inventory.create fresh frames fun _ => List.mem_cons,
      List.nodup_cons.mpr ⟨fun member => fresh (keeping.ledger.aside page member), nodup⟩⟩

theorem allocate_keeping :
    Leads (Keeping lossless spare tasks key self : KernelState ν → Prop) (allocate platform .granule)
      (fun page => Keeping lossless (page :: spare) tasks key self) :=
  MemTriple.fixed fun state keeping => (allocate_spec state .granule).partly
      fun _ _ allocated => keeping.allocated allocated

theorem getElem?_mapped {mapped mapped' : Std.TreeMap Nat CPtr}
    (records : mapped' = mapped.insert vaddr page) (other : Nat) :
    mapped'[other]? = if other = vaddr then some page else mapped[other]? := by
  rw [records, Std.TreeMap.getElem?_insert]
  by_cases here : other = vaddr
  · simp [here]
  · rw [if_neg fun equal => here (compare_eq_iff_eq.mp equal).symm, if_neg here]

theorem mem_mapped (records : self'.mappedPage = self.mappedPage.insert vaddr page)
    (other : Nat) : other ∈ self'.mappedPage ↔ other = vaddr ∨ other ∈ self.mappedPage := by
  rw [records, Std.TreeMap.mem_insert, compare_eq_iff_eq, eq_comm]

theorem Keeping.give (keeping : Keeping lossless (page :: spare) tasks key self state)
    (missing : lossless → vaddr ∉ self.mappedPage)
    (records : self'.mappedPage = self.mappedPage.insert vaddr page)
    (vspace : self'.vspace = self.vspace) : Keeping lossless spare tasks key self' state := by
  have ledger := keeping.ledger
  refine ⟨keeping.entered, keeping.counter, keeping.known, ledger.kernel, ledger.named,
    rooted_insert ledger (vspace ▸ keeping.root), fun owner cap owned => ?_,
    fun cap member => ledger.aside cap (List.mem_cons_of_mem _ member), fun strict => ?_⟩
  · rw [owns_insert, getElem?_mapped records] at owned
    rcases owned with ⟨here, recorded⟩ | ⟨elsewhere, owned⟩
    · split at recorded
      · cases recorded
        exact ledger.aside page (List.mem_cons_self ..)
      · exact ledger.backed owner cap ((owns_insert ..).mpr (Or.inl ⟨here, recorded⟩))
    · exact ledger.backed owner cap ((owns_insert ..).mpr (Or.inr ⟨elsewhere, owned⟩))
  · obtain ⟨inventory, nodup⟩ := ledger.frames strict
    have absent : self.mappedPage[vaddr]? = none := Std.TreeMap.getElem?_eq_none (missing strict)
    have gives : ∀ owner cap, Owns (tasks.insert key self') owner cap ↔
        owner = (key, vaddr) ∧ cap = page ∨ Owns (tasks.insert key self) owner cap := by
      rintro ⟨other, at'⟩ cap
      rw [owns_insert, owns_insert, getElem?_mapped records, Prod.mk.injEq]
      by_cases here : at' = vaddr
      · subst here
        simp only [if_true, absent, Option.some.injEq, reduceCtorEq, and_false, false_or, and_true]
        rw [eq_comm (a := page)]
      · simp [here]
    refine ⟨inventory.give (List.mem_cons_self ..) gives fun slot => ⟨fun member => ?_, ?_⟩,
      (List.nodup_cons.mp nodup).2⟩
    · exact ⟨List.mem_cons_of_mem _ member, fun same => (List.nodup_cons.mp nodup).1 (same ▸ member)⟩
    · rintro ⟨member, different⟩
      exact (List.mem_cons.mp member).resolve_left different

theorem Keeping.lose (keeping : Keeping lossless spare tasks key self state) (lossy : ¬ lossless)
    {spare' : List CPtr} (vspace : self'.vspace = self.vspace)
    (fewer : ∀ (vaddr : Nat) cap, self'.mappedPage[vaddr]? = some cap → self.mappedPage[vaddr]? = some cap)
    (spares : ∀ cap ∈ spare', cap ∈ spare) : Keeping lossless spare' tasks key self' state := by
  have ledger := keeping.ledger
  refine ⟨keeping.entered, keeping.counter, keeping.known, ledger.kernel, ledger.named,
    rooted_insert ledger (vspace ▸ keeping.root), fun owner cap owned => ledger.backed owner cap ?_,
    fun cap member => ledger.aside cap (spares cap member), fun strict => absurd strict lossy⟩
  rw [owns_insert] at owned ⊢
  exact owned.imp_left fun mine => ⟨mine.1, fewer _ _ mine.2⟩

structure Mapped (state : KernelState ν) (task : Sel4Task) (vaddr : Nat) (page : CPtr)
    (task' : Sel4Task) : Prop where
  records : task'.mappedPage = task.mappedPage.insert vaddr page
  same : SameTask task task'
  slots : ∀ slot ∈ task'.slots, slot ∈ task.slots ∨ slot = page ∨ state.cspace slot = none

theorem mapPage_mapped (keeping : Keeping lossless spare tasks key self state) (vaddr : Nat)
    (page : CPtr) :
    Yields state (self.mapPage platform vaddr page)
      fun self' after => Steady lossless state after ∧ Mapped state self vaddr page self' := by
  obtain ⟨space, target, root⟩ := keeping.root
  refine (mapPage_steady self vaddr page state).also
    ((mapPage_spec True self vaddr page state ⟨keeping.ledger.kernel, root⟩ target).partly ?_)
  rintro self' after ⟨_, pts, rfl, tables⟩
  refine ⟨rfl, ⟨rfl, rfl, rfl, rfl⟩, fun slot member => ?_⟩
  rcases mem_slots_insert member with old | table | rfl
  · exact Or.inl old
  · exact Or.inr (Or.inr (tables slot table).1)
  · exact Or.inr (Or.inl rfl)

theorem mapPage_keeping (missing : lossless → vaddr ∉ self.mappedPage) :
    Leads (Keeping lossless (page :: spare) tasks key self : KernelState ν → Prop)
      (self.mapPage platform vaddr page)
      (fun self' after => Keeping lossless spare tasks key self' after ∧ SameTask self self' ∧
        ∀ other, other ∈ self'.mappedPage ↔ other = vaddr ∨ other ∈ self.mappedPage) :=
  MemTriple.fixed fun _ keeping =>
    (mapPage_mapped keeping vaddr page).partly fun _ _ ⟨steady, mapped⟩ =>
    ⟨(keeping.steady steady).give missing mapped.records mapped.same.vspace, mapped.same,
      mem_mapped mapped.records⟩

structure Grown (pages : List Nat) (task task' : Sel4Task) : Prop where
  same : SameTask task task'
  pages : ∀ vaddr, vaddr ∈ task'.mappedPage ↔ vaddr ∈ pages ∨ vaddr ∈ task.mappedPage

theorem Grown.refl (self : Sel4Task) : Grown [] self self := ⟨.refl self, fun _ => by simp⟩

theorem Grown.cons {self'' : Sel4Task} (same : SameTask self self')
    (first : ∀ other, other ∈ self'.mappedPage ↔ other = vaddr ∨ other ∈ self.mappedPage)
    (rest : Grown pages self' self'') :
    Grown (vaddr :: pages) self self'' := by
  refine ⟨same.trans rest.same, fun other => ?_⟩
  rw [rest.pages, first, List.mem_cons]
  tauto

structure Missing (pages : List Nat) (task : Sel4Task) : Prop where
  nodup : pages.Nodup
  absent : ∀ vaddr ∈ pages, vaddr ∉ task.mappedPage

theorem Missing.rest (missing : Missing (vaddr :: pages) self)
    (first : ∀ other, other ∈ self'.mappedPage ↔ other = vaddr ∨ other ∈ self.mappedPage) :
    Missing pages self' := by
  obtain ⟨unique, nodup⟩ := List.nodup_cons.mp missing.nodup
  refine ⟨nodup, fun other member => ?_⟩
  rw [first, not_or]
  exact ⟨fun same => unique (same ▸ member), missing.absent other (List.mem_cons_of_mem _ member)⟩

theorem mapFresh_keeping (missing : lossless → Missing pages self) :
    Leads (Keeping lossless spare tasks key self : KernelState ν → Prop) (Sel4Task.mapFresh platform pages self)
      (fun self' after => Keeping lossless spare tasks key self' after ∧ Grown pages self self') := by
  induction pages generalizing self with
  | nil => exact .pure fun _ keeping => ⟨keeping, .refl self⟩
  | cons vaddr rest ih =>
    refine allocate_keeping.bind fun page =>
      (mapPage_keeping fun strict => (missing strict).absent vaddr (List.mem_cons_self ..)).bind
      fun self' =>
      MemTriple.fixed ?_
    rintro mapped ⟨keeping, same, first⟩
    exact ((ih fun strict => (missing strict).rest first).startingAt keeping).partly
      fun _ _ ⟨keeping, grown⟩ => ⟨keeping, .cons same first grown⟩

theorem mapStackPages_keeping (entryPoint stop : Nat) (args : List (List UInt8)) (stackPtr : Nat)
    (missing : lossless → Missing pages self) :
    Leads (Keeping lossless spare tasks key self : KernelState ν → Prop)
      (Sel4Task.mapStackPages platform entryPoint stop args pages stackPtr self)
      (fun result after => Keeping lossless spare tasks key result.2 after ∧ Grown pages self result.2) := by
  induction pages generalizing stackPtr self with
  | nil => exact .pure fun _ keeping => ⟨keeping, .refl self⟩
  | cons vaddr rest ih =>
    refine allocate_keeping.bind fun page => ?_
    have later : ∀ stackPtr, Leads (Keeping lossless (page :: spare) tasks key self : KernelState ν → Prop)
        (self.mapPage platform vaddr page >>= fun self =>
          Sel4Task.mapStackPages platform entryPoint stop args rest stackPtr self)
        (fun result after => Keeping lossless spare tasks key result.2 after ∧ Grown (vaddr :: rest) self result.2) := by
      intro stackPtr
      refine (mapPage_keeping fun strict =>
        (missing strict).absent vaddr (List.mem_cons_self ..)).bind fun self' => .fixed ?_
      rintro mapped ⟨keeping, same, first⟩
      exact ((ih stackPtr fun strict => (missing strict).rest first).startingAt keeping).partly
        fun _ _ ⟨keeping, grown⟩ =>
        ⟨keeping, .cons same first grown⟩
    have filled : Evolves (DataOnly False anyPage)
        (Sel4Task.fillStack platform entryPoint stackPtr args : KernelM ν Nat) := fillStack_dataOnly _ _ _
    dsimp only
    split
    · exact (Keeping.evolves (withSeat_steady page platform.pageSeat (DataOnly.steady filled))).bind later
    · exact (MemTriple.pure fun _ keeping => keeping).bind later

theorem mapStack_keeping (entryPoint start stop : Nat) (args : List (List UInt8))
    (missing : lossless → Missing (pageSteps start stop) self) :
    Leads (Keeping lossless spare tasks key self : KernelState ν → Prop)
      (self.mapStack platform entryPoint start stop args)
      (fun result after => Keeping lossless spare tasks key result.2 after ∧
        Grown (pageSteps start stop) self result.2) := by
  unfold Sel4Task.mapStack
  split
  · exact .stop fun _ _ => trivial
  · split
    · exact .stop fun _ _ => trivial
    · exact mapStackPages_keeping entryPoint stop args stop missing

theorem mapMissing_keeping (pages : List Nat) :
    Leads (Keeping lossless spare tasks key self : KernelState ν → Prop) (mapMissing platform pages self)
      (fun self' => Keeping lossless spare tasks key self') := by
  induction pages generalizing self with
  | nil => exact .pure fun _ keeping => keeping
  | cons vaddr rest ih =>
    unfold mapMissing
    split
    · exact ih
    · rename_i missing
      refine allocate_keeping.bind fun page => (mapPage_keeping fun _ => missing).bind fun self' => .fixed ?_
      rintro mapped ⟨keeping, _⟩
      exact ih.startingAt keeping

theorem pageSteps_nodup (start stop : Nat) : (pageSteps start stop).Nodup := by
  unfold pageSteps
  exact List.nodup_range' _ (by decide)

theorem unmapPresent_missing (absent : ∀ vaddr ∈ pages, vaddr ∉ self.mappedPage) :
    (unmapPresent pages self : KernelM ν _) = pure self := by
  induction pages with
  | nil => rfl
  | cons vaddr rest ih =>
    unfold unmapPresent
    rw [Std.TreeMap.getElem?_eq_none (absent vaddr (List.mem_cons_self ..))]
    exact ih fun other member => absent other (List.mem_cons_of_mem _ member)

theorem Ledger.of_lookup {tasks' : Std.TreeMap Nat Sel4Task} (ledger : Ledger lossless spare tasks state)
    (lookup : ∀ other : Nat, tasks'[other]? = tasks[other]?) : Ledger lossless spare tasks' state := by
  have owners : ∀ owner cap, Owns tasks' owner cap ↔ Owns tasks owner cap := by
    intro owner cap
    unfold Owns
    rw [lookup]
  refine ⟨ledger.kernel, ledger.named, fun key task found => ledger.rooted key task (lookup key ▸ found),
    fun owner cap owned => ledger.backed owner cap ((owners owner cap).mp owned), ledger.aside, fun strict => ?_⟩
  exact ⟨(ledger.frames strict).1.congr owners fun _ => Iff.rfl, (ledger.frames strict).2⟩

theorem lookup_insert_same {badge : Nat} (found : tasks[badge]? = some self) (other : Nat) :
    (tasks.insert badge self)[other]? = tasks[other]? := by
  rw [Std.TreeMap.getElem?_insert]
  split
  · rename_i equal
    rw [← compare_eq_iff_eq.mp equal, found]
  · rfl

theorem Tidy.keeping {badge : Nat} (tidy : Tidy lossless state)
    (found : state.tasks[badge]? = some self) :
    Keeping lossless [] state.tasks badge self state := by
  refine ⟨rfl, tidy.counter, tidy.counter badge ?_, tidy.ledger.of_lookup (lookup_insert_same found)⟩
  rw [Std.TreeMap.mem_iff_isSome_getElem?, found]
  rfl

theorem onTask_tidy {badge : Nat} {next : Sel4Task → KernelM ν α} (tidy : Tidy lossless state)
    (rest : ∀ task, state.tasks[badge]? = some task →
      Leads (Keeping lossless [] state.tasks badge task) (next task) (fun _ => Tidy lossless)) :
    Yields state (locked .taskMap (taskOf badge >>= next)) fun _ => Tidy lossless := by
  refine .locked ((taskOf_spec state badge).bind fun task => .fixed ?_)
  rintro now ⟨same, found⟩
  exact (rest task found).startingAt (same ▸ tidy.keeping (same ▸ found))

theorem setTask_tidy (self self' : Sel4Task) (vspace : self'.vspace = self.vspace)
    (pages : ∀ vaddr : Nat, self'.mappedPage[vaddr]? = self.mappedPage[vaddr]?) :
    Leads (Keeping lossless [] tasks key self : KernelState ν → Prop) (setTask key self')
      (fun _ => Tidy lossless) := by
  refine .update fun state keeping => ?_
  have entered := keeping.relabel (vspace ▸ keeping.root) pages
  have ledger := entered.ledger
  rw [← keeping.entered] at ledger
  refine ⟨⟨ledger.kernel, ledger.named, ledger.rooted, ledger.backed, ledger.aside, ledger.frames⟩,
    fun other member => ?_⟩
  rcases Std.TreeMap.mem_insert.mp member with equal | older
  · rw [← compare_eq_iff_eq.mp equal]
    exact keeping.known
  · exact keeping.counter other (keeping.entered ▸ older)

theorem Keeping.tidy {badge : Nat} (keeping : Keeping lossless [] tasks badge self state)
    (found : tasks[badge]? = some self) :
    Tidy lossless state := by
  refine ⟨keeping.ledger.of_lookup fun other => ?_, fun other member =>
    keeping.counter other (keeping.entered ▸ member)⟩
  rw [lookup_insert_same found, keeping.entered]

variable {badge : Nat}

theorem sysMmap_tidy (tidy : Tidy lossless state) (addr length prot flags : Nat) :
    Yields state (sysMmap platform badge addr length prot flags) fun _ => Tidy lossless := by
  refine onTask_tidy tidy fun task found => ?_
  split
  · exact (mapMissing_keeping _).bind fun task' => (setTask_tidy task' task' rfl fun _ => rfl).bind fun _ =>
      MemTriple.pure fun _ tidy => tidy
  · exact .pure fun _ keeping => keeping.tidy found

def UnmapsNothing (badge addr length : Nat) (state : KernelState ν) : Prop :=
  ∀ task ∈ state.tasks[badge]?,
    ∀ vaddr ∈ pageSteps (alignDown4k addr) (alignUp4k ((addr + length) % 2 ^ 64)),
    vaddr ∉ task.mappedPage

theorem unmapPresent_keeping (lossy : ¬ lossless) (pages : List Nat) :
    Leads (Keeping lossless [] tasks key self : KernelState ν → Prop) (unmapPresent pages self)
      (fun self' => Keeping lossless [] tasks key self') := by
  induction pages generalizing self with
  | nil => exact .pure fun _ keeping => keeping
  | cons vaddr rest ih =>
    unfold unmapPresent
    split
    · exact ih
    · rename_i page found
      unfold Sel4Task.unmapPage
      split
      · exact .bind (.stop fun _ _ => trivial) fun self' => ih
      · refine .bind ((Keeping.evolves (frameUnmap_steady page)).bind fun _ => .pure ?_) fun self' => ih
        refine fun _ keeping => keeping.lose lossy rfl (fun other cap recorded => ?_) fun _ member => member
        rw [Std.TreeMap.getElem?_erase] at recorded
        split at recorded
        · cases recorded
        · exact recorded

theorem sysUnmap_tidy (tidy : Tidy lossless state) {addr length : Nat}
    (nothing : lossless → UnmapsNothing badge addr length state) :
    Yields state (sysUnmap badge addr length) fun _ => Tidy lossless := by
  refine onTask_tidy tidy fun task found => ?_
  have unmapped : Leads (Keeping lossless [] state.tasks badge task : KernelState ν → Prop)
      (unmapPresent (pageSteps (alignDown4k addr) (alignUp4k ((addr + length) % 2 ^ 64))) task)
      (fun task' => Keeping lossless [] state.tasks badge task') := by
    by_cases strict : lossless
    · rw [unmapPresent_missing (nothing strict task found)]
      exact .pure fun _ keeping => keeping
    · exact unmapPresent_keeping strict _
  exact unmapped.bind fun task' => (setTask_tidy task' task' rfl fun _ => rfl).bind fun _ =>
    .pure fun _ tidy => tidy

def GrowsFresh (badge addr : Nat) (state : KernelState ν) : Prop :=
  uspaceHeapBase ≤ addr → addr ≤ uspaceHeapBase + uspaceHeapSize →
    ∀ task ∈ state.tasks[badge]?, ∀ vaddr ∈ pageSteps task.heap addr, vaddr ∉ task.mappedPage

theorem sysBrk_tidy (tidy : Tidy lossless state) {addr : Nat}
    (fresh : lossless → GrowsFresh badge addr state) :
    Yields state (sysBrk platform badge addr) fun _ => Tidy lossless := by
  refine onTask_tidy tidy fun task found => ?_
  have entered : ∀ task', Leads (Keeping lossless [] state.tasks badge task' : KernelState ν → Prop)
      (setTask badge { task' with heap := addr } >>= fun _ => pure (.ok 0 : SysResult)) (fun _ => Tidy lossless) :=
    fun task' => (setTask_tidy task' { task' with heap := addr } rfl fun _ => rfl).bind fun _ =>
      .pure fun _ tidy => tidy
  split
  · exact .pure fun _ keeping => keeping.tidy found
  · rename_i inside
    have absent := fun strict => fresh strict (by omega) (by omega) task found
    dsimp only
    split
    · have grown : Leads (Keeping lossless [] state.tasks badge task : KernelState ν → Prop) (task.brk platform addr)
          (fun result => Keeping lossless [] state.tasks badge result.2) := by
        unfold Sel4Task.brk
        split
        · exact .pure fun _ keeping => keeping
        · exact (mapFresh_keeping fun strict => ⟨pageSteps_nodup _ _, absent strict⟩).bind fun _ => .pure fun _ mapped => mapped.1
      exact grown.bind fun _ => (MemTriple.pure fun _ keeping => keeping).bind entered
    · exact (MemTriple.pure fun _ keeping => keeping).bind entered

def FaultsFresh (badge addr : Nat) (state : KernelState ν) : Prop :=
  ∀ task ∈ state.tasks[badge]?, alignBits addr 12 ∉ task.mappedPage

theorem handleVmFault_tidy (env : Env ν) (tidy : Tidy lossless state) {addr : Nat}
    (fresh : lossless → FaultsFresh badge addr state) :
    Yields state (handleVmFault env badge addr) fun _ => Tidy lossless := by
  refine (allocate_spec state .granule).bind fun page => .fixed fun extended allocated => ?_
  refine .locked ((taskOf_spec extended badge).bind fun task => .fixed ?_)
  rintro now ⟨rfl, found⟩
  rw [allocated.tasks] at found
  refine ((mapPage_keeping fun strict => fresh strict task found).startingAt
    ((tidy.keeping found).allocated allocated)).bind fun task' =>
    MemTriple.fixed ?_
  rintro mapped ⟨keeping, _⟩
  exact ((setTask_tidy task' task' rfl fun _ => rfl).startingAt keeping).bind fun _ =>
    Tidy.evolves (tcb_steady _ _)

theorem sysExit_tidy (tidy : Tidy lossless state) (exitCode : Int) :
    Yields state (sysExit badge exitCode) fun _ => Tidy lossless :=
  onTask_tidy tidy fun task _ =>
    (setTask_tidy task { task with exit := some exitCode } rfl fun _ => rfl).bind fun _ =>
    (Tidy.evolves (tcb_steady _ _)).bind fun _ => .pure fun _ tidy => tidy

theorem sysSetTidAddress_tidy (tidy : Tidy lossless state) (tidptr : Nat) :
    Yields state (sysSetTidAddress badge tidptr) fun _ => Tidy lossless :=
  onTask_tidy tidy fun task _ =>
    (setTask_tidy task { task with clearChildTid := some tidptr } rfl fun _ => rfl).bind fun _ =>
    MemTriple.pure fun _ tidy => tidy

end RootTaskDemo.Kernel
