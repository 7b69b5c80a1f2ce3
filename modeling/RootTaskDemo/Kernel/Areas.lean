import RootTaskDemo.Kernel.MemorySafety

namespace RootTaskDemo.Kernel

open Common Lib Thread

variable {ν : Type} {platform : Platform} {state : KernelState ν} {badge : Nat} {self : Sel4Task}

/-! What `sys_mmap` and `sys_unmap` do to the record of a task: the area that is
found, the pages that are added and the way back. -/

def InArea (start length vaddr : Nat) : Prop :=
  vaddr % pageSize = 0 ∧ alignDown4k start ≤ vaddr ∧ vaddr < alignUp4k (start + length)

theorem mem_pageSteps {start stop vaddr : Nat} (aligned : start % pageSize = 0) :
    vaddr ∈ pageSteps start stop ↔ vaddr % pageSize = 0 ∧ start ≤ vaddr ∧ vaddr < stop := by
  simp only [pageSteps, List.mem_range', pageSize] at *
  constructor
  · intro member
    obtain ⟨index, inside, rfl⟩ := member
    omega
  · intro inRange
    exact ⟨(vaddr - start) / 0x1000, by omega, by omega⟩

theorem mem_area {start length vaddr : Nat} (fits : start + length < 2 ^ 64) :
    vaddr ∈ pageSteps (alignDown4k start) (alignUp4k ((start + length) % 2 ^ 64)) ↔
      InArea start length vaddr := by
  rw [mem_pageSteps (alignDown4k_aligned start), Nat.mod_eq_of_lt fits, InArea]

theorem findFreeAreaFrom_apart {size : Nat} (keys : List Nat) (lastAddr : Nat)
    (sorted : keys.Pairwise (· < ·)) (fits : ∀ sum ∈ searchSums size lastAddr keys, sum < 2 ^ 64) :
    (Sel4Task.findFreeAreaFrom size lastAddr keys = lastAddr ∨
        ∃ key ∈ keys, Sel4Task.findFreeAreaFrom size lastAddr keys = key + pageSize) ∧
      ∀ key ∈ keys, key + pageSize ≤ Sel4Task.findFreeAreaFrom size lastAddr keys ∨
        Sel4Task.findFreeAreaFrom size lastAddr keys + size ≤ key := by
  induction keys generalizing lastAddr with
  | nil => exact ⟨Or.inl rfl, by simp⟩
  | cons vaddr rest ih =>
    obtain ⟨before, sorted⟩ := List.pairwise_cons.mp sorted
    have firstFits : lastAddr + size < 2 ^ 64 := fits _ (List.mem_cons_self ..)
    unfold Sel4Task.findFreeAreaFrom
    rw [Nat.mod_eq_of_lt firstFits]
    by_cases enough : lastAddr + size ≤ vaddr
    · rw [if_pos enough]
      refine ⟨Or.inl rfl, fun key member => Or.inr ?_⟩
      rcases List.mem_cons.mp member with rfl | later
      · exact enough
      · have := before key later
        omega
    · rw [searchSums, if_neg enough] at fits
      have nextFits : vaddr + pageSize < 2 ^ 64 := fits _ (List.mem_cons_of_mem _ (List.mem_cons_self ..))
      obtain ⟨origin, apart⟩ := ih (vaddr + pageSize) sorted fun sum member =>
        fits sum (List.mem_cons_of_mem _ (List.mem_cons_of_mem _ member))
      rw [if_neg enough, Nat.mod_eq_of_lt nextFits]
      constructor
      · rcases origin with here | ⟨key, member, there⟩
        · exact Or.inr ⟨vaddr, List.mem_cons_self .., here⟩
        · exact Or.inr ⟨key, List.mem_cons_of_mem _ member, there⟩
      · intro key member
        rcases List.mem_cons.mp member with rfl | later
        · -- the search does not go back
          rcases origin with here | ⟨other, member, there⟩
          · omega
          · have := before other member
            omega
        · exact apart key later

theorem findFreeArea_free {task : Sel4Task} {addr length vaddr : Nat}
    (aligned : ∀ key ∈ task.mappedPage, key % pageSize = 0)
    (fits : ∀ sum ∈ searchSums length (max uspaceBase addr) task.mappedPage.keys, sum < 2 ^ 64)
    (area : Sel4Task.findFreeAreaFrom length (max uspaceBase addr)
      task.mappedPage.keys + length + pageSize < 2 ^ 64)
    (inside : InArea (Sel4Task.findFreeAreaFrom length (max uspaceBase addr) task.mappedPage.keys)
      length vaddr) :
    vaddr ∉ task.mappedPage := by
  intro recorded
  have sorted : task.mappedPage.keys.Pairwise (· < ·) := by
    simpa only [compare_lt_iff_lt] using @Std.TreeMap.ordered_keys _ _ _ task.mappedPage _
  have apart := (findFreeAreaFrom_apart task.mappedPage.keys (max uspaceBase addr) sorted fits).2 vaddr
    (Std.TreeMap.mem_keys.mpr recorded)
  have page := aligned vaddr recorded
  simp only [InArea, alignDown4k, alignUp4k, pageSize] at *
  omega

/-- The pages that were missing are there, each with a frame of its own that did not
exist before; nothing else has changed on record. -/
structure PagesAdded (pages : Nat → Prop) (task task' : Sel4Task) (before after : KernelState ν) :
    Prop where
  fresh : ∀ vaddr, pages vaddr → vaddr ∉ task.mappedPage →
    ∃ cap, task'.mappedPage[vaddr]? = some cap ∧ before.cspace cap = none ∧ after.frameOf cap = some cap
  distinct : ∀ vaddr other cap, vaddr ∉ task.mappedPage → other ∉ task.mappedPage →
    task'.mappedPage[vaddr]? = some cap → task'.mappedPage[other]? = some cap → vaddr = other
  others : ∀ vaddr, ¬ pages vaddr ∨ vaddr ∈ task.mappedPage → task'.mappedPage[vaddr]? =
    task.mappedPage[vaddr]?

namespace PagesAdded

variable {pages : Nat → Prop} {self' self'' : Sel4Task} {middle after : KernelState ν}

theorem none (self : Sel4Task) (state : KernelState ν) :
    PagesAdded (fun _ => False) self self state state where
  fresh _ never := never.elim
  distinct vaddr other cap missing := by
    intro _ found
    exact absurd (mem_of_found found) missing
  others _ _ := rfl

theorem congr {pages' : Nat → Prop} (added : PagesAdded pages self self' state after)
    (same : ∀ vaddr, vaddr ∉ self.mappedPage → (pages vaddr ↔ pages' vaddr)) :
    PagesAdded pages' self self' state after where
  fresh vaddr inside missing := added.fresh vaddr ((same vaddr missing).mpr inside) missing
  distinct := added.distinct
  others vaddr kept := by
    by_cases recorded : vaddr ∈ self.mappedPage
    · exact added.others vaddr (Or.inr recorded)
    · refine added.others vaddr (Or.inl fun inside => ?_)
      exact (kept.resolve_right recorded) ((same vaddr recorded).mp inside)

theorem cons {vaddr : Nat} {cap : CPtr} (missing : vaddr ∉ self.mappedPage)
    (free : state.cspace cap = .none) (frame : middle.frameOf cap = some cap)
    (records : self'.mappedPage = self.mappedPage.insert vaddr cap)
    (steady : Steady False state middle) (later : PagesAdded pages self' self'' middle after)
    (kept : Steady False middle after) :
    PagesAdded (fun other => other = vaddr ∨ pages other) self self'' state after := by
  have recorded : ∀ other, other ∈ self'.mappedPage ↔ other = vaddr ∨ other ∈ self.mappedPage := by
    intro other
    rw [records, Std.TreeMap.mem_insert, compare_eq_iff_eq, eq_comm]
  have here : self''.mappedPage[vaddr]? = some cap := by
    rw [later.others vaddr (Or.inr ((recorded vaddr).mpr (Or.inl rfl))), records,
      Std.TreeMap.getElem?_insert_self]
  have elsewhere : ∀ other, other ≠ vaddr → self'.mappedPage[other]? = self.mappedPage[other]? := by
    intro other different
    rw [records, Std.TreeMap.getElem?_insert, if_neg fun same => different (compare_eq_iff_eq.mp same).symm]
  -- a page that is added later has a frame that is not there yet
  have newer : ∀ other, other ≠ vaddr → other ∉ self.mappedPage → self''.mappedPage[other]? ≠ some cap := by
    intro other different absent found
    have unrecorded : other ∉ self'.mappedPage := by
      rw [recorded]
      exact not_or.mpr ⟨different, absent⟩
    by_cases inside : pages other
    · obtain ⟨cap', entry, vacant, -⟩ := later.fresh other inside unrecorded
      cases Option.some.inj (entry.symm.trans found)
      simp [KernelState.frameOf, vacant] at frame
    · rw [later.others other (Or.inl inside)] at found
      exact unrecorded (mem_of_found found)
  constructor
  · intro other inside absent
    by_cases same : other = vaddr
    · rw [same]
      exact ⟨cap, here, free, kept.frames cap cap frame⟩
    · have unrecorded : other ∉ self'.mappedPage := by
        rw [recorded]
        exact not_or.mpr ⟨same, absent⟩
      obtain ⟨cap', entry, vacant, framed⟩ := later.fresh other (inside.resolve_left same) unrecorded
      exact ⟨cap', entry, steady.live cap' vacant, framed⟩
  · intro one other cap' oneAbsent otherAbsent oneFound otherFound
    by_cases first : one = vaddr
    · by_cases second : other = vaddr
      · rw [first, second]
      · rw [first, here] at oneFound
        exact absurd (otherFound.trans oneFound.symm) (newer other second otherAbsent)
    · by_cases second : other = vaddr
      · rw [second, here] at otherFound
        exact absurd (oneFound.trans otherFound.symm) (newer one first oneAbsent)
      · refine later.distinct one other cap' ?_ ?_ oneFound otherFound
        · rw [recorded]
          exact not_or.mpr ⟨first, oneAbsent⟩
        · rw [recorded]
          exact not_or.mpr ⟨second, otherAbsent⟩
  · intro other outside
    have different : other ≠ vaddr := by
      rintro rfl
      exact outside.elim (fun out => out (Or.inl rfl)) missing
    rw [← elsewhere other different]
    refine later.others other (outside.imp (fun out inside => out (Or.inr inside)) fun old => ?_)
    exact (recorded other).mpr (Or.inr old)

end PagesAdded

section Adding

variable {space : ObjId}

theorem mapNew_added {vaddr : Nat} (aligned : vaddr % pageSize = 0) (rooted : Rooted space state)
    (target : state.cspace self.vspace = some (.vspace space)) :
    RunFrom state (allocate platform .granule >>= fun page => self.mapPage platform vaddr page)
      (fun self' after => ∃ cap, state.cspace cap = none ∧ after.frameOf cap = some cap ∧
        self'.mappedPage = self.mappedPage.insert vaddr cap ∧ self'.vspace = self.vspace ∧
          Steady False state after) Refused := by
  refine (allocate_refused state .granule).bind fun page => .fixed fun extended allocated => ?_
  have frameEq : extended.cspace page = some (.frame page none) := by
    rw [allocated.cspace, Function.update_self]
    rfl
  have root : Rooted space extended := ⟨allocated.caps rooted.kernel, allocated.caps rooted.space⟩
  have mappable : Mappable self page extended :=
    ⟨⟨space, allocated.caps target, root.space⟩, page, frameEq⟩
  have steady : Evolves (Steady False) (self.mapPage platform vaddr page : KernelM ν _) :=
    mapPage_steady self vaddr page
  refine (((mapPage_refused mappable aligned).also (steady extended)).also
    (mapPage_spec True self vaddr page extended root (allocated.caps target))).mono ?_
  rintro self' after ⟨⟨-, steady⟩, -, pts, rfl, -⟩
  exact ⟨page, allocated.free, steady.frames page page (frameOf_frame frameEq), rfl, rfl,
    IsTrans.trans _ _ _ (allocated.steady False.elim) steady⟩

theorem mapMissing_added (vaddrs : List Nat) (aligned : ∀ vaddr ∈ vaddrs, vaddr % pageSize = 0)
    (self : Sel4Task) (rooted : Rooted space state)
    (target : state.cspace self.vspace = some (.vspace space)) :
    RunFrom state (mapMissing platform vaddrs self)
      (fun self' after => PagesAdded (· ∈ vaddrs) self self' state after ∧ Steady False state after) Refused := by
  induction vaddrs generalizing self state with
  | nil =>
    refine .pure fun now same => ?_
    rw [same]
    exact ⟨(PagesAdded.none self state).congr fun _ _ => by simp, refl state⟩
  | cons vaddr rest ih =>
    have restAligned := fun other member => aligned other (List.mem_cons_of_mem vaddr member)
    unfold mapMissing
    by_cases recorded : vaddr ∈ self.mappedPage
    · rw [if_pos recorded]
      refine (ih restAligned self rooted target).mono ?_
      rintro self' after ⟨added, steady⟩
      refine ⟨added.congr fun other missing => ?_, steady⟩
      have different : other ≠ vaddr := fun same => missing (same ▸ recorded)
      simp [different]
    · rw [if_neg recorded, ← bind_assoc]
      refine (mapNew_added (aligned vaddr (List.mem_cons_self ..)) rooted target).bind fun self' => .fixed ?_
      rintro middle ⟨cap, free, frame, records, vspace, steady⟩
      refine (ih restAligned self' ⟨steady.roots _ _ rooted.kernel, steady.roots _ _ rooted.space⟩
        (vspace ▸ steady.roots _ _ target)).mono ?_
      rintro self'' after ⟨later, kept⟩
      refine ⟨(PagesAdded.cons recorded free frame records steady later kept).congr fun other _ =>
        ?_, IsTrans.trans _ _ _ steady kept⟩
      rw [List.mem_cons]

def Restored (badge : Nat) (task : Sel4Task) (state : KernelState ν) : Prop :=
  ∃ task', state.tasks[badge]? = some task' ∧ ∀ vaddr : Nat, task'.mappedPage[vaddr]? =
    task.mappedPage[vaddr]?

theorem sysUnmap_restores {task task' : Sel4Task} {start length : Nat} {before : KernelState ν}
    (fits : start + length < 2 ^ 64) (found : state.tasks[badge]? = some task')
    (added : PagesAdded (InArea start length) task task' before state)
    (free : ∀ vaddr, InArea start length vaddr → vaddr ∉ task.mappedPage) :
    Delivers state (sysUnmap badge start length)
      fun answer after => answer = .ok 0 ∧ Restored badge task after := by
  have aligned : ∀ vaddr ∈ pageSteps (alignDown4k start) (alignUp4k ((start + length) % 2 ^ 64)),
    vaddr % pageSize = 0 :=
    fun _ member => pageSteps_aligned (alignDown4k_aligned start) member
  have backed : ∀ vaddr ∈ pageSteps (alignDown4k start) (alignUp4k ((start + length) % 2 ^ 64)), ∀ cap,
      task'.mappedPage[vaddr]? = some cap → HasFrame state cap := by
    intro vaddr member cap entry
    have inside := (mem_area fits).mp member
    obtain ⟨cap', entry', -, frame⟩ := added.fresh vaddr inside (free vaddr inside)
    cases Option.some.inj (entry'.symm.trans entry)
    exact hasFrame_iff.mpr ⟨_, frame⟩
  refine .locked ((taskOf_returns found).bind fun read => .fixed ?_)
  rintro now ⟨readEq, rfl⟩
  rw [readEq]
  refine (unmapPresent_removes _ aligned task' backed).bind fun task'' =>
    .fixed fun unmapped removed => ?_
  refine .update_bind (.pure fun after same => ?_)
  rw [same]
  refine ⟨rfl, task'', Std.TreeMap.getElem?_insert_self, fun vaddr => ?_⟩
  rw [removed vaddr]
  by_cases inside : InArea start length vaddr
  · rw [if_pos ((mem_area fits).mpr inside)]
    exact (Std.TreeMap.getElem?_eq_none (free vaddr inside)).symm
  · rw [if_neg fun member => inside ((mem_area fits).mp member)]
    exact added.others vaddr (Or.inl inside)

theorem fromBits_eq {all value bits : Nat} (valid : fromBits all value = some bits) :
    bits = value % 2 ^ 32 := by
  simp only [fromBits] at valid
  split at valid
  · exact (Option.some.inj valid).symm
  · cases valid

theorem mapArea_added {task : Sel4Task} {start length : Nat} (rooted : Rooted space state)
    (target : state.cspace task.vspace = some (.vspace space))
    (fits : start + length + pageSize < 2 ^ 64) :
    RunFrom state
      (mapMissing platform (pageSteps (alignDown4k start) (alignUp4k ((start + length) % 2 ^ 64))) task >>= fun task' =>
        setTask badge task' >>= fun _ => pure (.ok start : SysResult))
      (fun result after => result = .ok start ∧ ∃ task', after.tasks[badge]? = some task' ∧
        PagesAdded (InArea start length) task task' state after) Refused := by
  refine (mapMissing_added _ (fun _ member => pageSteps_aligned (alignDown4k_aligned start) member)
    task rooted target).bind
    fun task' => .fixed ?_
  rintro mapped ⟨added, -⟩
  refine .update_bind (.pure fun after same => ?_)
  rw [same]
  have exact' : PagesAdded (InArea start length) task task' state mapped :=
    added.congr fun vaddr _ => mem_area (by omega)
  exact ⟨rfl, task', Std.TreeMap.getElem?_insert_self, exact'.fresh, exact'.distinct, exact'.others⟩

/-- What a mapping that ended at `start` has done, and what unmapping it would do. -/
structure MapsExactly (badge : Nat) (task : Sel4Task) (start length flags : Nat)
    (before after : KernelState ν) : Prop where
  added : ∃ task', after.tasks[badge]? = some task' ∧
    PagesAdded (InArea start length) task task' before after
  free : flags % 2 ^ 32 &&& mapFixed = 0 → ∀ vaddr, InArea start length vaddr → vaddr ∉ task.mappedPage
  undone : flags % 2 ^ 32 &&& mapFixed = 0 →
    MemTriple (fun now => now = after) (sysUnmap badge start length)
    (fun answer now => answer = .ok 0 ∧ Restored badge task now) (fun _ => False)

/-- A mapping adds the pages of its area that were missing, each with a fresh frame, and
nothing else; an area that was searched for was free, and unmapping it leads back. -/
theorem mmap_munmap_exact {task : Sel4Task} {addr length prot flags : Nat}
    (found : state.tasks[badge]? = some task) (rooted : Rooted space state)
    (target : state.cspace task.vspace = some (.vspace space))
    (aligned : ∀ vaddr ∈ task.mappedPage, vaddr % pageSize = 0)
    (fits : ∀ sum ∈ (MemoryCall.mmap addr length prot flags).sums badge state, sum < 2 ^ 64) :
    MemTriple (fun now => now = state) (sysMmap platform badge addr length prot flags)
      (fun result after => ∀ start, result = .ok start →
        MapsExactly badge task start length flags state after) Refused := by
  refine .locked (((taskOf_returns found).raising).bind fun read => .fixed ?_)
  rintro now ⟨readEq, rfl⟩
  rw [readEq]
  split
  · rename_i bits prot' flagsEq protEq
    simp only [MemoryCall.sums, found, flagsEq, protEq] at fits
    have bitsEq : bits = flags % 2 ^ 32 := fromBits_eq flagsEq
    by_cases fixed : bits &&& mapFixed ≠ 0
    · rw [if_pos fixed] at fits ⊢
      have areaFits : addr + length + pageSize < 2 ^ 64 := fits _ (by simp [rangeSums])
      refine (mapArea_added rooted target areaFits).mono ?_
      rintro _ after ⟨rfl, task', entered, added⟩ start sameStart
      cases sameStart
      have strict : flags % 2 ^ 32 &&& mapFixed ≠ 0 := bitsEq ▸ fixed
      exact ⟨⟨task', entered, added⟩, fun loose => absurd loose strict, fun loose => absurd loose strict⟩
    · rw [if_neg fixed] at fits ⊢
      have areaFits := fits _ (List.mem_append_right _ (List.mem_cons_of_mem _ (List.mem_cons_self ..)))
      refine (mapArea_added rooted target areaFits).mono ?_
      rintro _ after ⟨rfl, task', entered, added⟩ start sameStart
      cases sameStart
      have free := fun vaddr => @findFreeArea_free task addr length vaddr aligned
        (fun sum member => fits sum (List.mem_append_left _ member)) areaFits
      exact ⟨⟨task', entered, added⟩, fun _ => free, fun _ => sysUnmap_restores (by omega) entered added free⟩
  · exact .pure fun _ _ _ impossible => by cases impossible

end Adding

def gapTask : Sel4Task :=
  { pid := 0, id := 1, tcb := 0, cnode := 0, vspace := 0x400, mappedPt := [],
    mappedPage := (Std.TreeMap.empty.insert 0x1000 0x500).insert 0x4000 0x501, heap := 0, exit :=
      none, clearChildTid := none }

def gapState : KernelState Unit :=
  { KernelState.boot () with
    cnodes := fun _ => true
    emptySlots := (0x1001, 0x100000)
    cspace := Function.update (KernelState.boot ()).cspace 0x400 (some (.vspace 0x400))
    tasks := Std.TreeMap.empty.insert 1 gapTask }

theorem gapTask_aligned : ∀ vaddr ∈ gapTask.mappedPage, vaddr % pageSize = 0 := by
  intro vaddr recorded
  simp only [gapTask, Std.TreeMap.mem_insert, compare_eq_iff_eq] at recorded
  rcases recorded with rfl | rfl | never
  · rfl
  · rfl
  · exact absurd never Bool.false_ne_true

/-- A hint inside the first page and a length of a page and a byte. -/
theorem mmap_munmap_exact_gap :
    let run := (sysMmap smallPlatform 1 0x1800 0x1001 3 0x22).run ⟨[], [], [], gapState⟩
    returnValue run = some (.ok 0x2000) ∧
      MapsExactly 1 gapTask 0x2000 0x1001 0x22 gapState (finalState run).memory := by
  have returns : returnValue ((sysMmap smallPlatform 1 0x1800 0x1001 3 0x22).run ⟨[], [], [], gapState⟩) = some (.ok 0x2000) := by
    decide +kernel
  have rooted : Rooted 0x400 gapState := ⟨rfl, rfl⟩
  have spec := @mmap_munmap_exact Unit smallPlatform gapState 1 0x400 gapTask 0x1800 0x1001 3 0x22
    (by simp [gapState]) rooted rfl
    gapTask_aligned (by decide +kernel)
  exact ⟨returns, spec.triple.of_run rfl (ran_of_returnValue returns) _ rfl⟩

/-- Every page that lies below the hint, a page or more, is followed too closely for the
area to be put between; or the area is put at the hint because no page lies before its end. -/
def HintClear (task : Sel4Task) (hint size : Nat) : Prop :=
  (∀ key ∈ task.mappedPage, hint + size ≤ key) ∨
    ∀ key ∈ task.mappedPage, key + pageSize < hint → ∃ next ∈ task.mappedPage, key < next ∧
      next < key + pageSize + size

theorem findFreeAreaFrom_reaches {size page : Nat} (hint : Nat) (keys : List Nat)
    (sorted : (page :: keys).Pairwise (· < ·))
    (fits : ∀ sum ∈ searchSums size (page + pageSize) keys, sum < 2 ^ 64) :
    hint ≤ Sel4Task.findFreeAreaFrom size (page + pageSize) keys ↔
      ∀ key ∈ page :: keys, key + pageSize < hint → ∃ next ∈ page :: keys, key < next ∧
        next < key + pageSize + size := by
  induction keys generalizing page with
  | nil =>
    simp only [Sel4Task.findFreeAreaFrom, List.mem_singleton, forall_eq, exists_eq_left]
    omega
  | cons vaddr rest ih =>
    obtain ⟨before, sorted⟩ := List.pairwise_cons.mp sorted
    have next : page < vaddr := before vaddr (List.mem_cons_self ..)
    have firstFits : page + pageSize + size < 2 ^ 64 := fits _ (List.mem_cons_self ..)
    unfold Sel4Task.findFreeAreaFrom
    rw [Nat.mod_eq_of_lt firstFits]
    by_cases enough : page + pageSize + size ≤ vaddr
    · rw [if_pos enough]
      constructor
      · intro reached key member below
        rcases List.mem_cons.mp member with rfl | later
        · omega
        · have := before key later
          omega
      · intro followed
        by_contra short
        obtain ⟨other, member, above, close⟩ := followed page (List.mem_cons_self ..) (by omega)
        rcases List.mem_cons.mp member with rfl | later
        · omega
        · rcases List.mem_cons.mp later with rfl | later
          · omega
          · have := (List.pairwise_cons.mp sorted).1 other later
            omega
    · rw [searchSums, if_neg enough] at fits
      have nextFits : vaddr + pageSize < 2 ^ 64 := fits _ (List.mem_cons_of_mem _ (List.mem_cons_self ..))
      rw [if_neg enough, Nat.mod_eq_of_lt nextFits, ih sorted fun sum member =>
        fits sum (List.mem_cons_of_mem _ (List.mem_cons_of_mem _ member))]
      constructor
      · intro followed key member below
        rcases List.mem_cons.mp member with rfl | later
        · exact ⟨vaddr, by simp, next, by omega⟩
        · obtain ⟨other, member, close⟩ := followed key later below
          exact ⟨other, List.mem_cons_of_mem _ member, close⟩
      · intro followed key later below
        obtain ⟨other, member, above, close⟩ := followed key (List.mem_cons_of_mem _ later) below
        rcases List.mem_cons.mp member with rfl | member
        · have := before key later
          omega
        · exact ⟨other, member, above, close⟩

/-- The area that is found starts at the hint or above it exactly if no gap below the hint takes it.
-/
theorem free_area_from_hint_iff (task : Sel4Task) (start size : Nat)
    (fits : ∀ sum ∈ searchSums size (max uspaceBase start) task.mappedPage.keys, sum < 2 ^ 64) :
    (∃ addr, task.findFreeArea start size = some addr ∧ max uspaceBase start ≤ addr) ↔
      HintClear task (max uspaceBase start) size := by
  have sorted : task.mappedPage.keys.Pairwise (· < ·) := by
    simpa only [compare_lt_iff_lt] using @Std.TreeMap.ordered_keys _ _ _ task.mappedPage _
  simp only [Sel4Task.findFreeArea, Option.some.injEq, exists_eq_left', HintClear,
    ← Std.TreeMap.mem_keys]
  generalize max uspaceBase start = hint at fits ⊢
  revert sorted fits
  cases task.mappedPage.keys with
  | nil =>
      intro _ _
      simp [Sel4Task.findFreeAreaFrom]
  | cons vaddr rest =>
      intro sorted fits
      have firstFits : hint + size < 2 ^ 64 := fits _ (List.mem_cons_self ..)
      unfold Sel4Task.findFreeAreaFrom
      rw [Nat.mod_eq_of_lt firstFits]
      by_cases enough : hint + size ≤ vaddr
      · rw [if_pos enough]
        refine ⟨fun _ => Or.inl fun key member => ?_, fun _ => Nat.le_refl _⟩
        rcases List.mem_cons.mp member with rfl | later
        · exact enough
        · have := (List.pairwise_cons.mp sorted).1 key later
          omega
      · rw [searchSums, if_neg enough] at fits
        have nextFits : vaddr + pageSize < 2 ^ 64 := fits _ (List.mem_cons_of_mem _ (List.mem_cons_self ..))
        rw [if_neg enough, Nat.mod_eq_of_lt nextFits, findFreeAreaFrom_reaches hint rest sorted fun sum member =>
          fits sum (List.mem_cons_of_mem _ (List.mem_cons_of_mem _ member))]
        exact ⟨Or.inr, fun clear => clear.resolve_left fun high => enough (high vaddr (List.mem_cons_self ..))⟩

/-- A hint in the gap between the two pages, for an area that fits there. -/
theorem free_area_from_hint_gap : ∃ addr, gapTask.findFreeArea 0x2000 0x1000 = some addr ∧
    max uspaceBase 0x2000 ≤ addr := by
  refine (free_area_from_hint_iff gapTask 0x2000 0x1000 (by decide +kernel)).mpr
    (Or.inr fun key recorded below => ?_)
  simp only [gapTask, Std.TreeMap.mem_insert, compare_eq_iff_eq] at recorded
  simp only [uspaceBase, pageSize] at below
  rcases recorded with rfl | rfl | never
  · omega
  · omega
  · exact absurd never Bool.false_ne_true

/-- A hint far above both pages: the area is put in the gap between them. -/
theorem hint_forgotten : gapTask.findFreeArea 0x100000 0x1000 = some 0x2000 ∧
    0x2000 < max uspaceBase 0x100000 := by
  decide +kernel

end RootTaskDemo.Kernel
