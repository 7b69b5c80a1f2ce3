import RootTaskDemo.Kernel.MemoryCalls

namespace RootTaskDemo.Kernel

open Common Lib Thread

variable {ν : Type} {platform : Platform} {self self' : Sel4Task}
  {before after state : KernelState ν}
  {tasks : Std.TreeMap Nat Sel4Task} {key badge : Nat}

/-! What a task may rely on when it asks for memory, in every state the kernel thread
can get into: which pages stay as they are, and which calls come back. -/

/-- The system calls on memory, with the arguments they look at. -/
inductive MemoryCall where
  | mmap (addr length prot flags : Nat)
  | munmap (addr length : Nat)
  | brk (addr : Nat)

namespace MemoryCall

def run (platform : Platform) (badge : Nat) : MemoryCall → KernelM ν SysResult
  | mmap addr length prot flags => sysMmap platform badge addr length prot flags
  | munmap addr length => sysUnmap badge addr length
  | brk addr => sysBrk platform badge addr

def isUnmap : MemoryCall → Bool
  | munmap _ _ => true
  | _ => false

end MemoryCall

/-- Every page on record keeps its frame, stays mapped as it is and holds what it held. -/
def RecordsKept (badge : Nat) (before after : KernelState ν) : Prop :=
  ∀ task, before.tasks[badge]? = some task → ∃ task', after.tasks[badge]? = some task' ∧
    ∀ (vaddr : Nat) (cap : CPtr), task.mappedPage[vaddr]? = some cap →
      task'.mappedPage[vaddr]? = some cap ∧ after.mappingAt task.vspace vaddr = before.mappingAt task.vspace vaddr ∧
      ∀ frame, before.frameOf cap = some frame → after.frameOf cap = some frame ∧
        after.frames frame = before.frames frame

/-- A heap that grows finds no page on record in its way. -/
def MemoryCall.ReplacesNothing (call : MemoryCall) (badge : Nat) (state : KernelState ν) : Prop :=
  match call with
  | .brk addr => GrowsFresh badge addr state
  | _ => True

theorem Spares.recordsKept {pages : Nat → Prop} {task task' : Sel4Task} (tidy : Tidy False before)
    (found : before.tasks[badge]? = some task) (spares : Spares pages before after)
    (extended : Extends pages task task')
    (outside : ∀ (vaddr : Nat) cap, task.mappedPage[vaddr]? = some cap → ¬ pages vaddr)
    {entered : Sel4Task} (same : entered.mappedPage = task'.mappedPage) :
    RecordsKept badge before { after with tasks := after.tasks.insert badge entered } := by
  intro known knownEq
  obtain rfl : task = known := Option.some_inj.mp (found.symm.trans knownEq)
  refine ⟨entered, Std.TreeMap.getElem?_insert_self, fun vaddr cap recorded => ?_⟩
  have away := outside vaddr cap recorded
  obtain ⟨space, spaceEq, root⟩ := tidy.ledger.rooted badge task found
  refine ⟨by rw [same, extended.records vaddr away, recorded], ?_, fun frame frameEq => ?_⟩
  · have later : after.cspace task.vspace = some (.vspace space) := spares.steady.roots _ _ spaceEq
    unfold KernelState.mappingAt
    rw [spaceEq]
    simp only [later]
    exact spares.shown space vaddr root away
  · exact ⟨spares.steady.frames cap frame frameEq, spares.contents tidy.ledger.named cap frame frameEq⟩

theorem RecordsKept.refl (badge : Nat) (state : KernelState ν) : RecordsKept badge state state :=
  fun task found => ⟨task, found, fun _ _ recorded => ⟨recorded, rfl, fun _ frameEq => ⟨frameEq, rfl⟩⟩⟩

theorem sysMmap_kept (tidy : Tidy False state) (addr length prot flags : Nat) :
    Yields state (sysMmap platform badge addr length prot flags)
      fun _ after => RecordsKept badge state after := by
  refine .locked ((taskOf_spec state badge).bind fun task => .fixed ?_)
  rintro state ⟨rfl, found⟩
  split
  · refine (mapMissing_spares _ task fun vaddr (inside : ¬ vaddr ∉ task.mappedPage) =>
      not_not.mp inside).bind fun task' =>
      MemTriple.fixed fun mapped kept => .update_bind (.pure ?_)
    rintro _ rfl
    refine kept.1.recordsKept tidy found kept.2 (fun vaddr cap recorded => not_not.mpr ?_) rfl
    rw [Std.TreeMap.mem_iff_isSome_getElem?, recorded]
    rfl
  · refine .pure ?_
    rintro _ rfl
    exact .refl badge _

theorem sysBrk_kept (tidy : Tidy False state) {addr : Nat} (fresh : GrowsFresh badge addr state) :
    Yields state (sysBrk platform badge addr) fun _ after => RecordsKept badge state after := by
  refine MemTriple.locked ((taskOf_spec state badge).bind fun task => MemTriple.fixed ?_)
  rintro state ⟨rfl, found⟩
  have entered : ∀ task', Leads (fun now => Spares (· ∈ pageSteps task.heap addr) state now ∧
        Extends (· ∈ pageSteps task.heap addr) task task' ∧
        ∀ (vaddr : Nat) cap, task.mappedPage[vaddr]? = some cap → vaddr ∉ pageSteps task.heap addr)
      (setTask badge { task' with heap := addr } >>= fun _ => pure (.ok 0 : SysResult))
      (fun _ after => RecordsKept badge state after) := by
    refine fun task' => MemTriple.fixed ?_
    rintro grown ⟨spares, extended, outside⟩
    refine MemTriple.update_bind (MemTriple.pure ?_)
    rintro _ rfl
    exact spares.recordsKept tidy found extended outside rfl
  split
  · refine MemTriple.pure ?_
    rintro _ rfl
    exact .refl badge _
  · rename_i inside
    have outside : ∀ (vaddr : Nat) cap, task.mappedPage[vaddr]? = some cap → vaddr ∉ pageSteps task.heap addr := by
      intro vaddr cap recorded member
      refine fresh (by omega) (by omega) task found vaddr member ?_
      rw [Std.TreeMap.mem_iff_isSome_getElem?, recorded]
      rfl
    dsimp only
    split
    · have grown : Yields state (task.brk platform addr)
          fun result now => Spares (· ∈ pageSteps task.heap addr) state now ∧
            Extends (· ∈ pageSteps task.heap addr) task result.2 ∧
            ∀ (vaddr : Nat) cap, task.mappedPage[vaddr]? = some cap → vaddr ∉ pageSteps task.heap addr := by
        unfold Sel4Task.brk
        split
        · refine MemTriple.pure ?_
          rintro _ rfl
          exact ⟨refl _, .refl task, outside⟩
        · refine (((mapFresh_spares _ (fun _ member => member) task) state).also
            ((mapFresh_builds _ (fun _ member => member) task).startingAt trivial)).bind fun task' => MemTriple.pure ?_
          exact fun _ kept => ⟨kept.1, kept.2, outside⟩
      exact grown.bind fun _ => (MemTriple.pure fun _ kept => kept).bind entered
    · refine (MemTriple.pure ?_).bind entered
      rintro _ rfl
      exact ⟨refl _, .refl task, outside⟩

theorem mapFresh_new {vaddrs : List Nat} (keeping : Keeping False [] tasks key self state) :
    Yields state (Sel4Task.mapFresh platform vaddrs self)
      fun self' _ => ∀ vaddr ∈ vaddrs, ∃ cap, self'.mappedPage[vaddr]? = some cap ∧ state.cspace cap = none := by
  induction vaddrs generalizing self state with
  | nil => exact .pure fun _ _ => by simp
  | cons vaddr rest ih =>
    refine (allocate_spec state .granule).bind fun page => .fixed fun extended allocated => ?_
    refine (mapPage_mapped (keeping.allocated allocated) vaddr page).bind fun self' => .fixed ?_
    rintro middle ⟨steady, mapped⟩
    have given : Keeping False [] tasks key self' middle :=
      ((keeping.allocated allocated).steady steady).give False.elim mapped.records mapped.same.vspace
    have older : ∀ slot, middle.cspace slot = none → state.cspace slot = none := fun slot free =>
      allocated.free_of_free (steady.live slot free)
    refine ((ih given).also ((mapFresh_builds rest (fun _ member => member) self').startingAt trivial)).partly ?_
    rintro self'' after ⟨later, extended⟩ other member
    by_cases again : other ∈ rest
    · obtain ⟨cap, recorded, free⟩ := later other again
      exact ⟨cap, recorded, older cap free⟩
    · obtain rfl : other = vaddr := (List.mem_cons.mp member).resolve_right again
      refine ⟨page, ?_, allocated.free⟩
      refine (extended.records other again).trans ?_
      rw [getElem?_mapped mapped.records, if_pos rfl]

theorem pageSteps_eq_nil {start stop : Nat} (short : stop ≤ start) : pageSteps start stop = [] := by
  have none : (stop - start + pageSize - 1) / pageSize = 0 := by
    simp only [pageSize]
    omega
  rw [pageSteps, none, List.range'_zero]

theorem sysBrk_replaces (tidy : Tidy False state) (addr : Nat) :
    Yields state (sysBrk platform badge addr)
      fun _ after => RecordsKept badge state after → GrowsFresh badge addr state := by
  refine .locked ((taskOf_spec state badge).bind fun task => MemTriple.fixed ?_)
  rintro state ⟨rfl, found⟩
  split
  · refine .pure fun _ _ _ low high => ?_
    omega
  · dsimp only
    split
    · rename_i inside grows
      have grown : Yields state (task.brk platform addr)
          fun result _ => ∀ vaddr ∈ pageSteps task.heap addr, ∃ cap, result.2.mappedPage[vaddr]? = some cap ∧
            state.cspace cap = none := by
        unfold Sel4Task.brk
        rw [if_neg (by omega)]
        exact (mapFresh_new (tidy.keeping found)).bind fun task' => .pure fun _ new => new
      refine grown.bind fun result => MemTriple.fixed fun now new => ?_
      rw [pure_bind]
      refine .update_bind (.pure ?_)
      rintro _ rfl kept _ _ known knownEq vaddr member recorded
      obtain rfl : task = known := Option.some_inj.mp (found.symm.trans knownEq)
      obtain ⟨cap, capEq⟩ := found_of_mem recorded
      obtain ⟨task', entered, same⟩ := kept task found
      obtain rfl := Option.some_inj.mp (Std.TreeMap.getElem?_insert_self.symm.trans entered)
      obtain ⟨cap', capEq', free⟩ := new vaddr member
      obtain rfl : cap = cap' := Option.some_inj.mp ((same vaddr cap capEq).1.symm.trans capEq')
      obtain ⟨frame, mapped, framed⟩ := tidy.ledger.backed (badge, vaddr) cap ⟨task, found, capEq⟩
      rw [free] at framed
      cases framed
    · rename_i short
      refine MemTriple.anything.partly fun _ _ _ _ _ _ known knownEq vaddr member => ?_
      obtain rfl : task = known := Option.some_inj.mp (found.symm.trans knownEq)
      rw [pageSteps_eq_nil (Nat.not_lt.mp short)] at member
      cases member

/-- A call that returns leaves the pages on record alone exactly if no heap grows over them. -/
theorem pages_kept_iff (env : Env ν) (ep : UInt64) (world : KernelWorld ν)
    (booted : Booted world.memory) (inputs : List KernelInput)
    (returned : stopReason ((kernelRun env ep inputs).run world) = none) (badge : Nat)
    (call : MemoryCall) (maps : call.isUnmap = false)
    (served : stopReason ((call.run env.platform badge).run
      (finalState ((kernelRun env ep inputs).run world))) = none) :
    RecordsKept badge (finalState ((kernelRun env ep inputs).run world)).memory
      (finalState ((call.run env.platform badge).run (finalState ((kernelRun env ep inputs).run world)))).memory ↔
    call.ReplacesNothing badge (finalState ((kernelRun env ep inputs).run world)).memory := by
  have tidy := kernelRun_tidy booted returned
  cases ran : (call.run env.platform badge).run (finalState ((kernelRun env ep inputs).run world)) with
  | error fault after =>
      rw [ran] at served
      cases served
  | ok value after =>
      cases call with
      | mmap addr length prot flags =>
        exact ⟨fun _ => trivial, fun _ => (sysMmap_kept tidy _ _ _ _).triple.of_run rfl ran⟩
      | munmap addr length => cases maps
      | brk addr =>
          exact ⟨(sysBrk_replaces tidy addr).triple.of_run rfl ran, fun fresh => (sysBrk_kept tidy fresh).triple.of_run rfl ran⟩

def heapRun : List KernelInput := [.call 1 [214, uspaceHeapBase.toUInt64]]

theorem pages_kept_iff_heapRun :
    RecordsKept 1 (finalState ((kernelRun smallEnv 0 heapRun).run (KernelWorld.boot ()))).memory
      (finalState (((MemoryCall.brk (uspaceHeapBase + 0x1000)).run smallPlatform 1).run
        (finalState ((kernelRun smallEnv 0 heapRun).run (KernelWorld.boot ()))))).memory := by
  have fresh : GrowsFresh 1 (uspaceHeapBase + 0x1000)
      (finalState ((kernelRun smallEnv 0 heapRun).run (KernelWorld.boot ()))).memory := by
    decide +kernel
  exact (pages_kept_iff smallEnv 0 (KernelWorld.boot ()) (boot_booted ()) heapRun (by decide +kernel) 1
    (.brk (uspaceHeapBase + 0x1000)) rfl (by decide +kernel)).mpr fresh

theorem not_recordsKept (vaddr : Nat)
    (changed : (before.tasks[badge]?.any fun task => task.mappedPage[vaddr]?.any fun cap =>
      after.tasks[badge]?.all fun task' => task'.mappedPage[vaddr]? != some cap) = true) :
    ¬ RecordsKept badge before after := by
  intro kept
  obtain ⟨task, found, holds⟩ := (Option.any_eq_true _ _).mp changed
  obtain ⟨cap, recorded, differs⟩ := (Option.any_eq_true _ _).mp holds
  obtain ⟨task', entered, same⟩ := kept task found
  rw [entered, Option.all_some, (same vaddr cap recorded).1, bne_self_eq_false] at differs
  cases differs

def regrowingRun : List KernelInput :=
  [.call 1 [214, uspaceHeapBase.toUInt64], .call 1 [214, uspaceHeapBase.toUInt64 + 0x1000],
    .call 1 [214, uspaceHeapBase.toUInt64]]

def overgrowingRun : List KernelInput :=
  [.call 1 [222, uspaceHeapBase.toUInt64, 0x1000, 3, 0x32], .call 1 [214, uspaceHeapBase.toUInt64]]

/-- After the inputs the heap grows to its second page, and a page on record is not what it was. -/
def GrowsOver (inputs : List KernelInput) : Prop :=
  let before := finalState ((kernelRun smallEnv 0 inputs).run (KernelWorld.boot ()))
  let grown := ((MemoryCall.brk (uspaceHeapBase + 0x1000)).run smallPlatform 1).run before
  stopReason ((kernelRun smallEnv 0 inputs).run (KernelWorld.boot ())) = none ∧ stopReason grown = none ∧
    ¬ RecordsKept 1 before.memory (finalState grown).memory

/-- The page of the heap is another one after it has shrunk and grown, and a page that
was mapped at the heap is gone. -/
theorem heap_replaces_pages : GrowsOver regrowingRun ∧ GrowsOver overgrowingRun :=
  ⟨⟨by decide +kernel, by decide +kernel, not_recordsKept uspaceHeapBase (by decide +kernel)⟩,
    by decide +kernel, by decide +kernel, not_recordsKept uspaceHeapBase (by decide +kernel)⟩

/-- The sums that the search for a free area forms. -/
def searchSums (size lastAddr : Nat) : List Nat → List Nat
  | [] => []
  | vaddr :: rest =>
    (lastAddr + size) :: if lastAddr + size ≤ vaddr then []
      else (vaddr + pageSize) :: searchSums size (vaddr + pageSize) rest

/-- The sums of a range: its end, and the page behind it, which `addr + align - 1` in `align_up`
adds before it takes the one off. -/
def rangeSums (start length : Nat) : List Nat := [start + length, start + length + pageSize]

/-- The sums that a call forms, none of which may reach 2^64. -/
def MemoryCall.sums (call : MemoryCall) (badge : Nat) (state : KernelState ν) : List Nat :=
  match call with
  | .mmap addr length prot flags =>
    match state.tasks[badge]?, fromBits mmapFlagsAll flags, fromBits mmapProtAll prot with
    | some task, some flags, some _ =>
      if flags &&& mapFixed ≠ 0 then rangeSums addr length
      else searchSums length (max uspaceBase addr) task.mappedPage.keys ++
        rangeSums (Sel4Task.findFreeAreaFrom length (max uspaceBase addr) task.mappedPage.keys) length
    | _, _, _ => []
  | .munmap addr length => rangeSums addr length
  | .brk _ => []

def searchStarts (task : Sel4Task) (addr : Nat) : List Nat :=
  max uspaceBase addr :: task.mappedPage.keys.map (· + pageSize)

/-- A heap grows from the end of a page, and a range lies below the end of the
address space wherever it may be put. -/
def MemoryCall.IsSound (call : MemoryCall) (badge : Nat) (state : KernelState ν) : Prop :=
  match call with
  | .mmap addr length prot flags => ∀ task ∈ state.tasks[badge]?, ∀ bits ∈ fromBits mmapFlagsAll flags,
    ∀ _ ∈ fromBits mmapProtAll prot,
      if bits &&& mapFixed ≠ 0 then addr + length + pageSize < 2 ^ 64
      else ∀ start ∈ searchStarts task addr, start + length + pageSize < 2 ^ 64
  | .munmap addr length => addr + length + pageSize < 2 ^ 64
  | .brk addr => uspaceHeapBase ≤ addr → addr ≤ uspaceHeapBase + uspaceHeapSize →
    ∀ task ∈ state.tasks[badge]?, task.heap < addr → task.heap % pageSize = 0

theorem search_fits {size : Nat} (keys : List Nat) (lastAddr : Nat)
    (fits : ∀ start ∈ lastAddr :: keys.map (· + pageSize), start + size + pageSize < 2 ^ 64) :
    (∀ sum ∈ searchSums size lastAddr keys, sum < 2 ^ 64) ∧
      Sel4Task.findFreeAreaFrom size lastAddr keys ∈ lastAddr :: keys.map (· + pageSize) := by
  induction keys generalizing lastAddr with
  | nil => exact ⟨nofun, List.mem_cons_self ..⟩
  | cons vaddr rest ih =>
    have first := fits lastAddr (List.mem_cons_self ..)
    have second := fits (vaddr + pageSize) (by simp)
    obtain ⟨sums, ends⟩ := ih (vaddr + pageSize) fun start member => fits start (List.mem_cons_of_mem _ member)
    have sumEq : (lastAddr + size) % 2 ^ 64 = lastAddr + size := Nat.mod_eq_of_lt (by omega)
    have nextEq : (vaddr + pageSize) % 2 ^ 64 = vaddr + pageSize := Nat.mod_eq_of_lt (by omega)
    unfold searchSums Sel4Task.findFreeAreaFrom
    rw [sumEq, nextEq]
    split
    · refine ⟨fun sum member => ?_, List.mem_cons_self ..⟩
      rw [List.mem_singleton.mp member]
      omega
    · refine ⟨fun sum member => ?_, List.mem_cons_of_mem _ ends⟩
      rcases List.mem_cons.mp member with rfl | member
      · omega
      · rcases List.mem_cons.mp member with rfl | member
        · omega
        · exact sums sum member

theorem rangeSums_fit {start length : Nat} (fits : start + length + pageSize < 2 ^ 64) :
    ∀ sum ∈ rangeSums start length, sum < 2 ^ 64 := by
  simp only [rangeSums, List.mem_cons, List.not_mem_nil, or_false, forall_eq_or_imp, forall_eq]
  omega

theorem MemoryCall.IsSound.sums_fit {call : MemoryCall} (sound : call.IsSound badge state) :
    ∀ sum ∈ call.sums badge state, sum < 2 ^ 64 := by
  cases call with
  | mmap addr length prot flags =>
    unfold MemoryCall.sums
    dsimp only
    split
    · rename_i task flags' prot' found flagsEq protEq
      have fits := sound task found flags' flagsEq prot' protEq
      split at fits
      · rename_i fixed
        rw [if_pos fixed]
        exact rangeSums_fit fits
      · rename_i free
        rw [if_neg free]
        obtain ⟨sums, ends⟩ := search_fits task.mappedPage.keys _ fits
        exact fun sum member => (List.mem_append.mp member).elim (sums sum) (rangeSums_fit (fits _ ends) sum)
    · exact nofun
  | munmap addr length => exact rangeSums_fit sound
  | brk addr => exact nofun

theorem alignDown4k_aligned (addr : Nat) : alignDown4k addr % pageSize = 0 := Nat.mul_mod_left ..

theorem pageSteps_aligned {start stop vaddr : Nat} (aligned : start % pageSize = 0)
    (member : vaddr ∈ pageSteps start stop) :
    vaddr % pageSize = 0 := by
  obtain ⟨index, _, rfl⟩ := List.mem_range'.mp member
  rw [Nat.add_mul_mod_self_left, aligned]

theorem setTask_answers {raised : Fault → Prop} (task : Sel4Task) (answer : SysResult) :
    MemTriple (fun _ : KernelState ν => True) (setTask badge task >>= fun _ => pure answer)
      (fun _ _ => True) raised :=
  have entered : MemTriple (fun _ : KernelState ν => True) (setTask badge task) (fun _ _ => True)
    raised :=
    MemTriple.update fun _ _ => trivial
  entered.bind fun _ => .pure fun _ _ => trivial

theorem sysMmap_refused (tidy : Tidy False state) (present : badge ∈ state.tasks)
    (addr length prot flags : Nat) :
    RunFrom state (sysMmap platform badge addr length prot flags) (fun _ _ => True) Refused := by
  obtain ⟨task, found⟩ := found_of_mem present
  refine .locked (((taskOf_returns found).raising).bind fun _ => .fixed ?_)
  rintro state ⟨rfl, rfl⟩
  split
  · exact (mapMissing_refused _ (fun _ member => pageSteps_aligned (alignDown4k_aligned _) member) _
      (tidy.ledger.rooted badge _ found)).bind fun _ => setTask_answers _ _
  · exact .pure fun _ _ => trivial

theorem sysUnmap_total (tidy : Tidy False state) (present : badge ∈ state.tasks) (addr length : Nat) :
    Delivers state (sysUnmap badge addr length) fun _ _ => True := by
  obtain ⟨task, found⟩ := found_of_mem present
  refine .locked ((taskOf_returns found).bind fun _ => .fixed ?_)
  rintro state ⟨rfl, rfl⟩
  exact (unmapPresent_total _ (fun _ member => pageSteps_aligned (alignDown4k_aligned _) member) _
    fun vaddr cap recorded => tidy.ledger.backed (badge, vaddr) cap ⟨_, found, recorded⟩).bind
      fun _ => setTask_answers _ _

theorem sysBrk_refused (tidy : Tidy False state) (present : badge ∈ state.tasks) {addr : Nat}
    (sound : (MemoryCall.brk addr).IsSound badge state) :
    RunFrom state (sysBrk platform badge addr) (fun _ _ => True) Refused := by
  obtain ⟨task, found⟩ := found_of_mem present
  refine .locked (((taskOf_returns found).raising).bind fun _ => .fixed ?_)
  rintro state ⟨rfl, rfl⟩
  split
  · exact .pure fun _ _ => trivial
  · rename_i inside
    dsimp only
    split
    · rename_i grows
      have aligned := sound (by omega) (by omega) _ found grows
      refine .bind ?_ fun _ => setTask_answers _ _
      unfold Sel4Task.brk
      rw [if_neg (by omega)]
      exact (mapFresh_refused _ (fun _ member => pageSteps_aligned aligned member) _
        (tidy.ledger.rooted badge _ found)).bind
        fun _ => .pure fun _ _ => trivial
    · exact (setTask_answers _ _).startingAt trivial

/-- The call forms no sum that overflows, and comes back unless something is refused. -/
def MemoryCall.Returns (call : MemoryCall) (platform : Platform) (badge : Nat)
    (world : KernelWorld ν) : Prop :=
  (∀ sum ∈ call.sums badge world.memory, sum < 2 ^ 64) ∧
    ∀ fault ∈ stopReason ((call.run platform badge).run world), Refused fault

theorem memory_calls_return (env : Env ν) (ep : UInt64) (world : KernelWorld ν)
    (booted : Booted world.memory) (inputs : List KernelInput)
    (returned : stopReason ((kernelRun env ep inputs).run world) = none) (badge : Nat)
    (present : badge ∈ (finalState ((kernelRun env ep inputs).run world)).memory.tasks)
    (call : MemoryCall)
    (sound : call.IsSound badge (finalState ((kernelRun env ep inputs).run world)).memory) :
    call.Returns env.platform badge (finalState ((kernelRun env ep inputs).run world)) := by
  have tidy := kernelRun_tidy booted returned
  have safe : MemTriple (fun now => now = (finalState ((kernelRun env ep inputs).run world)).memory)
      (call.run env.platform badge) (fun _ _ => True) Refused := by
    cases call with
    | mmap addr length prot flags => exact sysMmap_refused tidy present addr length prot flags
    | munmap addr length => exact (sysUnmap_total tidy present addr length).raising
    | brk addr => exact sysBrk_refused tidy present sound
  refine ⟨sound.sums_fit, fun fault stopped => ?_⟩
  cases ran : (call.run env.platform badge).run (finalState ((kernelRun env ep inputs).run world)) with
  | ok value after =>
      rw [ran] at stopped
      cases stopped
  | error reason after =>
      rw [ran] at stopped
      cases stopped
      exact safe.triple.of_fault rfl ran

theorem memory_calls_return_heapRun :
    (MemoryCall.brk (uspaceHeapBase + 1)).Returns smallPlatform 1
      (finalState ((kernelRun smallEnv 0 heapRun).run (KernelWorld.boot ()))) := by
  have aligned : ∀ task ∈ (finalState ((kernelRun smallEnv 0 heapRun).run (KernelWorld.boot ()))).memory.tasks[1]?,
      task.heap < uspaceHeapBase + 1 → task.heap % pageSize = 0 := by decide +kernel
  exact memory_calls_return smallEnv 0 (KernelWorld.boot ()) (boot_booted ()) heapRun
    (by decide +kernel) 1 (by decide +kernel)
    (.brk (uspaceHeapBase + 1)) fun _ _ => aligned

def unalignedRun : List KernelInput := [.call 1 [214, uspaceHeapBase.toUInt64 + 1]]

/-- A heap that ends inside a page cannot grow, and the end of a range may be past the
end of the address space. -/
theorem memory_calls_stop :
    stopReason ((kernelRun smallEnv 0 unalignedRun).run (KernelWorld.boot ())) = none ∧
    ¬ (MemoryCall.brk (uspaceHeapBase + 0x1001)).Returns smallPlatform 1
      (finalState ((kernelRun smallEnv 0 unalignedRun).run (KernelWorld.boot ()))) ∧
    ¬ (MemoryCall.munmap (2 ^ 64 - 1) 1).Returns smallPlatform 1
      (finalState ((kernelRun smallEnv 0 unalignedRun).run (KernelWorld.boot ()))) := by
  refine ⟨by decide +kernel, fun returns => ?_, fun returns => ?_⟩
  · have stopped : stopReason (((MemoryCall.brk (uspaceHeapBase + 0x1001)).run smallPlatform 1).run
        (finalState ((kernelRun smallEnv 0 unalignedRun).run (KernelWorld.boot ())))) =
          some (.panicked (.misaligned (uspaceHeapBase + 1))) := by decide +kernel
    exact returns.2 _ stopped
  · exact absurd (returns.1 (2 ^ 64) (List.mem_cons_self ..)) (lt_irrefl _)

end RootTaskDemo.Kernel
