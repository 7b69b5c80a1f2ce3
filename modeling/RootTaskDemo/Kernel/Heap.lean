import RootTaskDemo.Kernel.Areas
import RootTaskDemo.Kernel.Cloning

namespace RootTaskDemo.Kernel

open Common Lib Thread

variable {ν : Type} {platform : Platform} {badge : Nat} {state : KernelState ν} {task : Sel4Task}

/-! The heap of a task over the calls of `sys_brk`: which pages below the break are on record. -/

def HeapPage (stop vaddr : Nat) : Prop :=
  vaddr % pageSize = 0 ∧ uspaceHeapBase < vaddr + pageSize ∧ vaddr < stop

instance (stop vaddr : Nat) : Decidable (HeapPage stop vaddr) := inferInstanceAs (Decidable (_ ∧ _))

def InHeap (addr : Nat) : Prop := uspaceHeapBase ≤ addr ∧ addr ≤ uspaceHeapBase + uspaceHeapSize

instance (addr : Nat) : Decidable (InHeap addr) := inferInstanceAs (Decidable (_ ∧ _))

def Sel4Task.Backs (task : Sel4Task) (stop : Nat) : Prop :=
  ∀ vaddr, HeapPage stop vaddr → vaddr ∈ task.mappedPage

def HeapBacked (badge stop : Nat) (state : KernelState ν) : Prop :=
  ∃ task, state.tasks[badge]? = some task ∧ task.Backs stop

theorem sysBrk_refuses (found : state.tasks[badge]? = some task) {addr : Nat} (outside : ¬ InHeap addr) :
    Delivers state (sysBrk platform badge addr)
      fun answer after => answer = .error .enomem ∧ after = state := by
  refine .locked ((taskOf_returns found).bind fun read => .fixed ?_)
  rintro now ⟨readEq, rfl⟩
  rw [if_pos (by simp only [InHeap] at outside; omega)]
  exact .pure fun _ same => ⟨rfl, same⟩

theorem sysBrk_moves (found : state.tasks[badge]? = some task) {addr : Nat} (inside : InHeap addr)
    (small : addr ≤ task.heap) :
    Delivers state (sysBrk platform badge addr)
      fun answer after => answer = .ok 0 ∧
        after = { state with tasks := state.tasks.insert badge { task with heap := addr } } := by
  refine .locked ((taskOf_returns found).bind fun read => .fixed ?_)
  rintro now ⟨readEq, rfl⟩
  rw [readEq, if_neg (by simp only [InHeap] at inside; omega)]
  dsimp only
  rw [if_neg (Nat.not_lt.mpr small), pure_bind]
  exact .update_bind (.pure fun _ same => ⟨rfl, same⟩)

theorem mapFresh_misaligned {vaddr : Nat} {rest : List Nat} {pre : KernelState ν → Prop}
    {post : Sel4Task → KernelState ν → Prop} (misaligned : vaddr % pageSize ≠ 0) :
    Leads pre (Sel4Task.mapFresh platform (vaddr :: rest) task) post := by
  refine MemTriple.anything.bind fun page => ?_
  have stops : task.mapPage platform vaddr page =
    (panicWith (.misaligned vaddr) : KernelM ν Sel4Task) := if_pos misaligned
  rw [stops]
  have never : Leads (fun _ => True) (panicWith (.misaligned vaddr) : KernelM ν Sel4Task)
    (fun _ _ => False) :=
    MemTriple.stop fun _ _ => trivial
  exact never.bind fun _ => MemTriple.fixed fun _ impossible => impossible.elim

theorem brk_grows {tasks : Std.TreeMap Nat Sel4Task} {key addr : Nat} (more : task.heap < addr) :
    Leads (Keeping False [] tasks key task : KernelState ν → Prop) (task.brk platform addr)
      (fun grown after => Keeping False [] tasks key grown.2 after ∧ task.heap % pageSize = 0 ∧
        Grown (pageSteps task.heap addr) task grown.2) := by
  have positive : addr ≠ 0 := Nat.ne_of_gt (Nat.zero_lt_of_lt more)
  have mapped : Leads (Keeping False [] tasks key task : KernelState ν → Prop)
      (Sel4Task.mapFresh platform (pageSteps task.heap addr) task)
      (fun self after => Keeping False [] tasks key self after ∧ task.heap % pageSize = 0 ∧
        Grown (pageSteps task.heap addr) task self) := by
    by_cases aligned : task.heap % pageSize = 0
    · exact (mapFresh_keeping False.elim).partly fun _ _ ⟨keeping, grown⟩ => ⟨keeping, aligned, grown⟩
    · rw [pageSteps_cons more]
      exact mapFresh_misaligned aligned
  unfold Sel4Task.brk
  rw [if_neg positive]
  exact mapped.bind fun _ => .pure fun _ spec => spec

theorem Sel4Task.Backs.grow {self : Sel4Task} {addr : Nat} (backs : task.Backs task.heap)
    (aligned : task.heap % pageSize = 0) (grown : Grown (pageSteps task.heap addr) task self) :
    self.Backs addr := by
  rintro vaddr ⟨page, low, high⟩
  rw [grown.pages, mem_pageSteps aligned]
  by_cases below : vaddr < task.heap
  · exact Or.inr (backs vaddr ⟨page, low, below⟩)
  · exact Or.inl ⟨page, Nat.not_lt.mp below, high⟩

theorem Sel4Task.Backs.mono {stop stop' : Nat} (backs : task.Backs stop) (shorter : stop' ≤ stop) :
    task.Backs stop' := by
  rintro vaddr ⟨page, low, high⟩
  exact backs vaddr ⟨page, low, high.trans_le shorter⟩

structure BreakBacked (badge : Nat) (state : KernelState ν) : Prop where
  tidy : Tidy False state
  backed : ∃ task, state.tasks[badge]? = some task ∧ task.Backs task.heap

theorem sysBrk_backed (backed : BreakBacked badge state) (addr : Nat) :
    Yields state (sysBrk platform badge addr)
      fun answer after => (answer = .ok 0 → HeapBacked badge addr after) ∧ BreakBacked badge after := by
  obtain ⟨tidy, task, found, backs⟩ := backed
  have stays : Yields state (sysBrk platform badge addr) fun _ => Tidy False :=
    sysBrk_tidy tidy False.elim
  by_cases inside : InHeap addr
  · by_cases more : task.heap < addr
    · refine (stays.also (?_ : MemTriple _ _ (fun _ after => ∃ self, after.tasks[badge]? = some self ∧ self.heap = addr ∧
        self.Backs addr) _)).partly ?_
      · refine .locked (((taskOf_returns found).raising).bind fun read => .fixed ?_)
        rintro now ⟨readEq, rfl⟩
        rw [readEq, if_neg (by simp only [InHeap] at inside; omega)]
        dsimp only
        rw [if_pos more]
        refine ((brk_grows more).startingAt (tidy.keeping found)).bind fun grown => .fixed ?_
        rintro extended ⟨-, aligned, pages⟩
        rw [pure_bind]
        refine .update_bind (.pure fun after same => ?_)
        rw [same]
        have covers : grown.2.Backs addr := backs.grow aligned pages
        exact ⟨{ grown.2 with heap := addr }, Std.TreeMap.getElem?_insert_self, rfl, covers⟩
      · rintro answer after ⟨tidy, self, entered, heap, covers⟩
        exact ⟨fun _ => ⟨self, entered, covers⟩, tidy, self, entered, heap ▸ covers⟩
    · have small := Nat.not_lt.mp more
      refine (stays.also (sysBrk_moves found inside small).raising).partly ?_
      rintro answer after ⟨tidy, -, rfl⟩
      have covers : ({ task with heap := addr } : Sel4Task).Backs addr := backs.mono small
      exact ⟨fun _ => ⟨_, Std.TreeMap.getElem?_insert_self, covers⟩, tidy, _, Std.TreeMap.getElem?_insert_self, covers⟩
  · refine (sysBrk_refuses found inside).partly ?_
    rintro answer after ⟨rfl, rfl⟩
    exact ⟨nofun, tidy, task, found, backs⟩

/-- After each of the calls that is answered with success, the heap is there up to its address. -/
def HeapCovered (platform : Platform) (badge : Nat) (addrs : List Nat) (world : KernelWorld ν) : Prop :=
  HoldsAlong (sysBrk platform badge) (fun addr _ answer after => answer = .ok 0 →
    HeapBacked badge addr after.memory) addrs world

variable {world : KernelWorld ν}

theorem BreakBacked.covered (backed : BreakBacked badge world.memory) (addrs : List Nat) :
    HeapCovered platform badge addrs world := by
  let invariant : KernelWorld ν → Prop := fun world => BreakBacked badge world.memory
  refine holdsAlong_of (fun addr state answer after (backed : invariant state) ran => ?_) addrs backed
  exact (sysBrk_backed backed addr).triple.of_run rfl ran

theorem heapCovered_iff (tidy : Tidy False world.memory) (found : world.memory.tasks[badge]? = some task)
    (high : uspaceHeapBase + uspaceHeapSize ≤ task.heap) (addrs : List Nat) :
    HeapCovered platform badge addrs world ↔ ∀ addr ∈ addrs.find? (fun addr => InHeap addr),
      task.Backs addr := by
  induction addrs generalizing world with
  | nil => exact ⟨nofun, fun _ => holdsAlong_nil world⟩
  | cons addr rest ih =>
    by_cases inside : InHeap addr
    · have moves : MemTriple _ (sysBrk platform badge addr) _ _ := sysBrk_moves found inside (inside.2.trans high)
      obtain ⟨answer, after, ran, rfl, moved⟩ := moves.triple.returns rfl
      rw [HeapCovered, holdsAlong_cons ran, List.find?_cons_of_pos (by simpa using inside)]
      have entered : after.memory.tasks[badge]? = some { task with heap := addr } := by
        rw [moved]
        exact Std.TreeMap.getElem?_insert_self
      simp only [Option.mem_some_iff, forall_eq', true_implies]
      constructor
      · rintro ⟨⟨self, recorded, covers⟩, -⟩
        cases Option.some.inj (recorded.symm.trans entered)
        exact covers
      · intro backs
        have tidyNow : Tidy False after.memory := (sysBrk_tidy tidy False.elim).triple.of_run rfl ran
        have covers : ({ task with heap := addr } : Sel4Task).Backs addr := backs
        exact ⟨⟨_, entered, covers⟩, BreakBacked.covered ⟨tidyNow, _, entered, covers⟩ rest⟩
    · have refuses : MemTriple _ (sysBrk platform badge addr) _ _ := sysBrk_refuses found inside
      obtain ⟨answer, after, ran, rfl, same⟩ := refuses.triple.returns rfl
      rw [HeapCovered, holdsAlong_cons ran, List.find?_cons_of_neg (by simpa using inside)]
      have later := @ih after (same ▸ tidy) (same ▸ found)
      exact ⟨fun holds => later.mp holds.2, fun backs => ⟨nofun, later.mpr backs⟩⟩

inductive NewTask (env : Env ν) (badge : Nat) (task : Sel4Task) (world : KernelWorld ν) : Prop where
  | started (boot : KernelWorld ν) (booted : Booted boot.memory) (ep : UInt64)
    (ran : (startChild env ep).run boot = .ok () world) (found : world.memory.tasks[badge]? = some task)
  | cloned (before : KernelWorld ν) (reached : Reached env before) (outcome : CloneOutcome)
    (parent cloneArgs : Nat)
    (ran : (sysClone env.platform env.decodeCloneArgs outcome parent cloneArgs).run before =
      .ok (.ok badge) world)
    (found : world.memory.tasks[badge]? = some task)

theorem NewTask.fresh {env : Env ν} (made : NewTask env badge task world) :
    Tidy False world.memory ∧ world.memory.tasks[badge]? = some task ∧ task.heap = initialHeap := by
  cases made with
  | started boot booted ep ran found =>
    obtain ⟨first, entered⟩ := (startChild_enters env ep (booted.tidy False.elim)).triple.of_run rfl ran
    refine ⟨entered.tidy, found, ?_⟩
    rw [entered.tasks, booted.tasks] at found
    rcases lookup_insert _ _ _ found with ⟨-, rfl⟩ | ⟨-, older⟩
    · exact entered.heap
    · simp at older
  | cloned before reached outcome parent cloneArgs ran found =>
    obtain ⟨_, _, _, child, rfl, _, entered⟩ :=
      (sysClone_cloned reached.tidy env.decodeCloneArgs outcome cloneArgs).triple.of_run rfl ran badge rfl
    cases Option.some.inj (found.symm.trans entered.found)
    exact ⟨entered.tidy, found, entered.heap⟩

/-- The heap of a new task is there after every call exactly if the pages up to the first
address that is accepted were there from the start. -/
theorem heap_covered_iff {env : Env ν} (made : NewTask env badge task world) (addrs : List Nat) :
    HeapCovered env.platform badge addrs world ↔ ∀ addr ∈ addrs.find? (fun addr => InHeap addr),
      task.Backs addr := by
  obtain ⟨tidy, found, heap⟩ := made.fresh
  refine heapCovered_iff tidy found ?_ addrs
  rw [heap]
  simp [uspaceHeapBase, uspaceHeapSize, initialHeap]

def startedWorld : World Lock (List UInt64) (KernelState Unit) :=
    finalState ((startChild smallEnv 0).run (KernelWorld.boot ()))

theorem startedWorld_new : ∃ task, NewTask smallEnv 1 task startedWorld := by
  have present : (startedWorld.memory.tasks[1]?).isSome := by decide +kernel
  obtain ⟨task, found⟩ := Option.isSome_iff_exists.mp present
  exact ⟨task, .started (KernelWorld.boot ()) (boot_booted ()) 0
    (ran_of_returnValue (by decide +kernel)) found⟩

/-- The break is put to the start of the heap before it grows, shrinks and grows again. -/
theorem heap_covered_iff_started :
    ∃ task, NewTask smallEnv 1 task startedWorld ∧
      HeapCovered smallEnv.platform 1 [uspaceHeapBase, uspaceHeapBase + 0x2000,
        uspaceHeapBase + 0x1000, uspaceHeapBase + 0x3000]
        startedWorld := by
  obtain ⟨task, made⟩ := startedWorld_new
  have inside : InHeap uspaceHeapBase := ⟨Nat.le_refl _, Nat.le_add_right _ _⟩
  have backs : task.Backs uspaceHeapBase := by
    rintro vaddr ⟨page, low, high⟩
    simp only [pageSize, uspaceHeapBase] at page low high
    omega
  refine ⟨task, made, (heap_covered_iff made _).mpr fun addr first => ?_⟩
  simp only [List.find?_cons, decide_eq_true inside, Option.mem_some_iff] at first
  rw [← first]
  exact backs

/-- The first call asks for a page. It is answered with success, and the page is not there. -/
theorem heap_page_missing :
    let run := (sysBrk smallEnv.platform 1 (uspaceHeapBase + 0x1000)).run startedWorld
    (∃ task, NewTask smallEnv 1 task startedWorld) ∧ returnValue run = some (.ok 0) ∧
      HeapPage (uspaceHeapBase + 0x1000) uspaceHeapBase ∧
        ¬ HeapBacked 1 (uspaceHeapBase + 0x1000) (finalState run).memory := by
  have missing :
    ((finalState ((sysBrk smallEnv.platform 1 (uspaceHeapBase + 0x1000)).run
    startedWorld)).memory.tasks[1]?.all
      fun task => task.mappedPage[uspaceHeapBase]?.isNone) = true := by decide +kernel
  have returns : returnValue
      ((sysBrk smallEnv.platform 1 (uspaceHeapBase + 0x1000)).run startedWorld) = some (.ok 0) := by
    decide +kernel
  have page : HeapPage (uspaceHeapBase + 0x1000) uspaceHeapBase := by
    simp [HeapPage, pageSize, uspaceHeapBase]
  refine ⟨startedWorld_new, returns, page, ?_⟩
  rintro ⟨task, found, covers⟩
  rw [found] at missing
  have recorded := Std.TreeMap.mem_iff_isSome_getElem?.mp (covers _ page)
  rw [Option.all_some, Option.isNone_iff_eq_none] at missing
  rw [missing] at recorded
  cases recorded

end RootTaskDemo.Kernel
