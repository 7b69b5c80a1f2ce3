import RootTaskDemo.Kernel.Stock
import RootTaskDemo.Kernel.Bookkeeping
import RootTaskDemo.Kernel.UserAccess
import RootTaskDemo.Lib.Hierarchy

namespace RootTaskDemo.Kernel

open Lib Thread
open Function (update_self update_of_ne)

variable {ν : Type} {platform : Platform}

/-! `map_page` is there twice: the kernel thread has it for its tasks, and the crate
`task-helper` for the threads of the root task. The root task uses the same object
allocator on slots of its own, so its state is of the same type. -/

/-- What the helper knows of a thread. The lock around the list of tables is nobody else's. -/
structure Sel4TaskHelper where
  tcb : CPtr
  cnode : CPtr
  vspace : CPtr
  mappedPt : List CPtr
  mappedPage : Std.TreeMap Nat CPtr
  stackBottom : Nat

structure TaskHelperTrait (ν : Type) where
  allocatePt : Sel4TaskHelper → KernelM ν (CPtr × Sel4TaskHelper)

/-- The helper of the root task. -/
def TaskImpl (platform : Platform) : TaskHelperTrait ν where
  allocatePt := fun task => do
    let pt ← allocate platform .pageTable
    return (pt, task)

theorem TaskImpl_allocatePt (task : Sel4TaskHelper) :
    (TaskImpl platform : TaskHelperTrait ν).allocatePt task =
      (allocate platform .pageTable >>= fun pt => pure (pt, task)) := rfl

namespace Sel4TaskHelper

/-- The attempts left; to have none is `unreachable!`. -/
def mapPageLoop (platform : Platform) (helper : TaskHelperTrait ν) (vaddr : Nat) (page : CPtr) :
    Nat → Sel4TaskHelper → KernelM ν Sel4TaskHelper
  | 0, _ => panicWith .unreachable
  | tries + 1, self => do
    match ← frameMap platform page self.vspace vaddr .all with
    | .ok () => return { self with mappedPage := self.mappedPage.insert vaddr page }
    | .error .failedLookup =>
      let allocated ← helper.allocatePt self
      unwrapped (ptMap platform allocated.1 allocated.2.vspace vaddr)
      mapPageLoop platform helper vaddr page tries
        { allocated.2 with mappedPt := allocated.2.mappedPt ++ [allocated.1] }
    | .error error => panicWith (.invocation error)

def mapPage (platform : Platform) (helper : TaskHelperTrait ν) (self : Sel4TaskHelper) (vaddr : Nat)
    (page : CPtr) :
    KernelM ν Sel4TaskHelper :=
  if vaddr % pageSize ≠ 0 then panicWith (.misaligned vaddr)
  else mapPageLoop platform helper vaddr page platform.numLevels self

end Sel4TaskHelper

/-- The attempts to map a page: the tables added on the way, and whether one of the
attempts succeeded. -/
def attempts (platform : Platform) (vspace : CPtr) (vaddr : Nat) (page : CPtr) :
    Nat → KernelM ν (List CPtr × Bool)
  | 0 => return ([], false)
  | tries + 1 => do
    match ← frameMap platform page vspace vaddr .all with
    | .ok () => return ([], true)
    | .error .failedLookup =>
      let pt ← allocate platform .pageTable
      unwrapped (ptMap platform pt vspace vaddr)
      let later ← attempts platform vspace vaddr page tries
      return (pt :: later.1, later.2)
    | .error error => panicWith (.invocation error)

def Sel4Task.record (self : Sel4Task) (vaddr : Nat) (page : CPtr) (outcome : List CPtr × Bool) :
    Sel4Task :=
  { self with
    mappedPt := self.mappedPt ++ outcome.1
    mappedPage := if outcome.2 then self.mappedPage.insert vaddr page else self.mappedPage }

def Sel4TaskHelper.record (self : Sel4TaskHelper) (vaddr : Nat) (page : CPtr) (pts : List CPtr) :
    Sel4TaskHelper :=
  { self with mappedPt := self.mappedPt ++ pts, mappedPage := self.mappedPage.insert vaddr page }

theorem panicWith_bind {α β : Type} (reason : Panic) (next : α → KernelM ν β) :
    (panicWith reason >>= next) = panicWith reason := rfl

theorem Sel4Task.mapPageLoop_eq (vaddr : Nat) (page : CPtr) (tries : Nat) (self : Sel4Task) :
    (Sel4Task.mapPageLoop platform vaddr page tries self : KernelM ν _) =
      (attempts platform self.vspace vaddr page tries >>= fun outcome => pure (self.record vaddr page outcome)) := by
  induction tries generalizing self with
  | zero =>
    rw [attempts, pure_bind, Sel4Task.record, List.append_nil]
    rfl
  | succ tries ih =>
    unfold Sel4Task.mapPageLoop attempts
    rw [bind_assoc]
    refine bind_congr fun result => ?_
    cases result with
    | ok _ =>
      dsimp only
      rw [pure_bind, Sel4Task.record, List.append_nil]
      rfl
    | error error =>
      cases error with
      | failedLookup =>
        dsimp only
        rw [bind_assoc]
        refine bind_congr fun pt => ?_
        rw [bind_assoc]
        refine bind_congr fun _ => ?_
        rw [ih, bind_assoc]
        refine bind_congr fun later => ?_
        rw [pure_bind, Sel4Task.record, Sel4Task.record, List.append_assoc]
        rfl
      | _ => exact (panicWith_bind ..).symm

theorem Sel4TaskHelper.mapPageLoop_eq (vaddr : Nat) (page : CPtr) (tries : Nat) (self : Sel4TaskHelper) :
    (Sel4TaskHelper.mapPageLoop platform (TaskImpl platform) vaddr page tries self : KernelM ν _) =
      (attempts platform self.vspace vaddr page tries >>= fun outcome =>
        if outcome.2 then pure (self.record vaddr page outcome.1) else panicWith .unreachable) := by
  induction tries generalizing self with
  | zero => rfl
  | succ tries ih =>
    unfold Sel4TaskHelper.mapPageLoop attempts
    rw [bind_assoc]
    refine bind_congr fun result => ?_
    cases result with
    | ok _ =>
      dsimp only
      rw [pure_bind, if_pos rfl, Sel4TaskHelper.record, List.append_nil]
    | error error =>
      cases error with
      | failedLookup =>
        dsimp only
        rw [TaskImpl_allocatePt, bind_assoc, bind_assoc]
        refine bind_congr fun pt => ?_
        rw [pure_bind, bind_assoc]
        refine bind_congr fun _ => ?_
        rw [ih, bind_assoc]
        refine bind_congr fun later => ?_
        rw [pure_bind, Sel4TaskHelper.record, Sel4TaskHelper.record, List.append_assoc]
        rfl
      | _ => exact (panicWith_bind ..).symm

def Platform.hierarchy (platform : Platform) : Hierarchy :=
  { levels := platform.numLevels, spanBits := platform.spanBits }

theorem missingLevel_eq (space : VSpace) (vaddr : Nat) :
    missingLevel platform space vaddr = (platform.hierarchy.missing space.tables vaddr).head? := by
  rw [Hierarchy.missing, List.head?_filter]
  rfl

/-- A frame that seL4 maps at the address as soon as the tables are there: it is mapped
nowhere else, and the address is one of user space. -/
structure Accepts (platform : Platform) (vspace page : CPtr) (vaddr : Nat) (space object : ObjId)
    (state : KernelState ν) :
    Prop where
  target : state.cspace vspace = some (.vspace space)
  root : state.cspace space = some (.vspace space)
  frame : ∃ mapped, state.cspace page = some (.frame object mapped) ∧ ∀ place ∈ mapped, place =
    (space, vaddr)
  aligned : vaddr % pageSize = 0
  user : vaddr + pageSize ≤ platform.userTop

variable {vspace page : CPtr} {vaddr : Nat} {space object : ObjId}
  {state before after : KernelState ν}

def KernelState.place (state : KernelState ν) (page : CPtr) (vaddr : Nat) (space object : ObjId) :
    KernelState ν :=
  (state.setPage space vaddr (some { frame := object, rights := .all })).setCap page
    (some (.frame object (some (space, vaddr))))

def KernelState.addTable (platform : Platform) (state : KernelState ν) (pt : CPtr) (vaddr : Nat)
    (space : ObjId) (level : Nat) : KernelState ν :=
  (state.setTable space level (vaddr >>> platform.spanBits level)).setCap pt
    (some (.pageTable pt (some (space, level, vaddr >>> platform.spanBits level))))

theorem frameMap_attempt (accepts : Accepts platform vspace page vaddr space object state) :
    Delivers state (frameMap platform page vspace vaddr .all)
      fun result after => match platform.hierarchy.missing (state.vspaces space).tables vaddr with
        | [] => result = .ok () ∧ after = state.place page vaddr space object
        | _ :: _ => result = .error .failedLookup ∧ after = state := by
  obtain ⟨mapped, frameEq, here⟩ := accepts.frame
  refine .read_bind ?_
  rintro state rfl
  rw [frameEq, accepts.target]
  dsimp only
  have sameSpace : ¬ (mapped.any fun place => place.1 ≠ space) = true := by
    cases mapped with
    | none => simp
    | some place => simp [here place rfl]
  have samePage : ¬ (mapped.any fun place => place.2 ≠ vaddr) = true := by
    cases mapped with
    | none => simp
    | some place => simp [here place rfl]
  rw [if_neg sameSpace, if_neg samePage, if_neg (Nat.not_lt.mpr accepts.user),
    if_neg (not_not.mpr accepts.aligned), missingLevel_eq]
  cases platform.hierarchy.missing (state.vspaces space).tables vaddr with
  | nil =>
    refine .update_bind (.pure ?_)
    rintro _ rfl
    exact ⟨rfl, rfl⟩
  | cons level rest => exact .pure fun _ same => ⟨rfl, same⟩

theorem ptMap_attempt {pt : CPtr} {level : Nat} (table : state.cspace pt = some (.pageTable pt none))
    (target : state.cspace vspace = some (.vspace space))
    (top : (platform.hierarchy.missing (state.vspaces space).tables vaddr).head? = some level) :
    Delivers state (unwrapped (ptMap platform pt vspace vaddr))
      fun _ after => after = state.addTable platform pt vaddr space level := by
  refine unwrapped_ok () (.read_bind ?_)
  rintro state rfl
  rw [table, target]
  dsimp only
  rw [missingLevel_eq, top]
  refine .update_bind (.pure ?_)
  rintro _ rfl
  exact ⟨rfl, rfl⟩

/-- A page in its place, with the tables that were missing on the way to it, and nothing else. -/
structure PageInstalled (platform : Platform) (page : CPtr) (vaddr : Nat) (space object : ObjId)
    (pts : List CPtr) (before after : KernelState ν) : Prop where
  pages : after.pages space = Function.update (before.pages space) vaddr
    (some { frame := object, rights := .all })
  tables : (after.vspaces space).tables = platform.hierarchy.fill (before.vspaces space).tables vaddr
  fresh : ∀ pt ∈ pts, before.cspace pt = none
  recorded : List.Forall₂
    (fun pt level => after.cspace pt =
      some (.pageTable pt (some (space, level, vaddr >>> platform.spanBits level)))) pts
    (platform.hierarchy.missing (before.vspaces space).tables vaddr)
  distinct : pts.Nodup
  others : ∀ other, other ≠ space → other ∉ pts → after.vspaces other = before.vspaces other
  caps : ∀ slot, slot ≠ page → slot ∉ pts → after.cspace slot = before.cspace slot

theorem PageInstalled.of_complete
    (complete : platform.hierarchy.missing (state.vspaces space).tables vaddr = []) :
    PageInstalled platform page vaddr space object [] state (state.place page vaddr space object) := by
  refine ⟨?_, ?_, nofun, ?_, List.nodup_nil, fun other different _ => ?_, fun slot different _ => ?_⟩
  · rw [KernelState.place, pages_setCap, pages_setPage_self]
  · rw [Hierarchy.fill_of_complete complete]
    simp only [KernelState.place, KernelState.setCap, KernelState.setPage, KernelState.changeSpace, update_self]
  · rw [complete]
    exact .nil
  · simp only [KernelState.place, KernelState.setCap, KernelState.setPage, KernelState.changeSpace,
      update_of_ne different]
  · rw [KernelState.place, cspace_setCap, update_of_ne different]
    rfl

structure TableInstalled (platform : Platform) (vaddr : Nat) (space : ObjId) (pt : CPtr)
    (level : Nat) (before after : KernelState ν) : Prop where
  fresh : before.cspace pt = none
  other : pt ≠ space
  cspace : after.cspace = Function.update before.cspace pt
    (some (.pageTable pt (some (space, level, vaddr >>> platform.spanBits level))))
  pages : after.pages space = before.pages space
  tables : (after.vspaces space).tables =
    Tables.add (before.vspaces space).tables level (platform.hierarchy.spanOf level vaddr)
  others : ∀ other, other ≠ space → other ≠ pt → after.vspaces other = before.vspaces other

theorem TableInstalled.of_allocated {extended : KernelState ν} {pt : CPtr} {level : Nat}
    (allocated : Allocated .pageTable pt before extended)
    (root : before.cspace space = some (.vspace space)) :
    TableInstalled platform vaddr space pt level before (extended.addTable platform pt vaddr space level) := by
  have apart : space ≠ pt := allocated.ne root
  have sameSpace : extended.vspaces space = before.vspaces space := by
    rw [allocated.vspaces, update_of_ne apart]
  refine ⟨allocated.free, apart.symm, ?_, ?_, ?_, fun other different older => ?_⟩
  · rw [KernelState.addTable, cspace_setCap]
    change Function.update extended.cspace pt _ = _
    rw [allocated.cspace, Function.update_idem]
  · rw [KernelState.addTable, pages_setCap, pages_setTable]
    unfold KernelState.pages
    rw [sameSpace]
  · rw [KernelState.addTable, tables_setTable, sameSpace]
    rfl
  · simp only [KernelState.addTable, KernelState.setCap, KernelState.setTable,
      KernelState.changeSpace, update_of_ne different]
    rw [allocated.vspaces, update_of_ne older]

namespace TableInstalled

variable {pt : CPtr} {level : Nat} {middle : KernelState ν} {rest : List Nat} {pts : List CPtr}

theorem caps (table : TableInstalled platform vaddr space pt level before middle) {slot : CPtr}
    {cap : Cap} (found : before.cspace slot = some cap) : middle.cspace slot = some cap := by
  have apart : slot ≠ pt := by
    rintro rfl
    rw [table.fresh] at found
    cases found
  rw [table.cspace, update_of_ne apart]
  exact found

theorem accepts (table : TableInstalled platform vaddr space pt level before middle)
    (accepts : Accepts platform vspace page vaddr space object before) :
    Accepts platform vspace page vaddr space object middle := by
  obtain ⟨mapped, frameEq, here⟩ := accepts.frame
  exact ⟨table.caps accepts.target, table.caps accepts.root, ⟨mapped, table.caps frameEq, here⟩,
    accepts.aligned, accepts.user⟩

theorem followed (table : TableInstalled platform vaddr space pt level before middle)
    (first : platform.hierarchy.missing (before.vspaces space).tables vaddr = level :: rest)
    (notTable : pt ≠ page)
    (installed : PageInstalled platform page vaddr space object pts middle after) :
    PageInstalled platform page vaddr space object (pt :: pts) before after := by
  have own : middle.cspace pt =
      some (.pageTable pt (some (space, level, vaddr >>> platform.spanBits level))) := by
    rw [table.cspace, update_self]
  have later : pt ∉ pts := by
    intro member
    have fresh := installed.fresh pt member
    rw [own] at fresh
    cases fresh
  refine ⟨?_, ?_, fun other member => ?_, ?_, List.nodup_cons.mpr ⟨later, installed.distinct⟩,
    fun other different older => ?_, fun slot different older => ?_⟩
  · rw [installed.pages, table.pages]
  · rw [installed.tables, table.tables, Hierarchy.fill_add first]
  · rcases List.mem_cons.mp member with rfl | member
    · exact table.fresh
    · have apart : other ≠ pt := fun same => later (same ▸ member)
      rw [← installed.fresh other member, table.cspace, update_of_ne apart]
  · have recorded := installed.recorded
    rw [table.tables, Hierarchy.missing_add first] at recorded
    rw [first]
    exact .cons ((installed.caps pt notTable later).trans own) recorded
  · obtain ⟨apart, later⟩ := not_or.mp (mt List.mem_cons.mpr older)
    exact (installed.others other different later).trans (table.others other different apart)
  · obtain ⟨apart, later⟩ := not_or.mp (mt List.mem_cons.mpr older)
    rw [installed.caps slot different later, table.cspace, update_of_ne apart]

end TableInstalled

theorem attempts_spec {levels : List Nat} {tries : Nat}
    (accepts : Accepts platform vspace page vaddr space object state)
    (missing : platform.hierarchy.missing (state.vspaces space).tables vaddr = levels)
    (enough : levels.length < tries) :
    RunFrom state (attempts platform vspace vaddr page tries)
      (fun outcome after => outcome.2 = true ∧ PageInstalled platform page vaddr space object outcome.1 state after ∧
        ∃ left, state.stock.drawTables platform levels.length = .ok left)
      (fun fault => ∃ panic, state.stock.drawTables platform levels.length = .error panic ∧
        fault = .panicked panic) := by
  induction levels generalizing tries state with
  | nil =>
    obtain ⟨tries, rfl⟩ := Nat.exists_eq_succ_of_ne_zero (Nat.ne_of_gt enough)
    refine (frameMap_attempt accepts).raising.bind fun result => ?_
    rw [missing]
    refine .fixed ?_
    rintro _ ⟨rfl, rfl⟩
    refine .pure ?_
    rintro _ rfl
    exact ⟨rfl, .of_complete missing, _, rfl⟩
  | cons level rest ih =>
    obtain ⟨tries, rfl⟩ := Nat.exists_eq_succ_of_ne_zero (Nat.ne_of_gt (Nat.zero_lt_of_lt enough))
    refine (frameMap_attempt accepts).raising.bind fun result => ?_
    rw [missing]
    refine .fixed ?_
    rintro state ⟨rfl, rfl⟩
    rw [List.length_cons, Stock.drawTables]
    refine ((allocate_takes .pageTable state).onStop ?_).bind fun pt => .fixed ?_
    · rintro fault ⟨panic, short, rfl⟩
      exact ⟨panic, by rw [short]; rfl, rfl⟩
    rintro extended ⟨stock, allocated⟩
    rw [stock]
    have tableEq : extended.cspace pt = some (.pageTable pt none) := by
      rw [allocated.cspace, update_self]
      rfl
    have top : (platform.hierarchy.missing (extended.vspaces space).tables vaddr).head? = some level := by
      rw [allocated.vspaces, update_of_ne (allocated.ne accepts.root), missing]
      rfl
    refine (ptMap_attempt tableEq (allocated.caps accepts.target) top).raising.bind fun _ => .fixed ?_
    rintro _ rfl
    have table : TableInstalled platform vaddr space pt level state
      (extended.addTable platform pt vaddr space level) :=
      .of_allocated allocated accepts.root
    have sameStock : (extended.addTable platform pt vaddr space level).stock = extended.stock :=
      (stock_setCap tableEq : ((extended.setTable space level _).setCap pt (some _)).stock = _)
    have missingRest : platform.hierarchy.missing
        ((extended.addTable platform pt vaddr space level).vspaces space).tables vaddr = rest := by
      rw [table.tables, Hierarchy.missing_add missing]
    have notTable : pt ≠ page := by
      obtain ⟨mapped, frameEq, -⟩ := accepts.frame
      exact (allocated.ne frameEq).symm
    have others := ih (table.accepts accepts) missingRest (Nat.lt_of_succ_lt_succ enough)
    rw [sameStock] at others
    refine others.bind fun later => .pure ?_
    rintro after ⟨mapped, installed, supplied⟩
    exact ⟨mapped, table.followed missing notTable installed, supplied⟩

/-- Whatever tables are missing on the way to a page, both copies of `map_page` map it
within their attempts, add exactly the missing tables and record each once. Only the stock
of the object allocator can stop them. -/
theorem map_page_completes (platform : Platform) (world : KernelWorld ν) (task : Sel4Task)
    (helper : Sel4TaskHelper) (vaddr : Nat) (page : CPtr) (space object : ObjId)
    (sameSpace : helper.vspace = task.vspace)
    (accepts : Accepts platform task.vspace page vaddr space object world.memory) :
    let missing := platform.hierarchy.missing (world.memory.vspaces space).tables vaddr
    let taskRun := (task.mapPage platform vaddr page).run world
    let helperRun := (helper.mapPage platform (TaskImpl platform) vaddr page).run world
    missing.length < platform.numLevels ∧
    (∀ left, world.memory.stock.drawTables platform missing.length = .ok left → ∃ pts after,
      taskRun = .ok { task with
        mappedPt := task.mappedPt ++ pts
        mappedPage := task.mappedPage.insert vaddr page } after ∧
      helperRun = .ok { helper with
        mappedPt := helper.mappedPt ++ pts
        mappedPage := helper.mappedPage.insert vaddr page } after ∧
      PageInstalled platform page vaddr space object pts world.memory after.memory) ∧
    (∀ panic, world.memory.stock.drawTables platform missing.length = .error panic → panic ≠ .unreachable ∧
      stopReason taskRun = some (.panicked panic) ∧ stopReason helperRun = some (.panicked panic)) := by
  intro missing taskRun helperRun
  have enough : missing.length < platform.numLevels := Hierarchy.missing_length_lt platform.levels_pos
  have taskEq : taskRun = (attempts platform task.vspace vaddr page platform.numLevels >>= fun outcome =>
      pure (task.record vaddr page outcome)).run world := by
    rw [← Sel4Task.mapPageLoop_eq]
    simp only [taskRun, Sel4Task.mapPage, accepts.aligned, ne_eq, not_true_eq_false, if_false]
  have helperEq : helperRun =
    (attempts platform task.vspace vaddr page platform.numLevels >>= fun outcome =>
      if outcome.2 then pure (helper.record vaddr page outcome.1) else panicWith .unreachable).run world := by
    rw [← sameSpace, ← Sel4TaskHelper.mapPageLoop_eq]
    simp only [helperRun, Sel4TaskHelper.mapPage, accepts.aligned, ne_eq, not_true_eq_false, if_false]
  have reached := (attempts_spec accepts rfl enough).triple world rfl
  rw [EStateM.run_bind] at taskEq helperEq
  refine ⟨enough, fun left supplied => ?_, fun panic short => ?_⟩
  · cases ran : (attempts platform task.vspace vaddr page platform.numLevels).run world with
    | ok outcome after =>
        rw [ran] at reached taskEq helperEq
        obtain ⟨mapped, installed, -⟩ := reached
        simp only [mapped, if_true] at helperEq
        simp only [Sel4Task.record, mapped, if_true] at taskEq
        exact ⟨outcome.1, after, taskEq, helperEq, installed⟩
    | error fault after =>
        rw [ran] at reached
        obtain ⟨panic, short, -⟩ := reached
        rw [supplied] at short
        cases short
  · have reason := Stock.drawTables_error short
    refine ⟨by rintro rfl; simp [Stock.Short] at reason, ?_⟩
    cases ran : (attempts platform task.vspace vaddr page platform.numLevels).run world with
    | ok outcome after =>
        rw [ran] at reached
        obtain ⟨-, -, left, supplied⟩ := reached
        rw [supplied] at short
        cases short
    | error fault after =>
        rw [ran] at reached taskEq helperEq
        obtain ⟨panic', short', rfl⟩ := reached
        rw [short] at short'
        cases short'
        rw [taskEq, helperEq]
        exact ⟨rfl, rfl⟩

def deepPlatform : Platform :=
  { smallPlatform with
    numLevels := 4
    levels_pos := Nat.zero_lt_succ 3
    spanBits := fun level => 48 - 9 * level }

def sparseWorld : World Lock (List UInt64) (KernelState Unit) :=
  { KernelWorld.boot () with
    memory := { KernelState.boot () with
      cspace := fun slot =>
        if slot = kernelVSpace then some (.vspace kernelVSpace) else if slot = 9 then some (.frame 9 none) else none
      vspaces := fun _ => { pages := fun _ => none, tables := fun level _ => level = 2 } } }

def sparseTask : Sel4Task :=
  { pid := 0, id := 1, tcb := 0, cnode := 0, vspace := kernelVSpace, mappedPt := [],
    mappedPage := ∅, heap := 0,
    exit := none, clearChildTid := none }

def sparseHelper : Sel4TaskHelper :=
  { tcb := 0, cnode := 0, vspace := kernelVSpace, mappedPt := [], mappedPage := ∅, stackBottom := 0 }

theorem map_page_completes_sparse : ∃ pts after,
    (sparseTask.mapPage deepPlatform 0x10000 9).run sparseWorld = .ok { sparseTask with
      mappedPt := sparseTask.mappedPt ++ pts
      mappedPage := sparseTask.mappedPage.insert 0x10000 9 } after ∧
    (sparseHelper.mapPage deepPlatform (TaskImpl deepPlatform) 0x10000 9).run sparseWorld =
      .ok { sparseHelper with
      mappedPt := sparseHelper.mappedPt ++ pts
      mappedPage := sparseHelper.mappedPage.insert 0x10000 9 } after ∧
    PageInstalled deepPlatform 9 0x10000 kernelVSpace 9 pts sparseWorld.memory after.memory := by
  have accepts : Accepts deepPlatform sparseTask.vspace 9 0x10000 kernelVSpace 9 sparseWorld.memory :=
    ⟨rfl, rfl, ⟨none, rfl, nofun⟩, rfl, by decide⟩
  have supplied : ∃ left, sparseWorld.memory.stock.drawTables deepPlatform
      (deepPlatform.hierarchy.missing (sparseWorld.memory.vspaces kernelVSpace).tables 0x10000).length = .ok left :=
    ⟨_, rfl⟩
  obtain ⟨left, supplied⟩ := supplied
  exact (map_page_completes deepPlatform sparseWorld sparseTask sparseHelper 0x10000 9 kernelVSpace
    9 rfl accepts).2.1 left supplied

end RootTaskDemo.Kernel
