import RootTaskDemo.Kernel.Frame
import RootTaskDemo.Lib.Mirror
import RootTaskDemo.Lib.Runs

namespace RootTaskDemo.Kernel

open Common Lib Thread
open Function (update_self update_of_ne)

variable {ν α : Type} {platform : Platform}
variable {space : ObjId} {strict : Prop}
variable {vaddr : Nat} {program : KernelM ν α} {rights : CapRights}

/-! The record that a task keeps of its pages, against what seL4 has mapped. -/

/-- How much is asked of the books: that the records of a task are complete, and that
no frame is shown where its capability does not say so. -/
structure Standard where
  tables : Prop
  honesty : Prop

/-- The records of an address space and its pages. Under the `stale` addresses a
page may be mapped that is not recorded. -/
structure Tracks (standard : Standard) (stale : Nat → Prop) (vspace : CPtr)
    (records : Nat → Option CPtr) (state : KernelState ν) : Prop where
  root : state.cspace vspace = some (.vspace vspace)
  user : vspace ≠ kernelVSpace
  caps : ∀ vaddr cap, records vaddr = some cap → ∃ frame, state.cspace cap =
    some (.frame frame (some (vspace, vaddr)))
  mirror : standard.tables → Mirrors stale (fun vaddr cap (mapping : Mapping) =>
    state.cspace cap = some (.frame mapping.frame (some (vspace, vaddr)))) records (state.pages vspace)

def Sel4Task.records (task : Sel4Task) : Nat → Option CPtr := fun vaddr => task.mappedPage[vaddr]?

abbrev clean : Nat → Prop := fun _ => False

variable {standard : Standard}

namespace Tracks

variable {stale stale' : Nat → Prop} {vspace : CPtr} {records : Nat → Option CPtr}
  {before after : KernelState ν}

theorem rooted (tracks : Tracks standard stale vspace records before)
    (kernel : before.cspace kernelVSpace = some (.vspace kernelVSpace)) : Rooted vspace before :=
  ⟨kernel, tracks.root⟩

theorem of_same (tracks : Tracks standard stale vspace records before)
    (caps : ∀ slot cap, before.cspace slot = some cap → Settled cap → after.cspace slot = some cap)
    (pages : standard.tables → after.pages vspace = before.pages vspace) :
    Tracks standard stale vspace records after := by
  refine ⟨caps _ _ tracks.root trivial, tracks.user, fun vaddr cap found => ?_, fun complete => ?_⟩
  · obtain ⟨frame, capEq⟩ := tracks.caps vaddr cap found
    exact ⟨frame, caps _ _ capEq tracks.user⟩
  · rw [pages complete]
    exact (tracks.mirror complete).mono (fun vaddr cap mapping _ holds =>
      caps _ _ holds tracks.user) fun _ stale => stale

theorem kept (tracks : Tracks standard stale vspace records before)
    (kept : Kept strict space before after) (outside : vspace ≠ space) :
    Tracks standard stale vspace records after :=
  tracks.of_same kept.caps fun _ => kept.pages vspace tracks.root outside tracks.user

theorem maps (tracks : Tracks standard stale vspace records before) {page : CPtr}
    (maps : MapsPage page vspace vaddr rights before after) :
    Tracks standard (fun other => stale other ∧ other ≠ vaddr) vspace
      (Function.update records vaddr (some page)) after := by
  have caps := (maps.kept (Or.inl tracks.root) : Kept True vspace before after).caps
  obtain ⟨object, space, mapped, spaceEq, pageEq, place, rfl⟩ := maps
  obtain rfl : space = vspace := by
    rw [tracks.root] at spaceEq
    cases spaceEq
    rfl
  refine ⟨caps _ _ tracks.root trivial, tracks.user, fun other cap found => ?_, fun complete => ?_⟩
  · by_cases here : other = vaddr
    · subst here
      rw [update_self] at found
      cases found
      exact ⟨object, by rw [cspace_setCap, update_self]⟩
    · rw [update_of_ne here] at found
      obtain ⟨frame, capEq⟩ := tracks.caps other cap found
      exact ⟨frame, caps _ _ capEq tracks.user⟩
  · rw [pages_setCap, pages_setPage_self]
    have moved : Mirrors stale (fun other cap (mapping : Mapping) =>
        ((before.setPage space vaddr (some ⟨object, rights⟩)).setCap page (some (.frame object (some (space, vaddr))))).cspace
          cap = some (.frame mapping.frame (some (space, other)))) records (before.pages space) :=
      (tracks.mirror complete).mono (fun other cap mapping _ holds => caps _ _ holds tracks.user) fun _ stale => stale
    exact moved.set (by rw [cspace_setCap, update_self])

theorem mono (tracks : Tracks standard stale vspace records before)
    (wider : standard.tables → ∀ vaddr, stale vaddr → stale' vaddr) :
    Tracks standard stale' vspace records before :=
  ⟨tracks.root, tracks.user, tracks.caps, fun complete =>
    (tracks.mirror complete).mono (fun _ _ _ _ holds => holds) (wider complete)⟩

end Tracks

theorem ptMap_spec (state : KernelState ν) (cap vspace : CPtr) (vaddr : Nat) :
    Yields state (ptMap platform cap vspace vaddr)
      fun result after => ∀ value, result = .ok value → ∃ object space level,
        state.cspace cap = some (.pageTable object none) ∧ state.cspace vspace = some (.vspace space) ∧
        missingLevel platform (state.vspaces space) vaddr = some level ∧
        after = (state.setTable space level (vaddr >>> platform.spanBits level)).setCap cap
          (some (.pageTable object (some (space, level, vaddr >>> platform.spanBits level)))) := by
  refine .read_bind ?_
  rintro state rfl
  split
  · rename_i object space capEq spaceEq
    split
    · exact .pure fun _ _ _ => nofun
    · rename_i level missing
      refine .update_bind (.pure ?_)
      rintro _ rfl _ _
      exact ⟨object, space, level, capEq, spaceEq, missing, rfl⟩
  · exact .pure fun _ _ _ => nofun

def TablesBelow (platform : Platform) (space : VSpace) (vaddr known : Nat) : Prop :=
  ∀ level, 1 ≤ level → level < known → space.tables level (vaddr >>> platform.spanBits level) = true

theorem missingLevel_spec {space : VSpace} {known level : Nat}
    (below : TablesBelow platform space vaddr known)
    (missing : missingLevel platform space vaddr = some level) :
    known ≤ level ∧ level < platform.numLevels ∧ TablesBelow platform space vaddr level := by
  obtain ⟨absent, member, earlier⟩ := List.find?_range'_eq_some.mp missing
  have bounds := List.mem_range'_1.mp member
  have absentEq : space.tables level (vaddr >>> platform.spanBits level) = false := by
    simpa using absent
  refine ⟨?_, by omega, fun other positive smaller => by simpa using earlier other positive smaller⟩
  by_contra early
  rw [below level bounds.1 (by omega)] at absentEq
  cases absentEq

theorem tableMapped_kept {before after : KernelState ν} {cap : CPtr} {object : ObjId}
    {level span : Nat} (capEq : before.cspace cap = some (.pageTable object none))
    (changed : after = (before.setTable space level span).setCap cap
      (some (.pageTable object (some (space, level, span))))) :
    Kept strict space before after ∧ after.pages = before.pages := by
  subst changed
  have older : ∀ {slot other}, before.cspace slot = some other → other ≠ .pageTable object none →
      Function.update before.cspace cap (some (.pageTable object (some (space, level, span)))) slot = some other := by
    intro slot other found different
    have apart : slot ≠ cap := by
      rintro rfl
      exact different (Option.some.inj (found.symm.trans capEq))
    rw [update_of_ne apart]
    exact found
  refine ⟨⟨fun slot other found settled => older found ?_, fun slot => free_of_update,
    fun other _ _ _ => ?_,
    fun named slot frame mapped found => ?_, fun _ honest view vaddr mapping shown => older ?_ (by simp),
    fun _ _ _ _ _ _ _ => rfl, rfl, Nat.le_refl _⟩, ?_⟩
  · rintro rfl
    cases settled
  · rw [pages_setCap, pages_setTable]
  · rw [cspace_setCap] at found
    by_cases here : slot = cap
    · subst here
      rw [update_self] at found
      cases found
    · rw [update_of_ne here] at found
      exact named slot frame mapped found
  · rw [pages_setCap, pages_setTable] at shown
    exact honest view vaddr mapping shown
  · rw [pages_setCap, pages_setTable]

theorem tables_setTable (state : KernelState ν) (cap : CPtr) (object : Option Cap) (space : ObjId)
    (level span : Nat) :
    (((state.setTable space level span).setCap cap object).vspaces space).tables =
      fun other => if other = level then Function.update ((state.vspaces space).tables level) span true
        else (state.vspaces space).tables other := by
  simp only [KernelState.setTable, KernelState.changeSpace, KernelState.setCap, update_self]

theorem TablesBelow.next {state : KernelState ν} {level : Nat}
    (below : TablesBelow platform (state.vspaces space) vaddr level) (cap : CPtr)
    (object : Option Cap) :
    TablesBelow platform
      (((state.setTable space level (vaddr >>> platform.spanBits level)).setCap cap object).vspaces space) vaddr
      (level + 1) := by
  intro other positive smaller
  rw [tables_setTable]
  dsimp only
  split
  · rename_i here
    rw [here, update_self]
  · exact below other positive (by omega)

/-- The new entry of the task and of the address space it runs in. Tables may have
been added on the way, in slots that were free. -/
structure PageMapped (strict : Prop) (space : ObjId) (self : Sel4Task) (vaddr : Nat) (page : CPtr) (self' : Sel4Task)
    (before after : KernelState ν) : Prop where
  mapped : ∃ middle rights, Kept strict space before middle ∧ middle.pages space = before.pages space ∧
    MapsPage page self.vspace vaddr rights middle after
  task : ∃ pts, self' = { self with mappedPage := self.mappedPage.insert vaddr page, mappedPt := self.mappedPt ++ pts } ∧
    ∀ pt ∈ pts, before.cspace pt = none ∧ ∃ object place, after.cspace pt = some (.pageTable object (some (space, place)))

theorem mapPageLoop_spec (vaddr : Nat) (page : CPtr) (tries known : Nat) (self : Sel4Task)
    (state : KernelState ν) (rooted : Rooted space state) (target : state.cspace self.vspace = some (.vspace space))
    (below : TablesBelow platform (state.vspaces space) vaddr known) (levels : known ≤ platform.numLevels)
    (enough : platform.numLevels < tries + known) :
    Yields state (Sel4Task.mapPageLoop platform vaddr page tries self)
      fun self' after => PageMapped strict space self vaddr page self' state after := by
  induction tries generalizing known self state with
  | zero => omega
  | succ tries ih =>
    refine (frameMap_spec state page self.vspace vaddr .all).bind fun result => .fixed fun now spec => ?_
    cases result with
    | ok _ =>
      refine .pure ?_
      rintro _ rfl
      refine ⟨⟨state, .all, Kept.refl _ _, rfl, spec⟩, [], ?_, nofun⟩
      rw [List.append_nil]
    | error error =>
      obtain rfl : now = state := spec
      cases error with
      | failedLookup =>
        refine (allocate_spec now .pageTable).bind fun pt => .fixed fun extended allocated => ?_
        have first : Kept strict space now extended := allocated.kept
        have spaceEq : extended.vspaces space = now.vspaces space := by
          rw [allocated.vspaces, update_of_ne (allocated.ne rooted.space)]
        refine (unwrapped_spec (ptMap_spec extended pt self.vspace vaddr) fun _ => trivial).bind fun _ =>
          MemTriple.fixed ?_
        rintro tabled ⟨object, space', level, ptEq, rootEq, missing, tabledEq⟩
        obtain rfl : space = space' := by
          rw [allocated.caps target] at rootEq
          cases rootEq
          rfl
        rw [spaceEq] at missing
        obtain ⟨higher, smaller, belowLevel⟩ := missingLevel_spec below missing
        rw [← spaceEq] at belowLevel
        obtain ⟨second, pagesEq⟩ := (tableMapped_kept ptEq tabledEq : Kept strict space extended tabled ∧ _)
        have both := first.trans second
        have belowNext := belowLevel.next pt (some (.pageTable object (some (space, level,
          vaddr >>> platform.spanBits level))))
        rw [← tabledEq] at belowNext
        refine (ih (level + 1) { self with mappedPt := self.mappedPt ++ [pt] } tabled (both.rooted rooted)
          (both.caps _ _ target trivial) belowNext (by omega) (by omega)).partly ?_
        rintro self' after ⟨⟨middle, rights, third, samePages, maps⟩, pts, selfEq, tables⟩
        have last : Kept strict space middle after :=
          maps.kept (Or.inl (third.caps _ _ (both.caps _ _ target trivial) trivial))
        have ptAfter : tabled.cspace pt = some (.pageTable object (some (space, level,
            vaddr >>> platform.spanBits level))) := by
          rw [tabledEq, cspace_setCap, update_self]
        refine ⟨⟨middle, rights, both.trans third, ?_, maps⟩, pt :: pts, ?_, ?_⟩
        · have untouched : extended.pages space = now.pages space := by
            unfold KernelState.pages
            rw [spaceEq]
          rw [samePages, pagesEq, untouched]
        · rw [selfEq, List.append_assoc]
          rfl
        · intro other member
          rcases List.mem_cons.mp member with same | member
          · subst same
            exact ⟨allocated.free, object, _, last.caps _ _ (third.caps _ _ ptAfter trivial) trivial⟩
          · exact ⟨both.live other (tables other member).1, (tables other member).2⟩
      | _ => exact .stop fun _ _ => trivial

theorem mapPage_spec (strict : Prop) (self : Sel4Task) (vaddr : Nat) (page : CPtr) (state : KernelState ν)
    (rooted : Rooted space state) (target : state.cspace self.vspace = some (.vspace space)) :
    Yields state (self.mapPage platform vaddr page)
      fun self' after => PageMapped strict space self vaddr page self' state after := by
  unfold Sel4Task.mapPage
  split
  · exact .stop fun _ _ => trivial
  · refine mapPageLoop_spec vaddr page platform.numLevels 1 self state rooted target ?_ platform.levels_pos (by omega)
    intro level positive small
    omega

structure Furnished (task : Sel4Task) (state : KernelState ν) : Prop where
  tcb : ∃ object, state.cspace task.tcb = some (.tcb object)
  cnode : ∃ object, state.cspace task.cnode = some (.cnode object)
  tables : ∀ pt ∈ task.mappedPt, ∃ object place, state.cspace pt =
    some (.pageTable object (some (task.vspace, place)))

structure InOrder (standard : Standard) (task : Sel4Task) (state : KernelState ν) : Prop where
  tracks : Tracks standard clean task.vspace task.records state
  furnished : Furnished task state

structure Books (standard : Standard) (tasks : Std.TreeMap Nat Sel4Task) (state : KernelState ν) :
    Prop where
  entered : state.tasks = tasks
  kernel : state.cspace kernelVSpace = some (.vspace kernelVSpace)
  named : FramesNamed state
  honest : standard.honesty → PagesHonest state
  counter : ∀ key ∈ tasks, key < state.idCounter
  inOrder : ∀ (key : Nat) (task : Sel4Task), tasks[key]? = some task → InOrder standard task state
  distinct : ∀ (key key' : Nat) (task task' : Sel4Task), tasks[key]? = some task → tasks[key']? =
    some task' →
    task.vspace = task'.vspace → key = key'

structure Untouched (standard : Standard) (origin : KernelState ν) (task : Sel4Task)
    (state : KernelState ν) : Prop where
  root : state.cspace task.vspace = origin.cspace task.vspace
  pages : state.pages task.vspace = origin.pages task.vspace
  frames : standard.honesty → ∀ frame vaddr, origin.cspace frame =
    some (.frame frame (some (task.vspace, vaddr))) →
    state.cspace frame = origin.cspace frame ∧ state.frames frame = origin.frames frame

structure Job (ν : Type) where
  standard : Standard
  key : Nat
  origin : KernelState ν

/-- The books while the task of the job is worked on: it has the address space and
the records given here, whatever the table of tasks still says. -/
structure Working (job : Job ν) (stale : Nat → Prop) (vspace : CPtr) (records : Nat → Option CPtr)
    (state : KernelState ν) : Prop where
  entered : state.tasks = job.origin.tasks
  kernel : state.cspace kernelVSpace = some (.vspace kernelVSpace)
  named : FramesNamed state
  honest : job.standard.honesty → PagesHonest state
  counter : ∀ other ∈ job.origin.tasks, other < state.idCounter
  known : job.key < state.idCounter
  own : Tracks job.standard stale vspace records state
  others : ∀ (other : Nat) (task : Sel4Task), other ≠ job.key → job.origin.tasks[other]? = some task →
    InOrder job.standard task state ∧ task.vspace ≠ vspace ∧ Untouched job.standard job.origin task state
  distinct : ∀ (other other' : Nat) (task task' : Sel4Task), job.origin.tasks[other]? = some task →
    job.origin.tasks[other']? = some task' → task.vspace = task'.vspace → other = other'

variable {tasks : Std.TreeMap Nat Sel4Task} {job : Job ν} {stale stale' : Nat → Prop}
  {vspace : CPtr}
  {records records' : Nat → Option CPtr} {before after state origin : KernelState ν}
    {task : Sel4Task} {badge : Nat}

theorem Furnished.of_caps (furnished : Furnished task before)
    (caps : ∀ slot cap, before.cspace slot = some cap → Settled cap → after.cspace slot = some cap) :
    Furnished task after := by
  obtain ⟨tcb, tcbEq⟩ := furnished.tcb
  obtain ⟨cnode, cnodeEq⟩ := furnished.cnode
  refine ⟨⟨tcb, caps _ _ tcbEq trivial⟩, ⟨cnode, caps _ _ cnodeEq trivial⟩, fun pt member => ?_⟩
  obtain ⟨object, place, found⟩ := furnished.tables pt member
  exact ⟨object, place, caps _ _ found trivial⟩

theorem InOrder.kept (inOrder : InOrder standard task before)
    (kept : Kept strict space before after) (outside : task.vspace ≠ space) :
    InOrder standard task after :=
  ⟨inOrder.tracks.kept kept outside, inOrder.furnished.of_caps kept.caps⟩

theorem InOrder.of_same (inOrder : InOrder standard task before)
    (caps : ∀ slot cap, before.cspace slot = some cap → Settled cap → after.cspace slot = some cap)
    (pages : after.pages task.vspace = before.pages task.vspace) : InOrder standard task after :=
  ⟨inOrder.tracks.of_same caps fun _ => pages, inOrder.furnished.of_caps caps⟩

theorem Untouched.kept (untouched : Untouched standard origin task before)
    (kept : Kept standard.honesty space before after) (outside : task.vspace ≠ space)
    (inOrder : InOrder standard task before) (named : FramesNamed before)
    (honest : standard.honesty → PagesHonest before) : Untouched standard origin task after := by
  have user := inOrder.tracks.user
  have root := inOrder.tracks.root
  refine ⟨(kept.caps _ _ root trivial).trans (root.symm.trans untouched.root),
    (kept.pages _ root outside user).trans untouched.pages, fun asked frame vaddr found => ?_⟩
  obtain ⟨same, contents⟩ := untouched.frames asked frame vaddr found
  have settled := same.trans found
  exact ⟨(kept.caps _ _ settled user).trans found.symm,
    (kept.frames asked named (honest asked) _ _ settled user).trans contents⟩

theorem Books.kept (books : Books standard tasks before)
    (kept : Kept strict kernelVSpace before after) :
    Books standard tasks after where
  entered := kept.tasks.trans books.entered
  kernel := kept.caps _ _ books.kernel trivial
  named := kept.named books.named
  honest asked := kept.seats books.named (books.honest asked)
  counter other member := Nat.lt_of_lt_of_le (books.counter other member) kept.counter
  inOrder other task found :=
    have inOrder := books.inOrder other task found
    inOrder.kept kept inOrder.tracks.user
  distinct := books.distinct

structure Watched (standard : Standard) (badge : Nat) (origin state : KernelState ν) : Prop where
  books : Books standard origin.tasks state
  others : ∀ (other : Nat) (task : Sel4Task), other ≠ badge → origin.tasks[other]? = some task →
    Untouched standard origin task state

theorem Books.watched (books : Books standard state.tasks state) : Watched standard badge state state :=
  ⟨books, fun _ _ _ _ => ⟨rfl, rfl, fun _ _ _ _ => ⟨rfl, rfl⟩⟩⟩

def NoneElse (standard : Standard) (badge : Nat) (origin : KernelState ν) (space : ObjId) : Prop :=
  ∀ (key : Nat) (task : Sel4Task), origin.tasks[key]? = some task → task.vspace = space →
    key = badge ∧ ¬ standard.tables

theorem Watched.keptIn (watched : Watched standard badge origin before)
    (kept : Kept standard.honesty space before after) (mine : NoneElse standard badge origin space) :
    Watched standard badge origin after := by
  have books := watched.books
  refine ⟨⟨kept.tasks.trans books.entered, kept.caps _ _ books.kernel trivial, kept.named books.named,
    fun asked => kept.seats books.named (books.honest asked),
    fun other member => Nat.lt_of_lt_of_le (books.counter other member) kept.counter,
      fun other task found => ?_,
    books.distinct⟩, fun other task different found => ?_⟩
  · have inOrder := books.inOrder other task found
    by_cases here : task.vspace = space
    · exact ⟨inOrder.tracks.of_same kept.caps fun complete => absurd complete (mine other task found here).2,
        inOrder.furnished.of_caps kept.caps⟩
    · exact inOrder.kept kept here
  · exact (watched.others other task different found).kept kept
      (fun here => different (mine other task found here).1)
      (books.inOrder other task found) books.named books.honest

theorem Watched.kept (watched : Watched standard badge origin before)
    (kept : Kept standard.honesty kernelVSpace before after) : Watched standard badge origin after :=
  watched.keptIn kept fun key task found here =>
    absurd here (watched.books.inOrder key task found).tracks.user

theorem Watched.evolves (evolves : Evolves (Within standard.honesty kernelVSpace) program) :
    Leads (Watched standard badge origin) program (fun _ => Watched standard badge origin) :=
  evolves.keeps fun _ _ within watched =>
    watched.kept (within ⟨watched.books.kernel, watched.books.kernel⟩)

theorem Watched.working (watched : Watched standard badge origin state)
    (found : origin.tasks[badge]? = some task) :
    Working ⟨standard, badge, origin⟩ clean task.vspace task.records state where
  entered := watched.books.entered
  kernel := watched.books.kernel
  named := watched.books.named
  honest := watched.books.honest
  counter := watched.books.counter
  known := watched.books.counter badge (mem_of_found found)
  own := (watched.books.inOrder badge task found).tracks
  others other task' different found' :=
    ⟨watched.books.inOrder other task' found',
      fun same => different (watched.books.distinct other badge task' task found' found same),
      watched.others other task' different found'⟩
  distinct := watched.books.distinct

namespace Working

theorem kept (working : Working job stale vspace records before)
    (kept : Kept job.standard.honesty vspace before after)
    (own : Tracks job.standard stale' vspace records' after) :
    Working job stale' vspace records' after where
  entered := kept.tasks.trans working.entered
  kernel := kept.caps _ _ working.kernel trivial
  named := kept.named working.named
  honest asked := kept.seats working.named (working.honest asked)
  counter other member := Nat.lt_of_lt_of_le (working.counter other member) kept.counter
  known := Nat.lt_of_lt_of_le working.known kept.counter
  own := own
  others other task different found :=
    have ⟨inOrder, outside, untouched⟩ := working.others other task different found
    ⟨inOrder.kept kept outside, outside, untouched.kept kept outside inOrder working.named working.honest⟩
  distinct := working.distinct

theorem quiet (working : Working job stale vspace records before)
    (kept : Kept job.standard.honesty kernelVSpace before after) :
    Working job stale vspace records after where
  entered := kept.tasks.trans working.entered
  kernel := kept.caps _ _ working.kernel trivial
  named := kept.named working.named
  honest asked := kept.seats working.named (working.honest asked)
  counter other member := Nat.lt_of_lt_of_le (working.counter other member) kept.counter
  known := Nat.lt_of_lt_of_le working.known kept.counter
  own := working.own.kept kept working.own.user
  others other task different found :=
    have ⟨inOrder, outside, untouched⟩ := working.others other task different found
    ⟨inOrder.kept kept inOrder.tracks.user, outside,
      untouched.kept kept inOrder.tracks.user inOrder working.named working.honest⟩
  distinct := working.distinct

theorem rooted (working : Working job stale vspace records state) : Rooted vspace state :=
  working.own.rooted working.kernel

theorem mono (working : Working job stale vspace records state)
    (wider : job.standard.tables → ∀ vaddr, stale vaddr → stale' vaddr) :
    Working job stale' vspace records state :=
  { working with own := working.own.mono wider }

theorem maps (working : Working job stale vspace records before) {page : CPtr}
    (maps : MapsPage page vspace vaddr rights before after) :
    Working job (fun other => stale other ∧ other ≠ vaddr) vspace
      (Function.update records vaddr (some page)) after :=
  working.kept (maps.kept (Or.inl working.own.root)) (working.own.maps maps)

end Working

structure Held (job : Job ν) (stale : Nat → Prop) (task : Sel4Task) (records : Nat → Option CPtr)
    (state : KernelState ν) : Prop where
  working : Working job stale task.vspace records state
  furnished : Furnished task state

abbrev Holding (job : Job ν) (stale : Nat → Prop) (task : Sel4Task) : KernelState ν → Prop :=
  Held job stale task task.records

theorem Watched.holding (watched : Watched standard badge origin state)
    (found : origin.tasks[badge]? = some task) :
    Holding ⟨standard, badge, origin⟩ clean task state :=
  ⟨watched.working found, (watched.books.inOrder badge task found).furnished⟩

namespace Held

theorem quiet (held : Held job stale task records before)
    (kept : Kept job.standard.honesty kernelVSpace before after) :
    Held job stale task records after :=
  ⟨held.working.quiet kept, held.furnished.of_caps kept.caps⟩

theorem evolves (evolves : Evolves (Within job.standard.honesty kernelVSpace) program) :
    Leads (Held job stale task records) program (fun _ => Held job stale task records) :=
  evolves.keeps fun _ _ within held => held.quiet (within ⟨held.working.kernel, held.working.kernel⟩)

theorem mono (held : Held job stale task records state)
    (wider : job.standard.tables → ∀ vaddr, stale vaddr → stale' vaddr) :
    Held job stale' task records state :=
  ⟨held.working.mono wider, held.furnished⟩

end Held

theorem lookup_insert (tasks : Std.TreeMap Nat Sel4Task) (key : Nat) (task : Sel4Task) {other : Nat}
    {task' : Sel4Task} (found : (tasks.insert key task)[other]? = some task') :
    other = key ∧ task' = task ∨ other ≠ key ∧ tasks[other]? = some task' := by
  rw [Std.TreeMap.getElem?_insert] at found
  split at found
  · rename_i equal
    exact Or.inl ⟨(compare_eq_iff_eq.mp equal).symm, (Option.some.inj found).symm⟩
  · rename_i different
    exact Or.inr ⟨fun same => different (compare_eq_iff_eq.mpr same.symm), found⟩

theorem Holding.enter (holding : Holding job clean task state) :
    Books job.standard (job.origin.tasks.insert job.key task)
      { state with tasks := job.origin.tasks.insert job.key task } := by
  have working := holding.working
  refine ⟨rfl, working.kernel, working.named, working.honest, ?_, ?_, ?_⟩
  · intro other member
    rcases Std.TreeMap.mem_insert.mp member with equal | member
    · rw [← compare_eq_iff_eq.mp equal]
      exact working.known
    · exact working.counter other member
  · intro other task' found
    rcases lookup_insert _ _ _ found with ⟨rfl, rfl⟩ | ⟨different, found⟩
    · exact InOrder.of_same ⟨working.own, holding.furnished⟩ (fun _ _ found _ => found) rfl
    · exact (working.others other task' different found).1.of_same (fun _ _ found _ => found) rfl
  · intro other other' task' task'' found found' sameSpace
    rcases lookup_insert _ _ _ found with ⟨rfl, rfl⟩ | ⟨different, older⟩
    · rcases lookup_insert _ _ _ found' with ⟨rfl, rfl⟩ | ⟨different', older'⟩
      · rfl
      · exact absurd sameSpace.symm (working.others other' task'' different' older').2.1
    · rcases lookup_insert _ _ _ found' with ⟨rfl, rfl⟩ | ⟨different', older'⟩
      · exact absurd sameSpace (working.others other task' different older).2.1
      · exact working.distinct other other' task' task'' older older' sameSpace

theorem records_insert (self : Sel4Task) (vaddr : Nat) (page : CPtr) (pts : List CPtr) :
    ({ self with mappedPage := self.mappedPage.insert vaddr page, mappedPt := pts } : Sel4Task).records =
      Function.update self.records vaddr (some page) := by
  funext other
  simp only [Sel4Task.records, Std.TreeMap.getElem?_insert]
  by_cases same : other = vaddr
  · subst same
    simp
  · rw [if_neg fun equal => same (compare_eq_iff_eq.mp equal).symm, update_of_ne same]
    rfl

theorem mapPage_held (self : Sel4Task) (vaddr : Nat) (page : CPtr) {records : Nat → Option CPtr} :
    Leads (Held job stale self records) (self.mapPage platform vaddr page)
      (fun self' after => Held job (fun other => stale other ∧ other ≠ vaddr) self'
          (Function.update records vaddr (some page)) after ∧
        ∃ pts, self' = { self with mappedPage := self.mappedPage.insert vaddr page, mappedPt := pts }) := by
  refine .fixed ?_
  rintro state ⟨working, furnished⟩
  refine (mapPage_spec job.standard.honesty self vaddr page state working.rooted working.own.root).partly ?_
  rintro self' after ⟨⟨middle, rights, kept, pages, maps⟩, pts, rfl, tables⟩
  have reached : Working job stale self.vspace records middle :=
    working.kept kept (working.own.of_same kept.caps fun _ => pages)
  have whole := kept.trans (maps.kept (Or.inl reached.own.root))
  have older := furnished.of_caps whole.caps
  refine ⟨⟨reached.maps maps, older.tcb, older.cnode, fun pt member => ?_⟩, _, rfl⟩
  rcases List.mem_append.mp member with member | member
  · exact older.tables pt member
  · exact (tables pt member).2

structure SameTask (task task' : Sel4Task) : Prop where
  id : task'.id = task.id
  tcb : task'.tcb = task.tcb
  cnode : task'.cnode = task.cnode
  vspace : task'.vspace = task.vspace

theorem SameTask.refl (self : Sel4Task) : SameTask self self := ⟨rfl, rfl, rfl, rfl⟩

theorem SameTask.trans {self self' self'' : Sel4Task} (first : SameTask self self')
    (second : SameTask self' self'') :
    SameTask self self'' :=
  ⟨second.id.trans first.id, second.tcb.trans first.tcb, second.cnode.trans first.cnode,
    second.vspace.trans first.vspace⟩

theorem mapPage_holding (self : Sel4Task) (vaddr : Nat) (page : CPtr) :
    Leads (Holding job stale self) (self.mapPage platform vaddr page)
      (fun self' after => Holding job (fun other => stale other ∧ other ≠ vaddr) self' after ∧
        SameTask self self') := by
  refine (mapPage_held self vaddr page).partly ?_
  rintro self' after ⟨held, pts, rfl⟩
  rw [← records_insert] at held
  exact ⟨held, rfl, rfl, rfl, rfl⟩

end RootTaskDemo.Kernel
