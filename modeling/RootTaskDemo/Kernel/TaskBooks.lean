import RootTaskDemo.Kernel.Bookkeeping
import RootTaskDemo.Kernel.UserAccess

namespace RootTaskDemo.Kernel

open Common Lib Thread
open Function (update_self update_of_ne)

variable {ν α : Type} {platform : Platform} {standard : Standard} {job : Job ν} {stale : Nat → Prop}
variable {origin state : KernelState ν} {self task : Sel4Task} {mappedPage : Std.TreeMap Nat CPtr}
  {slot : CPtr}
  {space : ObjId} {vaddr : Nat}
variable {self' : Sel4Task} {records : Nat → Option CPtr} {other : ObjId} {badge : Nat}
  {mapping : Mapping}

/-! The operations on a task keep its records right. -/

/-- The program keeps the books of the task that it works on. -/
abbrev Carries (job : Job ν) (stale : Nat → Prop) (self : Sel4Task) (program : KernelM ν Sel4Task) :
    Prop :=
  Leads (Holding job stale self) program fun self' after => Holding job stale self' after ∧
    SameTask self self'

theorem mapPage_clean (self : Sel4Task) (vaddr : Nat) (page : CPtr) :
    Carries job clean self (self.mapPage platform vaddr page) :=
  (mapPage_holding self vaddr page).partly fun _ _ mapped =>
    ⟨mapped.1.mono fun _ _ left => left.1, mapped.2⟩

theorem allocate_holding (type : ObjectType) :
    Leads (Holding job stale task) (allocate platform type)
      (fun _ => Holding job stale task) :=
  Held.evolves (allocate_within type)

theorem SameTask.followedBy {pre : KernelState ν → Prop} {program : KernelM ν α}
    {post : α → KernelState ν → Prop} {last : α → Sel4Task} (same : SameTask self self')
    (rest : Leads pre program (fun value after => post value after ∧ SameTask self' (last value))) :
    Leads pre program (fun value after => post value after ∧ SameTask self (last value)) :=
  rest.partly fun _ _ later => ⟨later.1, same.trans later.2⟩

theorem mapFresh_holding (pages : List Nat) (self : Sel4Task) :
    Carries job clean self (Sel4Task.mapFresh platform pages self) := by
  induction pages generalizing self with
  | nil => exact .pure fun _ holding => ⟨holding, .refl self⟩
  | cons vaddr rest ih =>
    refine (allocate_holding .granule).bind fun page => (mapPage_clean self vaddr page).bind fun self' =>
      MemTriple.fixed fun middle mapped => ?_
    exact (mapped.2.followedBy (ih self')).startingAt mapped.1

theorem mapMissing_holding (pages : List Nat) (self : Sel4Task) :
    Carries job clean self (mapMissing platform pages self) := by
  induction pages generalizing self with
  | nil => exact .pure fun _ holding => ⟨holding, .refl self⟩
  | cons vaddr rest ih =>
    unfold mapMissing
    split
    · exact ih self
    · refine (allocate_holding .granule).bind fun page => (mapPage_clean self vaddr page).bind fun self' =>
        MemTriple.fixed fun middle mapped => ?_
      exact (mapped.2.followedBy (ih self')).startingAt mapped.1

def Sel4Task.Uses (task : Sel4Task) (slot : CPtr) : Prop :=
  slot ∈ [task.tcb, task.cnode, task.vspace] ++ task.mappedPt ∨ ∃ vaddr, task.records vaddr = some slot

def Cap.In (space : ObjId) : Cap → Prop
  | .frame _ mapped => ∃ vaddr, mapped = some (space, vaddr)
  | .pageTable _ mapped => ∃ place, mapped = some (space, place)
  | .vspace object => object = space
  | _ => True

theorem Tracks.used {vspace : CPtr}
    (tracks : Tracks standard stale vspace records state) (found : records vaddr = some slot) :
    ∃ cap, state.cspace slot = some cap ∧ cap.In vspace := by
  obtain ⟨frame, capEq⟩ := tracks.caps vaddr slot found
  exact ⟨_, capEq, vaddr, rfl⟩

theorem Furnished.used (furnished : Furnished task state)
    (root : state.cspace task.vspace = some (.vspace task.vspace))
    (member : slot ∈ [task.tcb, task.cnode, task.vspace] ++ task.mappedPt) :
    ∃ cap, state.cspace slot = some cap ∧ cap.In task.vspace := by
  obtain ⟨tcb, tcbEq⟩ := furnished.tcb
  obtain ⟨cnode, cnodeEq⟩ := furnished.cnode
  simp only [List.cons_append, List.nil_append, List.mem_cons] at member
  rcases member with rfl | rfl | rfl | member
  · exact ⟨_, tcbEq, trivial⟩
  · exact ⟨_, cnodeEq, trivial⟩
  · exact ⟨_, root, rfl⟩
  · obtain ⟨object, place, found⟩ := furnished.tables slot member
    exact ⟨_, found, place, rfl⟩

theorem InOrder.used (inOrder : InOrder standard task state)
    (uses : task.Uses slot) : ∃ cap, state.cspace slot = some cap ∧ cap.In task.vspace := by
  rcases uses with member | ⟨vaddr, found⟩
  · exact inOrder.furnished.used inOrder.tracks.root member
  · exact inOrder.tracks.used found

theorem InOrder.of_uses {before after : KernelState ν} (inOrder : InOrder standard task before)
    (caps : ∀ slot, task.Uses slot → after.cspace slot = before.cspace slot)
    (pages : standard.tables → after.pages task.vspace = before.pages task.vspace) :
    InOrder standard task after := by
  obtain ⟨tracks, furnished⟩ := inOrder
  have tcb : after.cspace task.tcb = before.cspace task.tcb := caps _ (Or.inl (by simp))
  have cnode : after.cspace task.cnode = before.cspace task.cnode := caps _ (Or.inl (by simp))
  have root : after.cspace task.vspace = before.cspace task.vspace := caps _ (Or.inl (by simp))
  refine ⟨⟨root.trans tracks.root, tracks.user, fun vaddr cap found => ?_, fun complete => ?_⟩, ?_,
    ?_, fun pt member => ?_⟩
  · rw [caps cap (Or.inr ⟨vaddr, found⟩)]
    exact tracks.caps vaddr cap found
  · rw [pages complete]
    refine (tracks.mirror complete).mono (fun vaddr cap mapping found holds => ?_) fun _ stale => stale
    rw [caps cap (Or.inr ⟨vaddr, found⟩)]
    exact holds
  · rw [tcb]
    exact furnished.tcb
  · rw [cnode]
    exact furnished.cnode
  · rw [caps pt (Or.inl (List.mem_append_right _ member))]
    exact furnished.tables pt member

theorem frameUnmap_held {page : Nat} (self : Sel4Task)
    (found : records vaddr = some page) :
    Leads (Held job stale self records) (unwrapped (frameUnmap page))
      (fun _ after => Held job stale self (Function.update records vaddr none) after) := by
  refine .fixed ?_
  rintro state ⟨working, furnished⟩
  obtain ⟨frame, pageEq⟩ := working.own.caps vaddr page found
  refine (unwrapped_spec (frameUnmap_spec state page) fun _ => trivial).partly ?_
  rintro _ after ⟨object, mapped, capEq, rfl⟩
  rw [pageEq] at capEq
  cases capEq
  obtain ⟨vspaces, unmaps⟩ := unmapFrame_frame state frame (some (self.vspace, vaddr))
  have cspaceEq : (state.unmapFrame frame (some (self.vspace, vaddr))).cspace = state.cspace := by
    rw [unmaps]
  have tasksEq : (state.unmapFrame frame (some (self.vspace, vaddr))).tasks = state.tasks := by
    rw [unmaps]
  have counterEq : (state.unmapFrame frame (some (self.vspace, vaddr))).idCounter =
    state.idCounter := by rw [unmaps]
  have framesEq : (state.unmapFrame frame (some (self.vspace, vaddr))).frames = state.frames := by
    rw [unmaps]
  have caps : ∀ {slot cap}, state.cspace slot = some cap →
    cap ≠ .frame frame (some (self.vspace, vaddr)) →
      ((state.unmapFrame frame (some (self.vspace, vaddr))).setCap page (some (.frame frame none))).cspace slot =
        some cap := by
    intro slot cap capEq different
    have apart : slot ≠ page := by
      rintro rfl
      exact different (Option.some.inj (capEq.symm.trans pageEq))
    rw [cspace_setCap, update_of_ne apart, cspaceEq]
    exact capEq
  have elsewhere : ∀ {other}, other ≠ self.vspace →
      (state.unmapFrame frame (some (self.vspace, vaddr))).pages other = state.pages other := by
    intro other different
    refine pages_unmapFrame_of_ne state frame ?_
    rintro _ ⟨rfl⟩
    exact different.symm
  refine ⟨⟨tasksEq.trans working.entered, caps working.kernel (by simp), ?_, fun asked =>
    ?_, counterEq ▸ working.counter,
    counterEq ▸ working.known, ⟨caps working.own.root (by simp), working.own.user, ?_, fun complete => ?_⟩, ?_,
    working.distinct⟩, ?_⟩
  · intro slot object mapped slotEq
    by_cases here : slot = page
    · subst here
      rw [cspace_setCap, update_self] at slotEq
      cases slotEq
      exact working.named slot frame _ pageEq
    · rw [cspace_setCap, update_of_ne here, cspaceEq] at slotEq
      exact working.named slot object mapped slotEq
  · intro view other mapping shown
    obtain ⟨older, cleared⟩ := unmapFrame_shown (pages_setCap _ _ _ ▸ shown)
    refine caps (working.honest asked view other mapping older) fun same => cleared ?_
    simp only [Cap.frame.injEq, Option.some.injEq] at same
    exact ⟨congrArg some same.2.symm, same.1⟩
  · intro other cap recorded
    have different : other ≠ vaddr := by
      rintro rfl
      rw [update_self] at recorded
      cases recorded
    rw [update_of_ne different] at recorded
    obtain ⟨frame', capEq⟩ := working.own.caps other cap recorded
    exact ⟨frame', caps capEq (by simp [different])⟩
  · obtain ⟨mapping, present, mappingEq⟩ := (working.own.mirror complete).recorded vaddr page found
    obtain rfl : mapping.frame = frame := by
      rw [pageEq] at mappingEq
      cases mappingEq
      rfl
    have cleared : state.unmapFrame mapping.frame (some (self.vspace, vaddr)) =
        state.setPage self.vspace vaddr none := by
      simp only [KernelState.unmapFrame, present, Option.any_some, decide_true, if_true]
    rw [pages_setCap, cleared, pages_setPage_self]
    refine ((working.own.mirror complete).erase vaddr).mono (fun other cap entry recorded holds =>
      ?_) fun _ stale => stale
    have different : other ≠ vaddr := by
      rintro rfl
      rw [update_self] at recorded
      cases recorded
    exact cleared ▸ caps holds (by simp [different])
  · intro other task different taskEq
    obtain ⟨inOrder, outside, untouched⟩ := working.others other task different taskEq
    refine ⟨inOrder.of_uses (fun slot uses => ?_) fun _ => ?_, outside,
      ⟨?_, ?_, fun asked object at' found => ?_⟩⟩
    · obtain ⟨cap, capEq, place⟩ := inOrder.used uses
      rw [capEq]
      refine caps capEq ?_
      rintro rfl
      obtain ⟨_, placeEq⟩ := place
      exact outside (Prod.ext_iff.mp (Option.some.inj placeEq)).1.symm
    · rw [pages_setCap, elsewhere outside]
    · exact (caps inOrder.tracks.root (by simp)).trans (inOrder.tracks.root.symm.trans untouched.root)
    · rw [pages_setCap, elsewhere outside]
      exact untouched.pages
    · obtain ⟨same, contents⟩ := untouched.frames asked object at' found
      refine ⟨(caps (same.trans found) ?_).trans found.symm, (congrFun framesEq object).trans contents⟩
      simp [outside]
  · obtain ⟨tcb, tcbEq⟩ := furnished.tcb
    obtain ⟨cnode, cnodeEq⟩ := furnished.cnode
    refine ⟨⟨tcb, caps tcbEq (by simp)⟩, ⟨cnode, caps cnodeEq (by simp)⟩, fun pt member => ?_⟩
    obtain ⟨object, place, ptEq⟩ := furnished.tables pt member
    exact ⟨object, place, caps ptEq (by simp)⟩

theorem records_erase (self : Sel4Task) (vaddr : Nat) :
    ({ self with mappedPage := self.mappedPage.erase vaddr } : Sel4Task).records =
      Function.update self.records vaddr none := by
  funext other
  simp only [Sel4Task.records, Std.TreeMap.getElem?_erase]
  by_cases same : other = vaddr
  · subst same
    simp
  · rw [if_neg fun equal => same (compare_eq_iff_eq.mp equal).symm, update_of_ne same]
    rfl

theorem unmapPage_holding (self : Sel4Task) {page : CPtr} (found : self.mappedPage[vaddr]? = some page) :
    Carries job stale self (self.unmapPage vaddr page) := by
  unfold Sel4Task.unmapPage
  split
  · exact .stop fun _ _ => trivial
  · have recorded : self.records vaddr = some page := found
    refine (frameUnmap_held self recorded).bind fun _ => .pure ?_
    rintro after ⟨working, furnished⟩
    rw [← records_erase] at working
    exact ⟨⟨working, furnished.tcb, furnished.cnode, furnished.tables⟩, rfl, rfl, rfl, rfl⟩

theorem unmapPresent_holding (pages : List Nat) (self : Sel4Task) :
    Carries job clean self (unmapPresent pages self) := by
  induction pages generalizing self with
  | nil => exact .pure fun _ holding => ⟨holding, .refl self⟩
  | cons vaddr rest ih =>
    unfold unmapPresent
    split
    · exact ih self
    · rename_i page found
      refine (unmapPage_holding self found).bind fun self' => .fixed fun middle unmapped => ?_
      exact (unmapped.2.followedBy (ih self')).startingAt unmapped.1

variable {strict : Prop}

theorem pushArgs_dataOnly (stackPtr : Nat) (args : List (List UInt8)) :
    Evolves (DataOnly strict anyPage) (Sel4Task.pushArgs platform stackPtr args : KernelM ν _) := by
  induction args generalizing stackPtr with
  | nil => exact .pure
  | cons arg rest ih =>
    exact ((storeBytes_dataOnly _ _).bind fun _ => .pure).bind fun argPtr => (ih argPtr).bind fun _ => .pure

theorem pushNums_dataOnly (stackPtr : Nat) (nums : List Nat) :
    Evolves (DataOnly strict anyPage) (Sel4Task.pushNums platform stackPtr nums : KernelM ν Nat) := by
  induction nums generalizing stackPtr with
  | nil => exact .pure
  | cons num rest ih => exact (storeBytes_dataOnly _ _).bind fun _ => ih _

theorem fillStack_dataOnly (entryPoint stackPtr : Nat) (args : List (List UInt8)) :
    Evolves (DataOnly strict anyPage)
      (Sel4Task.fillStack platform entryPoint stackPtr args : KernelM ν Nat) := by
  refine (pushArgs_dataOnly stackPtr args).bind fun pushed => ?_
  split
  · exact .stop
  · exact pushNums_dataOnly _ _

theorem mapStackPages_holding (entryPoint stop : Nat) (args : List (List UInt8)) (pages : List Nat)
    (stackPtr : Nat) (self : Sel4Task) :
    Leads (Holding job stale self)
      (Sel4Task.mapStackPages platform entryPoint stop args pages stackPtr self)
      (fun result after => Holding job (fun vaddr => stale vaddr ∧ vaddr ∉ pages) result.2 after ∧
        SameTask self result.2) := by
  induction pages generalizing stackPtr self stale with
  | nil => exact .pure fun _ holding => ⟨holding.mono fun _ _ old => ⟨old, nofun⟩, .refl self⟩
  | cons vaddr rest ih =>
    refine (allocate_holding .granule).bind fun page => ?_
    have later : ∀ stackPtr, Leads (Holding job stale self)
        (self.mapPage platform vaddr page >>= fun self =>
          Sel4Task.mapStackPages platform entryPoint stop args rest stackPtr self)
        (fun result after => Holding job (fun other => stale other ∧ other ∉ vaddr :: rest) result.2 after ∧
          SameTask self result.2) := by
      intro stackPtr
      refine (mapPage_holding self vaddr page).bind fun self' => .fixed fun middle mapped => ?_
      refine ((mapped.2.followedBy (ih stackPtr self')).startingAt mapped.1).partly ?_
      rintro result after ⟨holding, same⟩
      refine ⟨holding.mono fun _ other left => ⟨left.1.1, fun member => ?_⟩, same⟩
      rcases List.mem_cons.mp member with here | member
      · exact left.1.2 here
      · exact left.2 member
    dsimp only
    split
    · exact (Held.evolves (withSeat_within page platform.pageSeat
        (DataOnly.quietly (fillStack_dataOnly _ _ _)))).bind later
    · exact (MemTriple.pure fun _ holding => holding).bind later

theorem mapStack_holding (entryPoint start stop : Nat) (args : List (List UInt8)) (self : Sel4Task) :
    Leads (Holding job stale self)
      (self.mapStack platform entryPoint start stop args)
      (fun result after => Holding job (fun vaddr => stale vaddr ∧ vaddr ∉ pageSteps start stop) result.2 after ∧
        SameTask self result.2) := by
  unfold Sel4Task.mapStack
  split
  · exact .stop fun _ _ => trivial
  · split
    · exact .stop fun _ _ => trivial
    · exact mapStackPages_holding entryPoint stop args _ stop self

def Recorded (mappedPage : Std.TreeMap Nat CPtr) (self : Sel4Task) : Prop :=
  ∀ (page : Nat) (cap : CPtr), mappedPage[page]? = some cap → self.records page = some cap

theorem copySegment_dataOnly (file : ElfFile) (offset vaddr stop : Nat) :
    Evolves (DataOnly strict anyPage)
      (Sel4Task.copySegment platform file offset vaddr stop : KernelM ν Nat) := by
  have slice : ∀ count, Evolves (DataOnly strict anyPage) (file.slice offset count : KernelM ν _) := by
    intro count
    unfold ElfFile.slice
    split
    · exact .pure
    · exact .stop
  exact (slice _).bind fun _ => (storeBytes_dataOnly _ _).bind fun _ => .pure

theorem loadFrame_held (recorded : Recorded mappedPage self)
    (page : Nat) :
    Leads (Holding job clean self) (Sel4Task.loadFrame platform mappedPage page)
      (fun _ after => ∃ records, Held job clean self records after ∧
        ∀ cap, Function.update records page cap = Function.update self.records page cap) := by
  unfold Sel4Task.loadFrame
  split
  · rename_i cap found
    refine (frameUnmap_held self (recorded page cap found)).bind fun _ => .pure fun _ held => ?_
    exact ⟨_, held, fun _ => Function.update_idem ..⟩
  · exact (allocate_holding .granule).partly fun _ _ holding => ⟨_, holding, fun _ => rfl⟩

theorem Recorded.insert (recorded : Recorded mappedPage self) {page : Nat} {cap : CPtr}
    (records : self'.records = Function.update self.records page (some cap)) :
    Recorded (mappedPage.insert page cap) self' := by
  intro other cap' found
  rw [Std.TreeMap.getElem?_insert] at found
  rw [records]
  split at found
  · rename_i equal
    obtain rfl : page = other := compare_eq_iff_eq.mp equal
    rw [update_self]
    exact found
  · rename_i different
    rw [update_of_ne fun same => different (compare_eq_iff_eq.mpr same.symm)]
    exact recorded other cap' found

theorem loadPages_holding (file : ElfFile) (stop vaddrEnd fuel offset vaddr : Nat)
    (recorded : Recorded mappedPage self) :
    Leads (Holding job clean self)
      (Sel4Task.loadPages platform file stop vaddrEnd fuel offset vaddr mappedPage self)
      (fun result after => (Holding job clean result.2 after ∧ Recorded result.1 result.2) ∧
        SameTask self result.2) := by
  induction fuel generalizing offset vaddr mappedPage self with
  | zero => exact .pure fun _ holding => ⟨⟨holding, recorded⟩, .refl self⟩
  | succ fuel ih =>
    unfold Sel4Task.loadPages
    split
    · refine (loadFrame_held recorded _).bind fun cap => .fixed ?_
      rintro taken ⟨records, held, sameUpdate⟩
      have later : ∀ offset, Leads (Held job clean self records)
          (self.mapPage platform (vaddr / pageSize * pageSize) cap >>= fun self =>
            Sel4Task.loadPages platform file stop vaddrEnd fuel offset (vaddr + (pageSize - vaddr % pageSize))
              (mappedPage.insert (vaddr / pageSize * pageSize) cap) self)
          (fun result after => (Holding job clean result.2 after ∧ Recorded result.1 result.2) ∧
            SameTask self result.2) := by
        intro offset
        refine (mapPage_held self _ cap).bind fun self' => .fixed ?_
        rintro mapped ⟨held, pts, rfl⟩
        rw [sameUpdate, ← records_insert] at held
        have same : SameTask self { self with
            mappedPage := self.mappedPage.insert (vaddr / pageSize * pageSize) cap, mappedPt := pts } :=
          ⟨rfl, rfl, rfl, rfl⟩
        exact (same.followedBy (ih _ _ (recorded.insert (records_insert ..)))).startingAt
          (held.mono fun _ _ left => left.1)
      dsimp only
      split
      · exact ((Held.evolves (withSeat_within cap platform.pageSeat
          (DataOnly.quietly (copySegment_dataOnly _ _ _ _)))).startingAt held).bind later
      · exact (MemTriple.pure fun _ same => same ▸ held).bind later
    · exact .pure fun _ holding => ⟨⟨holding, recorded⟩, .refl self⟩

theorem loadSegments_holding (file : ElfFile) (programs : List ProgramHeader)
    (recorded : Recorded mappedPage self) :
    Carries job clean self
      (Sel4Task.loadSegments platform file programs mappedPage self) := by
  induction programs generalizing mappedPage self with
  | nil => exact .pure fun _ holding => ⟨holding, .refl self⟩
  | cons ph rest ih =>
    refine (loadPages_holding file _ _ _ _ _ recorded).bind fun loaded => .fixed ?_
    rintro middle ⟨⟨holding, recorded⟩, same⟩
    exact (same.followedBy (ih recorded)).startingAt holding

theorem loadElf_holding (self : Sel4Task) (file : ElfFile) :
    Carries job clean self (self.loadElf platform file) := by
  refine loadSegments_holding file _ fun page cap found => ?_
  simp at found

structure Newcomer (origin : KernelState ν) (newTask : Sel4Task) : Prop where
  absent : newTask.id ∉ origin.tasks
  tcb : origin.cspace newTask.tcb = none
  cnode : origin.cspace newTask.cnode = none

theorem Newcomer.same (newcomer : Newcomer origin self)
    (same : SameTask self self') : Newcomer origin self' :=
  ⟨same.id ▸ newcomer.absent, same.tcb ▸ newcomer.tcb, same.cnode ▸ newcomer.cnode⟩

theorem Books.unused {tasks : Std.TreeMap Nat Sel4Task}
    (books : Books standard tasks state) (free : state.cspace slot = none) {key : Nat}
    (found : tasks[key]? = some task) : ¬ task.Uses slot := by
  intro uses
  obtain ⟨cap, capEq, _⟩ := (books.inOrder key task found).used uses
  rw [free] at capEq
  cases capEq

theorem records_of_empty (noPage : task.mappedPage = ∅) : task.records = fun _ => none := by
  funext vaddr
  simp [Sel4Task.records, noPage]

theorem new_holding (books : Books standard origin.tasks origin) :
    Yields origin (Sel4Task.new platform)
      fun self after => Holding ⟨standard, self.id, origin⟩ clean self after ∧ Newcomer origin self := by
  refine (new_spec origin).partly ?_
  rintro _ _ ⟨vspace, tcb, cnode, first, second, third, newSpace, newTcb, newCNode, rfl, rfl⟩
  have firstKept : Kept standard.honesty kernelVSpace origin first := newSpace.kept
  have rest : Kept standard.honesty kernelVSpace first third := newTcb.kept.trans newCNode.kept
  -- no task is exempt from the watch, as none has the name that is about to be given
  have watched : Watched standard third.idCounter origin third :=
    books.watched.kept (firstKept.trans rest)
  have rootFirst : first.cspace vspace = some (.vspace vspace) := by
    rw [newSpace.cspace, update_self]; rfl
  have user : vspace ≠ kernelVSpace := (newSpace.ne books.kernel).symm
  have emptyPages : third.pages vspace = fun _ => none := by
    rw [rest.pages vspace rootFirst user user]
    unfold KernelState.pages
    rw [newSpace.vspaces, update_self]
    rfl
  have tcbEq : third.cspace tcb = some (.tcb tcb) := by
    have tcbSecond : second.cspace tcb = some (.tcb tcb) := by rw [newTcb.cspace, update_self]; rfl
    rw [newCNode.cspace, update_of_ne (newCNode.ne tcbSecond), tcbSecond]
  have cnodeEq : third.cspace cnode = some (.cnode cnode) := by rw [newCNode.cspace, update_self]; rfl
  refine ⟨⟨⟨watched.books.entered, watched.books.kernel, watched.books.named, watched.books.honest,
    fun key member =>
    Nat.lt_succ_of_lt (watched.books.counter key member), Nat.lt_succ_self _,
    ⟨rest.caps _ _ rootFirst trivial, user, ?_, fun _ => ?_⟩, fun key task different found => ⟨?_, ?_, ?_⟩,
    watched.books.distinct⟩, ⟨tcb, tcbEq⟩, ⟨cnode, cnodeEq⟩, nofun⟩, ?_, newSpace.free_of_free newTcb.free,
    newSpace.free_of_free (newTcb.free_of_free newCNode.free)⟩
  · rw [records_of_empty rfl]
    nofun
  · rw [records_of_empty rfl]
    exact emptyPages ▸ Mirrors.empty
  · exact (watched.books.inOrder key task found).of_same (fun _ _ kept _ => kept) rfl
  · intro same
    exact books.unused newSpace.free found (Or.inl (by simp [same]))
  · obtain ⟨root, pages, frames⟩ := watched.others key task different found
    exact ⟨root, pages, frames⟩
  · intro member
    exact Nat.lt_irrefl _ (watched.books.counter _ member)

structure Deleted (space : ObjId) (slot : CPtr) (before after : KernelState ν) : Prop where
  cspace : after.cspace = Function.update before.cspace slot none
  pages : ∀ other ≠ space, after.pages other = before.pages other
  shown : ∀ other vaddr mapping, after.pages other vaddr = some mapping → before.pages other vaddr =
    some mapping ∧
    before.cspace slot ≠ some (.frame mapping.frame (some (other, vaddr)))
  frames : after.frames = before.frames
  tasks : after.tasks = before.tasks
  counter : after.idCounter = before.idCounter

theorem pages_changeSpace_of_ne (state : KernelState ν) (different : other ≠ space)
    (change : VSpace → VSpace) : (state.changeSpace space change).pages other = state.pages other := by
  funext vaddr
  simp only [KernelState.pages, KernelState.changeSpace, update_of_ne different]

theorem shown_changeSpace {change : VSpace → VSpace}
    (fewer : ∀ vspace vaddr mapping, (change vspace).pages vaddr = some mapping →
      vspace.pages vaddr = some mapping)
    (shown : (state.changeSpace space change).pages other vaddr = some mapping) :
    state.pages other vaddr = some mapping := by
  by_cases here : other = space
  · subst here
    unfold KernelState.pages KernelState.changeSpace at shown
    dsimp only at shown
    rw [update_self] at shown
    exact fewer _ _ _ shown
  · rwa [pages_changeSpace_of_ne state here] at shown

theorem pages_dropTable {space : VSpace} {level span : Nat}
    (shown : (space.dropTable platform level span).pages vaddr = some mapping) :
    space.pages vaddr = some mapping := by
  simp only [VSpace.dropTable] at shown
  split at shown
  · cases shown
  · exact shown

theorem cnodeDelete_spec
    (inside : ∀ cap, state.cspace slot = some cap → cap.In space) :
    Yields state (cnodeDelete platform slot) fun _ after => Deleted space slot state after := by
  refine .update ?_
  rintro state rfl
  split
  · rename_i object mapped slotEq
    obtain ⟨vaddr, rfl⟩ := inside _ slotEq
    obtain ⟨vspaces, unmaps⟩ := unmapFrame_frame state object (some (space, vaddr))
    refine ⟨by rw [unmaps]; rfl, fun other outside => ?_, fun other at' mapping shown => ?_, by rw [unmaps]; rfl,
      by rw [unmaps]; rfl, by rw [unmaps]; rfl⟩
    · rw [pages_setCap]
      refine pages_unmapFrame_of_ne state object ?_
      rintro _ ⟨rfl⟩
      exact outside.symm
    · obtain ⟨older, cleared⟩ := unmapFrame_shown (pages_setCap _ _ _ ▸ shown)
      refine ⟨older, fun same => cleared ?_⟩
      rw [slotEq] at same
      simp only [Option.some.injEq, Cap.frame.injEq] at same
      exact ⟨congrArg some same.2, same.1.symm⟩
  · rename_i object place level span slotEq
    obtain ⟨_, placeEq⟩ := inside _ slotEq
    cases placeEq
    refine ⟨rfl, fun other outside => ?_, fun other vaddr mapping shown => ⟨?_, by simp [slotEq]⟩, rfl, rfl, rfl⟩
    · rw [pages_setCap, pages_changeSpace_of_ne state outside]
    · exact shown_changeSpace (fun _ _ _ => pages_dropTable) (pages_setCap _ _ _ ▸ shown)
  · rename_i object slotEq
    obtain rfl : object = space := inside _ slotEq
    split
    · refine ⟨rfl, fun other outside => ?_, fun other vaddr mapping shown => ⟨?_, by simp [slotEq]⟩, rfl, rfl, rfl⟩
      · rw [pages_setCap, pages_changeSpace_of_ne state outside]
      · exact shown_changeSpace (fun _ _ _ never => by simp [VSpace.empty] at never) (pages_setCap _ _ _ ▸ shown)
    · exact ⟨rfl, fun _ _ => rfl, fun _ _ _ shown => ⟨shown, by simp [slotEq]⟩, rfl, rfl, rfl⟩
  · rename_i notFrame _ _
    refine ⟨rfl, fun _ _ => rfl, fun other vaddr mapping shown => ⟨shown, notFrame _ _⟩, rfl, rfl, rfl⟩

structure Disposable (standard : Standard) (badge : Nat) (origin : KernelState ν) (space : ObjId)
    (slots : List CPtr) :
    Prop where
  user : space ≠ kernelVSpace
  apart : NoneElse standard badge origin space
  unused : ∀ slot ∈ slots, slot ≠ kernelVSpace ∧
    ∀ (key : Nat) (task : Sel4Task), origin.tasks[key]? = some task → ¬ task.Uses slot

theorem Watched.deleted {slots : List CPtr} {before after : KernelState ν}
    (watched : Watched standard badge origin before)
    (disposable : Disposable standard badge origin space slots) (member : slot ∈ slots)
    (inside : ∀ cap, before.cspace slot = some cap → cap.In space)
    (deleted : Deleted space slot before after) : Watched standard badge origin after := by
  have books := watched.books
  have caps : ∀ other ≠ slot, after.cspace other = before.cspace other := fun other different => by
    rw [deleted.cspace, update_of_ne different]
  obtain ⟨notRoot, unused⟩ := disposable.unused slot member
  refine ⟨⟨deleted.tasks.trans books.entered, (caps _ notRoot.symm).trans books.kernel, ?_,
    fun asked => ?_, ?_, ?_,
    books.distinct⟩, fun key task different found => ⟨?_, ?_, fun asked frame vaddr settled => ?_⟩⟩
  · intro other frame mapped found
    have different : other ≠ slot := by
      rintro rfl
      rw [deleted.cspace, update_self] at found
      cases found
    exact books.named other frame mapped ((caps other different).symm.trans found)
  · intro view vaddr mapping shown
    obtain ⟨older, kept⟩ := deleted.shown view vaddr mapping shown
    have found := books.honest asked view vaddr mapping older
    have different : mapping.frame ≠ slot := fun same => kept (same ▸ found)
    rw [caps _ different]
    exact found
  · rw [deleted.counter]
    exact books.counter
  · intro key task found
    refine (books.inOrder key task found).of_uses (fun other uses => caps other ?_) fun complete => ?_
    · rintro rfl
      exact unused key task found uses
    · exact deleted.pages _ fun same => (disposable.apart key task found same).2 complete
  · refine (caps _ ?_).trans (watched.others key task different found).root
    rintro rfl
    exact unused key task found (Or.inl (by simp))
  · rw [deleted.pages _ fun same => different (disposable.apart key task found same).1]
    exact (watched.others key task different found).pages
  · obtain ⟨same, contents⟩ := (watched.others key task different found).frames asked frame vaddr settled
    have elsewhere : frame ≠ slot := by
      rintro rfl
      obtain ⟨_, placeEq⟩ := inside _ (same.trans settled)
      exact different (disposable.apart key task found (Prod.ext_iff.mp (Option.some.inj placeEq)).1).1
    exact ⟨(caps _ elsewhere).trans same, (congrFun deleted.frames frame).trans contents⟩

theorem deleteAll_watched (slots : List CPtr)
    (disposable : Disposable standard badge origin space slots) :
    Leads (fun state : KernelState ν => Watched standard badge origin state ∧
        ∀ slot ∈ slots, ∀ cap, state.cspace slot = some cap → cap.In space)
      (Sel4Task.deleteAll platform slots) (fun _ => Watched standard badge origin) := by
  induction slots with
  | nil => exact .pure fun _ holds => holds.1
  | cons slot rest ih =>
    refine .fixed ?_
    rintro state ⟨watched, inside⟩
    have here := inside slot (List.mem_cons_self ..)
    refine (cnodeDelete_spec here).bind fun _ => .fixed fun after deleted => ?_
    have fewer : Disposable standard badge origin space rest :=
      ⟨disposable.user, disposable.apart, fun other member => disposable.unused other (List.mem_cons_of_mem _ member)⟩
    refine (ih fewer).startingAt ⟨watched.deleted disposable (List.mem_cons_self ..) here deleted,
      fun other member cap found => ?_⟩
    rw [deleted.cspace] at found
    by_cases same : other = slot
    · subst same
      rw [update_self] at found
      cases found
    · rw [update_of_ne same] at found
      exact inside other (List.mem_cons_of_mem _ member) cap found

def Cap.Placed : Cap → Prop
  | .frame _ _ | .pageTable _ _ | .vspace _ => True
  | _ => False

theorem Cap.Placed.unique {cap : Cap} (placed : cap.Placed) (here : cap.In space)
    (there : cap.In other) : space = other := by
  cases cap with
  | frame object mapped =>
    obtain ⟨_, rfl⟩ := here
    obtain ⟨_, placeEq⟩ := there
    exact (Prod.ext_iff.mp (Option.some.inj placeEq)).1
  | pageTable object mapped =>
    obtain ⟨_, rfl⟩ := here
    obtain ⟨_, placeEq⟩ := there
    exact (Prod.ext_iff.mp (Option.some.inj placeEq)).1
  | vspace object => exact here.symm.trans there
  | tcb object => cases placed
  | cnode object => cases placed
  | endpoint object badge => cases placed
  | notification object => cases placed
  | irqHandler irq => cases placed

def Sel4Task.slots (self : Sel4Task) : List CPtr :=
  [self.tcb, self.cnode, self.vspace] ++ self.mappedPt ++ self.mappedPage.toList.map Prod.snd

theorem Holding.slots (holding : Holding job stale self state)
    (member : slot ∈ self.slots) :
    ∃ cap, state.cspace slot = some cap ∧ cap.In self.vspace ∧
      (slot = self.tcb ∨ slot = self.cnode ∨ cap.Placed) := by
  obtain ⟨working, tcb, cnode, tables⟩ := holding
  simp only [Sel4Task.slots, List.cons_append, List.nil_append, List.mem_cons, List.mem_append,
    List.mem_map, Prod.exists] at member
  rcases member with rfl | rfl | rfl | member | ⟨vaddr, _, member, rfl⟩
  · obtain ⟨object, found⟩ := tcb
    exact ⟨_, found, trivial, Or.inl rfl⟩
  · obtain ⟨object, found⟩ := cnode
    exact ⟨_, found, trivial, Or.inr (Or.inl rfl)⟩
  · exact ⟨_, working.own.root, rfl, Or.inr (Or.inr trivial)⟩
  · obtain ⟨object, place, found⟩ := tables slot member
    exact ⟨_, found, ⟨place, rfl⟩, Or.inr (Or.inr trivial)⟩
  · have recorded : self.records vaddr = some _ := Std.TreeMap.mem_toList_iff_getElem?_eq_some.mp member
    obtain ⟨frame, found⟩ := working.own.caps vaddr _ recorded
    exact ⟨_, found, ⟨vaddr, rfl⟩, Or.inr (Or.inr trivial)⟩

theorem Holding.watched (badge : Nat)
    (holding : Holding ⟨standard, self.id, origin⟩ stale self state) (newcomer : Newcomer origin self) :
    Watched standard badge origin state ∧
      ∀ (key : Nat) (task : Sel4Task), origin.tasks[key]? = some task → task.vspace ≠ self.vspace := by
  have working := holding.working
  have others : ∀ (key : Nat) (task : Sel4Task), origin.tasks[key]? = some task →
      InOrder standard task state ∧ task.vspace ≠ self.vspace ∧ Untouched standard origin task state := by
    intro key task found
    refine working.others key task ?_ found
    rintro rfl
    refine newcomer.absent ?_
    rw [Std.TreeMap.mem_iff_isSome_getElem?, found]
    rfl
  exact ⟨⟨⟨working.entered, working.kernel, working.named, working.honest, working.counter,
    fun key task found => (others key task found).1, working.distinct⟩,
    fun key task _ found => (others key task found).2.2⟩, fun key task found => (others key task found).2.1⟩

theorem drop_watched
    (books : Books standard origin.tasks origin) (newcomer : Newcomer origin self) :
    Leads (Holding ⟨standard, self.id, origin⟩ stale self) (self.drop platform)
      (fun _ => Watched standard badge origin) := by
  refine .fixed fun state holding => ?_
  have working := holding.working
  obtain ⟨watched, apart⟩ := Holding.watched badge holding newcomer
  have disposable : Disposable standard badge origin self.vspace self.slots := by
    refine ⟨working.own.user, fun key task found same => absurd same (apart key task found),
      fun slot member => ⟨?_, ?_⟩⟩
    · rintro rfl
      obtain ⟨cap, found, inside, _⟩ := holding.slots member
      rw [working.kernel] at found
      cases found
      exact working.own.user inside.symm
    · intro key task taskEq uses
      obtain ⟨cap, found, inside, owner⟩ := holding.slots member
      rcases owner with rfl | rfl | placed
      · exact books.unused newcomer.tcb taskEq uses
      · exact books.unused newcomer.cnode taskEq uses
      · obtain ⟨cap', found', there⟩ := (watched.books.inOrder key task taskEq).used uses
        obtain rfl : cap = cap' := Option.some.inj (found.symm.trans found')
        exact apart key task taskEq (placed.unique there inside)
  refine (deleteAll_watched self.slots disposable).startingAt ⟨watched, fun slot member cap found => ?_⟩
  obtain ⟨cap', found', inside, _⟩ := holding.slots member
  obtain rfl : cap = cap' := Option.some.inj (found.symm.trans found')
  exact inside

end RootTaskDemo.Kernel
