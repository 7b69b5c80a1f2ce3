import RootTaskDemo.Kernel.NewTasks

namespace RootTaskDemo.Kernel

open Common Lib Thread

variable {ν α : Type} {platform : Platform} {lossless : Prop} {spare : List CPtr}
  {tasks : Std.TreeMap Nat Sel4Task}
  {key badge : Nat} {self self' : Sel4Task} {before after state origin : KernelState ν}
variable {mappedPage : Std.TreeMap Nat CPtr}

/-! The frames of programs: the image of the first task, and those that replace it. -/

theorem pageSteps_cons {start stop : Nat} (short : start < stop) :
    pageSteps start stop = start :: pageSteps (start + pageSize) stop := by
  have count : (stop - start + pageSize - 1) / pageSize =
      (stop - (start + pageSize) + pageSize - 1) / pageSize + 1 := by
    simp only [pageSize]
    omega
  rw [pageSteps, count, List.range'_succ]
  rfl

def ElfFile.imagePages (file : ElfFile) : List Nat :=
  (file.programs.filter ProgramHeader.isLoad).flatMap fun ph =>
    pageSteps (ph.virtualAddr / pageSize * pageSize) ((ph.virtualAddr + ph.memSize) % 2 ^ 64)

structure Loaded (pages : List Nat) (task task' : Sel4Task) (mappedPage : Std.TreeMap Nat CPtr) :
    Prop where
  records : task'.mappedPage = mappedPage
  same : SameTask task task'
  pages : ∀ vaddr ∈ task'.mappedPage, vaddr ∈ pages ∨ vaddr ∈ task.mappedPage

theorem loadFrame_keeping (records : self.mappedPage = mappedPage) (page : Nat) :
    Leads (Keeping lossless [] tasks key self : KernelState ν → Prop)
      (Sel4Task.loadFrame platform mappedPage page)
      (fun cap after => self.mappedPage[page]? = some cap ∧ Keeping lossless [] tasks key self after ∨
        page ∉ self.mappedPage ∧ Keeping lossless [cap] tasks key self after) := by
  unfold Sel4Task.loadFrame
  rw [← records]
  split
  · rename_i cap found
    exact (Keeping.evolves (frameUnmap_steady cap)).bind fun _ => .pure fun _ keeping => Or.inl ⟨found, keeping⟩
  · rename_i missing
    refine allocate_keeping.partly fun cap _ keeping => Or.inr ⟨?_, keeping⟩
    rw [Std.TreeMap.mem_iff_isSome_getElem?, missing]
    exact Bool.false_ne_true

theorem loadMap_keeping (page : Nat) (cap : CPtr) :
    Leads (fun state : KernelState ν => self.mappedPage[page]? = some cap ∧
      Keeping lossless [] tasks key self state ∨
        page ∉ self.mappedPage ∧ Keeping lossless [cap] tasks key self state) (self.mapPage platform page cap)
      (fun self' after => Keeping lossless [] tasks key self' after ∧ SameTask self self' ∧
        self'.mappedPage = self.mappedPage.insert page cap) := by
  refine .fixed fun state cases => ?_
  rcases cases with ⟨found, keeping⟩ | ⟨missing, keeping⟩
  · refine (mapPage_mapped keeping page cap).partly ?_
    rintro self' after ⟨steady, mapped⟩
    refine ⟨(keeping.steady steady).relabel (mapped.same.vspace ▸ (keeping.steady steady).root)
      fun vaddr => ?_, mapped.same, mapped.records⟩
    rw [getElem?_mapped mapped.records]
    split
    · rename_i here
      rw [here, found]
    · rfl
  · refine (mapPage_mapped keeping page cap).partly ?_
    rintro self' after ⟨steady, mapped⟩
    exact ⟨(keeping.steady steady).give (fun _ => missing) mapped.records mapped.same.vspace,
      mapped.same, mapped.records⟩

theorem loadPages_keeping (file : ElfFile) (stop vaddrEnd fuel offset vaddr : Nat)
    (records : self.mappedPage = mappedPage) :
    Leads (Keeping lossless [] tasks key self : KernelState ν → Prop)
      (Sel4Task.loadPages platform file stop vaddrEnd fuel offset vaddr mappedPage self)
      (fun result after => Keeping lossless [] tasks key result.2 after ∧
        Loaded (pageSteps (vaddr / pageSize * pageSize) vaddrEnd) self result.2 result.1) := by
  induction fuel generalizing offset vaddr mappedPage self with
  | zero => exact .pure fun _ keeping => ⟨keeping, records, .refl self, fun _ => Or.inr⟩
  | succ fuel ih =>
    unfold Sel4Task.loadPages
    split
    · rename_i more
      refine (loadFrame_keeping records _).bind fun cap => ?_
      have rounded : vaddr / pageSize * pageSize ≤ vaddr := Nat.div_mul_le_self ..
      have next : (vaddr + (pageSize - vaddr % pageSize)) / pageSize * pageSize = vaddr / pageSize * pageSize + pageSize := by
        simp only [pageSize]
        omega
      have later : ∀ offset, Leads (fun state : KernelState ν =>
            self.mappedPage[vaddr / pageSize * pageSize]? = some cap ∧ Keeping lossless [] tasks key self state ∨
              vaddr / pageSize * pageSize ∉ self.mappedPage ∧ Keeping lossless [cap] tasks key self state)
          (self.mapPage platform (vaddr / pageSize * pageSize) cap >>= fun self =>
            Sel4Task.loadPages platform file stop vaddrEnd fuel offset (vaddr + (pageSize - vaddr % pageSize))
              (mappedPage.insert (vaddr / pageSize * pageSize) cap) self)
          (fun result after => Keeping lossless [] tasks key result.2 after ∧
            Loaded (pageSteps (vaddr / pageSize * pageSize) vaddrEnd) self result.2 result.1) := by
        intro offset
        refine (loadMap_keeping _ cap).bind fun self' => .fixed ?_
        rintro mapped ⟨keeping, same, inserted⟩
        refine ((ih offset _ (inserted.trans (by rw [records]))).startingAt keeping).partly ?_
        rintro result after ⟨keeping, loaded⟩
        refine ⟨keeping, loaded.records, same.trans loaded.same, fun other member => ?_⟩
        rw [pageSteps_cons (rounded.trans_lt more), ← next, List.mem_cons]
        rcases loaded.pages other member with page | older
        · exact Or.inl (Or.inr page)
        · exact ((mem_mapped inserted other).mp older).imp_left Or.inl
      dsimp only
      split
      · refine .bind ?_ later
        have copied : Evolves (Steady lossless) (withSeat platform cap platform.pageSeat
            (Sel4Task.copySegment platform file offset vaddr stop) : KernelM ν Nat) :=
          withSeat_steady cap _ (DataOnly.steady (copySegment_dataOnly _ _ _ _ : Evolves (DataOnly False anyPage) _))
        exact copied.keeps fun _ _ steady taken => taken.imp (fun known => ⟨known.1, known.2.steady steady⟩)
          fun new => ⟨new.1, new.2.steady steady⟩
      · exact (MemTriple.pure fun _ taken => taken).bind later
    · exact .pure fun _ keeping => ⟨keeping, records, .refl self, fun _ => Or.inr⟩

theorem loadSegments_keeping (file : ElfFile) (programs : List ProgramHeader)
    (records : self.mappedPage = mappedPage) :
    Leads (Keeping lossless [] tasks key self : KernelState ν → Prop)
      (Sel4Task.loadSegments platform file programs mappedPage self)
      (fun self' after => Keeping lossless [] tasks key self' after ∧ SameTask self self' ∧ ∀ vaddr ∈ self'.mappedPage,
        vaddr ∈ (programs.flatMap fun ph =>
          pageSteps (ph.virtualAddr / pageSize * pageSize) ((ph.virtualAddr + ph.memSize) % 2 ^ 64)) ∨
        vaddr ∈ self.mappedPage) := by
  induction programs generalizing mappedPage self with
  | nil => exact .pure fun _ keeping => ⟨keeping, .refl self, fun _ => Or.inr⟩
  | cons ph rest ih =>
    refine (loadPages_keeping file _ _ _ _ _ records).bind fun loaded => .fixed ?_
    rintro middle ⟨keeping, first⟩
    refine ((ih first.records).startingAt keeping).partly ?_
    rintro self' after ⟨keeping, same, pages⟩
    refine ⟨keeping, first.same.trans same, fun vaddr member => ?_⟩
    rw [List.flatMap_cons, List.mem_append]
    rcases pages vaddr member with later | earlier
    · exact Or.inl (Or.inr later)
    · exact (first.pages vaddr earlier).imp_left Or.inl

/-- The stack and the IPC buffer of the first task lie apart, and outside its image. -/
structure ElfFile.LeavesRoom (file : ElfFile) : Prop where
  stack : ∀ vaddr ∈ pageSteps (uspaceStackTop - 16 * pageSize) uspaceStackTop, vaddr ∉ file.imagePages
  buffer : file.ipcBufferAddr ∉ file.imagePages ++ pageSteps (uspaceStackTop - 16 * pageSize)
    uspaceStackTop

theorem startChild_tidy (env : Env ν) (ep : UInt64) (tidy : Tidy lossless state)
    (room : lossless → env.child.LeavesRoom) :
    Yields state (startChild env ep) fun _ => Tidy lossless := by
  refine (new_growing tidy).bind fun task => .fixed ?_
  rintro created ⟨growing, unpaged⟩
  refine ((loadSegments_keeping env.child _ unpaged.pages).startingAt growing.keeping).bind
    fun loaded => .fixed ?_
  rintro loadedState ⟨keeping, first, image⟩
  have inImage : ∀ vaddr ∈ loaded.mappedPage, vaddr ∈ env.child.imagePages := fun vaddr member =>
    (image vaddr member).resolve_right (not_mem_of_empty unpaged.pages vaddr)
  refine ((mapStack_keeping _ _ _ _ fun strict => ⟨pageSteps_nodup _ _, fun vaddr member recorded =>
    (room strict).stack vaddr member (inImage vaddr recorded)⟩).startingAt keeping).bind fun stacked => .fixed ?_
  rintro stackedState ⟨keeping, second⟩
  have missing : lossless → env.child.ipcBufferAddr ∉ stacked.2.mappedPage := by
    intro strict recorded
    refine (room strict).buffer (List.mem_append.mpr ?_)
    exact ((second.pages _).mp recorded).symm.imp_left (inImage _)
  refine (allocate_keeping.startingAt keeping).bind fun buffer =>
    (mapPage_keeping missing).bind fun complete =>
    MemTriple.fixed ?_
  rintro mapped ⟨keeping, third, _⟩
  have same := (first.trans second.same).trans third
  refine ((Keeping.evolves (tcb_steady _ _)).startingAt keeping).bind fun _ =>
    (Keeping.evolves (tcb_steady _ _)).bind fun _ =>
    (Keeping.evolves (tcb_steady _ _)).bind fun _ => .locked ?_
  rw [same.id]
  exact setTask_tidy complete complete rfl fun _ => rfl

theorem allocatePages_keeping (lossy : ¬ lossless) (count : Nat) :
    Leads (Keeping lossless spare tasks key self : KernelState ν → Prop) (allocatePages platform count)
      (fun pages => Keeping lossless (pages.map Prod.fst ++ spare) tasks key self) := by
  induction count generalizing spare with
  | zero => exact .pure fun _ keeping => keeping
  | succ count ih =>
    have allocated : Leads (Keeping lossless spare tasks key self : KernelState ν → Prop)
        (allocateAndRetype platform .granule) (fun page => Keeping lossless (page :: spare) tasks key self) :=
      MemTriple.fixed fun state keeping => (allocateAndRetype_spec state .granule).partly
          fun _ _ allocated => keeping.allocated allocated
    refine allocated.bind fun page => ih.bind fun rest => .pure fun _ keeping => ?_
    refine keeping.lose lossy rfl (fun _ _ recorded => recorded) fun cap member => ?_
    simp only [List.map_cons, List.cons_append, List.mem_cons, List.mem_append] at member ⊢
    tauto

theorem copyData_steady (freePageAddr : Nat) (pages : List ImagePage) (data : List UInt8)
    (offset : Nat) :
    Evolves (Steady lossless) (copyData platform freePageAddr pages data offset : KernelM ν Unit) := by
  induction pages generalizing data offset with
  | nil => exact .pure
  | cons page rest ih =>
    refine (withSeat_steady _ _ ?_).bind fun _ => ih _ _
    exact DataOnly.steady (storeBytes_dataOnly _ _ : Evolves (DataOnly False anyPage) _)

theorem slicePages_steady (pages : List ImagePage) (start count : Nat) :
    Evolves (Steady lossless) (slicePages pages start count : KernelM ν _) := by
  unfold slicePages
  split
  · exact .pure
  · exact .stop

theorem loadImage_keeping (footprint : Nat × Nat) (freePageAddr : Nat) (segments : List Segment)
    (pages : List ImagePage) :
    Leads (Keeping lossless spare tasks key self : KernelState ν → Prop)
      (loadImage platform footprint freePageAddr segments pages)
      (fun pages' after => Keeping lossless spare tasks key self after ∧ pages'.map Prod.fst = pages.map Prod.fst) := by
  induction segments generalizing pages with
  | nil => exact .pure fun _ keeping => ⟨keeping, rfl⟩
  | cons seg rest ih =>
    have loaded : Leads (Keeping lossless spare tasks key self : KernelState ν → Prop)
        (loadSegment platform footprint freePageAddr pages seg)
        (fun pages' after => Keeping lossless spare tasks key self after ∧ pages'.map Prod.fst = pages.map Prod.fst) := by
      refine (Keeping.evolves (slicePages_steady pages _ _)).bind fun _ =>
        (Keeping.evolves (slicePages_steady _ _ _)).bind fun _ =>
        (Keeping.evolves (copyData_steady _ _ _ _)).bind fun _ => .pure fun _ keeping => ⟨keeping, ?_⟩
      refine List.ext_getElem (by simp) fun index _ _ => ?_
      simp only [List.getElem_map, List.getElem_mapIdx]
      split <;> rfl
    refine loaded.bind fun pages' => .fixed ?_
    rintro middle ⟨keeping, same⟩
    rw [← same]
    exact (ih pages').startingAt keeping

theorem mapPages_keeping (lossy : ¬ lossless) (addr : Nat) (pages : List ImagePage)
    (mappedPage : Std.TreeMap Nat CPtr) :
    Leads (Keeping lossless (pages.map Prod.fst) tasks key { self with mappedPage } : KernelState ν → Prop)
      (mapPages platform self.vspace addr pages mappedPage)
      (fun mappedPage => Keeping lossless [] tasks key { self with mappedPage }) := by
  induction pages generalizing addr mappedPage with
  | nil => exact .pure fun _ keeping => keeping
  | cons page rest ih =>
    refine (Keeping.evolves (unwrapped_evolves (frameMap_steady page.1 self.vspace addr page.2))).bind fun _ =>
      MemTriple.fixed fun state keeping => (ih (addr + granuleSize) (mappedPage.insert addr page.1)).startingAt ?_
    exact keeping.give (fun strict => absurd strict lossy) rfl rfl

theorem mapImage_keeping (lossy : ¬ lossless) (footprint : Nat × Nat) (segments : List Segment)
    (freePageAddr : Nat) :
    Leads (Keeping lossless [] tasks key self : KernelState ν → Prop)
      (mapImage platform ∅ self.vspace footprint segments freePageAddr)
      (fun mappedPage => Keeping lossless [] tasks key { self with mappedPage }) := by
  have forgotten : ∀ {state : KernelState ν}, Keeping lossless [] tasks key self state →
      Keeping lossless [] tasks key { self with mappedPage := ∅ } state :=
    fun keeping => keeping.lose lossy rfl (by simp) fun _ member => member
  refine ((allocatePages_keeping lossy _).weaken (fun _ => forgotten) (fun _ _ keeping => keeping)
    fun _ _ => trivial).bind
    fun pages => (loadImage_keeping _ _ _ _).bind fun pages' => .fixed ?_
  rintro loaded ⟨keeping, same⟩
  rw [List.append_nil, ← same] at keeping
  exact (mapPages_keeping lossy footprint.1 pages' ∅).startingAt keeping

theorem noTask_tidy (absent : state.tasks[badge]? = none) (next : Sel4Task → KernelM ν SysResult) :
    Yields state (locked .taskMap (taskOf badge >>= next)) fun _ => Tidy lossless := by
  refine .locked ((taskOf_spec state badge).bind fun task => .fixed ?_)
  rintro now ⟨_, found⟩
  rw [absent] at found
  cases found

theorem sysExec_tidy (tidy : Tidy lossless state) (program : Program)
    (nobody : lossless → state.tasks[badge]? = none) :
    Yields state (sysExec platform program badge) fun _ => Tidy lossless := by
  by_cases strict : lossless
  · exact noTask_tidy (nobody strict) _
  · refine onTask_tidy tidy fun task found => ?_
    split
    · exact .stop fun _ _ => trivial
    · refine (MemTriple.locked (mapImage_keeping strict _ _ _)).bind fun mappedPage => .fixed fun imaged keeping => ?_
      have renewed : Keeping lossless [] state.tasks badge { task with mappedPage, mappedPt := [] } imaged :=
        keeping.relabel keeping.root fun _ => rfl
      refine ((mapStack_keeping _ _ _ _ fun lossless => absurd lossless strict).startingAt renewed).bind fun stacked =>
        MemTriple.fixed ?_
      rintro stackedState ⟨keeping, _⟩
      refine (allocate_keeping.startingAt keeping).bind fun buffer =>
        (mapPage_keeping fun lossless => absurd lossless strict).bind fun complete => .fixed ?_
      rintro mapped ⟨keeping, _⟩
      exact ((Keeping.evolves (tcb_steady _ _)).startingAt keeping).bind fun _ =>
        (Keeping.evolves (tcb_steady _ _)).bind fun _ =>
        (setTask_tidy complete { complete with exit := some 0 } rfl fun _ => rfl).bind fun _ =>
        (Tidy.evolves (tcb_steady _ _)).bind fun _ => .pure fun _ tidy => tidy

end RootTaskDemo.Kernel
