import RootTaskDemo.Kernel.Filling

namespace RootTaskDemo.Kernel

open Common Lib Thread

variable {ν : Type} {platform : Platform} {before after state : KernelState ν} {space : ObjId}
  {memory : Memory} {file : ElfFile}
  {self self' : Sel4Task} {mappedPage : Std.TreeMap Nat CPtr} {step : LoadStep}

/-! What `load_elf` does page by page: the copies that it makes, whether they stay in
bounds, and what they leave in the address space of the task. -/

structure PageCopy where
  source : Nat
  target : Nat
  length : Nat
deriving DecidableEq, Repr

structure LoadStep where
  page : Nat
  copy : Option PageCopy
deriving DecidableEq, Repr

def segmentSteps (stop vaddrEnd : Nat) : Nat → Nat → Nat → List LoadStep
  | 0, _, _ => []
  | fuel + 1, offset, vaddr =>
    if vaddr < vaddrEnd then
      let rsize := min (pageSize - vaddr % pageSize) (stop - offset)
      { page := vaddr / pageSize * pageSize
        copy := if offset < stop then some ⟨offset, offset % pageSize, rsize⟩ else none } ::
        segmentSteps stop vaddrEnd fuel (if offset < stop then offset + rsize else offset)
          (vaddr + (pageSize - vaddr % pageSize))
    else []

def ProgramHeader.fileEnd (ph : ProgramHeader) : Nat := (ph.offset + ph.fileSize) % 2 ^ 64

def ProgramHeader.memEnd (ph : ProgramHeader) : Nat := (ph.virtualAddr + ph.memSize) % 2 ^ 64

def ProgramHeader.steps (ph : ProgramHeader) : List LoadStep :=
  segmentSteps ph.fileEnd ph.memEnd (ph.memEnd - ph.virtualAddr) ph.offset ph.virtualAddr

def ElfFile.loads (file : ElfFile) : List ProgramHeader := file.programs.filter ProgramHeader.isLoad

def ElfFile.steps (file : ElfFile) : List LoadStep := file.loads.flatMap ProgramHeader.steps

/-- The copies that `load_elf` makes of a file, as long as nothing is refused. -/
def ElfFile.copies (file : ElfFile) : List PageCopy := file.steps.filterMap LoadStep.copy

def performCopy (platform : Platform) (file : ElfFile) (cap : CPtr) : Option PageCopy → KernelM ν Unit
  | none => return ()
  | some copy => withSeat platform cap platform.pageSeat do
    let bytes ← file.slice copy.source copy.length
    storeBytes platform (platform.pageSeat + copy.target) bytes

def performStep (platform : Platform) (file : ElfFile) (step : LoadStep)
    (mappedPage : Std.TreeMap Nat CPtr) (self : Sel4Task) :
    KernelM ν (Std.TreeMap Nat CPtr × Sel4Task) := do
  let cap ← Sel4Task.loadFrame platform mappedPage step.page
  performCopy platform file cap step.copy
  let self ← self.mapPage platform step.page cap
  return (mappedPage.insert step.page cap, self)

def performSteps (platform : Platform) (file : ElfFile) :
    List LoadStep → Std.TreeMap Nat CPtr → Sel4Task →
    KernelM ν (Std.TreeMap Nat CPtr × Sel4Task)
  | [], mappedPage, self => return (mappedPage, self)
  | step :: rest, mappedPage, self => do
    let loaded ← performStep platform file step mappedPage self
    performSteps platform file rest loaded.1 loaded.2

theorem performSteps_append (steps steps' : List LoadStep) (mappedPage : Std.TreeMap Nat CPtr)
    (self : Sel4Task) :
    (performSteps platform file (steps ++ steps') mappedPage self : KernelM ν _) =
      performSteps platform file steps mappedPage self >>= fun loaded =>
        performSteps platform file steps' loaded.1 loaded.2 := by
  induction steps generalizing mappedPage self with
  | nil => simp [performSteps]
  | cons step rest ih => simp [performSteps, ih]

theorem loadPages_eq (stop vaddrEnd fuel offset vaddr : Nat) (mappedPage : Std.TreeMap Nat CPtr)
    (self : Sel4Task) :
    (Sel4Task.loadPages platform file stop vaddrEnd fuel offset vaddr mappedPage self : KernelM ν _) =
      performSteps platform file (segmentSteps stop vaddrEnd fuel offset vaddr) mappedPage self := by
  induction fuel generalizing offset vaddr mappedPage self with
  | zero => rfl
  | succ fuel ih =>
    unfold Sel4Task.loadPages segmentSteps
    by_cases more : vaddr < vaddrEnd
    · by_cases data : offset < stop
      · simp [more, data, performSteps, performStep, performCopy, Sel4Task.copySegment, withSeat, ih]
      · simp [more, data, performSteps, performStep, performCopy, ih]
    · simp [more, performSteps]

theorem loadElf_eq (self : Sel4Task) (file : ElfFile) :
    (self.loadElf platform file : KernelM ν _) = performSteps platform file file.steps ∅ self >>=
      fun loaded => pure loaded.2 := by
  have segments :
    ∀ (programs : List ProgramHeader) (mappedPage : Std.TreeMap Nat CPtr) (self : Sel4Task),
      (Sel4Task.loadSegments platform file programs mappedPage self : KernelM ν _) =
        performSteps platform file (programs.flatMap ProgramHeader.steps) mappedPage self >>= fun loaded => pure loaded.2 := by
    intro programs
    induction programs with
    | nil => exact fun _ _ => by simp [Sel4Task.loadSegments, performSteps]
    | cons ph rest ih =>
      intro mappedPage self
      rw [List.flatMap_cons, performSteps_append, Sel4Task.loadSegments, loadPages_eq,
        ProgramHeader.steps, ProgramHeader.fileEnd, ProgramHeader.memEnd]
      simp only [ih, bind_assoc]
  exact segments _ _ _

def PageCopy.InBounds (copy : PageCopy) (file : ElfFile) : Prop :=
  copy.source + copy.length ≤ file.data.length ∧ copy.target + copy.length ≤ pageSize

/-- So many bytes of the file are copied from an address on: the copies end with the data
or with the last page of the segment. -/
def copiedBytes (stop vaddrEnd offset vaddr : Nat) : Nat :=
  if vaddr < vaddrEnd then min (stop - offset)
    ((vaddrEnd + pageSize - 1) / pageSize * pageSize - vaddr) else 0

section Bounds

variable {stop vaddrEnd fuel offset vaddr : Nat}

def StepsInBounds (file : ElfFile) (steps : List LoadStep) : Prop :=
  ∀ step ∈ steps, ∀ copy ∈ step.copy, copy.InBounds file

theorem segmentSteps_bounded_succ (more : vaddr < vaddrEnd) (data : offset < stop) :
    StepsInBounds file (segmentSteps stop vaddrEnd (fuel + 1) offset vaddr) ↔
      PageCopy.InBounds ⟨offset, offset % pageSize, min (pageSize - vaddr % pageSize) (stop - offset)⟩ file ∧
        StepsInBounds file (segmentSteps stop vaddrEnd fuel (offset + min (pageSize - vaddr % pageSize) (stop - offset))
          (vaddr + (pageSize - vaddr % pageSize))) := by
  simp [StepsInBounds, segmentSteps, more, data]

theorem segmentSteps_bounded_of_done (done : stop ≤ offset) :
    StepsInBounds file (segmentSteps stop vaddrEnd fuel offset vaddr) := by
  have noData : ¬ offset < stop := by omega
  induction fuel generalizing vaddr with
  | zero => simp [StepsInBounds, segmentSteps]
  | succ fuel ih =>
    simp only [segmentSteps, noData, if_false]
    split
    · exact List.forall_mem_cons.mpr ⟨by simp, ih⟩
    · simp [StepsInBounds]

theorem copiedBytes_step (more : vaddr < vaddrEnd) (data : offset < stop) :
    let length := min (pageSize - vaddr % pageSize) (stop - offset)
    let later := copiedBytes stop vaddrEnd (offset + length) (vaddr + (pageSize - vaddr % pageSize))
    copiedBytes stop vaddrEnd offset vaddr = length + later ∧
      (later ≠ 0 → length = pageSize - vaddr % pageSize) := by
  unfold copiedBytes pageSize
  dsimp only
  rw [if_pos more]
  split <;> omega

theorem alignedSteps_bounded (enough : vaddrEnd ≤ vaddr + fuel) (aligned : vaddr % pageSize = 0) :
    StepsInBounds file (segmentSteps stop vaddrEnd fuel offset vaddr) ↔
      copiedBytes stop vaddrEnd offset vaddr = 0 ∨
        offset + copiedBytes stop vaddrEnd offset vaddr ≤ file.data.length ∧
          offset % pageSize + min pageSize (copiedBytes stop vaddrEnd offset vaddr) ≤ pageSize := by
  induction fuel generalizing offset vaddr with
  | zero =>
    have done : ¬ vaddr < vaddrEnd := by omega
    simp [segmentSteps, copiedBytes, done, StepsInBounds]
  | succ fuel ih =>
    by_cases more : vaddr < vaddrEnd
    · by_cases data : offset < stop
      · obtain ⟨total, full⟩ := copiedBytes_step more data
        have nextAligned : (vaddr + pageSize) % pageSize = 0 := by rw [Nat.add_mod_right, aligned]
        have nextEnough : vaddrEnd ≤ vaddr + pageSize + fuel := by
          unfold pageSize
          omega
        rw [aligned, Nat.sub_zero] at total full
        rw [segmentSteps_bounded_succ more data, aligned, Nat.sub_zero, ih nextEnough nextAligned, total, PageCopy.InBounds]
        generalize copiedBytes stop vaddrEnd (offset + min pageSize (stop - offset)) (vaddr + pageSize) = later at full ⊢
        dsimp only [pageSize] at full ⊢
        omega
      · have nothing : copiedBytes stop vaddrEnd offset vaddr = 0 := by
          rw [copiedBytes, if_pos more]
          omega
        exact iff_of_true (segmentSteps_bounded_of_done (by omega)) (Or.inl nothing)
    · simp [segmentSteps, copiedBytes, more, StepsInBounds]

end Bounds

def ProgramHeader.copied (ph : ProgramHeader) : Nat :=
  copiedBytes ph.fileEnd ph.memEnd ph.offset ph.virtualAddr

def ProgramHeader.copiedFirst (ph : ProgramHeader) : Nat :=
  min (pageSize - ph.virtualAddr % pageSize) ph.copied

/-- Nothing is copied, or the data are in the file and neither the first copy nor the one after
it goes over the end of the seat. -/
def ProgramHeader.CopiesFit (ph : ProgramHeader) (file : ElfFile) : Prop :=
  ph.copied = 0 ∨
    ph.offset + ph.copied ≤ file.data.length ∧ ph.offset % pageSize + ph.copiedFirst ≤ pageSize ∧
      (ph.offset + ph.copiedFirst) % pageSize + min pageSize (ph.copied - ph.copiedFirst) ≤ pageSize

theorem ProgramHeader.steps_bounded (ph : ProgramHeader) :
    StepsInBounds file ph.steps ↔ ph.CopiesFit file := by
  by_cases more : ph.virtualAddr < ph.memEnd
  · by_cases data : ph.offset < ph.fileEnd
    · obtain ⟨total, full⟩ := copiedBytes_step more data
      obtain ⟨fuel, fuelEq⟩ : ∃ fuel, ph.memEnd - ph.virtualAddr = fuel + 1 := ⟨ph.memEnd - ph.virtualAddr - 1, by omega⟩
      have inPage : ph.virtualAddr % pageSize < pageSize := Nat.mod_lt _ (by decide)
      have nextAligned : (ph.virtualAddr + (pageSize - ph.virtualAddr % pageSize)) % pageSize = 0 := by
        unfold pageSize
        omega
      have nextEnough : ph.memEnd ≤ ph.virtualAddr + (pageSize - ph.virtualAddr % pageSize) + fuel := by omega
      rw [ProgramHeader.CopiesFit, ProgramHeader.copiedFirst, ProgramHeader.steps,
        ProgramHeader.copied, fuelEq, segmentSteps_bounded_succ more data,
        alignedSteps_bounded nextEnough nextAligned, total, PageCopy.InBounds]
      generalize copiedBytes ph.fileEnd ph.memEnd (ph.offset + min _ _) _ = later at full ⊢
      dsimp only [pageSize] at full inPage ⊢
      omega
    · have nothing : ph.copied = 0 := by
        rw [ProgramHeader.copied, copiedBytes, if_pos more]
        omega
      exact iff_of_true (segmentSteps_bounded_of_done (by omega)) (Or.inl nothing)
  · have nothing : ph.copied = 0 := by rw [ProgramHeader.copied, copiedBytes, if_neg more]
    have empty : ph.memEnd - ph.virtualAddr = 0 := by omega
    rw [ProgramHeader.steps, empty]
    exact iff_of_true (by simp [StepsInBounds, segmentSteps]) (Or.inl nothing)

/-- What `load_elf` does is to perform the steps of the file; their copies stay in the file and in
the seat exactly if those of every load segment fit. -/
theorem elf_copies_in_bounds_iff (file : ElfFile) :
    (∀ (ν : Type) (platform : Platform) (self : Sel4Task), (self.loadElf platform file : KernelM ν Sel4Task) =
      performSteps platform file file.steps ∅ self >>= fun loaded => pure loaded.2) ∧
    ((∀ copy ∈ file.copies, copy.InBounds file) ↔ ∀ ph ∈ file.programs, ph.isLoad → ph.CopiesFit file) := by
  refine ⟨fun ν platform self => loadElf_eq self file, ?_⟩
  have each : (∀ copy ∈ file.copies, copy.InBounds file) ↔ ∀ ph ∈ file.loads, StepsInBounds file ph.steps := by
    simp only [ElfFile.copies, ElfFile.steps, List.mem_filterMap, List.mem_flatMap, StepsInBounds,
      Option.mem_def]
    grind
  simp only [each, ProgramHeader.steps_bounded, ElfFile.loads, List.mem_filter, and_imp]

/-- A program in which the data of the segment are not at the offset that they have in a page. -/
def slantedElf : ElfFile where
  data := List.replicate 4106 0
  programs := [⟨true, 4090, 0, 16, 16⟩]
  sections := []
  entryPoint := 0
  tbss := none

def cutElf : ElfFile where
  data := List.replicate 120 0
  programs := [⟨true, 0, 0, 4096, 4096⟩]
  sections := []
  entryPoint := 0
  tbss := none

def loadRun (file : ElfFile) :
    EStateM.Result Fault (World Lock (List UInt64) (KernelState Unit)) Sel4Task :=
  (plainTask.loadElf smallPlatform file).run plainWorld

/-- The first of them is copied over the end of the seat, the second from behind the end of the
file. -/
theorem elf_copies_out_of_bounds :
    slantedElf.copies = [⟨4090, 4090, 16⟩] ∧ ¬ PageCopy.InBounds ⟨4090, 4090, 16⟩ slantedElf ∧
      stopReason (loadRun slantedElf) = some (.seatFault (smallPlatform.pageSeat + 4096)) ∧
    cutElf.copies = [⟨0, 0, 4096⟩] ∧ ¬ PageCopy.InBounds ⟨0, 0, 4096⟩ cutElf ∧
      stopReason (loadRun cutElf) = some .undefined := by
  refine ⟨by decide +kernel, ?_, by decide +kernel, by decide +kernel, ?_, by decide +kernel⟩
  · rintro ⟨-, writes⟩
    exact absurd writes (by decide)
  · rintro ⟨reads, -⟩
    exact absurd reads (by decide)

def ElfFile.part (file : ElfFile) (offset count : Nat) : List UInt8 :=
  (file.data.drop offset).take count

theorem ElfFile.length_part {offset count : Nat} (inside : offset + count ≤ file.data.length) :
    (file.part offset count).length = count := by
  rw [ElfFile.part, List.length_take, List.length_drop]
  omega

def LoadStep.image (file : ElfFile) (memory : Memory) (step : LoadStep) : Memory :=
  match step.copy with
  | none => memory
  | some copy => memory.store (step.page + copy.target) (file.part copy.source copy.length)

structure LoadStep.Good (file : ElfFile) (step : LoadStep) : Prop where
  aligned : step.page % pageSize = 0
  bounded : ∀ copy ∈ step.copy, copy.InBounds file

theorem LoadStep.Good.image_elsewhere (good : step.Good file) {address : Nat}
    (elsewhere : address / pageSize * pageSize ≠ step.page) :
    step.image file memory address = memory address := by
  unfold LoadStep.image
  cases copies : step.copy with
  | none => rfl
  | some copy =>
    obtain ⟨reads, writes⟩ := good.bounded copy copies
    have aligned := good.aligned
    refine Memory.store_outside ?_
    rw [ElfFile.length_part reads]
    unfold pageSize at elsewhere aligned writes
    omega

variable {origin : Sel4Task} {start : KernelState ν}

structure LoadedPage (start : KernelState ν) (space : ObjId) (memory : Memory) (task : Sel4Task)
    (page : Nat) (cap : CPtr) (state : KernelState ν) :
    Prop extends PageHolds space memory page cap state where
  aligned : page % pageSize = 0
  fresh : start.cspace cap = none
  recorded : task.mappedPage[page]? = some cap

/-- The task has the pages that are loaded so far, and besides them the records that it had; the
memory of the program is zero where nothing is loaded. -/
structure ElfHolds (origin : Sel4Task) (start : KernelState ν) (space : ObjId) (memory : Memory)
    (mappedPage : Std.TreeMap Nat CPtr) (task : Sel4Task) (state : KernelState ν) : Prop where
  homed : Homed space task.vspace state
  vspace : task.vspace = origin.vspace
  live : NoneFreed start state
  pages : ∀ (page : Nat) (cap : CPtr), mappedPage[page]? = some cap →
    LoadedPage start space memory task page cap state
  others : ∀ page : Nat, mappedPage[page]? = none → task.mappedPage[page]? = origin.mappedPage[page]?
  blank : ∀ address : Nat, mappedPage[address / pageSize * pageSize]? = none → memory address = 0

structure Opened (start : KernelState ν) (space : ObjId) (memory : Memory)
    (mappedPage : Std.TreeMap Nat CPtr) (page : Nat) (cap : CPtr) (before after : KernelState ν) :
    Prop where
  homed : ∀ vspace, Homed space vspace before → Homed space vspace after
  entry : after.cspace cap = some (.frame cap none)
  content : (after.frames cap).Agrees memory page pageSize
  touches : Touches (· = cap) False (onlyAt space page) before after
  fresh : start.cspace cap = none
  own : ∀ other : Nat, mappedPage[other]? = some cap → other = page

theorem PageHolds.unmapped {page : Nat} {cap : CPtr} (holds : PageHolds space memory page cap state) :
    Touches (· = cap) False (onlyAt space page) state
      ((state.unmapFrame cap (some (space, page))).setCap cap (some (.frame cap none))) := by
  obtain ⟨rights, shown⟩ := holds.shown
  have cleared : state.unmapFrame cap (some (space, page)) = state.setPage space page none := by
    simp [KernelState.unmapFrame, shown]
  rw [cleared]
  refine ⟨fun slot found other held => (Function.update_of_ne other ..).trans held, fun slot =>
    free_of_update, fun _ _ _ => rfl,
    fun view address _ _ outside => ?_, rfl⟩
  rw [pages_setCap]
  by_cases here : view = space
  · subst here
    rw [pages_setPage_self, Function.update_of_ne fun same => outside ⟨rfl, same⟩]
  · rw [pages_setPage_of_ne _ here]

theorem loadFrame_opens {page : Nat}
    (holds : ElfHolds origin start space memory mappedPage self state)
    (aligned : page % pageSize = 0) :
    RunFrom state (Sel4Task.loadFrame platform mappedPage page)
      (fun cap after => Opened start space memory mappedPage page cap state after) Refused := by
  unfold Sel4Task.loadFrame
  split
  · -- the page has a frame from an earlier segment
    rename_i cap found
    have loaded := holds.pages page cap found
    refine (frameUnmap_returns loaded.entry).raising.bind fun _ => .pure ?_
    rintro _ rfl
    have touches := loaded.unmapped
    refine ⟨fun vspace homed => homed.kept touches (ownsFrames_single loaded.entry),
      Function.update_self .., ?_, touches, loaded.fresh,
      fun other same => ?_⟩
    · rw [touches.frames cap (fun _ => id) (by simp [loaded.entry])]
      exact loaded.content
    · have entries := (holds.pages other cap same).entry.symm.trans loaded.entry
      simpa using entries
  · rename_i found
    refine (allocate_refused state .granule).mono ?_
    intro cap after allocated
    refine ⟨fun vspace homed => homed.allocated allocated, allocated.frameEq, fun offset inside =>
      ?_, allocated.touches,
      holds.live cap allocated.free, fun other same => ?_⟩
    · have pageEq : (page + offset) / pageSize * pageSize = page := by
        unfold pageSize at aligned inside ⊢
        omega
      rw [allocated.zero, holds.blank (page + offset) (by rw [pageEq]; exact found)]
    · cases allocated.free.symm.trans (holds.pages other cap same).entry

theorem performCopy_fills {cap : CPtr} (good : step.Good file)
    (kernel : state.cspace kernelVSpace = some (.vspace kernelVSpace))
    (entry : state.cspace cap = some (.frame cap none))
    (content : (state.frames cap).Agrees memory step.page pageSize) :
    RunFrom state (performCopy platform file cap step.copy)
      (fun _ after => after.cspace cap = some (.frame cap none) ∧
        (after.frames cap).Agrees (step.image file memory) step.page pageSize ∧
        Touches (· = cap) True (onlyAt kernelVSpace platform.pageSeat) state after) Refused := by
  unfold LoadStep.image
  cases copies : step.copy with
  | none =>
    refine .pure ?_
    rintro _ rfl
    exact ⟨entry, content, Touches.refl _⟩
  | some copy =>
    obtain ⟨reads, writes⟩ := good.bounded copy copies
    have fits : copy.target + (file.part copy.source copy.length).length ≤ pageSize := by
      rw [ElfFile.length_part reads]
      exact writes
    have paints : ∀ shown : KernelState ν, Shows platform cap shown →
      MemTriple (Painted shown cap step.page memory)
        (file.slice copy.source copy.length >>= storeBytes platform (platform.pageSeat + copy.target))
        (fun _ after => True ∧
          Painted shown cap step.page (memory.store (step.page + copy.target) (file.part copy.source copy.length)) after)
        Refused := by
      intro shown showing
      rw [ElfFile.slice, if_pos reads, pure_bind]
      exact (storeBytes_paints showing fits).weaken (fun _ painted => painted) (fun _ _ painted => ⟨trivial, painted⟩)
        fun _ never => never.elim
    refine (withSeat_paints kernel entry content paints).mono ?_
    rintro _ _ ⟨-, filled, agrees, rfl⟩
    refine ⟨cspace_fill_self filled, ?_, fill_touches filled⟩
    rw [frames_fill_self]
    exact agrees

theorem performStep_holds (holds : ElfHolds origin start space memory mappedPage self state)
    (good : step.Good file) :
    RunFrom state (performStep platform file step mappedPage self)
      (fun loaded after => ElfHolds origin start space (step.image file memory) loaded.1 loaded.2 after ∧
        ∃ cap, loaded.1 = mappedPage.insert step.page cap) Refused := by
  refine (loadFrame_opens holds good.aligned).bind fun cap => .fixed fun ready opened => ?_
  have homed := opened.homed _ holds.homed
  refine (performCopy_fills good homed.rooted.kernel opened.entry opened.content).bind fun _ =>
    .fixed ?_
  rintro filled ⟨entry, content, fills⟩
  refine (mapPage_holds self (homed.kept fills (ownsFrames_single opened.entry)) good.aligned entry
    content).bind fun self' =>
    MemTriple.pure ?_
  rintro after ⟨pageHolds, maps, homed', records, vspace⟩
  have touches : Touches (· = cap) True
      (fun view vaddr => onlyAt space step.page view vaddr ∨
        onlyAt kernelVSpace platform.pageSeat view vaddr) state after :=
    ((opened.touches.mono (fun _ => id) False.elim fun _ _ => Or.inl).trans
      (fills.mono (fun _ => id) id fun _ _ => Or.inr)).trans
      (maps.mono (fun _ => id) False.elim fun _ _ => Or.inl)
  have spaceOther : space ≠ cap := by
    rintro rfl
    cases opened.entry.symm.trans homed.rooted.space
  refine ⟨⟨vspace ▸ homed', vspace.trans holds.vspace, fun slot free =>
    holds.live slot (touches.live slot free),
    fun page found loaded => ?_, fun page absent => ?_, fun address absent => ?_⟩, cap, rfl⟩
  · rw [getElem?_mapped rfl] at loaded
    split at loaded
    · rename_i here
      obtain rfl : cap = found := by simpa using loaded
      subst here
      refine ⟨pageHolds, good.aligned, opened.fresh, ?_⟩
      rw [getElem?_mapped records, if_pos rfl]
    · rename_i elsewhere
      have page' := holds.pages page found loaded
      have other : found ≠ cap := by
        rintro rfl
        exact elsewhere (opened.own page loaded)
      have kept := page'.toPageHolds.kept touches other holds.homed.rooted.space spaceOther
        (by rintro (⟨-, same⟩ | ⟨same, -⟩); exacts [elsewhere same, holds.homed.user same])
      refine ⟨⟨kept.entry, kept.shown, fun offset inside => ?_⟩, page'.aligned, page'.fresh, ?_⟩
      · rw [kept.content offset inside, good.image_elsewhere]
        have aligned := page'.aligned
        unfold pageSize at aligned inside ⊢
        omega
      · rw [getElem?_mapped records, if_neg elsewhere]
        exact page'.recorded
  · rw [getElem?_mapped rfl] at absent
    split at absent
    · cases absent
    · rename_i elsewhere
      rw [getElem?_mapped records, if_neg elsewhere]
      exact holds.others page absent
  · rw [getElem?_mapped rfl] at absent
    split at absent
    · cases absent
    · rename_i elsewhere
      rw [good.image_elsewhere elsewhere]
      exact holds.blank address absent

theorem performSteps_holds {steps : List LoadStep}
    (holds : ElfHolds origin start space memory mappedPage self state)
    (good : ∀ step ∈ steps, step.Good file) :
    RunFrom state (performSteps platform file steps mappedPage self)
      (fun loaded after => ElfHolds origin start space (steps.foldl (LoadStep.image file) memory)
        loaded.1 loaded.2 after ∧
        ∀ page : Nat, page ∈ loaded.1 ↔ page ∈ mappedPage ∨ ∃ step ∈ steps, step.page = page) Refused := by
  induction steps generalizing memory mappedPage self state with
  | nil =>
    refine .pure ?_
    rintro _ rfl
    exact ⟨holds, by simp⟩
  | cons step rest ih =>
    obtain ⟨here, later⟩ := List.forall_mem_cons.mp good
    refine (performStep_holds holds here).bind fun loaded => .fixed ?_
    rintro middle ⟨holds', cap, inserted⟩
    refine (ih holds' later).mono ?_
    rintro loaded' after ⟨holds'', keys⟩
    refine ⟨holds'', fun page => ?_⟩
    rw [keys, inserted, Std.TreeMap.mem_insert, compare_eq_iff_eq]
    simp only [List.mem_cons, exists_eq_or_imp]
    tauto

section Segments

variable {stop vaddrEnd fuel offset vaddr : Nat}

theorem segmentSteps_page (enough : vaddrEnd ≤ vaddr + fuel) (page : Nat) :
    (∃ step ∈ segmentSteps stop vaddrEnd fuel offset vaddr, step.page = page) ↔
      ∃ address, vaddr ≤ address ∧ address < vaddrEnd ∧ address / pageSize * pageSize = page := by
  induction fuel generalizing offset vaddr with
  | zero =>
    simp only [segmentSteps, List.not_mem_nil, false_and, exists_false, false_iff]
    omega
  | succ fuel ih =>
    by_cases more : vaddr < vaddrEnd
    · have inPage : vaddr % pageSize < pageSize := Nat.mod_lt _ (by decide)
      simp only [segmentSteps, more, if_true, List.mem_cons, exists_eq_or_imp]
      rw [ih (by omega)]
      constructor
      · rintro (here | ⟨address, above, below, later⟩)
        · exact ⟨vaddr, Nat.le_refl _, more, here⟩
        · exact ⟨address, by omega, below, later⟩
      · rintro ⟨address, above, below, rfl⟩
        by_cases first : address < vaddr + (pageSize - vaddr % pageSize)
        · left
          unfold pageSize at first ⊢
          omega
        · exact Or.inr ⟨address, by omega, below, rfl⟩
    · simp only [segmentSteps, more, if_false, List.not_mem_nil, false_and, exists_false, false_iff]
      omega

theorem segmentSteps_aligned (member : step ∈ segmentSteps stop vaddrEnd fuel offset vaddr) :
    step.page % pageSize = 0 := by
  induction fuel generalizing offset vaddr with
  | zero => cases member
  | succ fuel ih =>
    unfold segmentSteps at member
    split at member
    · rcases List.mem_cons.mp member with rfl | later
      · exact Nat.mul_mod_left ..
      · exact ih later
    · cases member

theorem image_of_done (done : stop ≤ offset) :
    (segmentSteps stop vaddrEnd fuel offset vaddr).foldl (LoadStep.image file) memory = memory := by
  have noData : ¬ offset < stop := by omega
  induction fuel generalizing vaddr with
  | zero => rfl
  | succ fuel ih =>
    simp only [segmentSteps, noData, if_false]
    split
    · exact ih
    · rfl

theorem segmentSteps_image (enough : vaddrEnd ≤ vaddr + fuel)
    (congruent : offset % pageSize = vaddr % pageSize) (short : stop - offset ≤ vaddrEnd - vaddr)
    (inside : stop ≤ file.data.length) :
    (segmentSteps stop vaddrEnd fuel offset vaddr).foldl (LoadStep.image file) memory =
      memory.store vaddr (file.part offset (stop - offset)) := by
  induction fuel generalizing offset vaddr memory with
  | zero =>
    have nothing : stop - offset = 0 := by omega
    simp [segmentSteps, ElfFile.part, nothing]
  | succ fuel ih =>
    by_cases data : offset < stop
    · have more : vaddr < vaddrEnd := by omega
      have inPage : vaddr % pageSize < pageSize := Nat.mod_lt _ (by decide)
      have place : vaddr / pageSize * pageSize + offset % pageSize = vaddr := by
        rw [congruent, Nat.div_add_mod']
      simp only [segmentSteps, more, data, if_true, List.foldl_cons, LoadStep.image, place]
      by_cases whole : stop - offset ≤ pageSize - vaddr % pageSize
      · rw [Nat.min_eq_right whole, image_of_done (by omega)]
      · rw [Nat.min_eq_left (by omega)]
        generalize length : pageSize - vaddr % pageSize = first at whole inPage ⊢
        have congruent' : (offset + first) % pageSize = (vaddr + first) % pageSize := by
          rw [Nat.add_mod, congruent, ← Nat.add_mod]
        rw [ih (by omega) congruent' (by omega)]
        have firstLength : (file.part offset first).length = first := ElfFile.length_part (by omega)
        have parts : file.part offset first ++ file.part (offset + first)
            (stop - (offset + first)) = file.part offset (stop - offset) := by
          have total : stop - offset = first + (stop - (offset + first)) := by omega
          rw [total, ElfFile.part, ElfFile.part, ElfFile.part, List.take_add, List.drop_drop]
        rw [← parts, ← Memory.store_append, firstLength]
    · have nothing : stop - offset = 0 := by omega
      rw [image_of_done (by omega), nothing]
      simp [ElfFile.part]

end Segments

def ProgramHeader.region (ph : ProgramHeader) : Region := ⟨ph.virtualAddr, ph.memSize⟩

/-- The segment is one that a linker makes: its data are in the file, no longer than the segment and
at the offset that they have in a page, and no end goes over the last address. -/
structure ProgramHeader.WellFormed (ph : ProgramHeader) (file : ElfFile) : Prop where
  short : ph.fileSize ≤ ph.memSize
  inside : ph.offset + ph.fileSize ≤ file.data.length
  fileFits : ph.offset + ph.fileSize < 2 ^ 64
  memFits : ph.virtualAddr + ph.memSize < 2 ^ 64
  congruent : ph.offset % pageSize = ph.virtualAddr % pageSize

namespace ProgramHeader.WellFormed

variable {ph : ProgramHeader}

theorem fileEnd (wellFormed : ph.WellFormed file) : ph.fileEnd = ph.offset + ph.fileSize :=
  Nat.mod_eq_of_lt wellFormed.fileFits

theorem memEnd (wellFormed : ph.WellFormed file) : ph.memEnd = ph.virtualAddr + ph.memSize :=
  Nat.mod_eq_of_lt wellFormed.memFits

theorem copiesFit (wellFormed : ph.WellFormed file) : ph.CopiesFit file := by
  have copied : ph.copied = ph.fileSize := by
    have short := wellFormed.short
    rw [ProgramHeader.copied, copiedBytes, wellFormed.fileEnd, wellFormed.memEnd]
    unfold pageSize
    split
    · omega
    · omega
  have congruent := wellFormed.congruent
  have inside := wellFormed.inside
  rw [ProgramHeader.CopiesFit, ProgramHeader.copiedFirst, copied]
  unfold pageSize at congruent ⊢
  omega

theorem good (wellFormed : ph.WellFormed file) (member : step ∈ ph.steps) : step.Good file :=
  ⟨segmentSteps_aligned member, ph.steps_bounded.mpr wellFormed.copiesFit step member⟩

theorem image (wellFormed : ph.WellFormed file) :
    ph.steps.foldl (LoadStep.image file) memory =
      memory.store ph.virtualAddr (file.part ph.offset ph.fileSize) := by
  have short := wellFormed.short
  have inside := wellFormed.inside
  rw [ProgramHeader.steps, wellFormed.fileEnd, wellFormed.memEnd,
    segmentSteps_image (by omega) wellFormed.congruent (by omega) inside, Nat.add_sub_cancel_left]

end ProgramHeader.WellFormed

theorem ElfFile.image (wellFormed : ∀ ph ∈ file.loads, ph.WellFormed file) :
    file.steps.foldl (LoadStep.image file) memory =
      memory.storeAll (file.loads.map fun ph => (ph.region.start, file.part ph.offset ph.fileSize)) := by
  unfold ElfFile.steps
  generalize file.loads = programs at wellFormed
  induction programs generalizing memory with
  | nil => rfl
  | cons ph rest ih =>
    obtain ⟨here, later⟩ := List.forall_mem_cons.mp wellFormed
    rw [List.flatMap_cons, List.foldl_append, here.image, ih later]
    rfl

def ElfFile.Touches (file : ElfFile) (page : Nat) : Prop :=
  ∃ ph ∈ file.loads, ∃ address, ph.region.Contains address ∧ address / pageSize * pageSize = page

theorem ElfFile.steps_page (wellFormed : ∀ ph ∈ file.loads, ph.WellFormed file) (page : Nat) :
    (∃ step ∈ file.steps, step.page = page) ↔ file.Touches page := by
  have each : ∀ ph ∈ file.loads, (∃ step ∈ ph.steps, step.page = page) ↔
      ∃ address, ph.region.Contains address ∧ address / pageSize * pageSize = page := by
    intro ph member
    rw [ProgramHeader.steps, segmentSteps_page (by omega), (wellFormed ph member).memEnd]
    simp only [Region.Contains, Region.stop, ProgramHeader.region, and_assoc]
  constructor
  · rintro ⟨step, member, same⟩
    obtain ⟨ph, loads, step'⟩ := List.mem_flatMap.mp member
    exact ⟨ph, loads, (each ph loads).mp ⟨step, step', same⟩⟩
  · rintro ⟨ph, loads, touched⟩
    obtain ⟨step, step', same⟩ := (each ph loads).mpr touched
    exact ⟨step, List.mem_flatMap.mpr ⟨ph, loads, step'⟩, same⟩

structure MappedOnce (self self' : Sel4Task) (start : KernelState ν) (space : ObjId) (page : Nat)
    (cap : CPtr) (state : KernelState ν) :
    Prop where
  recorded : self'.mappedPage[page]? = some cap
  entry : state.cspace cap = some (.frame cap (some (space, page)))
  shown : ∃ rights, state.pages space page = some ⟨cap, rights⟩
  fresh : start.cspace cap = none
  once : ∀ other : Nat, self'.mappedPage[other]? = some cap → other = page ∨
    self.mappedPage[other]? = some cap

/-- The task has the program: every byte of every segment, the file's or a zero, and a frame of its
own for each page that the segments touch. -/
structure ElfLoaded (file : ElfFile) (self self' : Sel4Task) (start : KernelState ν) (space : ObjId)
    (state : KernelState ν) : Prop where
  bytes : ∀ ph ∈ file.loads, ∀ index < ph.memSize,
    state.spaceByte self'.vspace (ph.virtualAddr + index) =
    some (if index < ph.fileSize then file.data[ph.offset + index]?.getD 0 else 0)
  pages : ∀ page, file.Touches page → ∃ cap, MappedOnce self self' start space page cap state
  others : ∀ page : Nat, ¬ file.Touches page → self'.mappedPage[page]? = self.mappedPage[page]?

/-- `load_elf` loads every program that a linker makes, its segments in any order and in pages that
they share; it stops only where an allocation or a mapping is refused. -/
theorem elf_loaded (homed : Homed space self.vspace state)
    (wellFormed : ∀ ph ∈ file.loads, ph.WellFormed file)
    (apart : file.loads.Pairwise fun ph ph' => ph.region.Disjoint ph'.region) :
    MemTriple (fun now => now = state) (self.loadElf platform file)
      (fun self' after => ElfLoaded file self self' state space after) Refused := by
  have nothing : ∀ page : Nat, (∅ : Std.TreeMap Nat CPtr)[page]? = none :=
    fun page => Std.TreeMap.getElem?_emptyc
  have holds : ElfHolds self state space (fun _ => 0) ∅ self state := by
    refine ⟨homed, rfl, fun _ free => free, fun page cap found => ?_, fun _ _ => rfl, fun _ _ => rfl⟩
    rw [nothing] at found
    cases found
  have good : ∀ step ∈ file.steps, step.Good file := by
    intro step member
    obtain ⟨ph, loads, member⟩ := List.mem_flatMap.mp member
    exact (wellFormed ph loads).good member
  rw [loadElf_eq]
  refine (performSteps_holds holds good).bind fun loaded => .pure ?_
  rintro after ⟨holds, keys⟩
  have loadedPage : ∀ page, file.Touches page → ∃ cap, loaded.1[page]? = some cap := by
    intro page touched
    have member : page ∈ loaded.1 := (keys page).mpr (Or.inr ((ElfFile.steps_page wellFormed page).mpr touched))
    exact Option.isSome_iff_exists.mp (Std.TreeMap.mem_iff_isSome_getElem?.mp member)
  have untouched : ∀ page, ¬ file.Touches page → loaded.1[page]? = none := by
    intro page away
    by_contra found
    have member : page ∈ loaded.1 :=
      Std.TreeMap.mem_iff_isSome_getElem?.mpr (Option.isSome_iff_ne_none.mpr found)
    rcases (keys page).mp member with never | stepped
    · exact Std.TreeMap.not_mem_emptyc never
    · exact away ((ElfFile.steps_page wellFormed page).mp stepped)
  refine ⟨fun ph member index bound => ?_, fun page touched => ?_, fun page away =>
    holds.others page (untouched page away)⟩
  · have inside : ph.region.Contains (ph.virtualAddr + index) :=
      ⟨Nat.le_add_right .., Nat.add_lt_add_left bound _⟩
    obtain ⟨cap, found⟩ := loadedPage _ ⟨ph, member, _, inside, rfl⟩
    have page := holds.pages _ cap found
    have low : (ph.virtualAddr + index) / pageSize * pageSize ≤ ph.virtualAddr + index := Nat.div_mul_le_self ..
    have high : ph.virtualAddr + index < (ph.virtualAddr + index) / pageSize * pageSize + pageSize := by
      unfold pageSize
      omega
    have short : ∀ ph ∈ file.loads, (file.part ph.offset ph.fileSize).length ≤ ph.region.length := by
      intro ph member
      rw [ElfFile.length_part (wellFormed ph member).inside]
      exact (wellFormed ph member).short
    rw [page.spaceByte holds.homed.target page.aligned low high, ElfFile.image wellFormed]
    refine congrArg some ((Memory.storeAll_segments short apart member bound).trans ?_)
    rw [ElfFile.part, List.getElem?_take]
    split
    · rw [List.getElem?_drop]
    · rfl
  · obtain ⟨cap, found⟩ := loadedPage page touched
    have page' := holds.pages page cap found
    refine ⟨cap, page'.recorded, page'.entry, page'.shown, page'.fresh, fun other same => ?_⟩
    by_cases touched' : file.Touches other
    · obtain ⟨cap', found'⟩ := loadedPage other touched'
      have other' := holds.pages other cap' found'
      obtain rfl : cap' = cap := Option.some.inj (other'.recorded.symm.trans same)
      have entries := other'.entry.symm.trans page'.entry
      exact Or.inl (by simpa using entries)
    · exact Or.inr ((holds.others other (untouched other touched')).symm.trans same)

def sharedElf : ElfFile where
  data := (List.range 32).map UInt8.ofNat
  programs := [⟨true, 16, 0x11010, 8, 0x1000⟩, ⟨false, 0, 0, 4, 4⟩, ⟨true, 0, 0x11000, 12, 12⟩]
  sections := []
  entryPoint := 0
  tbss := none

theorem elf_loaded_shared : ∃ self', returnValue (loadRun sharedElf) = some self' ∧
    ElfLoaded sharedElf plainTask self' plainWorld.memory 5 (finalState (loadRun sharedElf)).memory := by
  have returns : (returnValue (loadRun sharedElf)).isSome = true := by decide +kernel
  obtain ⟨self', returned⟩ := Option.isSome_iff_exists.mp returns
  refine ⟨self', returned, ?_⟩
  have wellFormed : ∀ ph ∈ sharedElf.loads, ph.WellFormed sharedElf := by
    simp only [ElfFile.loads, sharedElf, List.filter_cons, List.filter_nil, if_true,
      Bool.false_eq_true, if_false, List.forall_mem_cons]
    exact ⟨⟨by decide, by decide, by decide, by decide, by decide⟩,
      ⟨by decide, by decide, by decide, by decide, by decide⟩, by simp⟩
  have apart : sharedElf.loads.Pairwise fun ph ph' => ph.region.Disjoint ph'.region := by
    simp only [ElfFile.loads, sharedElf, List.filter_cons, List.filter_nil, if_true,
      Bool.false_eq_true, if_false, List.pairwise_cons, List.mem_singleton, forall_eq,
      List.not_mem_nil, false_implies, implies_true, List.Pairwise.nil, and_true]
    intro address first second
    simp only [ProgramHeader.region, Region.Contains, Region.stop] at first second
    omega
  exact (elf_loaded plainWorld_homed wellFormed apart).triple.of_run rfl (ran_of_returnValue returned)

end RootTaskDemo.Kernel
