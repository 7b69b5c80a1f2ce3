import RootTaskDemo.Kernel.MemoryCalls

namespace RootTaskDemo.Kernel

open Common Lib Thread
open Function (update_self update_of_ne)

variable {ν α : Type} {platform : Platform} {before middle after state : KernelState ν} {cap : CPtr}
  {frame space : ObjId}
  {vaddr : Nat} {own : CPtr → Prop} {written : Prop} {places places' : ObjId → Nat → Prop}
variable {memory : Memory} {slot vspace : CPtr} {type : ObjectType}
variable {mapped : Option (ObjId × Nat)} {shown : KernelState ν} {body : KernelM ν α} {base : Nat}
  {rights : CapRights}

/-! How a page of a task is filled: through the page seat, before it is mapped where
the task sees it. -/

/-- Besides what comes new, the step touches its `own` capabilities and the given places in
address spaces, and the memory of its own capabilities if they are `written`. -/
structure Touches (own : CPtr → Prop) (written : Prop) (places : ObjId → Nat → Prop)
    (before after : KernelState ν) : Prop where
  caps : ∀ slot found, ¬ own slot → before.cspace slot = some found → after.cspace slot = some found
  live : NoneFreed before after
  frames : ∀ object, (own object → ¬ written) → before.cspace object ≠ none → after.frames object =
    before.frames object
  pages : ∀ view vaddr, ¬ own view → before.cspace view = some (.vspace view) → ¬ places view vaddr →
    after.pages view vaddr = before.pages view vaddr
  tasks : after.tasks = before.tasks

namespace Touches

theorem refl (state : KernelState ν) : Touches own written places state state :=
  ⟨fun _ _ _ found => found, fun _ free => free, fun _ _ _ => rfl, fun _ _ _ _ _ => rfl, rfl⟩

theorem trans (first : Touches own written places before middle)
    (second : Touches own written places middle after) :
    Touches own written places before after := by
  refine ⟨fun slot found other held => second.caps slot found other (first.caps slot found other held),
    fun slot free => first.live slot (second.live slot free), fun object kept live =>
      ?_, fun view vaddr other root outside => ?_,
    second.tasks.trans first.tasks⟩
  · rw [second.frames object kept fun free => live (first.live object free), first.frames object kept live]
  · rw [second.pages view vaddr other (first.caps _ _ other root) outside,
      first.pages view vaddr other root outside]

theorem mono {own' : CPtr → Prop} {written' : Prop}
    (touches : Touches own written places before after) (owned : ∀ slot, own slot → own' slot)
    (more : written → written') (wider : ∀ view vaddr, places view vaddr → places' view vaddr) :
    Touches own' written' places' before after :=
  ⟨fun slot found other => touches.caps slot found fun mine => other (owned slot mine), touches.live,
    fun object kept => touches.frames object fun here now => kept (owned object here) (more now),
    fun view vaddr other root outside =>
      touches.pages view vaddr (fun mine => other (owned view mine)) root fun inside =>
      outside (wider _ _ inside), touches.tasks⟩

end Touches

/-- The capability `vspace` is to the address space of a user, which is there. -/
structure Homed (space : ObjId) (vspace : CPtr) (state : KernelState ν) : Prop where
  rooted : Rooted space state
  target : state.cspace vspace = some (.vspace space)
  user : space ≠ kernelVSpace

def OwnsFrames (own : CPtr → Prop) (state : KernelState ν) : Prop :=
  ∀ slot, own slot → ∃ frame mapped, state.cspace slot = some (.frame frame mapped)

theorem ownsFrames_single (capEq : state.cspace cap = some (.frame frame mapped)) :
    OwnsFrames (· = cap) state := by
  rintro slot rfl
  exact ⟨frame, mapped, capEq⟩

theorem OwnsFrames.root (frames : OwnsFrames own state)
    (found : state.cspace slot = some (.vspace space)) : ¬ own slot := by
  intro mine
  obtain ⟨frame, mapped, capEq⟩ := frames slot mine
  cases capEq.symm.trans found

theorem Homed.kept (homed : Homed space vspace before)
    (touches : Touches own written places before after) (frames : OwnsFrames own before) :
    Homed space vspace after :=
  ⟨⟨touches.caps _ _ (frames.root homed.rooted.kernel) homed.rooted.kernel,
    touches.caps _ _ (frames.root homed.rooted.space) homed.rooted.space⟩,
    touches.caps _ _ (frames.root homed.target) homed.target, homed.user⟩

theorem Homed.allocated (homed : Homed space vspace before)
    (allocated : Allocated type slot before after) : Homed space vspace after :=
  ⟨⟨allocated.caps homed.rooted.kernel, allocated.caps homed.rooted.space⟩,
    allocated.caps homed.target, homed.user⟩

theorem Allocated.frameEq (allocated : Allocated .granule slot before after) :
    after.cspace slot = some (.frame slot none) := by
  rw [allocated.cspace, update_self]
  rfl

theorem Allocated.zero (allocated : Allocated type slot before after) :
    after.frames slot = fun _ => 0 := by
  rw [allocated.frames, update_self]

def onlyAt (space : ObjId) (vaddr : Nat) : ObjId → Nat → Prop :=
  fun view other => view = space ∧ other = vaddr

theorem Allocated.touches (allocated : Allocated type slot before after) :
    Touches own written places before after := by
  refine ⟨fun other found _ held => allocated.caps held, fun _ => allocated.free_of_free,
    fun object _ live => ?_,
    fun view vaddr _ root _ => ?_, allocated.tasks⟩
  · have different : object ≠ slot := by
      rintro rfl
      exact live allocated.free
    rw [allocated.frames, update_of_ne different]
  · unfold KernelState.pages
    rw [allocated.vspaces, update_of_ne (allocated.ne root)]

theorem MapsPage.touches {page : CPtr} (maps : MapsPage page vspace vaddr rights before after)
    (target : before.cspace vspace = some (.vspace space)) :
    Touches (· = page) False (onlyAt space vaddr) before after := by
  obtain ⟨object, view, mapped, viewEq, pageEq, -, rfl⟩ := maps
  obtain rfl : view = space := by
    rw [target] at viewEq
    cases viewEq
    rfl
  refine ⟨fun slot found other held => (update_of_ne other ..).trans held, fun slot => free_of_update,
    fun _ _ _ => rfl, fun other address _ _ outside => ?_, rfl⟩
  rw [pages_setCap]
  by_cases here : other = view
  · subst here
    rw [pages_setPage_self, update_of_ne fun same => outside ⟨rfl, same⟩]
  · rw [pages_setPage_of_ne _ here]

theorem tableAdded_touches {pt : CPtr} {object : ObjId} {level span : Nat}
    (allocated : Allocated .pageTable pt before middle) :
    Touches own False places before
      ((middle.setTable space level span).setCap pt (some (.pageTable object (some (space, level, span))))) := by
  have first : Touches own False places before middle := allocated.touches
  refine ⟨fun slot found _ held => ?_, fun slot free => first.live slot (free_of_update free),
    first.frames,
    fun view address other root outside => ?_, first.tasks⟩
  · exact (update_of_ne (allocated.ne held) ..).trans (allocated.caps held)
  · rw [pages_setCap, pages_setTable]
    exact first.pages view address other root outside

theorem mapPageLoop_touches (vaddr : Nat) (page : CPtr) (tries : Nat) (self : Sel4Task)
    (target : state.cspace self.vspace = some (.vspace space)) (apart : self.vspace ≠ page) :
    Yields state (Sel4Task.mapPageLoop platform vaddr page tries self)
      fun _ after => Touches (· = page) False (onlyAt space vaddr) state after := by
  induction tries generalizing self state with
  | zero =>
    refine .pure fun now same => ?_
    rw [same]
    exact Touches.refl state
  | succ tries ih =>
    refine (frameMap_spec state page self.vspace vaddr .all).bind fun result => .fixed fun now spec => ?_
    cases result with
    | ok _ =>
      refine .pure fun after same => ?_
      rw [same]
      exact MapsPage.touches spec target
    | error error =>
      obtain rfl : now = state := spec
      cases error with
      | failedLookup =>
        refine (allocate_spec now .pageTable).bind fun pt => .fixed fun extended allocated => ?_
        refine (unwrapped_spec (ptMap_spec extended pt self.vspace vaddr) fun _ => trivial).bind fun _ => .fixed ?_
        rintro tabled ⟨object, view, level, -, -, -, rfl⟩
        have added : Touches (· = page) False (onlyAt space vaddr) now
            ((extended.setTable view level (vaddr >>> platform.spanBits level)).setCap pt
              (some (.pageTable object (some (view, level, vaddr >>> platform.spanBits level))))) :=
          tableAdded_touches allocated
        exact (ih { self with mappedPt := self.mappedPt ++ [pt] } (added.caps _ _ apart target) apart).partly
          fun _ _ later => added.trans later
      | _ => exact .stop fun _ _ => trivial

structure MappedAt (space : ObjId) (vaddr : Nat) (cap : CPtr) (frame : ObjId)
    (before after : KernelState ν) : Prop where
  touches : Touches (· = cap) False (onlyAt space vaddr) before after
  entry : after.cspace cap = some (.frame frame (some (space, vaddr)))
  shown : ∃ rights, after.pages space vaddr = some ⟨frame, rights⟩

theorem mapPage_mapsAt (self : Sel4Task) (homed : Homed space self.vspace state)
    (capEq : state.cspace cap = some (.frame frame mapped)) :
    Yields state (self.mapPage platform vaddr cap)
      fun self' after => MappedAt space vaddr cap frame state after ∧ self'.mappedPage =
        self.mappedPage.insert vaddr cap ∧
        self'.vspace = self.vspace := by
  have target := homed.target
  have apart : self.vspace ≠ cap := by
    intro same
    cases capEq.symm.trans (same ▸ target)
  have touched : Yields state (self.mapPage platform vaddr cap)
      fun _ after => Touches (· = cap) False (onlyAt space vaddr) state after := by
    unfold Sel4Task.mapPage
    split
    · exact .stop fun _ _ => trivial
    · exact mapPageLoop_touches vaddr cap _ self target apart
  have steady : Evolves (Steady False) (self.mapPage platform vaddr cap : KernelM ν _) :=
    mapPage_steady self vaddr cap
  refine ((touched.also (steady state)).also
    (mapPage_spec True self vaddr cap state homed.rooted target)).partly ?_
  rintro self' after ⟨⟨touches, steady⟩,
    ⟨middle, rights, kept, -, object, view, _, viewEq, -, -, rfl⟩, pts, rfl, -⟩
  obtain rfl : view = space := by
    rw [kept.caps _ _ target trivial] at viewEq
    cases viewEq
    rfl
  have entry : ((middle.setPage view vaddr (some ⟨object, rights⟩)).setCap cap
    (some (.frame object (some (view, vaddr))))).cspace
      cap = some (.frame object (some (view, vaddr))) := update_self ..
  obtain rfl : object = frame :=
    Option.some.inj ((frameOf_frame entry).symm.trans (steady.frames cap frame (frameOf_frame capEq)))
  refine ⟨⟨touches, entry, rights, ?_⟩, rfl, rfl⟩
  rw [pages_setCap, pages_setPage_self, update_self]

theorem frameMap_maps (target : state.cspace vspace = some (.vspace space))
    (capEq : state.cspace cap = some (.frame frame none)) (aligned : vaddr % pageSize = 0) :
    RunFrom state (unwrapped (frameMap platform cap vspace vaddr rights))
      (fun _ after => after = (state.setPage space vaddr (some ⟨frame, rights⟩)).setCap cap
        (some (.frame frame (some (space, vaddr))))) Refused := by
  refine unwrapped_refused (.read_bind ?_)
  rintro state rfl
  rw [capEq, target]
  simp only [Option.any_none, Bool.false_eq_true, if_false, aligned, ne_eq, not_true_eq_false]
  split
  · exact .pure fun _ _ => by simp
  · split
    · exact .pure fun _ _ => by simp
    · exact .update_bind (.pure fun _ same => same)

def KernelState.fill (platform : Platform) (state : KernelState ν) (cap : CPtr) (frame : ObjId)
    (page : Memory) : KernelState ν :=
  ((state.setPage kernelVSpace platform.pageSeat none).setCap cap
    (some (.frame frame none))).setFrame frame page

@[simp] theorem cspace_fill_self (page : Memory) :
    (state.fill platform cap frame page).cspace cap = some (.frame frame none) :=
  update_self ..

@[simp] theorem frames_fill_self (page : Memory) :
    (state.fill platform cap frame page).frames frame = page :=
  update_self ..

theorem fill_closes (frame : ObjId) (page : Memory) :
    (((state.showAtSeat platform cap frame).setFrame frame page).unmapFrame frame
      (some (kernelVSpace, platform.pageSeat))).setCap
      cap (some (.frame frame none)) = state.fill platform cap frame page := by
  simp only [KernelState.unmapFrame, KernelState.showAtSeat, KernelState.setCap,
    KernelState.setPage, KernelState.setFrame, KernelState.changeSpace, KernelState.pages,
    KernelState.fill, Function.update_idem, update_self, Option.any_some, decide_true, if_true]

theorem withSeat_fills {filled : α → Memory → Prop}
    (kernel : state.cspace kernelVSpace = some (.vspace kernelVSpace))
    (capEq : state.cspace cap = some (.frame frame none))
    (fills : ∀ shown : KernelState ν, Shows platform frame shown → shown.frames = state.frames →
      RunFrom shown body (fun value after => ∃ page, after = shown.setFrame frame page ∧
      filled value page) Refused) :
    RunFrom state (withSeat platform cap platform.pageSeat body)
      (fun value after => ∃ page, after = state.fill platform cap frame page ∧ filled value page) Refused := by
  refine (frameMap_maps kernel capEq platform.pageSeat_aligned).bind fun _ => ?_
  refine (fills (state.showAtSeat platform cap frame) (showAtSeat_shows _ _ _) rfl).bind
    fun value => .fixed ?_
  rintro _ ⟨page, rfl, good⟩
  have mappedEq : ((state.showAtSeat platform cap frame).setFrame frame page).cspace cap =
      some (.frame frame (some (kernelVSpace, platform.pageSeat))) := update_self ..
  refine (frameUnmap_returns mappedEq).raising.bind fun _ => .pure ?_
  rintro _ rfl
  exact ⟨page, fill_closes frame page, good⟩

theorem fill_touches (page : Memory) :
    Touches (· = cap) True (onlyAt kernelVSpace platform.pageSeat) state (state.fill platform cap cap page) := by
  refine ⟨fun slot found other held => (update_of_ne other ..).trans held, fun slot => free_of_update,
    fun object other _ => update_of_ne (fun here => other here trivial) ..,
      fun view address _ _ outside => ?_, rfl⟩
  have pagesEq : (state.fill platform cap cap page).pages =
    (state.setPage kernelVSpace platform.pageSeat none).pages := rfl
  rw [pagesEq]
  by_cases here : view = kernelVSpace
  · subst here
    rw [pages_setPage_self, update_of_ne fun same => outside ⟨rfl, same⟩]
  · rw [pages_setPage_of_ne _ here]

/-- The frame that is shown at the seat holds the page at `base` of a larger memory;
nothing else is different. -/
def Painted (shown : KernelState ν) (frame : ObjId) (base : Nat) (memory : Memory)
    (now : KernelState ν) : Prop :=
  ∃ page, now = shown.setFrame frame page ∧ page.Agrees memory base pageSize

theorem storeBytes_paints (showing : Shows platform frame shown) {offset : Nat}
    {bytes : List UInt8} (inside : offset + bytes.length ≤ pageSize) :
    MemTriple (Painted shown frame base memory) (storeBytes platform (platform.pageSeat + offset) bytes)
      (fun _ => Painted shown frame base (memory.store (base + offset) bytes)) (fun _ => False) := by
  refine .fixed ?_
  rintro _ ⟨page, rfl, agrees⟩
  have still : Shows platform frame (shown.setFrame frame page) := showing
  refine (storeBytes_seat still inside).mono ?_
  rintro _ _ rfl
  have stored : Memory.Agrees (page.store (base + offset - base) bytes) _ base pageSize :=
    agrees.store (Nat.le_add_right ..)
  rw [Nat.add_sub_cancel_left] at stored
  refine ⟨page.store offset bytes, ?_, stored⟩
  simp only [KernelState.setFrame, update_self, Function.update_idem]

theorem Painted.start (agrees : (shown.frames frame).Agrees memory base pageSize) :
    Painted shown frame base memory shown := by
  refine ⟨shown.frames frame, ?_, agrees⟩
  rw [KernelState.setFrame, Function.update_eq_self]

theorem withSeat_paints {memory' : Memory} {good : α → Prop}
    (kernel : state.cspace kernelVSpace = some (.vspace kernelVSpace))
    (capEq : state.cspace cap = some (.frame frame none))
    (agrees : (state.frames frame).Agrees memory base pageSize)
    (paints : ∀ shown : KernelState ν, Shows platform frame shown →
      MemTriple (Painted shown frame base memory) body
      (fun value after => good value ∧ Painted shown frame base memory' after) Refused) :
    RunFrom state (withSeat platform cap platform.pageSeat body)
      (fun value after => good value ∧ ∃ page, Memory.Agrees page memory' base pageSize ∧
        after = state.fill platform cap frame page) Refused := by
  have fills : RunFrom state (withSeat platform cap platform.pageSeat body)
      (fun value after => ∃ page, after = state.fill platform cap frame page ∧ good value ∧
        Memory.Agrees page memory' base pageSize) Refused := by
    refine withSeat_fills kernel capEq fun shown showing frames => ?_
    refine ((paints shown showing).startingAt (Painted.start (frames ▸ agrees))).mono ?_
    rintro value after ⟨returned, page, same, agrees⟩
    exact ⟨page, same, returned, agrees⟩
  refine fills.mono ?_
  rintro value after ⟨page, same, returned, agrees⟩
  exact ⟨returned, page, agrees, same⟩

/-- The byte that an address space has at an address. -/
def KernelState.spaceByte (state : KernelState ν) (vspace : CPtr) (address : Nat) : Option UInt8 := do
  let frame ← state.frameAt vspace (address / pageSize * pageSize)
  return state.frames frame (address % pageSize)

/-- A page of an address space holds its part of a larger memory, under the
capability that is recorded for it. -/
structure PageHolds (space : ObjId) (memory : Memory) (vaddr : Nat) (cap : CPtr)
    (state : KernelState ν) : Prop where
  entry : state.cspace cap = some (.frame cap (some (space, vaddr)))
  shown : ∃ rights, state.pages space vaddr = some ⟨cap, rights⟩
  content : (state.frames cap).Agrees memory vaddr pageSize

theorem MappedAt.pageHolds (mapped : MappedAt space vaddr cap cap before after)
    (capEq : ∃ place, before.cspace cap = some (.frame cap place))
    (agrees : (before.frames cap).Agrees memory vaddr pageSize) :
    PageHolds space memory vaddr cap after := by
  obtain ⟨place, capEq⟩ := capEq
  refine ⟨mapped.entry, mapped.shown, ?_⟩
  rw [mapped.touches.frames cap (fun _ => id) (by simp [capEq])]
  exact agrees

theorem mapPage_holds (self : Sel4Task) (homed : Homed space self.vspace state)
    (aligned : vaddr % pageSize = 0) (capEq : state.cspace cap = some (.frame cap none))
    (agrees : (state.frames cap).Agrees memory vaddr pageSize) :
    RunFrom state (self.mapPage platform vaddr cap)
      (fun self' after => PageHolds space memory vaddr cap after ∧
        Touches (· = cap) False (onlyAt space vaddr) state after ∧
        Homed space self.vspace after ∧ self'.mappedPage = self.mappedPage.insert vaddr cap ∧ self'.vspace = self.vspace)
      Refused := by
  have mappable : Mappable self cap state := ⟨⟨space, homed.target, homed.rooted.space⟩, cap, capEq⟩
  refine ((mapPage_refused mappable aligned).also (mapPage_mapsAt self homed capEq)).mono ?_
  rintro self' after ⟨-, mapped, records, vspace⟩
  exact ⟨mapped.pageHolds ⟨_, capEq⟩ agrees, mapped.touches,
    homed.kept mapped.touches (ownsFrames_single capEq), records, vspace⟩

theorem PageHolds.kept {page : CPtr} (holds : PageHolds space memory vaddr page before)
    (touches : Touches own written places before after) (other : ¬ own page)
    (root : before.cspace space = some (.vspace space)) (view : ¬ own space)
    (outside : ¬ places space vaddr) : PageHolds space memory vaddr page after := by
  have live : before.cspace page ≠ none := by simp [holds.entry]
  refine ⟨touches.caps _ _ other holds.entry, ?_, ?_⟩
  · rw [touches.pages space vaddr view root outside]
    exact holds.shown
  · rw [touches.frames page (fun mine => absurd mine other) live]
    exact holds.content

theorem PageHolds.spaceByte {address : Nat} (holds : PageHolds space memory vaddr cap state)
    (target : state.cspace vspace = some (.vspace space)) (aligned : vaddr % pageSize = 0)
    (above : vaddr ≤ address) (below : address < vaddr + pageSize) :
    state.spaceByte vspace address = some (memory address) := by
  obtain ⟨rights, shown⟩ := holds.shown
  have page : address / pageSize * pageSize = vaddr := by
    unfold pageSize at aligned below ⊢
    omega
  have offset : address % pageSize = address - vaddr := by
    unfold pageSize at aligned below ⊢
    omega
  have inside : address - vaddr < pageSize := by omega
  have frameEq : state.frameAt vspace vaddr = some cap := by
    simp only [KernelState.frameAt, target, shown, Option.map_some]
  have byteEq := holds.content (address - vaddr) inside
  rw [Nat.add_sub_cancel' above] at byteEq
  rw [KernelState.spaceByte, page, frameEq, offset]
  exact congrArg some byteEq

def plainTask : Sel4Task :=
  { pid := 0, id := 1, tcb := 7, cnode := 8, vspace := 5, mappedPt := [], mappedPage := ∅,
    heap := 0, exit := none,
    clearChildTid := none }

def plainWorld : World Lock (List UInt64) (KernelState Unit) :=
  { KernelWorld.boot () with memory := (KernelState.boot ()).setCap 5 (some (.vspace 5)) }

theorem plainWorld_homed : Homed 5 plainTask.vspace plainWorld.memory := ⟨⟨rfl, rfl⟩, rfl, by decide⟩

end RootTaskDemo.Kernel
