import RootTaskDemo.Kernel.Cloning
import RootTaskDemo.Kernel.Filling
import RootTaskDemo.Kernel.Main

namespace RootTaskDemo.Kernel

open Common Lib Thread
open Function (update_self update_of_ne)

variable {ν α β : Type} {platform : Platform} {badge : Nat}
  {before after state start : KernelState ν} {space : ObjId}
  {new cap : CPtr} {frame : ObjId}
variable {mapped : Option (ObjId × Nat)} {done : List (Nat × CPtr)}

/-! What `sys_clone` does up to the address space of the new task, and the copy of the
memory of the parent that a fork makes. -/

/-- What a clone call has read before it makes a task. -/
structure CloneCall where
  parent : Sel4Task
  args : CloneArgs
  flags : Nat

def cloneStart (platform : Platform) (decode : List UInt8 → CloneArgs) (badge cloneArgs : Nat) :
    KernelM ν (Except Errno CloneCall) := do
  let task ← taskOf badge
  if cloneArgs = 0 then return .error .einval
  else match ← readItem platform cloneArgsSize task cloneArgs with
    | .error error => return .error error
    | .ok bytes =>
      match fromBits cloneFlagsAll (decode bytes).flags with
      | none => return .error .einval
      | some flags => return .ok ⟨task, decode bytes, flags⟩

/-- The `?` of the source. -/
def onward (next : β → KernelM ν (Except Errno α)) : Except Errno β → KernelM ν (Except Errno α)
  | .error error => return .error error
  | .ok value => next value

def cloneToSpace (platform : Platform) (decode : List UInt8 → CloneArgs) (badge cloneArgs : Nat) :
    KernelM ν (Except Errno (CloneCall × Sel4Task)) :=
  cloneStart platform decode badge cloneArgs >>= onward fun call => do
    let draft ← cloneDraft platform call.parent call.flags
    return .ok (call, draft)

theorem sysClone_start (decode : List UInt8 → CloneArgs) (outcome : CloneOutcome)
    (badge cloneArgs : Nat) :
    (sysClone platform decode outcome badge cloneArgs : KernelM ν _) =
      locked .taskMap (cloneStart platform decode badge cloneArgs >>= onward fun call =>
        cloneTask platform outcome call.parent call.args call.flags) := by
  unfold sysClone cloneStart
  refine congrArg (locked Lock.taskMap) ?_
  rw [bind_assoc]
  refine congrArg (taskOf badge >>= ·) (funext fun task => ?_)
  by_cases absent : cloneArgs = 0
  · simp only [absent, if_true, pure_bind, onward]
  · simp only [absent, if_false, bind_assoc]
    refine congrArg (readItem platform cloneArgsSize task cloneArgs >>= ·) (funext fun item => ?_)
    cases item with
    | error error => simp only [pure_bind, onward]
    | ok bytes =>
      simp only
      cases fromBits cloneFlagsAll (decode bytes).flags with
      | none => simp only [pure_bind, onward]
      | some flags => simp only [pure_bind, onward]

theorem sysClone_eq {outcome : CloneOutcome} (mint : outcome.mint = true)
    (decode : List UInt8 → CloneArgs) (badge cloneArgs : Nat) :
    (sysClone platform decode outcome badge cloneArgs : KernelM ν _) =
      locked .taskMap (cloneToSpace platform decode badge cloneArgs >>= onward fun made =>
        cloneFinish platform outcome made.1.parent made.1.args made.2) := by
  rw [sysClone_start, cloneToSpace, bind_assoc]
  refine congrArg (fun next =>
    locked Lock.taskMap (cloneStart platform decode badge cloneArgs >>= next))
    (funext fun result => ?_)
  cases result with
  | error error => simp only [pure_bind, onward]
  | ok call => simp only [pure_bind, onward, cloneTask_eq mint, bind_assoc]

def KernelState.copiedPage (state : KernelState ν) (new : CPtr) (frame : ObjId) : Memory :=
  (state.frames new).store 0 ((state.frames frame).load 0 pageSize)

structure PageCopied (platform : Platform) (new : CPtr) (frame : ObjId)
    (before after : KernelState ν) : Prop where
  free : before.cspace tempSlot = none
  cspace : after.cspace = before.cspace
  frames : after.frames = Function.update before.frames new (before.copiedPage new frame)
  pages : ∀ view, view ≠ kernelVSpace → after.pages view = before.pages view
  seat : after.pages kernelVSpace platform.pageSeat = none
  extSeat : after.pages kernelVSpace platform.extPageSeat = none
  tasks : after.tasks = before.tasks

theorem copyBytes_seats (aligned : platform.extPageSeat % pageSize = 0)
    (source : Shows platform frame state)
    (target : (state.pages kernelVSpace platform.extPageSeat).map Mapping.frame = some new) :
    Delivers state (copyBytes platform platform.pageSeat platform.extPageSeat pageSize)
      fun _ after => after = state.setFrame new (state.copiedPage new frame) := by
  have loaded : Delivers state (loadBytes platform (platform.pageSeat + 0) pageSize)
      fun bytes now => now = state ∧ bytes = (state.frames frame).load 0 pageSize :=
    loadBytes_seat source (Nat.le_of_eq (Nat.zero_add _))
  have seated : isSeat platform platform.extPageSeat = true := by
    have start := (seat_page aligned (by decide : 0 < pageSize)).1
    rw [Nat.add_zero] at start
    simp [isSeat, start]
  have length : 0 + ((state.frames frame).load 0 pageSize).length ≤ pageSize := by
    rw [Memory.length_load, Nat.zero_add]
  have stored : Delivers state
      (storeBytes platform (platform.extPageSeat + 0) ((state.frames frame).load 0 pageSize))
      fun _ after => after = state.setFrame new ((state.frames new).store 0 ((state.frames frame).load 0 pageSize)) :=
    storeBytes_shown seated aligned target length
  rw [Nat.add_zero] at loaded stored
  unfold copyBytes
  refine loaded.bind fun bytes => .fixed fun now read => ?_
  rw [read.1, read.2]
  exact stored

theorem cnodeCopy_frame {dest : CPtr} (source : state.cspace cap = some (.frame frame mapped)) :
    Yields state (cnodeCopy dest cap)
      fun result after => ∀ value, result = .ok value → state.cspace dest = none ∧
        after = state.setCap dest (some (.frame frame none)) := by
  refine .read_bind ?_
  rintro state rfl
  cases free : state.cspace dest with
  | some taken => exact .pure fun _ _ _ => nofun
  | none =>
    rw [source]
    refine .update_bind (.pure ?_)
    rintro _ rfl _ _
    exact ⟨rfl, rfl⟩

theorem withPage_copies (aligned : platform.extPageSeat % pageSize = 0)
    (kernel : state.cspace kernelVSpace = some (.vspace kernelVSpace))
    (source : state.cspace cap = some (.frame frame mapped))
    (target : (state.pages kernelVSpace platform.extPageSeat).map Mapping.frame = some new) :
    Yields state
      (withPage platform cap (copyBytes platform platform.pageSeat platform.extPageSeat pageSize))
      fun _ after => state.cspace tempSlot = none ∧
        after = (state.setFrame new (state.copiedPage new frame)).setPage kernelVSpace platform.pageSeat none := by
  refine (unwrapped_spec (cnodeCopy_frame source) fun _ => trivial).bind fun _ => .fixed ?_
  rintro _ ⟨free, rfl⟩
  have apart : kernelVSpace ≠ tempSlot := by decide
  have kernel' : (state.setCap tempSlot (some (.frame frame none))).cspace kernelVSpace =
      some (.vspace kernelVSpace) := by
    rw [cspace_setCap, update_of_ne apart, kernel]
  have copy : (state.setCap tempSlot (some (.frame frame none))).cspace tempSlot = some (.frame frame none) := by
    rw [cspace_setCap, update_self]
  have copied : Delivers ((state.setCap tempSlot (some (.frame frame none))).showAtSeat platform
    tempSlot frame)
      (copyBytes platform platform.pageSeat platform.extPageSeat pageSize)
      fun _ after => after = ((state.setFrame new (state.copiedPage new frame)).setCap tempSlot
        (some (.frame frame none))).showAtSeat
        platform tempSlot frame := by
    refine copyBytes_seats aligned (showAtSeat_shows _ _ _) ?_
    rw [KernelState.showAtSeat, pages_setCap, pages_setPage_self,
      update_of_ne (Ne.symm platform.seats_differ)]
    exact target
  have seated : Yields (state.setCap tempSlot (some (.frame frame none)))
      (withSeat platform tempSlot platform.pageSeat (copyBytes platform platform.pageSeat platform.extPageSeat pageSize))
      fun _ after => after = ((((state.setFrame new (state.copiedPage new frame)).setCap tempSlot
        (some (.frame frame none))).showAtSeat platform tempSlot frame).unmapFrame frame
          (some (kernelVSpace, platform.pageSeat))).setCap
          tempSlot (some (.frame frame none)) := by
    refine ((frameMap_maps kernel' copy platform.pageSeat_aligned).partly fun _ _ same => same).bind fun _ => ?_
    refine copied.raising.bind fun _ => .fixed ?_
    rintro _ rfl
    refine (frameUnmap_returns (by
      rw [KernelState.showAtSeat, cspace_setCap, update_self])).raising.bind fun _ => .pure ?_
    rintro _ rfl
    rfl
  have free' : (state.setFrame new (state.copiedPage new frame)).cspace tempSlot = none := free
  refine seated.bind fun _ => .fixed ?_
  rintro _ rfl
  refine (cnodeDelete_unmapped (by rw [cspace_setCap, update_self])).bind fun _ => .pure ?_
  rintro _ rfl
  exact ⟨free, showAtSeat_closed free' frame⟩

def KernelState.showAtExt (platform : Platform) (state : KernelState ν) (new : CPtr) : KernelState ν :=
  (state.setPage kernelVSpace platform.extPageSeat (some ⟨new, .all⟩)).setCap new
    (some (.frame new (some (kernelVSpace, platform.extPageSeat))))

theorem clonePage_copies (kernel : state.cspace kernelVSpace = some (.vspace kernelVSpace))
    (entry : state.cspace new = some (.frame new none))
    (source : state.cspace cap = some (.frame frame mapped)) (other : cap ≠ new) :
    Yields state (clonePage platform new cap) fun _ after => PageCopied platform new frame state after := by
  by_cases aligned : platform.extPageSeat % pageSize = 0
  swap
  · exact (frameMap_aligned state _ _ _ aligned).bind fun _ => .fixed fun _ never => never.elim
  have kernelOther : kernelVSpace ≠ new := by
    rintro rfl
    cases kernel.symm.trans entry
  have shows : Yields state (unwrapped (frameMap platform new kernelVSpace platform.extPageSeat .all))
      fun _ after => after = state.showAtExt platform new :=
    (frameMap_maps kernel entry aligned).partly fun _ _ same => same
  have kernel' : (state.showAtExt platform new).cspace kernelVSpace = some (.vspace kernelVSpace) :=
    (update_of_ne kernelOther ..).trans kernel
  have source' : (state.showAtExt platform new).cspace cap = some (.frame frame mapped) :=
    (update_of_ne other ..).trans source
  have target : ((state.showAtExt platform new).pages kernelVSpace platform.extPageSeat).map
      Mapping.frame = some new := by
    rw [KernelState.showAtExt, pages_setCap, pages_setPage_self, update_self]
    rfl
  refine shows.bind fun _ => (withPage_copies aligned kernel' source' target).bind fun _ => .fixed ?_
  rintro _ ⟨free, rfl⟩
  refine (frameUnmap_returns (update_self ..)).raising.bind fun _ => .pure ?_
  rintro _ rfl
  have shownStill : (((state.showAtExt platform new).setFrame new
    ((state.showAtExt platform new).copiedPage new frame)).setPage
      kernelVSpace platform.pageSeat none).pages kernelVSpace platform.extPageSeat = some ⟨new, .all⟩ := by
    rw [pages_setPage_self, update_of_ne (Ne.symm platform.seats_differ)]
    show (state.showAtExt platform new).pages kernelVSpace platform.extPageSeat = _
    rw [KernelState.showAtExt, pages_setCap, pages_setPage_self, update_self]
  have cleared : ∀ shown : KernelState ν, shown.pages kernelVSpace platform.extPageSeat =
    some ⟨new, .all⟩ →
      shown.unmapFrame new (some (kernelVSpace, platform.extPageSeat)) =
        shown.setPage kernelVSpace platform.extPageSeat none := by
    intro shown here
    simp [KernelState.unmapFrame, here]
  rw [cleared _ shownStill]
  refine ⟨?_, ?_, rfl, fun view user => ?_, ?_, ?_, rfl⟩
  · by_cases same : tempSlot = new
    · rw [same] at free
      cases (update_self ..).symm.trans free
    · exact (update_of_ne same ..).symm.trans free
  · show Function.update (Function.update state.cspace new _) new _ = state.cspace
    rw [Function.update_idem, Function.update_eq_self_iff]
    exact entry.symm
  · rw [pages_setCap, pages_setPage_of_ne _ user, pages_setPage_of_ne _ user]
    exact pages_setPage_of_ne _ user ..
  · rw [pages_setCap, pages_setPage_self, update_of_ne platform.seats_differ,
      pages_setPage_self, update_self]
  · rw [pages_setCap, pages_setPage_self, update_self]

theorem PageCopied.touches (copied : PageCopied platform new frame before after) :
    Touches (· = new) True (fun view _ => view = kernelVSpace) before after := by
  refine ⟨fun slot found _ held => ?_, fun slot free => ?_, fun object kept _ =>
    ?_, fun view vaddr _ _ user => ?_, copied.tasks⟩
  · rw [copied.cspace]
    exact held
  · rwa [copied.cspace] at free
  · rw [copied.frames, update_of_ne fun same => kept same trivial]
  · rw [copied.pages view user]

theorem Touches.fresh {written : Prop} {places : ObjId → Nat → Prop}
    (touches : Touches (· = new) written places before after) (free : before.cspace new = none) :
    Touches (fun _ => False) False places before after := by
  have other : ∀ slot, before.cspace slot ≠ none → slot ≠ new := by
    rintro slot live rfl
    exact live free
  refine ⟨fun slot found _ held => touches.caps slot found (other slot (by simp [held])) held,
    touches.live,
    fun object _ live => touches.frames object (fun same => absurd same (other object live)) live,
    fun view vaddr _ root outside => touches.pages view vaddr (other view (by simp [root])) root
      outside, touches.tasks⟩

def pageAt (vaddr : Nat) (page : Memory) : Memory := fun address => page (address - vaddr)

theorem pageAt_agrees {vaddr size : Nat} {page page' : Memory}
    (same : ∀ offset < size, page offset = page' offset) :
    page.Agrees (pageAt vaddr page') vaddr size := by
  intro offset inside
  rw [same offset inside, pageAt, Nat.add_sub_cancel_left]

/-- The pages that are copied so far are in the new address space, each in a new frame; nothing of
what there was at the start has changed. -/
structure ForkHolds (platform : Platform) (start : KernelState ν) (space : ObjId)
    (done : List (Nat × CPtr)) (dst : Sel4Task) (state : KernelState ν) : Prop where
  homed : Homed space dst.vspace state
  fresh : start.cspace space = none
  touches : Touches (fun _ => False) False (fun view _ => view = kernelVSpace ∨ view = space) start state
  pages : ∀ vaddr src, (vaddr, src) ∈ done → ∃ cap, dst.mappedPage[vaddr]? = some cap ∧
    start.cspace cap = none ∧
    PageHolds space (pageAt vaddr (start.frames src)) vaddr cap state
  keys : ∀ vaddr, vaddr ∈ dst.mappedPage ↔ vaddr ∈ done.map Prod.fst
  seat : done ≠ [] → state.pages kernelVSpace platform.pageSeat = none
  extSeat : done ≠ [] → state.pages kernelVSpace platform.extPageSeat = none

theorem ForkHolds.source {dst : Sel4Task} (holds : ForkHolds platform start space done dst state)
    (recorded : start.cspace cap = some (.frame cap mapped)) :
    state.cspace cap = some (.frame cap mapped) ∧ state.frames cap = start.frames cap :=
  ⟨holds.touches.caps _ _ id recorded, holds.touches.frames cap (fun never => never.elim)
    (by simp [recorded])⟩

theorem forkPage_holds {dst : Sel4Task} {vaddr : Nat}
    (holds : ForkHolds platform start space done dst state)
    (recorded : start.cspace cap = some (.frame cap mapped)) (absent : vaddr ∉ done.map Prod.fst) :
    Yields state
      (do
        let newPageCap ← allocate platform .granule
        clonePage platform newPageCap cap
        dst.mapPage platform vaddr newPageCap)
      fun dst' after => ForkHolds platform start space (done ++ [(vaddr, cap)]) dst' after := by
  obtain ⟨capEq, content⟩ := holds.source recorded
  refine (allocate_spec state .granule).bind fun new => .fixed fun extended allocated => ?_
  have homed := holds.homed.allocated allocated
  have other : cap ≠ new := allocated.ne capEq
  refine (clonePage_copies homed.rooted.kernel allocated.frameEq (allocated.caps capEq) other).bind
    fun _ => .fixed ?_
  intro filled copied
  have entry : filled.cspace new = some (.frame new none) := copied.cspace ▸ allocated.frameEq
  have bytes : ∀ offset < pageSize, filled.frames new offset = start.frames cap offset := by
    intro offset inside
    have sameSource : extended.frames cap = start.frames cap := by
      rw [allocated.frames, update_of_ne other, content]
    have stored : (extended.frames new).store 0 ((extended.frames cap).load 0 pageSize)
      (0 + offset) = extended.frames cap (0 + offset) :=
      Memory.store_load inside
    rw [Nat.zero_add] at stored
    rw [copied.frames, update_self, KernelState.copiedPage, stored, sameSource]
  refine (mapPage_mapsAt dst (homed.kept copied.touches (ownsFrames_single allocated.frameEq))
    entry).partly ?_
  rintro dst' after ⟨mappedAt, records, vspace⟩
  have homed' := (homed.kept copied.touches (ownsFrames_single allocated.frameEq)).kept
    mappedAt.touches (ownsFrames_single entry)
  have all : Touches (· = new) True (fun view address => view = kernelVSpace ∨
    onlyAt space vaddr view address) state after :=
    (allocated.touches.trans (copied.touches.mono (fun _ => id) id fun _ _ => Or.inl)).trans
      (mappedAt.touches.mono (fun _ => id) False.elim fun _ _ => Or.inr)
  have step := all.fresh allocated.free
  have kernelOther : kernelVSpace ≠ new := by
    rintro rfl
    cases homed.rooted.kernel.symm.trans allocated.frameEq
  have kernelPages : ∀ seat, after.pages kernelVSpace seat = filled.pages kernelVSpace seat :=
    fun seat =>
    mappedAt.touches.pages kernelVSpace seat kernelOther (copied.cspace ▸ homed.rooted.kernel)
      fun here => homed.user here.1.symm
  refine ⟨vspace ▸ homed', holds.fresh, holds.touches.trans (step.mono (fun _ => id) id ?_),
    fun other src member => ?_, fun other => ?_,
    fun _ => (kernelPages _).trans copied.seat, fun _ => (kernelPages _).trans copied.extSeat⟩
  · rintro view address (kernel | ⟨here, -⟩)
    exacts [Or.inl kernel, Or.inr here]
  · rw [records]
    rcases List.mem_append.mp member with earlier | here
    · have different : vaddr ≠ other := by
        rintro rfl
        exact absent (List.mem_map_of_mem earlier)
      obtain ⟨page, recorded, free, pageHolds⟩ := holds.pages other src earlier
      refine ⟨page, ?_, free, pageHolds.kept step id holds.homed.rooted.space id ?_⟩
      · rw [Std.TreeMap.getElem?_insert, if_neg fun same => different (compare_eq_iff_eq.mp same)]
        exact recorded
      · rintro (kernel | ⟨-, same⟩)
        exacts [holds.homed.user kernel, different same.symm]
    · obtain ⟨rfl, rfl⟩ : other = vaddr ∧ src = cap := by simpa using here
      exact ⟨new, Std.TreeMap.getElem?_insert_self, holds.touches.live new allocated.free,
        mappedAt.pageHolds ⟨none, entry⟩ (pageAt_agrees bytes)⟩
  · rw [records, Std.TreeMap.mem_insert, compare_eq_iff_eq, holds.keys, List.map_append, List.mem_append]
    simp [or_comm, eq_comm]

theorem cloneVspace_holds {entries : List (Nat × CPtr)} {dst : Sel4Task}
    (holds : ForkHolds platform start space done dst state)
    (recorded : ∀ entry ∈ entries, ∃ mapped, start.cspace entry.2 = some (.frame entry.2 mapped))
    (distinct : ((done ++ entries).map Prod.fst).Nodup) :
    Yields state (cloneVspace platform entries dst)
      fun dst' after => ForkHolds platform start space (done ++ entries) dst' after := by
  induction entries generalizing done dst state with
  | nil =>
    refine .pure ?_
    rintro _ rfl
    rw [List.append_nil]
    exact holds
  | cons entry rest ih =>
    obtain ⟨vaddr, cap⟩ := entry
    obtain ⟨⟨mapped, here⟩, later⟩ := List.forall_mem_cons.mp recorded
    have absent : vaddr ∉ done.map Prod.fst := by
      rw [List.map_append, List.nodup_append] at distinct
      exact fun member => distinct.2.2 vaddr member vaddr (by simp) rfl
    have round := forkPage_holds holds here absent
    have rounds := round.bind fun dst' => .fixed fun middle holds' =>
      ih holds' later (by rwa [List.append_assoc])
    simp only [bind_assoc, List.append_assoc, List.singleton_append] at rounds
    exact rounds

theorem Quiet.touches (quiet : Quiet True noPage before after) :
    Touches (fun _ => False) False (fun view _ => view = kernelVSpace) before after := by
  refine ⟨fun slot found _ held => quiet.cspace ▸ held, fun slot free => quiet.cspace ▸ free,
    fun object _ _ => ?_,
    fun view vaddr _ _ user => congrFun (quiet.pages view user) vaddr, quiet.tasks⟩
  exact quiet.frames trivial object fun _ _ never => never.elim

structure NewSpace (before : KernelState ν) (task : Sel4Task) (after : KernelState ν) : Prop where
  touches : Touches (fun _ => False) False (fun view _ => view = kernelVSpace) before after
  homed : Homed task.vspace task.vspace after
  fresh : before.cspace task.vspace = none
  pages : task.mappedPage = ∅

theorem new_space (kernel : state.cspace kernelVSpace = some (.vspace kernelVSpace)) :
    Yields state (Sel4Task.new platform) fun task after => NewSpace state task after := by
  refine (new_spec state).partly ?_
  rintro _ _ ⟨vspace, tcb, cnode, first, second, third, newSpace, newTcb, newCNode, rfl, rfl⟩
  have touches : Touches (fun _ => False) False (fun view _ => view = kernelVSpace) state third :=
    (newSpace.touches.trans newTcb.touches).trans newCNode.touches
  have space : first.cspace vspace = some (.vspace vspace) := by
    rw [newSpace.cspace, update_self]
    rfl
  have own : third.cspace vspace = some (.vspace vspace) := newCNode.caps (newTcb.caps space)
  have user : vspace ≠ kernelVSpace := by
    rintro rfl
    cases newSpace.free.symm.trans kernel
  exact ⟨⟨touches.caps, touches.live, touches.frames, touches.pages, touches.tasks⟩,
    ⟨⟨touches.caps _ _ id kernel, own⟩, own, user⟩, newSpace.free, rfl⟩

/-- A page of the child: a frame that was not in use, with the bytes of the page of the parent. -/
structure CopyOf (before : KernelState ν) (src cap : CPtr) (vspace : CPtr) (vaddr : Nat)
    (after : KernelState ν) : Prop where
  unused : ∀ slot mapped, before.cspace slot ≠ some (.frame cap mapped)
  shown : after.frameAt vspace vaddr = some cap
  bytes : ∃ frame, before.frameOf src = some frame ∧ ∀ offset < pageSize, after.frames cap offset =
    before.frames frame offset

/-- The child has a copy of every page of the parent, and all that there was before is as it was. -/
structure Forked (platform : Platform) (before : KernelState ν) (parent child : Sel4Task)
    (after : KernelState ν) : Prop where
  pages : ∀ vaddr, vaddr ∈ child.mappedPage ↔ vaddr ∈ parent.mappedPage
  copies : ∀ vaddr src cap, parent.mappedPage[vaddr]? = some src → child.mappedPage[vaddr]? = some cap →
    CopyOf before src cap child.vspace vaddr after
  distinct : ∀ (vaddr vaddr' : Nat) cap, child.mappedPage[vaddr]? = some cap →
    child.mappedPage[vaddr']? = some cap → vaddr = vaddr'
  tasks : after.tasks = before.tasks
  caps : ∀ slot cap, before.cspace slot = some cap → after.cspace slot = some cap
  frames : ∀ frame, before.cspace frame ≠ none → after.frames frame = before.frames frame
  views : ∀ view vaddr, before.cspace view = some (.vspace view) → view ≠ kernelVSpace →
    after.pages view vaddr = before.pages view vaddr
  temp : after.cspace tempSlot = none
  seat : after.pages kernelVSpace platform.pageSeat = none
  extSeat : after.pages kernelVSpace platform.extPageSeat = none

structure CallRead (platform : Platform) (badge : Nat) (before : KernelState ν) (call : CloneCall)
    (after : KernelState ν) : Prop where
  caller : before.tasks[badge]? = some call.parent
  paged : ∃ vaddr, vaddr ∈ call.parent.mappedPage
  touches : Touches (fun _ => False) False (fun view _ => view = kernelVSpace) before after

theorem cloneStart_reads (kernel : state.cspace kernelVSpace = some (.vspace kernelVSpace))
    (decode : List UInt8 → CloneArgs) (cloneArgs : Nat) :
    Yields state (cloneStart platform decode badge cloneArgs)
      fun result after => ∀ call, result = .ok call → CallRead platform badge state call after := by
  refine (taskOf_spec state badge).bind fun parent => .fixed ?_
  rintro state ⟨rfl, found⟩
  split
  · exact .pure fun _ _ _ => nofun
  · have quietly : Evolves (Quietly True noPage)
      (readItem platform cloneArgsSize parent cloneArgs : KernelM ν _) :=
      readItem_quietly cloneArgsSize parent cloneArgs
    have positive : 0 < cloneArgsSize := by decide
    refine ((quietly state).also (readItem_reads kernel positive parent cloneArgs)).bind fun result => .fixed ?_
    rintro middle ⟨quiet, item⟩
    split
    · exact .pure fun _ _ _ => nofun
    · rename_i bytes
      split
      · exact .pure fun _ _ _ => nofun
      · refine .pure ?_
        rintro _ rfl call ⟨rfl⟩
        have read := item bytes rfl
        refine ⟨found, ⟨alignBits cloneArgs 12, ?_⟩, (quiet kernel).touches⟩
        unfold KernelState.itemAt at read
        split at read
        · cases read
        · obtain ⟨cap, recorded, -⟩ := Option.bind_eq_some_iff.mp read
          exact mem_of_found recorded

theorem cloneDraft_forks {parent : Sel4Task} {middle : KernelState ν} {flags : Nat}
    (apart : sharesSpace flags = false)
    (kernel : middle.cspace kernelVSpace = some (.vspace kernelVSpace))
    (touches : Touches (fun _ => False) False (fun view _ => view = kernelVSpace) state middle)
    (recorded : ∀ entry ∈ parent.mappedPage.toList, ∃ mapped, state.cspace entry.2 =
      some (.frame entry.2 mapped)) :
    Yields middle (cloneDraft platform parent flags)
      fun child after => ∃ space, ForkHolds platform state space parent.mappedPage.toList child after := by
  refine (new_space kernel).bind fun task => .fixed fun created new => ?_
  have holds : ForkHolds platform state task.vspace [] task created := by
    refine ⟨new.homed, touches.live _ new.fresh, (touches.trans new.touches).mono (fun _ => id) id
      fun _ _ => Or.inl, fun _ _ never => absurd never List.not_mem_nil,
      fun vaddr => ?_, fun never => absurd rfl never, fun never => absurd rfl never⟩
    simp [new.pages]
  have distinct : (([] ++ parent.mappedPage.toList).map Prod.fst).Nodup := by
    rw [List.nil_append, Std.TreeMap.map_fst_toList_eq_keys]
    exact Std.TreeMap.nodup_keys
  unfold cloneSpace
  rw [apart]
  exact (cloneVspace_holds holds recorded distinct).partly fun child after done => ⟨task.vspace, done⟩

theorem ForkHolds.forked {parent child : Sel4Task} (tidy : Tidy False state)
    (found : state.tasks[badge]? = some parent) (paged : ∃ vaddr, vaddr ∈ parent.mappedPage)
    (temp : after.cspace tempSlot = none)
    (holds : ForkHolds platform state space parent.mappedPage.toList child after) :
    Forked platform state parent child after := by
  obtain ⟨known, member⟩ := paged
  obtain ⟨source, known⟩ := found_of_mem member
  have nonempty : parent.mappedPage.toList ≠ [] :=
    List.ne_nil_of_mem (Std.TreeMap.mem_toList_iff_getElem?_eq_some.mpr known)
  have copied : ∀ (vaddr : Nat) (src cap : CPtr), parent.mappedPage[vaddr]? = some src →
    child.mappedPage[vaddr]? = some cap →
      state.cspace cap = none ∧ PageHolds space (pageAt vaddr (state.frames src)) vaddr cap after := by
    intro vaddr src cap recorded copy
    obtain ⟨cap', copy', free, pageHolds⟩ :=
      holds.pages vaddr src (Std.TreeMap.mem_toList_iff_getElem?_eq_some.mpr recorded)
    obtain rfl : cap' = cap := Option.some.inj (copy'.symm.trans copy)
    exact ⟨free, pageHolds⟩
  have pages : ∀ vaddr, vaddr ∈ child.mappedPage ↔ vaddr ∈ parent.mappedPage := by
    intro vaddr
    rw [holds.keys, Std.TreeMap.map_fst_toList_eq_keys, Std.TreeMap.mem_keys]
  have recorded : ∀ (vaddr : Nat) (cap : CPtr), child.mappedPage[vaddr]? = some cap → ∃ src,
      parent.mappedPage[vaddr]? = some src := by
    intro vaddr cap copy
    have present : vaddr ∈ child.mappedPage := mem_of_found copy
    exact Option.isSome_iff_exists.mp (Std.TreeMap.mem_iff_isSome_getElem?.mp ((pages vaddr).mp present))
  refine ⟨pages, fun vaddr src cap found' copy => ?_, fun vaddr vaddr' cap copy copy' =>
    ?_, holds.touches.tasks,
    fun slot cap => holds.touches.caps slot cap id, fun frame =>
      holds.touches.frames frame (fun never => never.elim),
    fun view vaddr root user => ?_, temp, holds.seat nonempty, holds.extSeat nonempty⟩
  · obtain ⟨free, pageHolds⟩ := copied vaddr src cap found' copy
    obtain ⟨rights, shown⟩ := pageHolds.shown
    obtain ⟨frame, mapped, capEq⟩ := tidy.ledger.backed (badge, vaddr) src ⟨parent, found, found'⟩
    obtain rfl := tidy.ledger.named src frame mapped capEq
    refine ⟨fun slot mapped used => ?_, ?_, frame, frameOf_frame capEq, fun offset inside => ?_⟩
    · rw [tidy.ledger.named slot cap mapped used, used] at free
      cases free
    · simp only [KernelState.frameAt, holds.homed.target, shown, Option.map_some]
    · rw [pageHolds.content offset inside, pageAt, Nat.add_sub_cancel_left]
  · obtain ⟨src, recorded'⟩ := recorded vaddr cap copy
    obtain ⟨src', recorded''⟩ := recorded vaddr' cap copy'
    have entries := (copied vaddr src cap recorded' copy).2.entry.symm.trans
      (copied vaddr' src' cap recorded'' copy').2.entry
    simpa using entries
  · refine holds.touches.pages view vaddr id root ?_
    rintro (kernel | rfl)
    · exact user kernel
    · cases holds.fresh.symm.trans root

/-- A fork copies the memory of the caller: in every state between two messages, `sys_clone` without
`CLONE_VM` has done this when it goes on to the IPC buffer of the child. -/
theorem fork_copies_memory (tidy : Tidy False state) (vacant : Vacant state)
    (decode : List UInt8 → CloneArgs) (cloneArgs : Nat) :
    MemTriple (fun now => now = state) (cloneToSpace platform decode badge cloneArgs)
      (fun result after => ∀ call child, result = .ok (call, child) → sharesSpace call.flags = false →
        state.tasks[badge]? = some call.parent ∧ Forked platform state call.parent child after) (fun _ => True) := by
  have kernel := tidy.ledger.kernel
  have copies : Yields state (cloneToSpace platform decode badge cloneArgs)
      (fun result after => ∀ call child, result = .ok (call, child) → sharesSpace call.flags = false →
        state.tasks[badge]? = some call.parent ∧ (∃ vaddr, vaddr ∈ call.parent.mappedPage) ∧
          ∃ space, ForkHolds platform state space call.parent.mappedPage.toList child after) := by
    refine (cloneStart_reads kernel decode cloneArgs).bind fun result => MemTriple.fixed fun middle read => ?_
    cases result with
    | error error => exact .pure fun _ _ _ _ => nofun
    | ok call =>
        obtain ⟨found, paged, touches⟩ := read call rfl
        by_cases apart : sharesSpace call.flags = false
        · have recorded : ∀ entry ∈ call.parent.mappedPage.toList, ∃ mapped, state.cspace entry.2 = some (.frame entry.2 mapped) := by
            rintro ⟨vaddr, cap⟩ member
            have entry := Std.TreeMap.mem_toList_iff_getElem?_eq_some.mp member
            obtain ⟨frame, mapped, capEq⟩ := tidy.ledger.backed (badge, vaddr) cap ⟨call.parent, found, entry⟩
            exact ⟨mapped, tidy.ledger.named cap frame mapped capEq ▸ capEq⟩
          refine (cloneDraft_forks apart (touches.caps _ _ id kernel) touches recorded).bind fun child => .pure ?_
          rintro after holds _ _ ⟨⟩ _
          exact ⟨found, paged, holds⟩
        · refine MemTriple.anything.bind fun child => .pure ?_
          rintro after _ _ _ ⟨⟩ shared
          exact absurd shared apart
  have walk : Walk platform (fun {_ : Type} (program : KernelM ν _) => SlotSafe program) := slotSafe_walk
  have safe : SlotSafe (cloneToSpace platform decode badge
      cloneArgs : KernelM ν (Except Errno (CloneCall × Sel4Task))) := by
    have start : SlotSafe (cloneStart platform decode badge cloneArgs : KernelM ν (Except Errno CloneCall)) := by
      refine walk.bind (walk.quiet (taskOf_undisturbing badge)) fun task => ?_
      split
      · exact walk.pure
      · refine walk.bind (walk.readItem _ _ _) fun result => ?_
        split
        · exact walk.pure
        · split
          · exact walk.pure
          · exact walk.pure
    refine walk.bind start fun result => ?_
    cases result with
    | error error => exact walk.pure
    | ok call => exact walk.bind (walk.bind walk.new fun task => walk.cloneSpace _ _ _) fun child => walk.pure
  refine (copies.also (safe.keeps.startingAt vacant)).partly ?_
  rintro result after ⟨forks, vacant'⟩ call child returned apart
  obtain ⟨found, paged, space, holds⟩ := forks call child returned apart
  exact ⟨found, holds.forked tidy found paged vacant'.temp⟩

/-- A task with two pages. -/
def pairTask : Sel4Task :=
  { plainTask with mappedPage := ((∅ : Std.TreeMap Nat CPtr).insert 0x10000 9).insert 0x11000 10 }

def pairWorld : World Lock (List UInt64) (KernelState Unit) :=
  { KernelWorld.launch () with
    memory :=
      { (KernelWorld.launch ()).memory with
        cspace := fun slot =>
          if slot = kernelVSpace then some (.vspace kernelVSpace)
          else if slot = 5 then some (.vspace 5)
          else if slot = 9 then some (.frame 9 (some (5, 0x10000)))
          else if slot = 10 then some (.frame 10 (some (5, 0x11000)))
          else none
        frames := fun frame offset => UInt8.ofNat (frame + offset)
        emptySlots := (defaultEmptySlotIndex, kernelThreadSlotNums)
        idCounter := 2
        tasks := (∅ : Std.TreeMap Nat Sel4Task).insert 1 pairTask } }

def forkArgs : CloneArgs := { stack := 0, flags := 0, initFn := 0, initArgv := 0 }

def forkRun : EStateM.Result Fault (World Lock (List UInt64) (KernelState Unit))
    (Except Errno (CloneCall × Sel4Task)) :=
  (cloneToSpace smallPlatform (fun _ => forkArgs) 1 0x10000).run pairWorld

theorem pairWorld_slots {slot : CPtr} {cap : Cap} (found : pairWorld.memory.cspace slot = some cap) :
    slot = kernelVSpace ∧ cap = .vspace kernelVSpace ∨ slot = 5 ∧ cap = .vspace 5 ∨
      slot = 9 ∧ cap = .frame 9 (some (5, 0x10000)) ∨ slot = 10 ∧ cap = .frame 10 (some (5, 0x11000)) := by
  simp only [pairWorld] at found
  grind

theorem pairWorld_tidy : Tidy False pairWorld.memory := by
  have only : ∀ (key : Nat) (task : Sel4Task), pairWorld.memory.tasks[key]? = some task → key = 1 ∧
      task = pairTask := by
    intro key task found
    simp only [pairWorld, Std.TreeMap.getElem?_insert, Std.TreeMap.getElem?_emptyc] at found
    grind [compare_eq_iff_eq]
  refine ⟨⟨rfl, fun slot frame mapped found => ?_, fun key task found =>
    ?_, ?_, by simp, False.elim⟩, fun key member => ?_⟩
  · rcases pairWorld_slots found with ⟨-, never⟩ | ⟨-, never⟩ | ⟨rfl, same⟩ | ⟨rfl, same⟩
    · cases never
    · cases never
    · cases same
      rfl
    · cases same
      rfl
  · obtain ⟨-, rfl⟩ := only key task found
    exact ⟨5, rfl, rfl⟩
  · rintro ⟨key, vaddr⟩ cap ⟨task, found, recorded⟩
    obtain ⟨-, rfl⟩ := only key task found
    simp only [pairTask, Std.TreeMap.getElem?_insert, Std.TreeMap.getElem?_emptyc] at recorded
    split at recorded
    · cases recorded
      exact ⟨10, some (5, 0x11000), rfl⟩
    · split at recorded
      · cases recorded
        exact ⟨9, some (5, 0x10000), rfl⟩
      · cases recorded
  · obtain ⟨task, found⟩ := found_of_mem member
    obtain ⟨rfl, -⟩ := only key task found
    decide

theorem pairWorld_vacant : Vacant pairWorld.memory := by
  refine ⟨Nat.le_refl _, rfl, fun slot above below => ?_, rfl⟩
  by_contra taken
  obtain ⟨cap, found⟩ := Option.ne_none_iff_exists'.mp taken
  have low : 32 ≤ slot := above
  have small : slot ≤ 10 := by
    rcases pairWorld_slots found with ⟨rfl, -⟩ | ⟨rfl, -⟩ | ⟨rfl, -⟩ | ⟨rfl, -⟩
    all_goals decide
  omega

set_option maxRecDepth 100000 in
theorem forkRun_returns :
    ((returnValue forkRun).bind Except.toOption).map (fun made => sharesSpace made.1.flags) = some false := by
  decide +kernel

theorem fork_copies_memory_pair : ∃ call child, returnValue forkRun = some (.ok (call, child)) ∧
    sharesSpace call.flags = false ∧ call.parent.mappedPage.size = 2 ∧
    Forked smallPlatform pairWorld.memory call.parent child (finalState forkRun).memory := by
  obtain ⟨⟨call, child⟩, made, apart⟩ := Option.map_eq_some_iff.mp forkRun_returns
  obtain ⟨result, returned, isOk⟩ := Option.bind_eq_some_iff.mp made
  cases result with
  | error error => cases isOk
  | ok value =>
      obtain rfl : value = (call, child) := Option.some.inj isOk
      obtain ⟨found, forked⟩ :=
        (fork_copies_memory pairWorld_tidy pairWorld_vacant (fun _ => forkArgs) 0x10000).triple.of_run rfl
          (ran_of_returnValue returned) call child rfl apart
      have caller : pairWorld.memory.tasks[1]? = some pairTask := Std.TreeMap.getElem?_insert_self
      have parent : pairTask = call.parent := Option.some.inj (caller.symm.trans found)
      exact ⟨call, child, returned, apart, parent ▸ by decide, forked⟩

end RootTaskDemo.Kernel
