import Mathlib.Data.List.Basic
import RootTaskDemo.Kernel.Loop

namespace RootTaskDemo.Kernel

open Common Lib Thread
open Function (update_self update_of_ne)

variable {ν α β : Type} {platform : Platform}
variable {after before state : KernelState ν} {space : ObjId} {body program : KernelM ν α}
  {mapped : Option (ObjId × Nat)} {type : ObjectType} {cap slot : CPtr} {vaddr : Nat}
variable {frame object : ObjId} {other : CPtr} {raised : Fault → Prop} {mapping : Mapping}

/-! What the steps of the kernel thread leave alone: the capabilities that belong
to some task, and the pages of every address space but the one they work in. -/

def WritesThrough (through : Nat → Prop) (before after : KernelState ν) : Prop :=
  ∀ frame, (∀ page mapping, through page → before.pages kernelVSpace page = some mapping →
    mapping.frame ≠ frame) →
    after.frames frame = before.frames frame

/-- Only memory, registers and threads change, no capability and no page. Where it
is `strict`, memory changes only through the kernel thread's own pages. -/
structure DataOnly (strict : Prop) (through : Nat → Prop) (before after : KernelState ν) : Prop where
  cspace : after.cspace = before.cspace
  vspaces : after.vspaces = before.vspaces
  tasks : after.tasks = before.tasks
  counter : after.idCounter = before.idCounter
  frames : strict → WritesThrough through before after

theorem DataOnly.pages {strict : Prop} {through : Nat → Prop}
    (same : DataOnly strict through before after) : after.pages = before.pages := by
  unfold KernelState.pages
  rw [same.vspaces]

theorem DataOnly.of_frames {strict : Prop} {through : Nat → Prop}
    (cspace : after.cspace = before.cspace) (vspaces : after.vspaces = before.vspaces)
    (tasks : after.tasks = before.tasks) (counter : after.idCounter = before.idCounter)
    (frames : after.frames = before.frames) :
    DataOnly strict through before after :=
  ⟨cspace, vspaces, tasks, counter, fun _ _ _ => by rw [frames]⟩

instance (strict : Prop) (through : Nat → Prop) :
    IsPreorder (KernelState ν) (DataOnly strict through) where
  refl _ := .of_frames rfl rfl rfl rfl rfl
  trans _ _ _ first second :=
    ⟨second.cspace.trans first.cspace, second.vspaces.trans first.vspaces, second.tasks.trans first.tasks,
      second.counter.trans first.counter, fun strict frame elsewhere =>
        (second.frames strict frame (first.pages ▸ elsewhere)).trans (first.frames strict frame elsewhere)⟩

def anyPage : Nat → Prop := fun _ => True

def noPage : Nat → Prop := fun _ => False

theorem DataOnly.frames_eq (same : DataOnly True noPage before after) :
    after.frames = before.frames :=
  funext fun frame => same.frames trivial frame fun _ _ never => never.elim

theorem not_noPage {strict : Prop} {page : Nat} : strict → ¬ noPage page := fun _ never => never

def Settled : Cap → Prop
  | .frame _ none | .pageTable _ none => False
  | .frame _ (some place) => place.1 ≠ kernelVSpace
  | _ => True

/-- Outside the temporary slot a frame is under its own name. -/
def FramesNamed (state : KernelState ν) : Prop :=
  ∀ slot frame mapped, state.cspace slot = some (.frame frame mapped) → frame = slot

theorem frameOf_iff :
    state.frameOf cap = some frame ↔ ∃ mapped, state.cspace cap = some (.frame frame mapped) := by
  unfold KernelState.frameOf
  split
  · rename_i object mapped found
    simp [found]
  · rename_i other
    refine ⟨nofun, ?_⟩
    rintro ⟨mapped, found⟩
    exact absurd found (other frame mapped)

theorem frameOf_frame (found : state.cspace cap = some (.frame frame mapped)) :
    state.frameOf cap = some frame := frameOf_iff.mpr ⟨mapped, found⟩

/-- What a page shows is mapped there by the capability it goes by the name of. -/
def PagesHonest (state : KernelState ν) : Prop :=
  ∀ space vaddr mapping, state.pages space vaddr = some mapping →
    state.cspace mapping.frame = some (.frame mapping.frame (some (space, vaddr)))

theorem PagesHonest.hidden (honest : PagesHonest state) {place : ObjId × Nat}
    (settled : state.cspace frame = some (.frame frame (some place))) (user : place.1 ≠ kernelVSpace)
    (shown : state.pages kernelVSpace vaddr = some mapping) : mapping.frame ≠ frame := by
  rintro rfl
  have same := (honest kernelVSpace vaddr mapping shown).symm.trans settled
  simp only [Option.some.injEq, Cap.frame.injEq, true_and] at same
  exact user (same ▸ rfl)

structure Kept (strict : Prop) (space : ObjId) (before after : KernelState ν) : Prop where
  caps : ∀ slot cap, before.cspace slot = some cap → Settled cap → after.cspace slot = some cap
  live : ∀ slot, after.cspace slot = none → before.cspace slot = none
  pages : ∀ other, before.cspace other = some (.vspace other) → other ≠ space → other ≠ kernelVSpace →
    after.pages other = before.pages other
  named : FramesNamed before → FramesNamed after
  seats : FramesNamed before → PagesHonest before → PagesHonest after
  frames : strict → FramesNamed before → PagesHonest before → ∀ frame place,
    before.cspace frame = some (.frame frame (some place)) → place.1 ≠ kernelVSpace →
    after.frames frame = before.frames frame
  tasks : after.tasks = before.tasks
  counter : before.idCounter ≤ after.idCounter

structure Rooted (space : ObjId) (state : KernelState ν) : Prop where
  kernel : state.cspace kernelVSpace = some (.vspace kernelVSpace)
  space : state.cspace space = some (.vspace space)

def Within (strict : Prop) (space : ObjId) (before after : KernelState ν) : Prop :=
  Rooted space before → Kept strict space before after

variable {strict : Prop} {through : Nat → Prop}

theorem Kept.refl (space : ObjId) (state : KernelState ν) : Kept strict space state state :=
  ⟨fun _ _ found _ => found, fun _ free => free, fun _ _ _ _ => rfl, fun named =>
    named, fun _ honest => honest, fun _ _ _ _ _ _ _ => rfl, rfl,
    Nat.le_refl _⟩

theorem Kept.rooted (kept : Kept strict space before after)
    (rooted : Rooted space before) : Rooted space after :=
  ⟨kept.caps _ _ rooted.kernel trivial, kept.caps _ _ rooted.space trivial⟩

theorem Kept.trans {middle : KernelState ν} (first : Kept strict space before middle)
    (second : Kept strict space middle after) : Kept strict space before after := by
  refine ⟨fun slot cap found settled => second.caps slot cap (first.caps slot cap found settled) settled,
    fun slot free => first.live slot (second.live slot free), ?_, fun named => second.named (first.named named),
    fun named honest => second.seats (first.named named) (first.seats named honest), ?_,
    second.tasks.trans first.tasks, Nat.le_trans first.counter second.counter⟩
  · intro other live outside notKernel
    rw [second.pages other (first.caps _ _ live trivial) outside notKernel,
      first.pages other live outside notKernel]
  · intro strict named honest frame place found user
    rw [second.frames strict (first.named named) (first.seats named honest) frame place
      (first.caps _ _ found user) user, first.frames strict named honest frame place found user]

instance (strict : Prop) (space : ObjId) : IsPreorder (KernelState ν) (Within strict space) where
  refl state _ := Kept.refl space state
  trans _ _ _ first second rooted := (first rooted).trans (second ((first rooted).rooted rooted))

theorem FramesNamed.of_cspace (named : FramesNamed before)
    (cspace : after.cspace = before.cspace) : FramesNamed after := by
  unfold FramesNamed
  rw [cspace]
  exact named

theorem DataOnly.kept (same : DataOnly strict through before after) :
    Kept strict space before after := by
  refine ⟨fun slot cap found _ => by rw [same.cspace]; exact found,
    fun slot free => by rwa [same.cspace] at free,
    fun other _ _ _ => by
      rw [same.pages], fun named => named.of_cspace same.cspace, fun _ honest =>
        ?_, fun strict _ honest frame place found user => ?_,
    same.tasks, Nat.le_of_eq same.counter.symm⟩
  · unfold PagesHonest
    rw [same.cspace, same.pages]
    exact honest
  · exact same.frames strict frame fun page mapping _ shown => honest.hidden found user shown

theorem DataOnly.within (evolves : Evolves (DataOnly strict through) program) :
    Evolves (Within strict space) program :=
  evolves.mono fun _ _ same _ => same.kept

theorem unwrapped_evolves {rel : KernelState ν → KernelState ν → Prop}
    [IsPreorder (KernelState ν) rel] {program : KernelM ν (Except Sel4Error α)}
    (evolves : Evolves rel program) : Evolves rel (unwrapped program) := by
  refine evolves.bind fun result => ?_
  cases result with
  | ok value => exact .pure
  | error error => exact .stop

theorem loadByte_dataOnly (address : Nat) :
    Evolves (DataOnly strict through) (loadByte platform address : KernelM ν UInt8) := by
  refine .bind Evolves.read fun state => ?_
  split
  · split
    · exact .stop
    · exact .pure
  · exact .pure

theorem storeByte_dataOnly (address : Nat) (byte : UInt8)
    (inside : through (address / pageSize * pageSize)) :
    Evolves (DataOnly strict through) (storeByte platform address byte : KernelM ν Unit) := by
  intro state
  refine .read_bind ?_
  rintro state rfl
  split
  · split
    · exact .stop fun _ _ => trivial
    · rename_i frame shown
      obtain ⟨mapping, mappingEq, rfl⟩ := Option.map_eq_some_iff.mp shown
      refine .update ?_
      rintro _ rfl
      refine ⟨rfl, rfl, rfl, rfl, fun _ other elsewhere => ?_⟩
      exact update_of_ne (elsewhere _ mapping inside mappingEq).symm ..
  · refine .update ?_
    rintro _ rfl
    exact .of_frames rfl rfl rfl rfl rfl

theorem loadBytes_dataOnly (address count : Nat) :
    Evolves (DataOnly strict through) (loadBytes platform address count : KernelM ν _) := by
  induction count generalizing address with
  | zero => exact .pure
  | succ count ih =>
    exact (loadByte_dataOnly address).bind fun _ => (ih (address + 1)).bind fun _ => .pure

theorem loadBytes_length (address count : Nat) :
    Leads (fun _ => True) (loadBytes platform address count : KernelM ν _)
      (fun bytes _ => bytes.length = count) := by
  induction count generalizing address with
  | zero => exact .pure fun _ _ => rfl
  | succ count ih =>
    refine MemTriple.anything.bind fun byte => (ih (address + 1)).bind fun rest => .pure fun _ length => ?_
    rw [List.length_cons, length]

theorem storeBytes_dataOnly (address : Nat) (bytes : List UInt8) :
    Evolves (DataOnly strict anyPage) (storeBytes platform address bytes : KernelM ν Unit) := by
  induction bytes generalizing address with
  | nil => exact .pure
  | cons byte rest ih => exact (storeByte_dataOnly address byte trivial).bind fun _ => ih (address + 1)

theorem storeBytes_inPage {page : Nat} (aligned : page % pageSize = 0) (offset : Nat)
    (bytes : List UInt8) (inside : offset + bytes.length ≤ pageSize) :
    Evolves (DataOnly strict (· = page)) (storeBytes platform (page + offset) bytes : KernelM ν Unit) := by
  induction bytes generalizing offset with
  | nil => exact .pure
  | cons byte rest ih =>
    rw [List.length_cons] at inside
    have here : (page + offset) / pageSize * pageSize = page := by
      unfold pageSize at *
      omega
    refine (storeByte_dataOnly (page + offset) byte here).bind fun _ => ?_
    rw [Nat.add_assoc]
    exact ih (offset + 1) (by omega)

theorem copyBytes_dataOnly (src dst count : Nat) :
    Evolves (DataOnly strict anyPage) (copyBytes platform src dst count : KernelM ν Unit) :=
  (loadBytes_dataOnly src count).bind fun _ => storeBytes_dataOnly dst _

theorem changeTcb_dataOnly (cap : CPtr) (change : Tcb → Tcb) :
    Evolves (DataOnly strict through) (changeTcb cap change : KernelM ν _) := by
  refine .bind Evolves.read fun state => ?_
  split
  · exact (Evolves.update fun _ => .of_frames rfl rfl rfl rfl rfl).bind fun _ => .pure
  · exact .pure

theorem unwrapped_spec {pre : KernelState ν → Prop} {program : KernelM ν (Except Sel4Error α)}
    {post : α → KernelState ν → Prop}
    (spec : MemTriple pre program (fun result after => ∀ value, result = .ok value → post value after) raised)
    (panics : ∀ error, raised (.panicked (.invocation error))) : MemTriple pre (unwrapped program) post raised := by
  refine spec.bind fun result => ?_
  cases result with
  | ok value => exact .pure fun _ holds => holds value rfl
  | error error => exact .stop fun _ _ => panics error

structure Allocated (type : ObjectType) (slot : CPtr) (before after : KernelState ν) : Prop where
  free : before.cspace slot = none
  cspace : after.cspace = Function.update before.cspace slot (some (type.cap slot))
  vspaces : after.vspaces = Function.update before.vspaces slot .empty
  frames : after.frames = Function.update before.frames slot fun _ => 0
  tasks : after.tasks = before.tasks
  counter : after.idCounter = before.idCounter
  tcbs : ∀ tcb, tcb ≠ slot → after.tcbs tcb = before.tcbs tcb

theorem Allocated.ne {cap : Cap} (allocated : Allocated type slot before after)
    (found : before.cspace other = some cap) : other ≠ slot := by
  rintro rfl
  rw [allocated.free] at found
  cases found

theorem Allocated.caps {cap : Cap}
    (allocated : Allocated type slot before after) (found : before.cspace other = some cap) :
    after.cspace other = some cap := by
  rw [allocated.cspace, update_of_ne (allocated.ne found)]
  exact found

theorem Allocated.free_of_free (allocated : Allocated type slot before after)
    (free : after.cspace other = none) : before.cspace other = none := by
  by_cases here : other = slot
  · rw [here]
    exact allocated.free
  · rwa [allocated.cspace, update_of_ne here] at free

theorem Allocated.kept
    (allocated : Allocated type slot before after) : Kept strict space before after := by
  refine ⟨fun other cap found _ => allocated.caps found, fun other => allocated.free_of_free,
    fun other live _ _ => ?_, fun named other frame mapped found => ?_,
    fun _ honest other vaddr mapping shown => ?_, fun _ _ _ frame place found _ => ?_,
    allocated.tasks, Nat.le_of_eq allocated.counter.symm⟩
  · unfold KernelState.pages
    rw [allocated.vspaces, update_of_ne (allocated.ne live)]
  · rw [allocated.cspace] at found
    by_cases here : other = slot
    · subst here
      rw [update_self] at found
      cases type with
      | granule =>
        cases found
        rfl
      | pageTable => cases found
      | vspace => cases found
      | tcb => cases found
      | cnode sizeBits => cases found
      | endpoint => cases found
      | notification => cases found
    · rw [update_of_ne here] at found
      exact named other frame mapped found
  · unfold KernelState.pages at shown
    rw [allocated.vspaces] at shown
    by_cases here : other = slot
    · rw [here, update_self] at shown
      cases shown
    · rw [update_of_ne here] at shown
      exact allocated.caps (honest other vaddr mapping shown)
  · rw [allocated.frames, update_of_ne (allocated.ne found)]

theorem untypedRetype_spec (state : KernelState ν) (type : ObjectType) (dest : CPtr) :
    Yields state (untypedRetype platform type dest)
      fun result after => ∀ value, result = .ok value → Allocated type dest state after := by
  refine .read_bind ?_
  rintro state rfl
  split
  · exact .pure fun _ _ _ => nofun
  · split
    · exact .pure fun _ _ _ => nofun
    · rename_i free
      dsimp only
      split
      · exact .pure fun _ _ _ => nofun
      · refine .update_bind (.pure ?_)
        rintro _ rfl _ _
        exact ⟨Option.not_isSome_iff_eq_none.mp free, rfl, rfl, rfl, rfl, rfl, fun _ other => update_of_ne other ..⟩

theorem retypeCNode_frame (state : KernelState ν) (index : Nat) :
    Yields state (retypeCNode platform index)
      fun _ after => ∃ watermark cnodes, after = { state with watermark, cnodes } := by
  refine .read_bind ?_
  rintro state rfl
  dsimp only
  split
  · exact .pure fun _ same => ⟨_, _, same⟩
  · split
    · exact .pure fun _ same => ⟨_, _, same⟩
    · exact .update_bind (.pure fun _ same => ⟨_, _, same⟩)

/-- The allocator changes nothing but what it keeps for itself. -/
theorem allocateSlot_frame (state : KernelState ν) :
    Yields state (allocateSlot platform)
      fun _ after => ∃ emptySlots watermark cnodes, after = { state with emptySlots, watermark, cnodes } := by
  refine .read_bind ?_
  rintro state rfl
  dsimp only
  split
  · exact .stop fun _ _ => trivial
  · refine .update_bind ?_
    split
    · refine (unwrapped_spec ((retypeCNode_frame _ _).partly fun _ _ made _ _ => made) fun _ => trivial).bind
        fun _ => .pure ?_
      rintro _ ⟨watermark, cnodes, rfl⟩
      exact ⟨_, _, _, rfl⟩
    · exact .pure fun _ same => ⟨_, _, _, same⟩

theorem allocateSlot_dataOnly : Evolves (DataOnly True noPage)
    (allocateSlot platform : KernelM ν _) := by
  refine fun state => (allocateSlot_frame state).partly ?_
  rintro _ _ ⟨emptySlots, watermark, cnodes, rfl⟩
  exact .of_frames rfl rfl rfl rfl rfl

theorem allocateAndRetype_spec (state : KernelState ν) (type : ObjectType) :
    Yields state (allocateAndRetype platform type) fun slot after => Allocated type slot state after := by
  refine (allocateSlot_frame state).bind fun slot => .fixed ?_
  rintro _ ⟨emptySlots, watermark, cnodes, rfl⟩
  refine (unwrapped_spec (untypedRetype_spec _ type slot.2.2) fun _ => trivial).bind fun _ => .pure ?_
  rintro after allocated
  exact ⟨allocated.free, allocated.cspace, allocated.vspaces, allocated.frames, allocated.tasks,
    allocated.counter,
    allocated.tcbs⟩

theorem allocate_spec (state : KernelState ν) (type : ObjectType) :
    Yields state (allocate platform type) fun slot after => Allocated type slot state after :=
  MemTriple.locked (allocateAndRetype_spec state type)

theorem new_spec (state : KernelState ν) :
    Yields state (Sel4Task.new platform) fun task after => ∃ vspace tcb cnode first second third,
      Allocated .vspace vspace state first ∧ Allocated .tcb tcb first second ∧
      Allocated (.cnode cnodeRadixBits) cnode second third ∧
      task = { pid := 0, id := third.idCounter, tcb, cnode, vspace, mappedPt := [], mappedPage := ∅,
               heap := 0x200000000, exit := none, clearChildTid := none } ∧
      after = { third with idCounter := third.idCounter + 1 } := by
  refine (allocate_spec state .vspace).bind fun vspace => .fixed fun first newSpace => ?_
  refine (allocate_spec first .tcb).bind fun tcb => .fixed fun second newTcb => ?_
  refine (allocate_spec second (.cnode cnodeRadixBits)).bind fun cnode => .fixed fun third newCNode => ?_
  refine .read_bind ?_
  rintro third rfl
  refine .update_bind (.pure ?_)
  rintro _ rfl
  exact ⟨vspace, tcb, cnode, first, second, third, newSpace, newTcb, newCNode, rfl, rfl⟩

theorem allocateAndRetype_within (type : ObjectType) :
    Evolves (Within strict space) (allocateAndRetype platform type : KernelM ν CPtr) :=
  fun state => (allocateAndRetype_spec state type).partly fun _ _ allocated _ => allocated.kept

theorem allocate_within (type : ObjectType) :
    Evolves (Within strict space) (allocate platform type : KernelM ν CPtr) :=
  Evolves.locked (allocateAndRetype_within type)

/-- The frame of the capability is what the address space has at the page. The
capability was not mapped before, or there already. -/
def MapsPage (cap vspace : CPtr) (vaddr : Nat) (rights : CapRights) (before after : KernelState ν) :
    Prop :=
  ∃ object space mapped, before.cspace vspace = some (.vspace space) ∧ before.cspace cap =
    some (.frame object mapped) ∧
    (∀ place, mapped = some place → place = (space, vaddr)) ∧
    after = (before.setPage space vaddr (some { frame := object, rights })).setCap cap
      (some (.frame object (some (space, vaddr))))

theorem frameMap_spec (state : KernelState ν) (cap vspace : CPtr) (vaddr : Nat) (rights : CapRights) :
    Yields state (frameMap platform cap vspace vaddr rights)
      fun result after => match result with
        | .ok _ => MapsPage cap vspace vaddr rights state after
        | .error _ => after = state := by
  refine .read_bind ?_
  rintro state rfl
  split
  · rename_i object mapped space capEq spaceEq
    split
    · exact .pure fun _ same => same
    · rename_i sameSpace
      split
      · exact .pure fun _ same => same
      · rename_i samePage
        split
        · exact .pure fun _ same => same
        · split
          · exact .pure fun _ same => same
          · split
            · exact .pure fun _ same => same
            · refine .update_bind (.pure ?_)
              rintro _ rfl
              refine ⟨object, space, mapped, spaceEq, capEq, ?_, rfl⟩
              rintro place rfl
              simp only [Option.any_some, decide_not, Bool.not_eq_true', decide_eq_false_iff_not, not_not] at sameSpace samePage
              exact Prod.ext sameSpace samePage
  · exact .pure fun _ same => same

theorem unwrapped_frameMap_spec (state : KernelState ν) (cap vspace : CPtr) (vaddr : Nat)
    (rights : CapRights) :
    Yields state (unwrapped (frameMap platform cap vspace vaddr rights))
      fun _ after => MapsPage cap vspace vaddr rights state after := by
  refine unwrapped_spec ((frameMap_spec state cap vspace vaddr rights).partly ?_) fun _ => trivial
  rintro result after spec value rfl
  exact spec

theorem frameMap_aligned (state : KernelState ν) (cap vspace : CPtr) (rights : CapRights)
    (crooked : vaddr % pageSize ≠ 0) :
    Yields state (unwrapped (frameMap platform cap vspace vaddr rights)) fun _ _ => False := by
  refine unwrapped_spec (.read_bind ?_) fun _ => trivial
  rintro state rfl
  split
  · split
    · exact .pure fun _ _ _ => nofun
    · split
      · exact .pure fun _ _ _ => nofun
      · split
        · exact .pure fun _ _ _ => nofun
        · exact .pure fun _ _ _ => nofun
  · exact .pure fun _ _ _ => nofun

theorem free_of_update {new : Cap}
    (free : Function.update state.cspace cap (some new) slot = none) : state.cspace slot = none := by
  by_cases here : slot = cap
  · rw [here, update_self] at free
    cases free
  · rwa [update_of_ne here] at free

theorem MapsPage.kept {vspace : CPtr} {rights : CapRights}
    (maps : MapsPage cap vspace vaddr rights before after)
    (inside : before.cspace vspace = some (.vspace space) ∨ before.cspace vspace = some (.vspace kernelVSpace)) :
    Kept strict space before after := by
  obtain ⟨object, target, mapped, targetEq, capEq, place, rfl⟩ := maps
  have within : target = space ∨ target = kernelVSpace := by
    rcases inside with here | here
    · rw [targetEq] at here
      cases here
      exact Or.inl rfl
    · rw [targetEq] at here
      cases here
      exact Or.inr rfl
  refine ⟨fun slot other found settled => ?_, fun slot free => ?_, fun other _ outside notKernel => ?_,
    fun named slot frame at' found => ?_, fun named honest view other mapping shown =>
      ?_, fun _ _ _ _ _ _ _ => rfl, rfl,
    Nat.le_refl _⟩
  · -- a capability that was settled is the one that was mapped here already
    by_cases here : slot = cap
    · subst here
      rw [capEq] at found
      cases found
      cases mapped with
      | none => cases settled
      | some at' =>
        rw [place at' rfl]
        exact update_self ..
    · exact (update_of_ne here ..).trans found
  · exact free_of_update free
  · have different : other ≠ target := by
      rintro rfl
      exact within.elim outside notKernel
    rw [pages_setCap, pages_setPage_of_ne _ different]
  · by_cases here : slot = cap
    · subst here
      rw [cspace_setCap, update_self] at found
      cases found
      exact named slot object mapped capEq
    · rw [cspace_setCap, update_of_ne here] at found
      exact named slot frame at' found
  · obtain rfl := named cap object mapped capEq
    rw [pages_setCap] at shown
    rw [cspace_setCap]
    -- what was shown before is mapped at its page, so it is the new capability only at the new page
    have older : before.pages view other = some mapping → ¬ (target = view ∧ other = vaddr) →
        Function.update before.cspace object (some (.frame object (some (target, vaddr)))) mapping.frame =
          some (.frame mapping.frame (some (view, other))) := by
      intro shown elsewhere
      have found := honest view other mapping shown
      have apart : mapping.frame ≠ object := by
        intro same
        rw [same, capEq] at found
        simp only [Option.some.injEq, Cap.frame.injEq, true_and] at found
        have samePlace := place _ found
        simp only [Prod.mk.injEq] at samePlace
        exact elsewhere ⟨samePlace.1.symm, samePlace.2⟩
      rw [update_of_ne apart]
      exact found
    by_cases here : target = view
    · subst here
      rw [pages_setPage_self] at shown
      by_cases samePage : other = vaddr
      · subst samePage
        rw [update_self] at shown
        cases shown
        exact update_self ..
      · rw [update_of_ne samePage] at shown
        exact older shown fun both => samePage both.2
    · rw [pages_setPage_of_ne _ (Ne.symm here)] at shown
      exact older shown fun both => here both.1

theorem setPage_tables (state : KernelState ν) (space : ObjId) (vaddr : Nat)
    (mapping : Option Mapping) (other : ObjId) :
    ((state.setPage space vaddr mapping).vspaces other).tables = (state.vspaces other).tables := by
  by_cases same : other = space
  · subst same
    simp only [KernelState.setPage, KernelState.changeSpace, update_self]
  · simp only [KernelState.setPage, KernelState.changeSpace, update_of_ne same]

theorem unmapFrame_tables (state : KernelState ν) (object : ObjId) (mapped : Option (ObjId × Nat))
    (other : ObjId) :
    ((state.unmapFrame object mapped).vspaces other).tables = (state.vspaces other).tables := by
  cases mapped with
  | none => rfl
  | some place =>
    unfold KernelState.unmapFrame
    dsimp only
    split
    · exact setPage_tables ..
    · rfl

/-- Apart from the address spaces, all is as before. -/
theorem unmapFrame_frame (state : KernelState ν) (object : ObjId) (mapped : Option (ObjId × Nat)) :
    ∃ vspaces, state.unmapFrame object mapped = { state with vspaces } := by
  cases mapped with
  | none => exact ⟨_, rfl⟩
  | some place =>
    unfold KernelState.unmapFrame
    dsimp only
    split
    · exact ⟨_, rfl⟩
    · exact ⟨_, rfl⟩

/-- Apart from the slot and the address spaces, all is as before. -/
theorem cnodeDelete_frame (state : KernelState ν) (slot : CPtr) :
    Delivers state (cnodeDelete platform slot)
      fun _ after => ∃ vspaces, after = { state with cspace := Function.update state.cspace slot none, vspaces } := by
  refine .update ?_
  rintro state rfl
  split
  · rename_i object mapped _
    obtain ⟨vspaces, unmaps⟩ := unmapFrame_frame state object mapped
    rw [unmaps]
    exact ⟨_, rfl⟩
  · exact ⟨_, rfl⟩
  · split
    · exact ⟨_, rfl⟩
    · exact ⟨_, rfl⟩
  · exact ⟨_, rfl⟩

theorem pages_unmapFrame_of_ne (state : KernelState ν) (object : ObjId) {other : ObjId}
    (elsewhere : ∀ place, mapped = some place → place.1 ≠ other) :
    (state.unmapFrame object mapped).pages other = state.pages other := by
  cases mapped with
  | none => rfl
  | some place =>
    obtain ⟨space, vaddr⟩ := place
    simp only [KernelState.unmapFrame]
    split
    · exact pages_setPage_of_ne state (elsewhere _ rfl).symm vaddr none
    · rfl

theorem unmapFrame_shown
    (shown : (state.unmapFrame object mapped).pages space vaddr = some mapping) :
    state.pages space vaddr = some mapping ∧ ¬ (mapped = some (space, vaddr) ∧ mapping.frame = object) := by
  cases mapped with
  | none => exact ⟨shown, by simp⟩
  | some place =>
    obtain ⟨at', address⟩ := place
    simp only [KernelState.unmapFrame] at shown
    by_cases here : at' = space ∧ address = vaddr
    · obtain ⟨rfl, rfl⟩ := here
      split at shown
      · rw [pages_setPage_self, update_self] at shown
        cases shown
      · rename_i other
        refine ⟨shown, fun both => other ?_⟩
        rw [shown]
        simp [both.2]
    · refine ⟨?_, fun both => here (by simpa using both.1)⟩
      split at shown
      · by_cases sameSpace : space = at'
        · subst sameSpace
          rw [pages_setPage_self, update_of_ne fun same => here ⟨rfl, same.symm⟩] at shown
          exact shown
        · rwa [pages_setPage_of_ne state sameSpace] at shown
      · exact shown

theorem frameUnmap_spec (state : KernelState ν) (cap : CPtr) :
    Yields state (frameUnmap cap)
      fun result after => ∀ value, result = .ok value → ∃ object mapped, state.cspace cap = some (.frame object mapped) ∧
        after = (state.unmapFrame object mapped).setCap cap (some (.frame object none)) := by
  refine .read_bind ?_
  rintro state rfl
  split
  · rename_i object mapped capEq
    refine .update_bind (.pure ?_)
    rintro _ rfl _ _
    exact ⟨object, mapped, capEq, rfl⟩
  · exact .pure fun _ _ _ => nofun

/-- Nothing but the kernel thread's own pages differs, which show no frame they did
not show; memory is written `through` some of them. -/
structure Quiet (strict : Prop) (through : Nat → Prop) (before after : KernelState ν) : Prop where
  cspace : after.cspace = before.cspace
  pages : ∀ other, other ≠ kernelVSpace → after.pages other = before.pages other
  shown : ∀ vaddr mapping, after.pages kernelVSpace vaddr = some mapping →
    before.pages kernelVSpace vaddr = some mapping
  frames : strict → WritesThrough through before after
  tasks : after.tasks = before.tasks
  counter : after.idCounter = before.idCounter

def Quietly (strict : Prop) (through : Nat → Prop) (before after : KernelState ν) : Prop :=
  before.cspace kernelVSpace = some (.vspace kernelVSpace) → Quiet strict through before after

instance (strict : Prop) (through : Nat → Prop) :
    IsPreorder (KernelState ν) (Quietly strict through) where
  refl _ _ := ⟨rfl, fun _ _ => rfl, fun _ _ shown => shown, fun _ _ _ => rfl, rfl, rfl⟩
  trans _ _ _ first second rooted := by
    have early := first rooted
    have late := second (early.cspace ▸ rooted)
    exact ⟨late.cspace.trans early.cspace, fun other outside =>
      (late.pages other outside).trans (early.pages other outside),
      fun vaddr mapping shown => early.shown vaddr mapping (late.shown vaddr mapping shown),
      fun strict frame hidden => (late.frames strict frame fun page mapping inside shown =>
        hidden page mapping inside (early.shown page mapping shown)).trans (early.frames strict frame hidden),
      late.tasks.trans early.tasks, late.counter.trans early.counter⟩

theorem DataOnly.quietly (evolves : Evolves (DataOnly strict through) program) :
    Evolves (Quietly strict through) program :=
  evolves.mono fun _ _ same _ => ⟨same.cspace, fun _ _ => by rw [same.pages],
    fun _ _ shown => by rwa [same.pages] at shown, same.frames, same.tasks, same.counter⟩

theorem Quiet.kept (quiet : Quiet strict through before after) :
    Kept strict space before after := by
  refine ⟨fun slot cap found _ => by rw [quiet.cspace]; exact found,
    fun slot free => by rwa [quiet.cspace] at free,
    fun other _ _ notKernel => quiet.pages other notKernel, fun named =>
      named.of_cspace quiet.cspace, fun _ honest view vaddr mapping shown => ?_,
    fun strict _ honest frame place found user => ?_, quiet.tasks, Nat.le_of_eq quiet.counter.symm⟩
  · rw [quiet.cspace]
    refine honest view vaddr mapping ?_
    by_cases here : view = kernelVSpace
    · subst here
      exact quiet.shown vaddr mapping shown
    · rwa [quiet.pages view here] at shown
  · exact quiet.frames strict frame fun page mapping _ shown => honest.hidden found user shown

/-- A frame that was not mapped, or at the seat, is not mapped afterwards; else only
the kernel thread's own pages differ. -/
structure SeatStep (strict : Prop) (through : Nat → Prop) (seat : Nat) (cap : CPtr)
    (before after : KernelState ν) :
    Prop where
  frame : ∃ object mapped, before.cspace cap = some (.frame object mapped) ∧
    (∀ place, mapped = some place → place = (kernelVSpace, seat)) ∧
    after.cspace = Function.update before.cspace cap (some (.frame object none)) ∧
    (strict → ∀ frame, (through seat → frame ≠ object) →
      (∀ page mapping, through page → before.pages kernelVSpace page = some mapping → mapping.frame ≠ frame) →
      after.frames frame = before.frames frame)
  pages : ∀ other, other ≠ kernelVSpace → after.pages other = before.pages other
  shown : ∀ vaddr mapping, after.pages kernelVSpace vaddr = some mapping →
    vaddr ≠ seat ∧ before.pages kernelVSpace vaddr = some mapping
  tasks : after.tasks = before.tasks
  counter : after.idCounter = before.idCounter

theorem withSeat_spec (rooted : state.cspace kernelVSpace = some (.vspace kernelVSpace))
    (cap : CPtr) (seat : Nat) (inside : Evolves (Quietly strict through) body) :
    Yields state (withSeat platform cap seat body)
      fun _ after => SeatStep strict through seat cap state after := by
  refine (unwrapped_frameMap_spec state cap kernelVSpace seat .all).bind fun _ =>
    .fixed fun shown maps => ?_
  have root : shown.cspace kernelVSpace = some (.vspace kernelVSpace) :=
    (maps.kept (Or.inr rooted) : Kept True kernelVSpace _ _).caps _ _ rooted trivial
  obtain ⟨object, space, before, spaceEq, capEq, place, rfl⟩ := maps
  obtain rfl : space = kernelVSpace := by
    rw [rooted] at spaceEq
    cases spaceEq
    rfl
  refine (inside _).bind fun value => .fixed fun worked step => ?_
  have same := step root
  refine (unwrapped_spec (frameUnmap_spec worked cap) fun _ => trivial).bind fun _ => .pure ?_
  rintro after ⟨unmapped, at', foundEq, rfl⟩
  rw [same.cspace, cspace_setCap, update_self] at foundEq
  cases foundEq
  obtain ⟨vspaces, unmaps⟩ := unmapFrame_frame worked object (some (kernelVSpace, seat))
  have cspaceEq : (worked.unmapFrame object (some (kernelVSpace, seat))).cspace =
    worked.cspace := by rw [unmaps]
  have tasksEq : (worked.unmapFrame object (some (kernelVSpace, seat))).tasks = worked.tasks := by
    rw [unmaps]
  have counterEq : (worked.unmapFrame object (some (kernelVSpace, seat))).idCounter =
    worked.idCounter := by rw [unmaps]
  have framesEq : (worked.unmapFrame object (some (kernelVSpace, seat))).frames =
    worked.frames := by rw [unmaps]
  have seatShows : ∀ vaddr mapping,
      ((state.setPage kernelVSpace seat (some { frame := object, rights := .all })).setCap cap
        (some (.frame object (some (kernelVSpace, seat))))).pages kernelVSpace vaddr = some mapping →
      (vaddr = seat ∧ mapping.frame = object) ∨ (vaddr ≠ seat ∧ state.pages kernelVSpace vaddr = some mapping) := by
    intro vaddr mapping shown
    rw [pages_setCap, pages_setPage_self] at shown
    by_cases here : vaddr = seat
    · rw [here, update_self] at shown
      cases shown
      exact Or.inl ⟨here, rfl⟩
    · rw [update_of_ne here] at shown
      exact Or.inr ⟨here, shown⟩
  refine ⟨⟨object, before, capEq, place, ?_, fun strict frame other hidden => ?_⟩,
    fun other outside => ?_,
    fun vaddr mapping shown => ?_, tasksEq.trans same.tasks, counterEq.trans same.counter⟩
  · rw [cspace_setCap, cspaceEq, same.cspace, cspace_setCap, Function.update_idem]
    rfl
  · refine (congrFun framesEq frame).trans (same.frames strict frame fun page mapping inside shown => ?_)
    rcases seatShows page mapping shown with ⟨rfl, isObject⟩ | ⟨_, shown⟩
    · rw [isObject]
      exact (other inside).symm
    · exact hidden page mapping inside shown
  · have away : ∀ at', some (kernelVSpace, seat) = some at' → at'.1 ≠ other := by
      rintro _ ⟨rfl⟩
      exact outside.symm
    rw [pages_setCap, pages_unmapFrame_of_ne worked object away, same.pages other outside]
    exact pages_setPage_of_ne state outside seat _
  · obtain ⟨workedShows, cleared⟩ := unmapFrame_shown (pages_setCap _ _ _ ▸ shown)
    rcases seatShows vaddr mapping (same.shown vaddr mapping workedShows) with ⟨rfl, isObject⟩ | older
    · exact absurd ⟨rfl, isObject⟩ cleared
    · exact older

theorem SeatStep.kept {seat : Nat}
    (step : SeatStep strict through seat cap before after) : Kept strict space before after := by
  obtain ⟨object, mapped, capEq, place, cspaceEq, framesEq⟩ := step.frame
  refine ⟨fun slot other found settled => ?_, fun slot free => free_of_update (cspaceEq ▸ free),
    fun other _ _ notKernel => step.pages other notKernel, fun named slot frame at' found =>
      ?_, fun named honest view vaddr mapping shown => ?_,
    fun strict named honest frame at' found user => ?_, step.tasks, Nat.le_of_eq step.counter.symm⟩
  · rw [cspaceEq]
    by_cases here : slot = cap
    · subst here
      rw [capEq] at found
      cases found
      cases mapped with
      | none => cases settled
      | some at' => exact absurd (congrArg Prod.fst (place at' rfl)) settled
    · rw [update_of_ne here]
      exact found
  · rw [cspaceEq] at found
    by_cases here : slot = cap
    · subst here
      rw [update_self] at found
      cases found
      exact named slot object mapped capEq
    · rw [update_of_ne here] at found
      exact named slot frame at' found
  · have older : before.pages view vaddr = some mapping ∧ ¬ (view = kernelVSpace ∧ vaddr = seat) := by
      by_cases here : view = kernelVSpace
      · subst here
        exact ⟨(step.shown vaddr mapping shown).2, fun both => (step.shown vaddr mapping shown).1 both.2⟩
      · exact ⟨by rwa [step.pages view here] at shown, fun both => here both.1⟩
    have found := honest view vaddr mapping older.1
    have apart : mapping.frame ≠ cap := by
      intro same
      rw [same, capEq] at found
      simp only [Option.some.injEq, Cap.frame.injEq] at found
      exact older.2 (Prod.ext_iff.mp (place _ found.2))
    rw [cspaceEq, update_of_ne apart]
    exact found
  · refine framesEq strict frame (fun _ same => ?_) fun page mapping _ shown => honest.hidden found user shown
    obtain rfl := named cap object mapped capEq
    rw [same, capEq] at found
    simp only [Option.some.injEq, Cap.frame.injEq, true_and] at found
    exact user (congrArg Prod.fst (place _ found))

theorem withSeat_within (cap : CPtr) (seat : Nat) (inside : Evolves (Quietly strict through) body) :
    Evolves (Within strict space) (withSeat platform cap seat body) := by
  intro state
  by_cases rooted : state.cspace kernelVSpace = some (.vspace kernelVSpace)
  · exact (withSeat_spec rooted cap seat inside).partly fun _ _ step _ => step.kept
  · exact MemTriple.anything.weaken (fun _ _ => trivial)
      (fun _ _ _ root => absurd root.kernel rooted) fun _ _ => trivial

theorem cnodeCopy_spec (state : KernelState ν) (dest src : CPtr) :
    Yields state (cnodeCopy dest src)
      fun result after => ∀ value, result = .ok value → state.cspace dest = none ∧
        ∃ cap, after = state.setCap dest (some cap) ∧
          ∀ object mapped, cap = .frame object mapped → ∃ mapped', state.cspace src = some (.frame object mapped') := by
  refine .read_bind ?_
  rintro state rfl
  split
  · exact .pure fun _ _ _ => nofun
  · exact .pure fun _ _ _ => nofun
  · exact .pure fun _ _ _ => nofun
  · rename_i object mapped free srcEq
    refine .update_bind (.pure ?_)
    rintro _ rfl _ _
    refine ⟨free, _, rfl, ?_⟩
    rintro _ _ ⟨rfl, rfl⟩
    exact ⟨mapped, srcEq⟩
  · rename_i cap _ _ free srcEq
    refine .update_bind (.pure ?_)
    rintro _ rfl _ _
    refine ⟨free, cap, rfl, ?_⟩
    rintro object mapped rfl
    exact ⟨mapped, srcEq⟩

theorem cnodeDelete_unmapped
    (found : state.cspace slot = some (.frame object none)) :
    RunFrom state (cnodeDelete platform slot)
      (fun _ after => after = state.setCap slot none) raised := by
  refine .update ?_
  rintro _ rfl
  rw [found]
  rfl

/-- The temporary slot is empty again when the access is over. The frame it shows is
not written: its seat is not among the pages written `through`. -/
theorem withPage_spec (rooted : state.cspace kernelVSpace = some (.vspace kernelVSpace))
    (cap : CPtr) (data : Evolves (DataOnly strict through) body)
    (reads : strict → ¬ through platform.pageSeat) :
    Yields state (withPage platform cap body) fun _ after => Quiet strict through state after := by
  refine (unwrapped_spec (cnodeCopy_spec state tempSlot cap) fun _ => trivial).bind fun _ => .fixed ?_
  rintro copied ⟨free, copy, rfl, _⟩
  have apart : kernelVSpace ≠ tempSlot := by decide
  have root : (state.setCap tempSlot (some copy)).cspace kernelVSpace = some (.vspace kernelVSpace) := by
    rw [cspace_setCap, update_of_ne apart, rooted]
  refine (withSeat_spec root tempSlot platform.pageSeat (DataOnly.quietly data)).bind fun value =>
    .fixed fun worked step => ?_
  obtain ⟨object, mapped, _, _, cspaceEq, framesEq⟩ := step.frame
  have shown : worked.cspace tempSlot = some (.frame object none) := by rw [cspaceEq, update_self]
  refine (cnodeDelete_unmapped shown).bind fun _ => .pure ?_
  rintro _ rfl
  refine ⟨?_, fun other outside => step.pages other outside, fun vaddr mapping shown =>
    (step.shown vaddr mapping shown).2,
    fun strict frame hidden => framesEq strict frame (fun seen => absurd seen (reads strict)) hidden, step.tasks,
    step.counter⟩
  rw [cspace_setCap, cspaceEq, cspace_setCap, Function.update_idem, Function.update_idem,
    Function.update_eq_self_iff, free]

theorem withPage_quietly (cap : CPtr) (data : Evolves (DataOnly strict through) body)
    (reads : strict → ¬ through platform.pageSeat) :
    Evolves (Quietly strict through) (withPage platform cap body) := by
  intro state
  by_cases rooted : state.cspace kernelVSpace = some (.vspace kernelVSpace)
  · exact (withPage_spec rooted cap data reads).partly fun _ _ quiet _ => quiet
  · exact MemTriple.anything.weaken (fun _ _ => trivial) (fun _ _ _ root => absurd root rooted)
      fun _ _ => trivial

theorem Quietly.within (quietly : Evolves (Quietly strict through) program) :
    Evolves (Within strict space) program :=
  quietly.mono fun _ _ step rooted => (step rooted.kernel).kept

end RootTaskDemo.Kernel
