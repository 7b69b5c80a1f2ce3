import RootTaskDemo.Kernel.FrameRuns
import RootTaskDemo.Kernel.Isolation

namespace RootTaskDemo.Kernel

open Common Lib Thread
open Function (update_self update_of_ne)

variable {ν α : Type} {platform : Platform} {self self' self'' : Sel4Task} {pages : Nat → Prop}
  {before after state : KernelState ν} {tasks : Std.TreeMap Nat Sel4Task} {key badge : Nat}
  (vaddrs : List Nat)
variable {vaddr : Nat} {built : α → Sel4Task}

/-! What the system calls on memory do to the task that calls them: to its records,
to what it sees at its other pages, and what can stop them. -/

structure Extends (pages : Nat → Prop) (task task' : Sel4Task) : Prop where
  id : task'.id = task.id
  heap : task'.heap = task.heap
  vspace : task'.vspace = task.vspace
  records : ∀ vaddr : Nat, ¬ pages vaddr → task'.mappedPage[vaddr]? = task.mappedPage[vaddr]?

theorem Extends.refl (self : Sel4Task) : Extends pages self self := ⟨rfl, rfl, rfl, fun _ _ => rfl⟩

theorem Extends.trans (first : Extends pages self self') (second : Extends pages self' self'') :
    Extends pages self self'' :=
  ⟨second.id.trans first.id, second.heap.trans first.heap, second.vspace.trans first.vspace,
    fun vaddr outside => (second.records vaddr outside).trans (first.records vaddr outside)⟩

theorem Extends.insert (inside : pages vaddr) (page : CPtr) :
    Extends pages self { self with mappedPage := self.mappedPage.insert vaddr page } := by
  refine ⟨rfl, rfl, rfl, fun other outside => ?_⟩
  rw [getElem?_mapped rfl, if_neg]
  rintro rfl
  exact outside inside

def Builds (pages : Nat → Prop) (self : Sel4Task) (program : KernelM ν α) (built : α → Sel4Task) :
    Prop :=
  MemTriple (fun _ => True) program (fun result _ => Extends pages self (built result)) (fun _ => True)

theorem Builds.pure {value : α} (extends' : Extends pages self (built value)) :
    Builds pages self (Pure.pure value : KernelM ν α) built := MemTriple.pure fun _ _ => extends'

theorem Builds.stop {fault : Fault} : Builds pages self (Thread.stop fault : KernelM ν α) built :=
  MemTriple.stop fun _ _ => trivial

theorem Builds.andThen {β : Type} {program : KernelM ν β} {next : β → KernelM ν α}
    (rest : ∀ value, Builds pages self (next value) built) :
    Builds pages self (program >>= next) built :=
  MemTriple.anything.bind rest

theorem Builds.bind {β : Type} {program : KernelM ν β} {next : β → KernelM ν α}
    {middle : β → Sel4Task} (first : Builds pages self program middle)
    (rest : ∀ value, Builds pages (middle value) (next value) built) :
    Builds pages self (program >>= next) built := by
  refine MemTriple.bind first fun value => .fixed fun state extended => ?_
  exact ((rest value).startingAt trivial).partly fun _ _ later => extended.trans later

theorem Builds.since {program : KernelM ν α} (first : Extends pages self self')
    (rest : Builds pages self' program built) : Builds pages self program built :=
  MemTriple.partly rest fun _ _ later => first.trans later

theorem mapPageLoop_builds (inside : pages vaddr) (page : CPtr) (tries : Nat) (self : Sel4Task) :
    Builds pages self (Sel4Task.mapPageLoop platform vaddr page tries self : KernelM ν _) id := by
  induction tries generalizing self with
  | zero => exact Builds.pure (.refl self)
  | succ tries ih =>
    refine Builds.andThen fun result => ?_
    cases result with
    | ok _ => exact Builds.pure (.insert inside page)
    | error error =>
      cases error with
      | failedLookup =>
        refine Builds.andThen fun pt => Builds.andThen fun _ =>
          Builds.since ?_ (ih { self with mappedPt := self.mappedPt ++ [pt] })
        exact ⟨rfl, rfl, rfl, fun _ _ => rfl⟩
      | _ => exact Builds.stop

theorem mapPage_builds (inside : pages vaddr) (page : CPtr) (self : Sel4Task) :
    Builds pages self (self.mapPage platform vaddr page : KernelM ν _) id := by
  unfold Sel4Task.mapPage
  split
  · exact Builds.stop
  · exact mapPageLoop_builds inside page _ self

theorem mapFresh_builds (inside : ∀ vaddr ∈ vaddrs, pages vaddr) (self : Sel4Task) :
    Builds pages self (Sel4Task.mapFresh platform vaddrs self : KernelM ν _) id := by
  induction vaddrs generalizing self with
  | nil => exact Builds.pure (.refl self)
  | cons vaddr rest ih =>
    exact Builds.andThen fun page =>
      (mapPage_builds (inside vaddr (List.mem_cons_self ..)) page self).bind fun _ =>
      ih (fun other member => inside other (List.mem_cons_of_mem _ member)) _

/-- Nothing is seen of the step but at the given pages: the other pages show what
they showed, and every frame holds what it held. -/
structure Spares (pages : Nat → Prop) (before after : KernelState ν) : Prop where
  steady : Steady False before after
  shown : ∀ view vaddr, before.cspace view = some (.vspace view) → ¬ pages vaddr →
    after.pages view vaddr = before.pages view vaddr
  contents : FramesNamed before → ∀ slot frame, before.frameOf slot = some frame →
    after.frames frame = before.frames frame

instance : IsPreorder (KernelState ν) (Spares pages) where
  refl state := ⟨refl state, fun _ _ _ _ => rfl, fun _ _ _ _ => rfl⟩
  trans _ _ _ first second :=
    ⟨IsTrans.trans _ _ _ first.steady second.steady,
      fun view vaddr root outside => (second.shown view vaddr (first.steady.roots _ _ root) outside).trans
        (first.shown view vaddr root outside),
      fun named slot frame found => (second.contents (first.steady.named named) slot frame
        (first.steady.frames slot frame found)).trans (first.contents named slot frame found)⟩

theorem allocate_spares (type : ObjectType) :
    Evolves (Spares pages) (allocate platform type : KernelM ν CPtr) := by
  refine fun state => (allocate_spec state type).partly fun slot after allocated => ?_
  refine ⟨allocated.steady False.elim, fun view vaddr root _ => ?_, fun named other frame found => ?_⟩
  · unfold KernelState.pages
    rw [allocated.vspaces, update_of_ne (allocated.ne root)]
  · obtain ⟨mapped, capEq⟩ := frameOf_iff.mp found
    rw [allocated.frames, update_of_ne]
    rw [named other frame mapped capEq]
    exact allocated.ne capEq

theorem frameMap_spares (inside : pages vaddr) (cap vspace : CPtr) (rights : CapRights) :
    Evolves (Spares pages) (frameMap platform cap vspace vaddr rights : KernelM ν _) := by
  have steady : Evolves (Steady False) (frameMap platform cap vspace vaddr rights : KernelM ν _) :=
    frameMap_steady cap vspace vaddr rights
  refine fun state => ((steady state).also (frameMap_spec state cap vspace vaddr rights)).partly ?_
  rintro result after ⟨steady, spec⟩
  cases result with
  | ok _ =>
    obtain ⟨object, space, mapped, _, found, _, rfl⟩ := spec
    refine ⟨steady, fun view other _ outside => ?_, fun _ _ _ _ => rfl⟩
    have different : other ≠ vaddr := by
      rintro rfl
      exact outside inside
    rw [pages_setCap]
    by_cases here : view = space
    · rw [here, pages_setPage_self, update_of_ne different]
    · rw [pages_setPage_of_ne _ here]
  | error error =>
    obtain rfl : after = state := spec
    exact refl after

theorem ptMap_spares (cap vspace : CPtr) (vaddr : Nat) :
    Evolves (Spares pages) (unwrapped (ptMap platform cap vspace vaddr) : KernelM ν Unit) := by
  have steady : Evolves (Steady False) (unwrapped (ptMap platform cap vspace vaddr) : KernelM ν Unit) :=
    ptMap_steady cap vspace vaddr
  refine fun state => ((steady state).also
    (unwrapped_spec (ptMap_spec state cap vspace vaddr) fun _ => trivial)).partly ?_
  rintro _ after ⟨steady, object, space, level, found, _, _, rfl⟩
  exact ⟨steady, fun _ _ _ _ => by simp, fun _ _ _ _ => rfl⟩

theorem mapPage_spares (inside : pages vaddr) (page : CPtr) (self : Sel4Task) :
    Evolves (Spares pages) (self.mapPage platform vaddr page : KernelM ν _) := by
  have loop : ∀ (tries : Nat) (self : Sel4Task),
      Evolves (Spares pages) (Sel4Task.mapPageLoop platform vaddr page tries self : KernelM ν _) := by
    intro tries
    induction tries with
    | zero => exact fun _ => .pure
    | succ tries ih =>
      refine fun self => (frameMap_spares inside page self.vspace .all).bind fun result => ?_
      cases result with
      | ok _ => exact .pure
      | error error =>
        cases error with
        | failedLookup => exact (allocate_spares .pageTable).bind fun _ => (ptMap_spares _ _ _).bind fun _ => ih _
        | _ => exact .stop
  unfold Sel4Task.mapPage
  split
  · exact .stop
  · exact loop _ self

theorem mapFresh_spares (inside : ∀ vaddr ∈ vaddrs, pages vaddr) (self : Sel4Task) :
    Evolves (Spares pages) (Sel4Task.mapFresh platform vaddrs self : KernelM ν _) := by
  induction vaddrs generalizing self with
  | nil => exact .pure
  | cons vaddr rest ih =>
    exact (allocate_spares .granule).bind fun page =>
      (mapPage_spares (inside vaddr (List.mem_cons_self ..)) page self).bind
      fun self' => ih (fun other member => inside other (List.mem_cons_of_mem _ member)) self'

theorem mapMissing_spares (self : Sel4Task)
    (recorded : ∀ vaddr, ¬ pages vaddr → vaddr ∈ self.mappedPage) :
    Yields state (mapMissing platform vaddrs self)
      fun self' after => Spares pages state after ∧ Extends pages self self' := by
  induction vaddrs generalizing self state with
  | nil =>
    refine .pure ?_
    rintro _ rfl
    exact ⟨refl _, .refl self⟩
  | cons vaddr rest ih =>
    unfold mapMissing
    split
    · exact ih self recorded
    · rename_i missing
      have inside : pages vaddr := Classical.byContradiction fun outside => missing (recorded vaddr outside)
      have mapped : Yields state
          (allocate platform .granule >>= fun page => self.mapPage platform vaddr page)
          fun self' after => Spares pages state after ∧ Extends pages self self' :=
        MemTriple.also (((allocate_spares .granule).bind fun page => mapPage_spares inside page self) state)
          ((Builds.andThen fun page => mapPage_builds inside page self).weaken (fun _ _ => trivial) (fun _ _ same => same)
            fun _ _ => trivial)
      rw [← bind_assoc]
      refine mapped.bind fun self' => .fixed fun middle first => ?_
      refine (ih self' fun other outside => ?_).partly fun _ _ later =>
        ⟨IsTrans.trans _ _ _ first.1 later.1, first.2.trans later.2⟩
      rw [Std.TreeMap.mem_iff_isSome_getElem?, first.2.records other outside, ← Std.TreeMap.mem_iff_isSome_getElem?]
      exact recorded other outside

/-- An allocation failed, or seL4 did not accept the place of a frame. -/
def Refused : Fault → Prop
  | .panicked .noSlot => True
  | .panicked (.invocation error) =>
    error ∈ [.notEnoughMemory, .deleteFirst, .failedLookup, .invalidArgument]
  | _ => False

theorem unwrapped_refused {pre : KernelState ν → Prop} {program : KernelM ν (Except Sel4Error α)} {post : α → KernelState ν → Prop}
    (spec : MemTriple pre program (fun result after => match result with
      | .ok value => post value after
      | .error error => error ∈ [Sel4Error.notEnoughMemory, .deleteFirst, .failedLookup, .invalidArgument]) Refused) :
    MemTriple pre (unwrapped program) post Refused := by
  refine spec.bind fun result => ?_
  cases result with
  | ok value => exact .pure fun _ holds => holds
  | error error => exact .stop fun _ refused => refused

theorem allocateAndRetype_refused (state : KernelState ν) (type : ObjectType) :
    RunFrom state (allocateAndRetype platform type) (fun slot after => Allocated type slot state after) Refused := by
  have retyped : ∀ (now : KernelState ν) (index : Nat), MemTriple (fun memory => memory = now)
      (unwrapped (retypeCNode platform index)) (fun _ _ => True) Refused := by
    refine fun now index => unwrapped_refused (.read_bind ?_)
    rintro now rfl
    dsimp only
    split
    · exact .pure fun _ _ => by simp
    · split
      · exact .pure fun _ _ => by simp
      · exact .update_bind (.pure fun _ _ => trivial)
  have slotted : RunFrom state (allocateSlot platform) (fun _ _ => True) Refused := by
    refine .read_bind ?_
    rintro state rfl
    dsimp only
    split
    · exact .stop fun _ _ => trivial
    · refine .update_bind ?_
      split
      · exact (retyped _ _).bind fun _ => .pure fun _ _ => trivial
      · exact .pure fun _ _ => trivial
  have placed : ∀ (now : KernelState ν) (dest : CPtr), MemTriple (fun memory => memory = now)
      (unwrapped (untypedRetype platform type dest)) (fun _ _ => True) Refused := by
    refine fun now dest => unwrapped_refused (.read_bind ?_)
    rintro now rfl
    dsimp only
    split
    · exact .pure fun _ _ => by simp
    · split
      · exact .pure fun _ _ => by simp
      · split
        · exact .pure fun _ _ => by simp
        · exact .update_bind (.pure fun _ _ => trivial)
  have total : RunFrom state (allocateAndRetype platform type) (fun _ _ => True) Refused :=
    slotted.bind fun slot => .fixed fun now _ => (placed now slot.2.2).bind fun _ => .pure fun _ _ => trivial
  exact (total.also (allocateAndRetype_spec state type)).mono fun _ _ both => both.2

theorem allocate_refused (state : KernelState ν) (type : ObjectType) :
    RunFrom state (allocate platform type) (fun slot after => Allocated type slot state after) Refused :=
  MemTriple.locked (allocateAndRetype_refused state type)

structure Mappable (task : Sel4Task) (page : CPtr) (state : KernelState ν) : Prop where
  space : ∃ space, state.cspace task.vspace = some (.vspace space) ∧ state.cspace space =
    some (.vspace space)
  page : ∃ frame, state.cspace page = some (.frame frame none)

theorem frameMap_refused {page : CPtr} (mappable : Mappable self page state)
    (aligned : vaddr % pageSize = 0) :
    Delivers state (frameMap platform page self.vspace vaddr .all)
      fun result after => match result with
        | .ok _ => True
        | .error error => after = state ∧ (error = .invalidArgument ∨ error = .failedLookup ∧
          ∀ space, state.cspace self.vspace = some (.vspace space) →
            (missingLevel platform (state.vspaces space) vaddr).isSome) := by
  obtain ⟨space, spaceEq, _⟩ := mappable.space
  obtain ⟨frame, frameEq⟩ := mappable.page
  refine .read_bind ?_
  rintro state rfl
  rw [frameEq, spaceEq]
  simp only [Option.any_none, Bool.false_eq_true, if_false, aligned, ne_eq, not_true_eq_false]
  split
  · exact .pure fun _ same => ⟨same, Or.inl rfl⟩
  · split
    · rename_i missing
      refine .pure fun _ same => ⟨same, Or.inr ⟨rfl, fun space' same => ?_⟩⟩
      cases same
      exact missing
    · exact .update_bind (.pure fun _ _ => trivial)

theorem ptMap_refused {pt : CPtr} {object space : ObjId} (tableEq : state.cspace pt = some (.pageTable object none))
    (spaceEq : state.cspace self.vspace = some (.vspace space))
    (missing : (missingLevel platform (state.vspaces space) vaddr).isSome) :
    RunFrom state (unwrapped (ptMap platform pt self.vspace vaddr)) (fun _ _ => True) Refused := by
  obtain ⟨level, levelEq⟩ := Option.isSome_iff_exists.mp missing
  refine unwrapped_refused (.read_bind ?_)
  rintro state rfl
  rw [tableEq, spaceEq]
  dsimp only
  rw [levelEq]
  exact .update_bind (.pure fun _ _ => trivial)

theorem mapPageLoop_refused {page : CPtr} (aligned : vaddr % pageSize = 0) (tries : Nat)
    (self : Sel4Task) (mappable : Mappable self page state) :
    RunFrom state (Sel4Task.mapPageLoop platform vaddr page tries self) (fun _ _ => True) Refused := by
  induction tries generalizing self state with
  | zero => exact .pure fun _ _ => trivial
  | succ tries ih =>
    refine ((frameMap_refused mappable aligned).raising).bind fun result => .fixed fun mapped spec => ?_
    cases result with
    | ok _ => exact .pure fun _ _ => trivial
    | error error =>
      obtain ⟨rfl, rfl | ⟨rfl, missing⟩⟩ := spec
      · exact .stop fun _ _ => by simp [Refused]
      · -- the table goes where the lookup failed
        obtain ⟨space, spaceEq, root⟩ := mappable.space
        obtain ⟨frame, frameEq⟩ := mappable.page
        refine (allocate_refused mapped .pageTable).bind fun pt => .fixed fun extended allocated => ?_
        have tableEq : extended.cspace pt = some (.pageTable pt none) := by
          rw [allocated.cspace, update_self]
          rfl
        have missingStill : (missingLevel platform (extended.vspaces space) vaddr).isSome := by
          rw [allocated.vspaces, update_of_ne (allocated.ne root)]
          exact missing space spaceEq
        refine ((ptMap_refused tableEq (allocated.caps spaceEq) missingStill).also
          (unwrapped_spec (ptMap_spec extended pt self.vspace vaddr) fun _ => trivial)).bind fun _ => .fixed ?_
        rintro tabled ⟨_, object, space', level, _, _, _, rfl⟩
        have elsewhere : ∀ {slot cap}, mapped.cspace slot = some cap →
            Function.update extended.cspace pt (some (.pageTable object (some (space', level,
              vaddr >>> platform.spanBits level)))) slot = some cap :=
          fun found => (update_of_ne (allocated.ne found) ..).trans (allocated.caps found)
        exact ih { self with mappedPt := self.mappedPt ++ [pt] }
          ⟨⟨space, elsewhere spaceEq, elsewhere root⟩, frame, elsewhere frameEq⟩

theorem mapPage_refused {page : CPtr} (mappable : Mappable self page state)
    (aligned : vaddr % pageSize = 0) :
    RunFrom state (self.mapPage platform vaddr page) (fun _ _ => True) Refused := by
  unfold Sel4Task.mapPage
  rw [if_neg (not_not.mpr aligned)]
  exact mapPageLoop_refused aligned platform.numLevels self mappable

theorem mapNew_refused (aligned : vaddr % pageSize = 0)
    (root : ∃ space, state.cspace self.vspace = some (.vspace space) ∧ state.cspace space =
      some (.vspace space)) :
    RunFrom state (allocate platform .granule >>= fun page => self.mapPage platform vaddr page)
      (fun self' after => self'.vspace = self.vspace ∧
        ∃ space, after.cspace self.vspace = some (.vspace space) ∧ after.cspace space = some (.vspace space)) Refused := by
  refine (allocate_refused state .granule).bind fun page => .fixed fun extended allocated => ?_
  obtain ⟨space, spaceEq, rootEq⟩ := root
  have frameEq : extended.cspace page = some (.frame page none) := by
    rw [allocated.cspace, update_self]
    rfl
  have mappable : Mappable self page extended :=
    ⟨⟨space, allocated.caps spaceEq, allocated.caps rootEq⟩, page, frameEq⟩
  have steady : Evolves (Steady False) (self.mapPage platform vaddr page : KernelM ν _) :=
    mapPage_steady self vaddr page
  refine (((mapPage_refused mappable aligned).also (steady extended)).also
    ((mapPage_builds trivial page self : Builds anyPage self _ id).startingAt trivial)).mono ?_
  rintro self' after ⟨⟨_, steady⟩, extended⟩
  exact ⟨extended.vspace, space, steady.roots _ _ (allocated.caps spaceEq),
    steady.roots _ _ (allocated.caps rootEq)⟩

theorem mapFresh_refused (aligned : ∀ vaddr ∈ vaddrs, vaddr % pageSize = 0) (self : Sel4Task)
    (root : ∃ space, state.cspace self.vspace = some (.vspace space) ∧ state.cspace space =
      some (.vspace space)) :
    RunFrom state (Sel4Task.mapFresh platform vaddrs self) (fun _ _ => True) Refused := by
  induction vaddrs generalizing self state with
  | nil => exact .pure fun _ _ => trivial
  | cons vaddr rest ih =>
    unfold Sel4Task.mapFresh
    rw [← bind_assoc]
    refine (mapNew_refused (aligned vaddr (List.mem_cons_self ..)) root).bind fun self' => .fixed ?_
    rintro mapped ⟨vspace, root⟩
    exact ih (fun other member => aligned other (List.mem_cons_of_mem _ member)) self' (vspace ▸ root)

theorem mapMissing_refused (aligned : ∀ vaddr ∈ vaddrs, vaddr % pageSize = 0) (self : Sel4Task)
    (root : ∃ space, state.cspace self.vspace = some (.vspace space) ∧ state.cspace space =
      some (.vspace space)) :
    RunFrom state (mapMissing platform vaddrs self) (fun _ _ => True) Refused := by
  induction vaddrs generalizing self state with
  | nil => exact .pure fun _ _ => trivial
  | cons vaddr rest ih =>
    have restAligned := fun other member => aligned other (List.mem_cons_of_mem vaddr member)
    unfold mapMissing
    split
    · exact ih restAligned self root
    · rw [← bind_assoc]
      refine (mapNew_refused (aligned vaddr (List.mem_cons_self ..)) root).bind fun self' => .fixed ?_
      rintro mapped ⟨vspace, root⟩
      exact ih restAligned self' (vspace ▸ root)

theorem unmapPresent_removes (aligned : ∀ vaddr ∈ vaddrs, vaddr % pageSize = 0) (self : Sel4Task)
    (backed : ∀ vaddr ∈ vaddrs, ∀ cap, self.mappedPage[vaddr]? = some cap → HasFrame state cap) :
    Delivers state (unmapPresent vaddrs self)
      fun self' _ => ∀ vaddr : Nat, self'.mappedPage[vaddr]? = if vaddr ∈ vaddrs then none
        else self.mappedPage[vaddr]? := by
  induction vaddrs generalizing self state with
  | nil => exact .pure fun _ _ vaddr => by simp
  | cons vaddr rest ih =>
    have restAligned := fun other member => aligned other (List.mem_cons_of_mem vaddr member)
    have restBacked := fun other member => backed other (List.mem_cons_of_mem vaddr member)
    unfold unmapPresent
    split
    · rename_i missing
      refine (ih restAligned self restBacked).mono fun self' _ removed other => ?_
      rw [removed other]
      by_cases here : other = vaddr
      · simp [here, missing]
      · simp [here]
    · rename_i page found
      unfold Sel4Task.unmapPage
      rw [if_neg (not_not.mpr (aligned vaddr (List.mem_cons_self ..)))]
      obtain ⟨frame, mapped, capEq⟩ := backed vaddr (List.mem_cons_self ..) page found
      have steady : Evolves (Steady False) (unwrapped (frameUnmap page) : KernelM ν Unit) := frameUnmap_steady page
      rw [bind_assoc]
      refine (((frameUnmap_returns capEq).also (steady state)).bind fun _ => .fixed ?_)
      rintro unmapped ⟨_, steady⟩
      rw [pure_bind]
      refine (ih restAligned { self with mappedPage := self.mappedPage.erase vaddr }
        fun other member cap recorded => ?_).weaken
        (fun _ same => same) (fun self' _ removed other => ?_) fun _ never => never
      · rw [Std.TreeMap.getElem?_erase] at recorded
        split at recorded
        · cases recorded
        · exact steady.hasFrame (restBacked other member cap recorded)
      · rw [removed other, Std.TreeMap.getElem?_erase]
        by_cases here : other = vaddr
        · simp [here]
        · simp [here, Ne.symm here]

theorem unmapPresent_total (aligned : ∀ vaddr ∈ vaddrs, vaddr % pageSize = 0) (self : Sel4Task)
    (backed : ∀ (vaddr : Nat) cap, self.mappedPage[vaddr]? = some cap → HasFrame state cap) :
    Delivers state (unmapPresent vaddrs self) fun _ _ => True :=
  (unmapPresent_removes vaddrs aligned self fun vaddr _ => backed vaddr).mono fun _ _ _ => trivial

end RootTaskDemo.Kernel
