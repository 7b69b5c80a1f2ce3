import RootTaskDemo.Kernel.Main
import RootTaskDemo.Root.CSpace

namespace RootTaskDemo.Root

open Lib CSpace Function
open Kernel (ObjectType)

variable {contents held : List (Nat × Content Cap)} {task : Task} {before : CapState}

/-! What the threads are started with. The root task keeps track of the objects and the slots
that it has used up, and of the two levels that it has built for each of the threads. -/

abbrev Caps := List (Nat × Content Cap)

/-- A thread that gets its capabilities: the slot of the root task with its first level, the
node of that level, behind which comes the node of the second one, and what is in there. -/
structure Space where
  cnode : Nat
  node : Nat
  contents : Caps

/-- What the root task keeps track of: the first node without a use, the next object and
the next slot, capabilities of its own, and the threads. -/
structure Plan where
  unused : Nat
  object : Nat
  counter : Nat
  held : Caps
  threads : Nat
  spaces : Nat → Option Space
  roots : Nat → Option NodeCap

/-- The two levels of a thread are nodes of its own. -/
structure Space.Built (space : Space) (unused : Nat) (held : Caps) (slots : Slots Cap) : Prop where
  above : 2 ≤ space.node
  below : space.node + 1 < unused
  cnode : (space.cnode, .node (topCap space.node)) ∈ held
  first : ∀ index, slots space.node index =
    if index = 0 then some (.node (leafCap (space.node + 1))) else none
  second : ∀ index, slots (space.node + 1) index = space.contents.lookup index

structure Laid (plan : Plan) (state : CapState) : Prop where
  root : state.root = topCap 1
  roots : state.roots = plan.roots
  object : state.nextObject = plan.object
  counter : state.emptySlots.1 = plan.counter
  range : cnodeSlot < plan.counter ∧ plan.counter ≤ 4096 ∧ state.emptySlots.2 ≤ 4096
  cnode : state.slots 0 cnodeSlot = some (.node (topCap 1))
  temp : state.slots 0 0 = none
  vacant : ∀ slot, plan.counter ≤ slot → slot < state.emptySlots.2 → state.slots 0 slot = none
  held : ∀ entry ∈ plan.held, entry.1 < plan.counter ∧ state.slots 0 entry.1 = some entry.2
  first : ∀ index, state.slots 1 index = if index = 0 then some (.node (leafCap 0)) else none
  unused : 2 ≤ plan.unused ∧ plan.unused ≤ plan.object
  blank : ∀ node index, plan.unused ≤ node → state.slots node index = none
  spaces : ∀ thread space, plan.spaces thread = some space → thread < plan.threads ∧
    space.Built plan.unused plan.held state.slots
  apart : ∀ thread other space space', plan.spaces thread = some space → plan.spaces other =
    some space' → thread ≠ other →
    space.node + 1 < space'.node ∨ space'.node + 1 < space.node

variable {untypedSize : Nat} {state : CapState} {slot thread : Nat} {content changed : Content Cap}
  {plan : Plan} {space : Space}
  {type : ObjectType}

namespace Laid

theorem first_found (laid : Laid plan state) : state.slots 1 0 = some (.node (leafCap 0)) :=
  (laid.first 0).trans (if_pos rfl)

theorem own_found (laid : Laid plan state) (member : (slot, content) ∈ plan.held) :
    slot < 4096 ∧ lookup state.slots state.root wordBits slot = some content := by
  obtain ⟨below, found⟩ := laid.held _ member
  have small := Nat.lt_of_lt_of_le below laid.range.2.1
  exact ⟨small, lookup_top laid.root laid.first_found small found⟩

theorem cnode_found (laid : Laid plan state) :
    lookup state.slots state.root wordBits cnodeSlot = some (.node (topCap 1)) :=
  lookup_top laid.root laid.first_found (by decide) laid.cnode

theorem slot_own (laid : Laid plan state) (small : slot < 4096) :
    (absCptr slot).slot.run state = .ok (0, slot) state :=
  slot_own_run laid.root laid.first_found laid.cnode small

theorem destination_own (laid : Laid plan state) (small : slot < 4096)
    (empty : state.slots 0 slot = none) :
    (destination (relativeBitsWithDepth cnodeSlot 0 52) slot).run state = .ok (0, slot) state := by
  have reached : (relativeBitsWithDepth cnodeSlot 0 52).slot.run state = .ok (1, 0) state := by
    refine slot_run laid.cnode_found ⟨by decide, by decide⟩ ?_
    exact (resolve_exact (by decide) : resolve state.slots (63 + 1) ⟨1, 12, 40, 0⟩ 0 (40 + 12) = _)
  exact destination_run reached (by decide) laid.first_found small empty

theorem skip (laid : Laid plan state) (left : plan.counter < state.emptySlots.2) :
    Laid { plan with counter := plan.counter + 1 } state.taking := by
  obtain ⟨root, roots, object, counter, range, cnode, temp, vacant, held, first, unused, blank,
    spaces, apart⟩ := laid
  exact ⟨root, roots, object, congrArg (· + 1) counter, by grind [CapState.taking], cnode, temp,
    fun slot above => vacant slot (Nat.le_of_succ_le above), fun entry member =>
      ⟨Nat.lt_succ_of_lt (held entry member).1,
    (held entry member).2⟩, first, unused, blank, spaces, apart⟩

theorem fill (laid : Laid plan state) (content : Content Cap) (taken : slot < plan.counter)
    (positive : slot ≠ 0) (empty : state.slots 0 slot = none) :
    Laid { plan with held := (slot, content) :: plan.held } (state.put (0, slot) (some content)) := by
  obtain ⟨root, roots, object, counter, range, cnode, temp, vacant, held, first, unused, blank,
    spaces, apart⟩ := laid
  refine ⟨root, roots, object, counter, range, ?_, ?_, ?_, ?_, ?_, unused, ?_,
    fun thread space found => ?_, apart⟩
  · grind
  · grind
  · grind [CapState.put]
  · grind
  · grind
  · grind
  · obtain ⟨known, above, below, cnode, first, second⟩ := spaces thread space found
    exact ⟨known, above, below, List.mem_cons_of_mem _ cnode, by grind, by grind⟩

theorem advance (laid : Laid plan state) (watermark : Nat) :
    Laid { plan with object := plan.object + 1 } { state with nextObject := plan.object + 1, watermark } :=
  { laid with object := rfl, unused := ⟨laid.unused.1, Nat.le_succ_of_le laid.unused.2⟩ }

theorem forget (laid : Laid plan state) (fewer : held ⊆ plan.held)
    (kept : ∀ thread space, plan.spaces thread = some space → (space.cnode, .node (topCap space.node)) ∈ held) :
    Laid { plan with held } state :=
  { laid with
    held := fun entry member => laid.held entry (fewer member)
    spaces := fun thread space found => ⟨(laid.spaces thread space found).1,
      { (laid.spaces thread space found).2 with cnode := kept thread space found }⟩ }

end Laid

def Plan.alloc (plan : Plan) (type : ObjectType) : Plan :=
  { plan with
    object := plan.object + 1
    counter := plan.counter + 1
    held := (plan.counter, objectContent plan.object type) :: plan.held }

def Plan.skipped (plan : Plan) (count : Nat) : Plan :=
  { plan with object := plan.object + count, counter := plan.counter + count }

theorem nextSlot_spec : Triple (Laid plan) nextSlot (fun raw after => raw = plan.counter ∧
    Laid { plan with counter := plan.counter + 1 } after ∧ after.slots 0 plan.counter = none) Short := by
  intro state laid
  obtain full | ⟨left, taken⟩ := nextSlot_run state
  · rw [full]
    exact Or.inl rfl
  · rw [laid.counter] at left taken
    rw [taken]
    exact ⟨rfl, laid.skip left, laid.vacant _ (Nat.le_refl _) left⟩

theorem allocateSlot_spec : Triple (Laid plan) (allocateSlot untypedSize)
    (fun slot after => slot = (plan.counter, 0, plan.counter) ∧
    Laid { plan with counter := plan.counter + 1 } after ∧ after.slots 0 plan.counter = none) Short := by
  intro state laid
  have start : 2 < plan.counter := laid.range.1
  refine nextSlot_spec.bind (fun raw => ?_) state laid
  rintro now ⟨rfl, laid, empty⟩
  have inside : plan.counter < 2 ^ 12 := laid.range.2.1
  have node : plan.counter >>> 12 = 0 := shiftRight_of_lt inside
  have index : plan.counter &&& 0xfff = plan.counter := by
    have := Nat.and_two_pow_sub_one_eq_mod plan.counter 12
    rwa [Nat.mod_eq_of_lt inside] at this
  have later : plan.counter ≠ 0 := by omega
  simp only [node, index, if_neg later]
  exact ⟨rfl, laid, empty⟩

theorem allocateAndRetype_spec (type : ObjectType) :
    Triple (Laid plan) (allocateAndRetype untypedSize type) (fun raw after => raw = plan.counter ∧
      Laid (plan.alloc type) after)
      Short := by
  intro state laid
  have start : 2 < plan.counter := laid.range.1
  refine allocateSlot_spec.bind (fun slot => ?_) state laid
  rintro now ⟨rfl, laid, empty⟩
  obtain short | ⟨watermark, made⟩ :=
    untypedRetype_run untypedSize type (laid.destination_own laid.range.2.1 empty)
    fun index => laid.blank _ index (laid.object ▸ laid.unused.2)
  · rw [EStateM.run_bind, short]
    exact Or.inr rfl
  · rw [EStateM.run_bind, made, laid.object]
    exact ⟨rfl, (laid.fill (objectContent plan.object type) (Nat.lt_succ_self _) (by omega)
      empty).advance watermark⟩

theorem allocateAll_spec (types : List ObjectType) :
    Triple (Laid plan) (allocateAll untypedSize types) (fun _ => Laid (plan.skipped types.length)) Short := by
  induction types generalizing plan with
  | nil => exact Triple.pure fun _ laid => laid
  | cons type rest ih =>
    have step : Triple (Laid plan) (allocateAndRetype untypedSize type) (fun _ => Laid (plan.skipped 1)) Short := by
      refine fun state laid => (allocateAndRetype_spec type).weaken (fun _ laid => laid) (fun _ _ made => ?_)
        (fun _ _ short => short) state laid
      exact made.2.forget (List.subset_cons_self ..) fun thread space found => (laid.spaces thread space found).2.cnode
    have count : (plan.skipped 1).skipped rest.length = plan.skipped (rest.length + 1) := by
      simp only [Plan.skipped, Nat.add_assoc, Nat.add_comm 1]
    exact count ▸ step.bind fun _ => ih

def Plan.serving (plan : Plan) (thread : Nat) (space : Space) : Plan :=
  { plan with spaces := update plan.spaces thread (some space) }

def Space.give (space : Space) (slot : Nat) (content : Content Cap) : Space :=
  { space with contents := (slot, content) :: space.contents }

theorem Laid.slot_space (laid : Laid plan state) (found : plan.spaces thread = some space)
    (small : slot < 4096) :
    (relative space.cnode slot).slot.run state = .ok (space.node + 1, slot) state := by
  have built := (laid.spaces thread space found).2
  exact slot_top (laid.own_found built.cnode).2 ((built.first 0).trans (if_pos rfl)) small

theorem Laid.give (laid : Laid plan state) (found : plan.spaces thread = some space)
    (content : Content Cap) :
    Laid (plan.serving thread (space.give slot content)) (state.put (space.node + 1, slot) (some content)) := by
  obtain ⟨root, roots, object, counter, range, cnode, temp, vacant, held, first, unused, blank,
    spaces, apart⟩ := laid
  obtain ⟨known, above, below, own, top, inner⟩ := spaces thread space found
  refine ⟨root, roots, object, counter, range, ?_, ?_, ?_, ?_, ?_, unused, ?_,
    fun other space' found' => ?_, ?_⟩
  · grind
  · grind
  · grind [CapState.put, Plan.serving]
  · grind [Plan.serving]
  · grind
  · grind [Plan.serving]
  · simp only [Plan.serving, update_apply] at found'
    split at found'
    · cases found'
      refine ⟨by grind [Plan.serving], above, below, own, by grind [Space.give], fun index => ?_⟩
      rw [Space.give, List.lookup_cons]
      grind
    · obtain ⟨known', above', below', own', top', inner'⟩ := spaces other space' found'
      have := apart thread other space space' found found' (Ne.symm ‹_›)
      exact ⟨known', above', below', own', by grind, by grind⟩
  · intro one other space₁ space₂ found₁ found₂ differ
    simp only [Plan.serving, update_apply] at found₁ found₂
    grind [Space.give]

theorem give_spec (change : Content Cap → Option (Content Cap))
    (found : plan.spaces thread = some space) (small : slot < 4096)
    (empty : space.contents.lookup slot = none) {own : Nat} (source : (own, content) ∈ plan.held)
    (changes : change content = some changed) :
    Triple (Laid plan) (transfer change false (relative space.cnode slot) (absCptr own))
      (fun _ => Laid (plan.serving thread (space.give slot changed))) Short := by
  intro state laid
  have vacant := ((laid.spaces thread space found).2.second slot).trans empty
  rw [transfer_run false (laid.slot_space found small) vacant
    (laid.slot_own (laid.own_found source).1) (laid.held _ source).2 changes]
  exact laid.give found changed

def Plan.nest (plan : Plan) : Plan :=
  { plan with
    unused := plan.object + 2
    object := plan.object + 3
    counter := plan.counter + 3
    held := (plan.counter + 2, .other (.object .vspace (plan.object + 2) 0)) ::
      (plan.counter, .node (topCap plan.object)) :: plan.held
    threads := plan.threads + 1
    spaces := update plan.spaces plan.threads (some ⟨plan.counter, plan.object, []⟩) }

def CapState.nested (state : CapState) (cnode inner first second : Nat) : CapState :=
  ((state.put (first, 0) (some (.node (leafCap second)))).put (0, inner) none).put (0, cnode)
    (some (.node (topCap first)))

theorem nest_run (laid : Laid plan state) {cnode inner first second : Nat}
    (outer : (cnode, .node (leafCap first)) ∈ plan.held)
    (nested : (inner, .node (leafCap second)) ∈ plan.held) (above : 1 < first)
    (blank : state.slots first 0 = none) (later : cnodeSlot < cnode ∧ cnode < inner) {α : Type}
    (rest : CapM α) :
    (mutate (Root.skip 0) (relativeBitsWithDepth cnode 0 cnodeRadixBits) (absCptr inner) >>= fun _ =>
      mutate (skipHighBits (2 * cnodeRadixBits)) (absCptr 0) (absCptr cnode) >>= fun _ =>
      mutate (skipHighBits (2 * cnodeRadixBits)) (absCptr cnode) (absCptr 0) >>= fun _ => rest).run state =
      rest.run (state.nested cnode inner first second) := by
  have slots : cnodeSlot = 2 := rfl
  have outside := (laid.own_found outer).1
  have inside := (laid.own_found nested).1
  have own := (laid.held _ outer).2
  have own' := (laid.held _ nested).2
  have start := laid.first_found
  have temp := laid.temp
  have cnodeOwn := laid.cnode
  let moved := (state.put (first, 0) (some (.node (leafCap second)))).put (0, inner) none
  let lent := (moved.put (0, 0) (some (.node (topCap first)))).put (0, cnode) none
  have first₁ : moved.slots 1 0 = some (.node (leafCap 0)) ∧ moved.slots 0 cnodeSlot =
    some (.node (topCap 1)) := by grind
  have first₂ : lent.slots 1 0 = some (.node (leafCap 0)) ∧ lent.slots 0 cnodeSlot =
    some (.node (topCap 1)) := by grind
  have last : (lent.put (0, cnode) (some (.node (topCap first)))).put (0, 0) none =
      state.nested cnode inner first second := by
    refine congrArg (fun slots => { state with slots }) (funext fun node => funext fun index => ?_)
    change (((lent.put (0, cnode) (some (.node (topCap first)))).put (0, 0) none).slots node index) =
      (moved.put (0, cnode) (some (.node (topCap first)))).slots node index
    grind
  have run₁ : (mutate (Root.skip 0) (relativeBitsWithDepth cnode 0 cnodeRadixBits)
    (absCptr inner)).run state = .ok () moved :=
    transfer_run true (slot_leaf (laid.own_found outer).2) blank (laid.slot_own inside) own' rfl
  have run₂ : (mutate (skipHighBits (2 * cnodeRadixBits)) (absCptr 0) (absCptr cnode)).run moved =
    .ok () lent :=
    transfer_run true (slot_own_run laid.root first₁.1 first₁.2 (by decide)) (by grind)
      (slot_own_run laid.root first₁.1 first₁.2 outside) (by grind : _ = some (.node (leafCap first))) rfl
  have run₃ : (mutate (skipHighBits (2 * cnodeRadixBits)) (absCptr cnode) (absCptr 0)).run lent =
    .ok () (state.nested cnode inner first second) :=
    last ▸ transfer_run true (slot_own_run laid.root first₂.1 first₂.2 outside) (by grind)
      (slot_own_run laid.root first₂.1 first₂.2 (by decide)) (by grind : _ = some (.node (topCap first))) rfl
  rw [run_then run₁, run_then run₂, run_then run₃]

theorem Laid.nested (old : Laid plan before)
    (laid : Laid (((plan.alloc (.cnode 12)).alloc (.cnode 12)).alloc .vspace) state) :
    Laid plan.nest (state.nested plan.counter (plan.counter + 1) plan.object (plan.object + 1)) := by
  obtain ⟨root, roots, object, counter, range, cnode, temp, vacant, held, first, unused, blank,
    spaces, apart⟩ := laid
  have below := old.unused
  have start : 2 < plan.counter := old.range.1
  have slots : cnodeSlot = 2 := rfl
  have older := old.held
  have vspace := (held _ (List.mem_cons_self ..)).2
  have known : ∀ thread space, plan.spaces thread = some space → thread < plan.threads ∧
    space.node + 1 < plan.object ∧
      (space.cnode, .node (topCap space.node)) ∈ plan.held := fun thread space found =>
    ⟨(old.spaces thread space found).1, Nat.lt_of_lt_of_le (old.spaces thread space found).2.below below.2,
      (old.spaces thread space found).2.cnode⟩
  simp only [Plan.alloc, objectContent] at *
  refine ⟨root, roots, object, counter, range, ?_, ?_, ?_, ?_, ?_, ?_, ?_, fun thread space found =>
    ?_, ?_⟩
  · grind [CapState.nested]
  · grind [CapState.nested]
  · grind [CapState.nested, Plan.nest, CapState.put]
  · grind [CapState.nested, Plan.nest]
  · grind [CapState.nested]
  · grind [CapState.nested, Plan.nest]
  · grind [CapState.nested, Plan.nest]
  · simp only [Plan.nest, update_apply] at found
    split at found
    · cases found
      refine ⟨by grind [Plan.nest], by grind, by grind [Plan.nest], by grind [Plan.nest], by grind [CapState.nested], fun index => ?_⟩
      grind [CapState.nested]
    · obtain ⟨-, above, below, -, top, inner⟩ := spaces thread space found
      exact ⟨by grind [Plan.nest], above, by grind [Plan.nest], by grind [Plan.nest], by grind [CapState.nested],
        by grind [CapState.nested]⟩
  · intro one other space₁ space₂ found₁ found₂ differ
    simp only [Plan.nest, update_apply] at found₁ found₂
    grind

section Steps

variable {α : Type} {next : Nat → CapM α} {rest : CapM α} {post : α → CapState → Prop}

theorem allocated (later : Triple (Laid (plan.alloc type)) (next plan.counter) post Short) :
    Triple (Laid plan) (allocateAndRetype untypedSize type >>= next) post Short := by
  refine (allocateAndRetype_spec type).bind fun raw state holds => ?_
  obtain ⟨rfl, laid⟩ := holds
  exact later state laid

theorem skippedAll (types : List ObjectType)
    (later : Triple (Laid (plan.skipped types.length)) rest post Short) :
    Triple (Laid plan) (allocateAll untypedSize types >>= fun _ => rest) post Short :=
  (allocateAll_spec types).bind fun _ => later

end Steps

theorem second_held {first second : Nat × Content Cap} : second ∈ first :: second :: held :=
  List.mem_cons_of_mem _ (List.mem_cons_self ..)

theorem makeChildVspace_spec (old : Laid plan before) (image : List ObjectType) :
    Triple (Laid (plan.alloc (.cnode 12))) (makeChildVspace untypedSize plan.counter image)
      (fun vspace after => vspace = plan.counter + 2 ∧
        Laid ((plan.nest.skipped image.length).alloc .granule) after) Short := by
  refine allocated (allocated fun state laid => ?_)
  have later : Triple (Laid plan.nest) (allocateAll untypedSize image >>= fun _ =>
      allocateAndRetype untypedSize .granule >>= fun _ => pure (plan.counter + 1 + 1)) (fun vspace after =>
        vspace = plan.counter + 2 ∧ Laid ((plan.nest.skipped image.length).alloc .granule) after) Short :=
    skippedAll image (allocated (Triple.pure fun _ laid => ⟨rfl, laid⟩))
  have moved := nest_run laid (List.mem_cons_of_mem _ second_held)
    second_held (Nat.lt_of_lt_of_le old.unused.1 old.unused.2) (laid.blank _ 0 old.unused.2)
    ⟨old.range.1, Nat.lt_succ_self _⟩ (allocateAll untypedSize image >>= fun _ =>
      allocateAndRetype untypedSize .granule >>= fun _ => pure (plan.counter + 1 + 1))
  have reached := later _ (old.nested laid)
  rwa [show EStateM.run _ (state.nested plan.counter (plan.counter + 1) plan.object
    (plan.object + 1)) = _ from moved.symm] at reached

def standardCaps (faultEp irqEp badge node vspace tcb : Nat) : Caps :=
  [(vspaceSlot, .other (.object .vspace vspace 0)), (tcbSlot, .other (.object .tcb tcb 0)),
    (cnodeSlot, .node (topCap node)),
    (asidControlSlot, .other (.initial asidControlSlot)), (asidPoolSlot, .other (.initial asidPoolSlot)),
    (defaultThreadIrqEp, .other (.object .endpoint irqEp badge)),
      (defaultThreadFaultEp, .other (.object .endpoint faultEp badge))]

theorem serve_spec (slot : Nat) (change : Content Cap → Option (Content Cap)) (small : slot < 4096)
    (empty : space.contents.lookup slot = none) {own : Nat} (source : (own, content) ∈ plan.held)
    (changes : change content = some changed) :
    Triple (Laid (plan.serving thread space)) (transfer change false (relative space.cnode slot) (absCptr own))
      (fun _ => Laid (plan.serving thread (space.give slot changed))) Short := by
  have found : (plan.serving thread space).spaces thread = some space := update_self ..
  have spec := give_spec change found small empty source changes
  simpa only [Plan.serving, update_idem] using spec

structure Supplies (held : Caps) (faultEp irqEp fault irq : Nat) : Prop where
  faults : (faultEp, .other (.object .endpoint fault 0)) ∈ held
  irqs : (irqEp, .other (.object .endpoint irq 0)) ∈ held
  pool : (asidPoolSlot, .other (.initial asidPoolSlot)) ∈ held
  control : (asidControlSlot, .other (.initial asidControlSlot)) ∈ held

theorem Supplies.mono {held' : Caps} {faultEp irqEp fault irq : Nat}
    (supplies : Supplies held faultEp irqEp fault irq) (more : held ⊆ held') :
    Supplies held' faultEp irqEp fault irq :=
  ⟨more supplies.faults, more supplies.irqs, more supplies.pool, more supplies.control⟩

theorem Task.new_spec {faultEp irqEp fault irq node : Nat} (badge : Nat)
    (supplies : Supplies plan.held faultEp irqEp fault irq) :
    Triple (Laid (plan.serving thread ⟨task.cnode, node, []⟩)) (task.new faultEp badge irqEp)
      (fun _ => Laid (plan.serving thread ⟨task.cnode, node, [(asidControlSlot, .other (.initial asidControlSlot)),
        (asidPoolSlot, .other (.initial asidPoolSlot)), (defaultThreadIrqEp, .other (.object .endpoint irq badge)),
        (defaultThreadFaultEp, .other (.object .endpoint fault badge))]⟩)) Short := by
  refine (serve_spec defaultThreadFaultEp (updateCapData false badge) (by decide) (by rfl)
    supplies.faults rfl).bind fun _ => ?_
  refine (serve_spec defaultThreadIrqEp (updateCapData false badge) (by decide) (by rfl)
    supplies.irqs rfl).bind fun _ => ?_
  refine (serve_spec asidPoolSlot some (by decide) (by rfl) supplies.pool rfl).bind fun _ => ?_
  exact serve_spec asidControlSlot some (by decide) (by rfl) supplies.control rfl

theorem Task.configure_spec {node vspace tcb : Nat}
    (cnode : (task.cnode, .node (topCap node)) ∈ plan.held)
    (control : (task.tcb, .other (.object .tcb tcb 0)) ∈ plan.held)
    (space : (task.vspace, .other (.object .vspace vspace 0)) ∈ plan.held)
    (empty : contents.lookup cnodeSlot = none ∧ contents.lookup tcbSlot = none ∧
      contents.lookup vspaceSlot = none) :
    Triple (Laid (plan.serving thread ⟨task.cnode, node, contents⟩)) (task.configure (2 * cnodeRadixBits))
      (fun _ => Laid { plan.serving thread ⟨task.cnode, node, (vspaceSlot, .other (.object .vspace vspace 0)) ::
          (tcbSlot, .other (.object .tcb tcb 0)) :: (cnodeSlot, .node (topCap node)) :: contents⟩ with
        roots := update plan.roots tcb (some (topCap node)) }) Short := by
  refine (serve_spec cnodeSlot (updateCapData false (skipHighBits (2 * cnodeRadixBits))) (by decide)
    (by exact empty.1) cnode rfl).bind fun _ => ?_
  refine (serve_spec tcbSlot some (by decide) (by exact empty.2.1) control rfl).bind fun _ => ?_
  refine (serve_spec vspaceSlot some (by decide) (by exact empty.2.2) space rfl).bind
    fun _ state laid => ?_
  rw [run_then (capAt_run (laid.own_found control).2)]
  dsimp only
  rw [run_then (spaceRoot_run (laid.own_found cnode).2 rfl)]
  exact { laid with roots := congrArg (update · tcb _) laid.roots }

theorem threadBuilt {α : Type} {next : Task → CapM α} {post : α → CapState → Prop}
    {faultEp irqEp fault irq badge : Nat} {image stack : List ObjectType}
    (supplies : Supplies plan.held faultEp irqEp fault irq)
    (later : ∀ (plan' : Plan) (tcb vspace : Nat), plan.held ⊆ plan'.held →
      (tcb, .other (.object .tcb (plan.object + 3 + image.length + 1) 0)) ∈ plan'.held →
      plan'.object = plan.object + 3 + image.length + 1 + 1 + stack.length → plan'.threads =
      plan.threads + 1 → plan'.spaces =
      update plan.spaces plan.threads
      (some ⟨plan.counter, plan.object, standardCaps fault irq badge plan.object (plan.object + 2)
      (plan.object + 3 + image.length + 1)⟩) → plan'.roots =
      update plan.roots (plan.object + 3 + image.length + 1) (some (topCap plan.object)) →
      Triple (Laid plan') (next ⟨tcb, plan.counter, vspace⟩) post Short) :
    Triple (Laid plan) (buildKernelThread untypedSize faultEp badge irqEp image stack >>= next) post Short := by
  intro state laid
  simp only [buildKernelThread, bind_assoc, pure_bind]
  refine (allocated ?_ : Triple (Laid plan) _ _ _) state laid
  refine (makeChildVspace_spec laid image).bind fun vspace => ?_
  rintro state ⟨rfl, laid⟩
  refine (allocated ?_ : Triple (Laid _) _ _ _) state laid
  let equipped : Plan := { ((plan.nest.skipped image.length).alloc .granule).alloc
    .tcb with spaces := plan.spaces }
  let task : Task := ⟨plan.counter + 3 + image.length + 1, plan.counter, plan.counter + 2⟩
  have more : plan.held ⊆ equipped.held := fun entry member => by
    simp [equipped, Plan.alloc, Plan.skipped, Plan.nest, member]
  have parts : (task.cnode, .node (topCap plan.object)) ∈ equipped.held ∧
      (task.tcb, .other (.object .tcb (plan.object + 3 + image.length + 1) 0)) ∈ equipped.held ∧
      (task.vspace, .other (.object .vspace (plan.object + 2) 0)) ∈ equipped.held := by
    simp [equipped, Plan.alloc, Plan.skipped, Plan.nest, objectContent, task]
  refine (Task.new_spec badge (supplies.mono more) :
    Triple (Laid (equipped.serving plan.threads ⟨task.cnode, plan.object, []⟩)) _ _ _).bind fun _ => ?_
  refine (Task.configure_spec parts.1 parts.2.1 parts.2.2 ⟨rfl, rfl, rfl⟩ : Triple _
    (task.configure _) _ _).bind fun _ => ?_
  exact skippedAll stack (later _ _ _ more parts.2.1 rfl rfl rfl rfl)

section Steps

variable {α : Type} {rest : CapM α} {next : Nat × Nat × Nat → CapM α} {post : α → CapState → Prop}
  {own : Nat}

theorem slotTaken {next : Nat → CapM α}
    (later : Triple (Laid { plan with counter := plan.counter + 1 }) (next plan.counter) post Short) :
    Triple (Laid plan) (nextSlot >>= next) post Short := by
  refine nextSlot_spec.bind fun raw state holds => ?_
  obtain ⟨rfl, laid, -⟩ := holds
  exact later state laid

theorem given (thread : Nat) {cnode node : Nat}
    (found : plan.spaces thread = some ⟨cnode, node, contents⟩) (small : slot < 4096)
    (empty : contents.lookup slot = none) (source : (own, content) ∈ plan.held)
    (later : Triple (Laid (plan.serving thread ⟨cnode, node, (slot, content) :: contents⟩)) rest post Short) :
    Triple (Laid plan) (copy (relative cnode slot) (absCptr own) >>= fun _ => rest) post Short :=
  (give_spec some found small empty source rfl).bind fun _ => later

theorem deviceTaken
    (later : Triple (Laid { plan with counter := plan.counter + 1, held := (plan.counter, .other .device) :: plan.held })
      (next (plan.counter, 0, plan.counter)) post Short) :
    Triple (Laid plan) (do
      let slot ← allocateSlot untypedSize
      let frame ← destination (relativeBitsWithDepth cnodeSlot slot.2.1 52) slot.1
      modify fun state => state.put frame (some (.other .device))
      next slot) post Short := by
  intro state laid
  have start : 2 < plan.counter := laid.range.1
  refine allocateSlot_spec.bind (fun slot => ?_) state laid
  rintro now ⟨rfl, laid, empty⟩
  rw [EStateM.run_bind, laid.destination_own laid.range.2.1 empty]
  exact later _ (laid.fill (.other .device) (Nat.lt_succ_self _) (by omega) empty)

theorem deviceCopied (source : (own, .other .device) ∈ plan.held)
    (later : Triple (Laid { plan with counter := plan.counter + 1, held := (plan.counter, .other .device) :: plan.held })
      (next (plan.counter, 0, plan.counter)) post Short) :
    Triple (Laid plan) (do
      let slot ← allocateSlot untypedSize
      copy (absCptr slot.2.2) (absCptr own)
      next slot) post Short := by
  intro state laid
  have start : 2 < plan.counter := laid.range.1
  refine allocateSlot_spec.bind (fun slot => ?_) state laid
  rintro now ⟨rfl, laid, empty⟩
  dsimp only [copy]
  rw [EStateM.run_bind, transfer_run false (laid.slot_own laid.range.2.1) empty (laid.slot_own (laid.own_found source).1)
    (laid.held _ source).2 rfl]
  exact later _ (laid.fill (.other .device) (Nat.lt_succ_self _) (by omega) empty)

end Steps

theorem Laid.lookup_space (laid : Laid plan state) (found : plan.spaces thread = some space)
    (small : ∀ entry ∈ space.contents, entry.1 < 4096) {address : Nat} (word : address < 2 ^ 64) :
    lookup state.slots (topCap space.node) wordBits address = space.contents.lookup address := by
  have built := (laid.spaces thread space found).2
  rw [lookup_topCap built.first word]
  split
  · exact built.second address
  · rename_i large
    refine (List.lookup_eq_none_iff.mpr fun entry member => ?_).symm
    have := small entry member
    simp only [bne_iff_ne, ne_eq]
    omega

structure Parts where
  node : Nat
  vspace : Nat
  tcb : Nat

def Parts.standardCaps (parts : Parts) (faultEp irqEp badge : Nat) : Caps :=
  Root.standardCaps faultEp irqEp badge parts.node parts.vspace parts.tcb

/-- A thread that reaches these capabilities and no others. -/
structure Parts.Reaches (parts : Parts) (task : Task) (state : CapState) (caps : Caps) : Prop where
  tcb : lookup state.slots state.root wordBits task.tcb = some (.other (.object .tcb parts.tcb 0))
  root : state.roots parts.tcb = some (topCap parts.node)
  caps : ∀ address < 2 ^ 64, lookup state.slots (topCap parts.node) wordBits address =
    caps.lookup address

structure Threads where
  kernel : Parts
  blk : Parts
  net : Parts

/-- Of each thread, under the number that is also its badge. -/
def Threads.Each (threads : Threads) (tasks : Task × Task × Task)
    (holds : Nat → Task → Parts → Prop) : Prop :=
  holds 0 tasks.1 threads.kernel ∧ holds 1 tasks.2.1 threads.blk ∧ holds 2 tasks.2.2 threads.net

/-- The objects that the threads share, and the slot with the memory of the kernel thread. -/
structure Goods where
  untyped : Nat
  faultEp : Nat
  irqEp : Nat
  blkEp : Nat
  blkNot : Nat
  netEp : Nat
  netNot : Nat

def Goods.share (goods : Goods) : Nat → Caps
  | 0 => [(28, .other (.object .endpoint goods.netEp 0)), (27, .other (.object .endpoint goods.blkEp 0)),
      (26, .other (.initial goods.untyped))]
  | 1 => [(28, .other (.object .endpoint goods.blkEp 0)), (26, .other (.object .notification goods.blkNot 0))]
  | _ => [(28, .other (.object .endpoint goods.netEp 0)), (26, .other (.object .notification goods.netNot 0))]

def Goods.caps (goods : Goods) (thread : Nat) (parts : Parts) : Caps :=
  goods.share thread ++ parts.standardCaps goods.faultEp goods.irqEp thread

/-- No object serves two purposes. -/
def Goods.Ordered (goods : Goods) (threads : Threads) : Prop :=
  [goods.faultEp, goods.irqEp, threads.kernel.node, threads.kernel.vspace, threads.kernel.tcb,
    threads.blk.node,
    threads.blk.vspace, threads.blk.tcb, threads.net.node, threads.net.vspace, threads.net.tcb,
      goods.blkEp, goods.blkNot,
    goods.netEp, goods.netNot].Pairwise (· < ·)

/-- What the three threads are started with. -/
def HandedOut (kernelUntyped : Nat) (tasks : Task × Task × Task) (state : CapState) : Prop :=
  ∃ (goods : Goods) (threads : Threads), goods.untyped = kernelUntyped ∧ goods.Ordered threads ∧
    threads.Each tasks fun thread task parts => parts.Reaches task state (goods.caps thread parts)

theorem Goods.caps_small (goods : Goods) (parts : Parts) :
    ∀ thread, ∀ entry ∈ goods.caps thread parts, entry.1 < 32 ∧ entry.1 ≠ 0
  | 0 | 1 | _ + 2 => by
    simp [Goods.caps, Goods.share, Parts.standardCaps, Root.standardCaps, vspaceSlot, tcbSlot,
      cnodeSlot, asidControlSlot, asidPoolSlot, defaultThreadIrqEp, defaultThreadFaultEp]

structure Started (plan : Plan) (thread : Nat) (task : Task) (parts : Parts) (caps : Caps) : Prop where
  space : plan.spaces thread = some ⟨task.cnode, parts.node, caps⟩
  tcb : (task.tcb, .other (.object .tcb parts.tcb 0)) ∈ plan.held
  root : plan.roots parts.tcb = some (topCap parts.node)

theorem Started.reaches {parts : Parts} {goods : Goods} {badge : Nat}
    (started : Started plan thread task parts (goods.caps badge parts)) (laid : Laid plan state) :
    parts.Reaches task state (goods.caps badge parts) := by
  refine ⟨(laid.own_found started.tcb).2, by rw [laid.roots, started.root], fun _ =>
    laid.lookup_space started.space fun _ member => ?_⟩
  exact Nat.lt_trans (goods.caps_small parts _ _ member).1 (by decide)

def Plan.initial (counter kernelUntyped : Nat) (roots : Nat → Option NodeCap) : Plan where
  unused := 2
  object := 2
  counter := counter
  held := [(asidControlSlot, .other (.initial asidControlSlot)),
    (asidPoolSlot, .other (.initial asidPoolSlot)),
    (kernelUntyped, .other (.initial kernelUntyped))]
  threads := 0
  spaces _ := none
  roots := roots

theorem Booted.laid (booted : Booted state) {kernelUntyped : Nat}
    (untyped : state.slots 0 kernelUntyped = some (.other (.initial kernelUntyped)))
    (below : kernelUntyped < state.emptySlots.1) (left : state.emptySlots.1 < state.emptySlots.2)
    (watermark : Nat) :
    Laid (.initial (state.emptySlots.1 + 1) kernelUntyped state.roots) (state.rebuilt watermark) := by
  obtain ⟨-, cnode, null, initial, -, blank, range, vacant⟩ := booted
  have slots : asidPoolSlot = 6 ∧ cnodeSlot = 2 ∧ asidControlSlot = 5 := ⟨rfl, rfl, rfl⟩
  have pool := initial asidPoolSlot (by simp)
  have control := initial asidControlSlot (by simp)
  refine ⟨rfl, rfl, rfl, rfl, ?_, ?_, ?_, ?_, ?_, fun index => ?_, ⟨Nat.le_refl 2, Nat.le_refl 2⟩,
    fun node index above => ?_, nofun, nofun⟩
  · grind [CapState.rebuilt, Plan.initial]
  · grind
  · grind
  · grind [CapState.rebuilt, Plan.initial]
  · intro entry member
    simp only [Plan.initial, List.mem_cons, List.not_mem_nil, or_false] at member
    clear initial
    rcases member with rfl | rfl | rfl <;> grind [Plan.initial]
  · have := blank 1 index (Nat.le_refl 1)
    grind
  · have := blank node index (Nat.le_of_succ_le above)
    grind [Plan.initial]

theorem startThreads_spec (counter kernelUntyped : Nat) (roots : Nat → Option NodeCap)
    (kernelLoad blkLoad netLoad : Load) :
    Triple (Laid (.initial counter kernelUntyped roots)) (startThreads untypedSize kernelLoad blkLoad netLoad)
      (fun tasks after => ∃ plan threads, (kernelUntyped, .other (.initial kernelUntyped)) ∈ plan.held ∧
        Goods.Ordered ⟨kernelUntyped, 2, 3, plan.object, plan.object + 1, plan.object + 2,
          plan.object + 3⟩ threads ∧ Laid plan after ∧
        threads.Each tasks fun thread task parts => Started plan thread task parts (parts.standardCaps 2 3 thread)) Short := by
  refine allocated (allocated (slotTaken ?_))
  have supplies : Supplies (((Plan.initial counter kernelUntyped roots).alloc .endpoint).alloc
    .endpoint).held counter
      (counter + 1) 2 3 := by
    refine ⟨?_, ?_, ?_, ?_⟩ <;> simp [Plan.alloc, Plan.initial, objectContent]
  refine threadBuilt supplies fun plan₁ tcb₁ vspace₁ more₁ thread₁ object₁ threads₁ spaces₁ roots₁ => ?_
  refine threadBuilt (supplies.mono more₁)
    fun plan₂ tcb₂ vspace₂ more₂ thread₂ object₂ threads₂ spaces₂ roots₂ => ?_
  refine threadBuilt ((supplies.mono more₁).mono more₂)
    fun plan₃ tcb₃ vspace₃ more₃ thread₃ object₃ threads₃ spaces₃ roots₃ => ?_
  replace object₁ : plan₁.object =
    4 + 3 + kernelLoad.image.length + 1 + 1 + kernelLoad.stack.length := object₁
  replace threads₁ : plan₁.threads = 1 := threads₁
  rw [threads₁] at spaces₂ threads₂
  rw [threads₂] at spaces₃
  refine Triple.pure fun state laid => ⟨plan₃, ⟨⟨4, 4 + 2, 4 + 3 + kernelLoad.image.length + 1⟩,
    ⟨plan₁.object, plan₁.object + 2, plan₁.object + 3 + blkLoad.image.length + 1⟩,
    ⟨plan₂.object, plan₂.object + 2, plan₂.object + 3 + netLoad.image.length + 1⟩⟩, ?_, ?_, laid,
    ⟨?_, more₃ (more₂ thread₁), ?_⟩, ⟨?_, more₃ thread₂, ?_⟩, ⟨?_, thread₃, ?_⟩⟩
  · refine more₃ (more₂ (more₁ ?_))
    simp [Plan.alloc, Plan.initial]
  · rw [Goods.Ordered, ← List.isChain_iff_pairwise, object₃, object₂, object₁]
    simp only [List.isChain_cons_cons, List.IsChain.singleton, and_true]
    omega
  · rw [spaces₃, spaces₂, spaces₁]
    rfl
  · rw [roots₃, update_of_ne (by dsimp only; omega), roots₂, update_of_ne (by dsimp only; omega), roots₁]
    exact update_self ..
  · rw [spaces₃, spaces₂]
    rfl
  · rw [roots₃, update_of_ne (by dsimp only; omega), roots₂, update_self]
  · rw [spaces₃]
    rfl
  · rw [roots₃, update_self]

theorem handOut_spec {kernelUntyped : Nat} {tasks : Task × Task × Task} {threads : Threads} (blkLoad netLoad : Load)
    (untyped : (kernelUntyped, .other (.initial kernelUntyped)) ∈ plan.held)
    (started : threads.Each tasks fun thread task parts => Started plan thread task parts (parts.standardCaps 2 3 thread)) :
    Triple (Laid plan) (handOut untypedSize kernelUntyped tasks.1 tasks.2.1 tasks.2.2 blkLoad netLoad)
      (fun _ after => ∃ plan' netEp, plan.object + 1 < netEp ∧ Laid plan' after ∧ threads.Each tasks fun thread task parts =>
        Started plan' thread task parts
          (Goods.caps ⟨kernelUntyped, 2, 3, plan.object, plan.object + 1, netEp, netEp + 1⟩ thread parts)) Short := by
  obtain ⟨⟨space₀, tcb₀, root₀⟩, ⟨space₁, tcb₁, root₁⟩, ⟨space₂, tcb₂, root₂⟩⟩ := started
  refine given 0 space₀ (by decide) (by rfl) untyped ?_
  refine allocated (allocated ?_)
  refine given 0 (by rfl) (by decide) (by rfl) second_held ?_
  refine given 1 (by exact space₁) (by decide) (by rfl) (List.mem_cons_self ..) ?_
  refine given 1 (by rfl) (by decide) (by rfl) second_held ?_
  refine deviceTaken (skippedAll _ (allocated (allocated ?_)))
  refine given 0 (by rfl) (by decide) (by rfl) second_held ?_
  refine given 2 (by exact space₂) (by decide) (by rfl) (List.mem_cons_self ..) ?_
  refine given 2 (by rfl) (by decide) (by rfl) second_held ?_
  refine deviceCopied (List.mem_cons_of_mem _ second_held) fun state laid => ?_
  refine (allocateAll_spec _).weaken (fun _ laid => laid) (fun _ after laid => ?_) (fun _ _ short => short) state laid
  refine ⟨_, plan.object + 1 + 1 + blkLoad.device.length, by omega, laid, ⟨rfl, ?_, root₀⟩, ⟨rfl, ?_, root₁⟩, ⟨rfl, ?_, root₂⟩⟩
  · simp [Plan.skipped, Plan.serving, Plan.alloc, tcb₀]
  · simp [Plan.skipped, Plan.serving, Plan.alloc, tcb₁]
  · simp [Plan.skipped, Plan.serving, Plan.alloc, tcb₂]

section Boot

variable (untypedSize : Nat) (booted : Booted state) {kernelUntyped : Nat}
  (untyped : state.slots 0 kernelUntyped = some (.other (.initial kernelUntyped)))
  (below : kernelUntyped < state.emptySlots.1) (kernelLoad blkLoad netLoad : Load)
include booted untyped below

theorem prepare_started : Triple (fun now => now = state)
    (prepare untypedSize kernelUntyped kernelLoad blkLoad netLoad)
    (fun tasks after => ∃ (plan : Plan) (goods : Goods) (threads : Threads), goods.untyped =
      kernelUntyped ∧ goods.Ordered threads ∧
      Laid plan after ∧ threads.Each tasks fun thread task parts =>
        Started plan thread task parts (goods.caps thread parts)) Short := by
  refine (rebuildCspace_spec untypedSize booted).bind fun _ => ?_
  rintro now ⟨left, watermark, rfl⟩
  refine ((startThreads_spec _ kernelUntyped state.roots kernelLoad blkLoad netLoad).bind
    fun tasks now holds => ?_) _
    (booted.laid untyped below left watermark)
  obtain ⟨plan, threads, untyped, ordered, laid, started⟩ := holds
  refine ((handOut_spec blkLoad netLoad untyped started).bind fun _ =>
    Triple.pure fun final holds => ?_) now laid
  obtain ⟨plan', netEp, above, laid, started⟩ := holds
  refine ⟨plan', _, threads, rfl, ?_, laid, started⟩
  unfold Goods.Ordered at ordered ⊢
  rw [← List.isChain_iff_pairwise] at ordered ⊢
  simp only [List.isChain_cons_cons, List.IsChain.singleton, and_true] at ordered ⊢
  omega

/-- Whenever the boot succeeds, every thread reaches what it is meant to have and nothing else. -/
theorem threads_reach_their_share {tasks : Task × Task × Task} {after : CapState}
    (ran : (prepare untypedSize kernelUntyped kernelLoad blkLoad netLoad).run state = .ok tasks after) :
    HandedOut kernelUntyped tasks after := by
  obtain ⟨plan, goods, threads, same, ordered, laid, started₀, started₁, started₂⟩ :=
    (prepare_started untypedSize booted untyped below kernelLoad blkLoad netLoad).of_run rfl ran
  exact ⟨goods, threads, same, ordered, started₀.reaches laid, started₁.reaches laid,
    started₂.reaches laid⟩

/-- From what the root task hands out, the kernel thread finds the slots of its allocator and the
temporary one empty, and no run of it gets a slot twice before the one for received capabilities. -/
theorem kernel_thread_starts_vacant {ν : Type} :
    Triple (fun now => now = state) (prepare untypedSize kernelUntyped kernelLoad blkLoad netLoad)
      (fun tasks after => ∃ tcb root, lookup after.slots after.root wordBits tasks.1.tcb =
        some (.other (.object .tcb tcb 0)) ∧
        after.roots tcb = some root ∧
        ∀ (world : Kernel.KernelWorld ν) (env : Kernel.Env ν) (inputs : List Kernel.KernelInput),
          (∀ slot : Nat, slot < 2 ^ 64 → lookup after.slots root wordBits slot = none → world.memory.cspace slot = none) →
          Triple (fun now => now = world) (Kernel.main env inputs) (fun _ now => Kernel.Vacant now.memory)
            (fun fault now => Kernel.Excused fault now.memory)) Short := by
  refine (prepare_started untypedSize booted untyped below kernelLoad blkLoad netLoad).weaken
    (fun _ same => same) ?_
    fun _ _ short => short
  rintro tasks after ⟨plan, goods, threads, -, -, laid, started, -, -⟩
  have reaches := started.reaches laid
  refine ⟨threads.kernel.tcb, topCap threads.kernel.node, reaches.tcb, reaches.root,
    fun world env inputs unreached => ?_⟩
  have vacant : ∀ slot : Nat, slot < 2 ^ 64 → slot = 0 ∨ 32 ≤ slot → world.memory.cspace slot = none := by
    intro slot word outside
    refine unreached slot word ?_
    rw [reaches.caps slot word, List.lookup_eq_none_iff]
    intro entry member
    have small := goods.caps_small _ _ entry member
    simp only [bne_iff_ne, ne_eq]
    omega
  have launched : Kernel.Launched world.memory :=
    ⟨fun slot above below => vacant slot (Nat.lt_trans below (by decide)) (Or.inr above),
      vacant 0 (by decide) (Or.inl rfl)⟩
  rintro _ rfl
  exact Kernel.main_guarded env inputs _ launched

end Boot

def smallLoad : Load := ⟨[.pageTable, .granule, .granule], [.pageTable, .granule],
    [.pageTable, .granule, .granule]⟩

def smallPrepare : CapM (Task × Task × Task) := prepare (2 ^ 30) 30 smallLoad smallLoad smallLoad

theorem smallPrepare_returns : returnValue (smallPrepare.run smallBoot) =
    some (⟨51, 44, 46⟩, ⟨61, 54, 56⟩, ⟨71, 64, 66⟩) := by
  decide +kernel

theorem smallBoot_shared : ∃ tasks after, smallPrepare.run smallBoot = .ok tasks after ∧
    HandedOut 30 tasks after :=
  have ran := ran_of_returnValue smallPrepare_returns
  ⟨_, _, ran, threads_reach_their_share _ smallBoot_booted rfl (by decide) smallLoad smallLoad
    smallLoad ran⟩

theorem smallBoot_launches : ∃ tasks after, smallPrepare.run smallBoot = .ok tasks after ∧
    Triple (fun now => now = Kernel.KernelWorld.launch ()) (Kernel.main Kernel.smallEnv Kernel.tidyRun)
      (fun _ now => Kernel.Vacant now.memory) (fun fault now => Kernel.Excused fault now.memory) := by
  have ran := ran_of_returnValue smallPrepare_returns
  obtain ⟨tcb, root, found, rooted, runs⟩ :=
    (kernel_thread_starts_vacant _ smallBoot_booted rfl (by decide) smallLoad smallLoad smallLoad).of_run rfl ran
  refine ⟨_, _, ran, runs _ _ _ fun slot _ unreached => ?_⟩
  have known : lookup (finalState (smallPrepare.run smallBoot)).slots
    (finalState (smallPrepare.run smallBoot)).root wordBits 51 =
        some (.other (.object .tcb 11 0)) ∧ (finalState (smallPrepare.run smallBoot)).roots 11 = some (topCap 4) ∧
      lookup (finalState (smallPrepare.run smallBoot)).slots (topCap 4) wordBits
        Kernel.kernelVSpace ≠ none := by decide +kernel
  cases found.symm.trans known.1
  cases rooted.symm.trans known.2.1
  have apart : slot ≠ Kernel.kernelVSpace := fun same => known.2.2 (same ▸ unreached)
  exact update_of_ne apart (some (Kernel.Cap.vspace Kernel.kernelVSpace)) fun _ => none

end RootTaskDemo.Root
