import RootTaskDemo.Kernel.Filling

namespace RootTaskDemo.Kernel

open Common Lib Thread

variable {ν α : Type} {platform : Platform} {before after state : KernelState ν} {space : ObjId}
  {vspace : CPtr} {memory : Memory}
  {pages : List ImagePage} {base : Nat}
variable {spot : CPtr × Nat} {range : Nat × Nat}
variable {seg : Segment} {count offset stop : Nat} {cspace : CPtr → Option Cap}
  {segments : List Segment}
  {page : ImagePage}

/-! What `map_image` makes of a program: the bytes of its segments in the pages of the
child, and the rights with which these are mapped. The frames are filled while they
are mapped nowhere, and go to the child at the end. -/

def spots : Nat → List ImagePage → List (CPtr × Nat)
  | _, [] => []
  | base, page :: rest => (page.1, base) :: spots (base + granuleSize) rest

theorem mem_spots :
    spot ∈ spots base pages ↔ ∃ (index : Nat) (page : ImagePage), pages[index]? = some page ∧
      spot = (page.1, base + index * granuleSize) := by
  induction pages generalizing base with
  | nil => simp [spots]
  | cons page rest ih =>
    rw [spots, List.mem_cons, ih]
    constructor
    · rintro (rfl | ⟨index, other, found, rfl⟩)
      · exact ⟨0, page, rfl, by simp⟩
      · refine ⟨index + 1, other, by simpa using found, ?_⟩
        rw [Nat.add_mul, Nat.one_mul, Nat.add_assoc, Nat.add_comm granuleSize]
    · rintro ⟨index, other, found, rfl⟩
      cases index with
      | zero =>
        cases found
        exact Or.inl (by simp)
      | succ index =>
        refine Or.inr ⟨index, other, by simpa using found, ?_⟩
        rw [Nat.add_mul, Nat.one_mul, Nat.add_assoc, Nat.add_comm granuleSize]

theorem spots_congr {pages' : List ImagePage} (same : pages'.map Prod.fst = pages.map Prod.fst) :
    spots base pages' = spots base pages := by
  induction pages generalizing base pages' with
  | nil =>
    cases pages' with
    | nil => rfl
    | cons page rest => cases same
  | cons page rest ih =>
    cases pages' with
    | nil => cases same
    | cons page' rest' =>
      simp only [List.map_cons, List.cons.injEq] at same
      rw [spots, spots, same.1, ih same.2]

def Spread (spots : List (CPtr × Nat)) : Prop :=
  ∀ spot ∈ spots, ∀ other ∈ spots, other ≠ spot → other.1 ≠ spot.1 ∧
    (spot.2 + pageSize ≤ other.2 ∨ other.2 + pageSize ≤ spot.2)

theorem spread_spots (distinct : (pages.map Prod.fst).Nodup) : Spread (spots base pages) := by
  intro spot member other otherMember different
  obtain ⟨index, page, found, rfl⟩ := mem_spots.mp member
  obtain ⟨index', page', found', rfl⟩ := mem_spots.mp otherMember
  have apart : index' ≠ index := by
    rintro rfl
    rw [found] at found'
    cases found'
    exact different rfl
  refine ⟨fun same => apart ?_, ?_⟩
  · have bound : index' < (pages.map Prod.fst).length := by
      rw [List.length_map]
      exact (List.getElem?_eq_some_iff.mp found').1
    refine (List.getElem?_inj bound distinct).mp ?_
    rw [List.getElem?_map, List.getElem?_map, found, found']
    exact congrArg some same
  · simp only [granuleSize, pageSize]
    omega

structure Ready (space : ObjId) (vspace : CPtr) (memory : Memory) (spots : List (CPtr × Nat))
    (state : KernelState ν) : Prop where
  home : Homed space vspace state
  unmapped : ∀ spot ∈ spots, state.cspace spot.1 = some (.frame spot.1 none)
  content : ∀ spot ∈ spots, (state.frames spot.1).Agrees memory spot.2 pageSize

theorem fillSpot_ready {spots : List (CPtr × Nat)} (spread : Spread spots) (member : spot ∈ spots)
    {bytes : List UInt8} (inside : offset + bytes.length ≤ pageSize) :
    MemTriple (Ready space vspace memory spots : KernelState ν → Prop)
      (withSeat platform spot.1 platform.pageSeat (storeBytes platform (platform.pageSeat + offset) bytes))
      (fun _ => Ready space vspace (memory.store (spot.2 + offset) bytes) spots) Refused := by
  refine .fixed fun state ready => ?_
  have filled : RunFrom state
      (withSeat platform spot.1 platform.pageSeat (storeBytes platform (platform.pageSeat + offset) bytes))
      (fun _ after => True ∧ ∃ page, Memory.Agrees page (memory.store (spot.2 + offset) bytes) spot.2 pageSize ∧
        after = state.fill platform spot.1 spot.1 page) Refused :=
    withSeat_paints ready.home.rooted.kernel (ready.unmapped spot member)
      (ready.content spot member) fun _ showing =>
      ((storeBytes_paints showing inside).raising).mono fun _ _ painted => ⟨trivial, painted⟩
  refine filled.mono ?_
  rintro _ _ ⟨-, page, agrees, rfl⟩
  have touches : Touches (· = spot.1) True (onlyAt kernelVSpace platform.pageSeat) state
    (state.fill platform spot.1 spot.1 page) :=
    fill_touches page
  refine ⟨ready.home.kept touches (ownsFrames_single (ready.unmapped spot member)),
    fun other otherMember => ?_,
    fun other otherMember => ?_⟩
  · by_cases here : other = spot
    · rw [here, cspace_fill_self]
    · exact touches.caps _ _ (spread spot member other otherMember here).1 (ready.unmapped other otherMember)
  · by_cases here : other = spot
    · rw [here, frames_fill_self]
      exact agrees
    · obtain ⟨different, apart⟩ := spread spot member other otherMember here
      rw [touches.frames other.1 (fun same => absurd same different) (by simp [ready.unmapped other otherMember])]
      refine (ready.content other otherMember).elsewhere fun location above below covers => ?_
      simp only [Memory.Covers] at covers
      omega

theorem copyData_ready {all : List (CPtr × Nat)} (spread : Spread all)
    (listed : ∀ spot ∈ spots base pages, spot ∈ all) {data : List UInt8}
    (inside : offset < granuleSize)
    (fits : offset + data.length ≤ pages.length * granuleSize ∨ data = []) :
    MemTriple (Ready space vspace memory all : KernelState ν → Prop)
      (copyData platform platform.pageSeat pages data offset)
      (fun _ => Ready space vspace (memory.store (base + offset) data) all) Refused := by
  induction pages generalizing base memory data offset with
  | nil =>
    have empty : data = [] := by
      refine fits.elim (fun short => List.eq_nil_of_length_eq_zero ?_) id
      rw [List.length_nil, Nat.zero_mul] at short
      omega
    rw [empty, Memory.store_nil]
    exact .pure fun _ ready => ready
  | cons page rest ih =>
    have here : (page.1, base) ∈ all := listed _ (List.mem_cons_self ..)
    have restListed : ∀ spot ∈ spots (base + granuleSize) rest, spot ∈ all :=
      fun spot member => listed spot (List.mem_cons_of_mem _ member)
    have chunk : offset + (data.take (min (granuleSize - offset) data.length)).length ≤ pageSize := by
      simp only [List.length_take, granuleSize, pageSize] at inside ⊢
      omega
    have left : 0 + (data.drop (min (granuleSize - offset) data.length)).length ≤ rest.length * granuleSize ∨
        data.drop (min (granuleSize - offset) data.length) = [] := by
      rcases fits with fits | empty
      · by_cases short : data.length ≤ granuleSize - offset
        · exact Or.inr (by simp [Nat.min_eq_right short])
        · left
          rw [List.length_cons, Nat.add_mul, Nat.one_mul] at fits
          rw [List.length_drop]
          omega
      · exact Or.inr (by simp [empty])
    -- the rest goes on where the first page ends, unless nothing is left
    have joined : (memory.store (base + offset) (data.take (min (granuleSize - offset) data.length))).store
        (base + granuleSize + 0) (data.drop (min (granuleSize - offset) data.length)) = memory.store (base + offset) data := by
      by_cases short : data.length ≤ granuleSize - offset
      · rw [Nat.min_eq_right short, List.drop_length, List.take_length, Memory.store_nil]
      · have length : (data.take (granuleSize - offset)).length = granuleSize - offset := by
          rw [List.length_take]
          omega
        have next : base + granuleSize + 0 = base + offset + (data.take (granuleSize - offset)).length := by
          rw [length]
          omega
        rw [Nat.min_eq_left (by omega), next, Memory.store_append, List.take_append_drop]
    rw [← joined]
    exact (fillSpot_ready spread here chunk).bind fun _ => ih restListed (by decide) left

theorem spots_slice {start : Nat}
    (member : spot ∈ spots (base + start * granuleSize) ((pages.drop start).take count)) :
    spot ∈ spots base pages := by
  obtain ⟨index, page, found, rfl⟩ := mem_spots.mp member
  rw [List.getElem?_take] at found
  split at found
  · rw [List.getElem?_drop] at found
    refine mem_spots.mpr ⟨start + index, page, found, ?_⟩
    rw [Nat.add_mul, Nat.add_assoc]
  · cases found

structure Fits (base count : Nat) (seg : Segment) : Prop where
  aligned : base % granuleSize = 0
  short : seg.data.length ≤ seg.size
  above : base ≤ seg.address
  below : seg.address + seg.size ≤ base + count * granuleSize

def segmentOffset (base : Nat) (seg : Segment) : Nat :=
  (roundDown seg.address granuleSize - base) / granuleSize

def pagesSpanned (seg : Segment) (bytes : Nat) : Nat :=
  (nextMultipleOf (seg.address + bytes) granuleSize - roundDown seg.address granuleSize) / granuleSize

def grantSegment (base : Nat) (seg : Segment) (pages : List ImagePage) : List ImagePage :=
  pages.mapIdx fun index page =>
    if segmentOffset base seg ≤ index ∧ index < segmentOffset base seg + pagesSpanned seg seg.size then
      (page.1, addRights page.2 seg.flags)
    else page

def dataPages (base : Nat) (seg : Segment) (pages : List ImagePage) : List ImagePage :=
  ((grantSegment base seg pages).drop (segmentOffset base seg)).take (pagesSpanned seg seg.data.length)

theorem grantSegment_frames (seg : Segment) :
    (grantSegment base seg pages).map Prod.fst = pages.map Prod.fst := by
  refine List.ext_getElem? fun index => ?_
  simp only [grantSegment, List.getElem?_map, List.getElem?_mapIdx, Option.map_map]
  congr 1
  funext page
  simp only [Function.comp_apply]
  split
  · rfl
  · rfl

theorem loadSegment_steps {seat : Nat} :
    (loadSegment platform (base, stop) seat pages seg : KernelM ν _) =
      slicePages pages (segmentOffset base seg) (pagesSpanned seg seg.size) >>= fun _ =>
        slicePages (grantSegment base seg pages) (segmentOffset base seg) (pagesSpanned seg seg.data.length) >>= fun dataPages =>
          copyData platform seat dataPages seg.data (seg.address % granuleSize) >>= fun _ => pure (grantSegment base seg pages) := rfl

theorem loadSegment_eq {seat : Nat} (fits : Fits base pages.length seg) :
    (loadSegment platform (base, stop) seat pages seg : KernelM ν _) =
      copyData platform seat (dataPages base seg pages) seg.data (seg.address % granuleSize) >>= fun _ =>
        pure (grantSegment base seg pages) := by
  obtain ⟨aligned, short, above, below⟩ := fits
  have length : (grantSegment base seg pages).length = pages.length := List.length_mapIdx
  have whole : segmentOffset base seg + pagesSpanned seg seg.size ≤ pages.length := by
    simp only [segmentOffset, pagesSpanned, roundDown, nextMultipleOf, granuleSize] at aligned below ⊢
    omega
  have data : segmentOffset base seg + pagesSpanned seg seg.data.length ≤
      (grantSegment base seg pages).length := by
    rw [length]
    simp only [segmentOffset, pagesSpanned, roundDown, nextMultipleOf, granuleSize] at aligned below ⊢
    omega
  have first : (slicePages pages (segmentOffset base seg)
    (pagesSpanned seg seg.size) : KernelM ν _) = _ := if_pos whole
  have second : (slicePages (grantSegment base seg pages) (segmentOffset base seg)
    (pagesSpanned seg seg.data.length) :
      KernelM ν (List ImagePage)) = _ := if_pos data
  rw [loadSegment_steps, first, second, pure_bind, pure_bind, dataPages]

theorem loadSegment_ready (distinct : (pages.map Prod.fst).Nodup) (fits : Fits base pages.length seg) :
    MemTriple (Ready space vspace memory (spots base pages) : KernelState ν → Prop)
      (loadSegment platform (base, stop) platform.pageSeat pages seg)
      (fun pages' now => pages' = grantSegment base seg pages ∧
        Ready space vspace (memory.store seg.address seg.data) (spots base pages) now) Refused := by
  rw [loadSegment_eq fits]
  obtain ⟨aligned, short, above, below⟩ := fits
  have start : base + segmentOffset base seg * granuleSize + seg.address % granuleSize = seg.address := by
    simp only [segmentOffset, roundDown, granuleSize] at aligned ⊢
    omega
  have listed : ∀ spot ∈ spots (base + segmentOffset base seg * granuleSize) (dataPages base seg pages), spot ∈ spots base pages := by
    intro spot member
    rw [← spots_congr (grantSegment_frames seg)]
    exact spots_slice member
  have room : seg.address % granuleSize + seg.data.length ≤ (dataPages base seg pages).length * granuleSize := by
    rw [dataPages, List.length_take, List.length_drop, grantSegment, List.length_mapIdx]
    simp only [segmentOffset, pagesSpanned, roundDown, nextMultipleOf, granuleSize] at aligned below ⊢
    omega
  have copied : MemTriple (Ready space vspace memory (spots base pages) : KernelState ν → Prop)
      (copyData platform platform.pageSeat (dataPages base seg pages) seg.data (seg.address % granuleSize)) _ Refused :=
    copyData_ready (spread_spots distinct) listed (Nat.mod_lt _ (by decide)) (Or.inl room)
  rw [start] at copied
  exact copied.bind fun _ => .pure fun _ ready => ⟨rfl, ready⟩

theorem loadImage_ready (segments : List Segment) (distinct : (pages.map Prod.fst).Nodup)
    (fits : ∀ seg ∈ segments, Fits base pages.length seg) :
    MemTriple (Ready space vspace memory (spots base pages) : KernelState ν → Prop)
      (loadImage platform (base, stop) platform.pageSeat segments pages)
      (fun pages' now => pages'.map Prod.fst = pages.map Prod.fst ∧
        Ready space vspace (memory.storeAll (segments.map fun seg => (seg.address, seg.data)))
          (spots base pages) now) Refused := by
  induction segments generalizing memory pages with
  | nil => exact .pure fun _ ready => ⟨rfl, ready⟩
  | cons seg rest ih =>
    refine (loadSegment_ready distinct (fits seg (List.mem_cons_self ..))).bind fun pages' => .fixed ?_
    rintro state ⟨rfl, ready⟩
    have frames : (grantSegment base seg pages).map Prod.fst = pages.map Prod.fst := grantSegment_frames seg
    have length : (grantSegment base seg pages).length = pages.length := List.length_mapIdx
    rw [← spots_congr frames] at ready
    refine ((ih (frames ▸ distinct) fun other member =>
      length ▸ fits other (List.mem_cons_of_mem _ member)).startingAt
      ready).mono ?_
    rintro pages'' now ⟨same, ready⟩
    exact ⟨same.trans frames, spots_congr frames ▸ ready⟩

def noPlace : ObjId → Nat → Prop := fun _ _ => False

structure NewPages (count : Nat) (pages : List ImagePage) (before after : KernelState ν) : Prop where
  length : pages.length = count
  distinct : (pages.map Prod.fst).Nodup
  fresh : ∀ page ∈ pages, before.cspace page.1 = none
  unmapped : ∀ page ∈ pages, after.cspace page.1 = some (.frame page.1 none)
  blank : ∀ page ∈ pages, after.frames page.1 = fun _ => 0
  rights : ∀ page ∈ pages, page.2 = CapRights.all
  touches : Touches (fun _ => False) False noPlace before after

theorem allocatePages_new (count : Nat) :
    RunFrom state (allocatePages platform count)
      (fun pages after => NewPages count pages state after) Refused := by
  induction count generalizing state with
  | zero =>
    refine .pure fun after same => ?_
    rw [same]
    exact ⟨rfl, List.nodup_nil, nofun, nofun, nofun, nofun, Touches.refl state⟩
  | succ count ih =>
    refine (allocateAndRetype_refused state .granule).bind fun page => .fixed fun extended allocated => ?_
    refine ih.bind fun rest => .pure fun after new => ?_
    have entry : after.cspace page = some (.frame page none) := new.touches.caps _ _ id allocated.frameEq
    have blank : after.frames page = fun _ => 0 := by
      rw [new.touches.frames page (fun never => never.elim) (by simp [allocated.frameEq]), allocated.zero]
    refine ⟨by simp [new.length], ?_, ?_, ?_, ?_, ?_, allocated.touches.trans new.touches⟩
    · refine List.nodup_cons.mpr ⟨fun member => ?_, new.distinct⟩
      obtain ⟨other, otherMember, same⟩ := List.mem_map.mp member
      have free := new.fresh other otherMember
      rw [same] at free
      cases free.symm.trans allocated.frameEq
    · exact List.forall_mem_cons.mpr ⟨allocated.free, fun other member =>
        allocated.free_of_free (new.fresh other member)⟩
    · exact List.forall_mem_cons.mpr ⟨entry, new.unmapped⟩
    · exact List.forall_mem_cons.mpr ⟨blank, new.blank⟩
    · exact List.forall_mem_cons.mpr ⟨rfl, new.rights⟩

theorem spots_page (member : spot ∈ spots base pages) : ∃ page ∈ pages, page.1 = spot.1 := by
  obtain ⟨index, page, found, rfl⟩ := mem_spots.mp member
  exact ⟨page, List.mem_of_getElem? found, rfl⟩

theorem NewPages.ready (new : NewPages count pages before after) (home : Homed space vspace before) :
    Ready space vspace (fun _ => 0) (spots base pages) after := by
  refine ⟨home.kept new.touches nofun, fun spot member => ?_, fun spot member => ?_⟩
  · obtain ⟨page, found, same⟩ := spots_page member
    rw [← same]
    exact new.unmapped page found
  · obtain ⟨page, found, same⟩ := spots_page member
    rw [← same, new.blank page found]
    exact fun _ _ => rfl

def InPages (base count vaddr : Nat) : Prop := ∃ index < count, vaddr = base + index * granuleSize

structure PagesMapped (space : ObjId) (base : Nat) (pages : List ImagePage)
    (mappedPage mappedPage' : Std.TreeMap Nat CPtr) (before after : KernelState ν) : Prop where
  touches : Touches (· ∈ pages.map Prod.fst) False (fun view vaddr => view = space ∧ base ≤ vaddr)
    before after
  shown : ∀ (index : Nat) (page : ImagePage), pages[index]? = some page →
    after.cspace page.1 = some (.frame page.1 (some (space, base + index * granuleSize))) ∧
      after.pages space (base + index * granuleSize) = some ⟨page.1, page.2⟩ ∧
      mappedPage'[base + index * granuleSize]? = some page.1
  others : ∀ vaddr : Nat, ¬ InPages base pages.length vaddr → mappedPage'[vaddr]? = mappedPage[vaddr]?

theorem next_page (base index : Nat) :
    base + (index + 1) * granuleSize = base + granuleSize + index * granuleSize := by
  rw [Nat.add_mul, Nat.one_mul, Nat.add_assoc, Nat.add_comm granuleSize]

theorem PagesMapped.cons {rest : List ImagePage} {mappedPage mappedPage' : Std.TreeMap Nat CPtr}
    {middle : KernelState ν} (first : Touches (· = page.1) False (onlyAt space base) before middle)
    (entry : middle.cspace page.1 = some (.frame page.1 (some (space, base))))
    (shown : middle.pages space base = some ⟨page.1, page.2⟩)
    (root : middle.cspace space = some (.vspace space)) (new : page.1 ∉ rest.map Prod.fst)
    (notSpace : space ∉ rest.map Prod.fst)
    (later : PagesMapped space (base + granuleSize) rest (mappedPage.insert base page.1) mappedPage'
      middle after) :
    PagesMapped space base (page :: rest) mappedPage mappedPage' before after := by
  have beyond : ∀ index, base ≠ base + granuleSize + index * granuleSize := by
    intro index
    simp only [granuleSize]
    omega
  refine ⟨(first.mono ?_ id ?_).trans (later.touches.mono ?_ id ?_), fun index other found =>
    ?_, fun vaddr away => ?_⟩
  · rintro slot rfl
    exact List.mem_cons_self ..
  · rintro view vaddr ⟨rfl, rfl⟩
    exact ⟨rfl, Nat.le_refl _⟩
  · exact fun slot member => List.mem_cons_of_mem _ member
  · rintro view vaddr ⟨rfl, above⟩
    exact ⟨rfl, Nat.le_trans (Nat.le_add_right ..) above⟩
  · cases index with
    | zero =>
      cases found
      simp only [Nat.zero_mul, Nat.add_zero]
      refine ⟨later.touches.caps _ _ new entry, ?_, ?_⟩
      · rw [later.touches.pages space base notSpace root fun inside => ?_, shown]
        have above := inside.2
        simp only [granuleSize] at above
        omega
      · rw [later.others base fun ⟨index, _, equal⟩ => beyond index equal, Std.TreeMap.getElem?_insert_self]
    | succ index =>
      rw [next_page]
      exact later.shown index other (by simpa using found)
  · have notHere : base ≠ vaddr := by
      rintro rfl
      exact away ⟨0, by simp, by simp⟩
    rw [later.others vaddr fun inside => ?_, Std.TreeMap.getElem?_insert, if_neg fun same =>
      notHere (compare_eq_iff_eq.mp same)]
    obtain ⟨index, bound, rfl⟩ := inside
    exact away ⟨index + 1, by simpa using bound, (next_page base index).symm⟩

theorem mapPages_maps (mappedPage : Std.TreeMap Nat CPtr) (home : Homed space vspace state)
    (unmapped : ∀ page ∈ pages, state.cspace page.1 = some (.frame page.1 none))
    (distinct : (pages.map Prod.fst).Nodup) (aligned : base % granuleSize = 0) :
    RunFrom state (mapPages platform vspace base pages mappedPage)
      (fun mappedPage' after => Homed space vspace after ∧
        PagesMapped space base pages mappedPage mappedPage' state after) Refused := by
  induction pages generalizing base mappedPage state with
  | nil =>
    refine .pure fun after same => ?_
    rw [same]
    exact ⟨home, Touches.refl state, by simp, fun _ _ => rfl⟩
  | cons page rest ih =>
    obtain ⟨new, restDistinct⟩ := List.nodup_cons.mp distinct
    have pageEq := unmapped page (List.mem_cons_self ..)
    refine (frameMap_maps home.target pageEq aligned).bind fun _ => .fixed fun mapped mappedEq => ?_
    have maps : MapsPage page.1 vspace base page.2 state mapped :=
      ⟨page.1, space, none, home.target, pageEq, nofun, mappedEq⟩
    have first := maps.touches home.target
    have entry : mapped.cspace page.1 = some (.frame page.1 (some (space, base))) := by
      rw [mappedEq]
      exact Function.update_self ..
    have shown : mapped.pages space base = some ⟨page.1, page.2⟩ := by
      rw [mappedEq, pages_setCap, pages_setPage_self, Function.update_self]
    have home' := home.kept first (ownsFrames_single pageEq)
    have restUnmapped : ∀ other ∈ rest, mapped.cspace other.1 = some (.frame other.1 none) := by
      intro other member
      refine first.caps _ _ (fun same => new ?_) (unmapped other (List.mem_cons_of_mem _ member))
      rw [← same]
      exact List.mem_map_of_mem member
    have notSpace : space ∉ rest.map Prod.fst := by
      intro member
      obtain ⟨other, otherMember, same⟩ := List.mem_map.mp member
      have frameEq := restUnmapped other otherMember
      rw [same] at frameEq
      cases frameEq.symm.trans home'.rooted.space
    have next : (base + granuleSize) % granuleSize = 0 := by rw [Nat.add_mod_right, aligned]
    refine (ih (mappedPage.insert base page.1) home' restUnmapped restDistinct next).mono ?_
    rintro mappedPage' after ⟨home'', later⟩
    exact ⟨home'', .cons first entry shown home'.rooted.space new notSpace later⟩

theorem PagesMapped.holds {mappedPage mappedPage' : Std.TreeMap Nat CPtr}
    (mapped : PagesMapped space base pages mappedPage mappedPage' before after)
    (ready : Ready space vspace memory (spots base pages) before) {index : Nat}
    (found : pages[index]? = some page) :
    PageHolds space memory (base + index * granuleSize) page.1 after := by
  obtain ⟨entry, shown, -⟩ := mapped.shown index page found
  have spot : (page.1, base + index * granuleSize) ∈ spots base pages :=
    mem_spots.mpr ⟨index, page, found, rfl⟩
  refine ⟨entry, ⟨page.2, shown⟩, ?_⟩
  rw [mapped.touches.frames page.1 (fun _ => id) (by simp [ready.unmapped _ spot])]
  exact ready.content _ spot

def Segment.region (seg : Segment) : Region := ⟨seg.address, seg.size⟩

def FootprintPage (footprint : Nat × Nat) (vaddr : Nat) : Prop :=
  vaddr % granuleSize = 0 ∧ footprint.1 ≤ vaddr ∧ vaddr < footprint.2

theorem footprint_spec (found : footprint segments = some range) :
    range.1 % granuleSize = 0 ∧ range.2 % granuleSize = 0 ∧
      ∀ seg ∈ segments, range.1 ≤ seg.address ∧ seg.address + seg.size ≤ range.2 := by
  simp only [footprint, Option.bind_eq_bind, Option.bind_eq_some_iff, Option.pure_def,
    Option.some.injEq] at found
  obtain ⟨low, lowEq, high, highEq, rfl⟩ := found
  have lowest := (List.min?_eq_some_iff.mp lowEq).2
  have highest := (List.max?_eq_some_iff.mp highEq).2
  simp only [coarsenFootprint, roundDown, nextMultipleOf, granuleSize]
  refine ⟨by omega, by omega, fun seg member => ?_⟩
  have above := lowest _ (List.mem_map_of_mem member)
  have below := highest _ (List.mem_map_of_mem (f := fun seg => seg.address + seg.size) member)
  omega

theorem inPages_footprint (aligned : range.1 % granuleSize = 0)
    (aligned' : range.2 % granuleSize = 0) {vaddr : Nat} :
    InPages range.1 ((range.2 - range.1) / granuleSize) vaddr ↔ FootprintPage range vaddr := by
  unfold InPages FootprintPage
  simp only [granuleSize] at aligned aligned' ⊢
  constructor
  · rintro ⟨index, bound, rfl⟩
    omega
  · rintro ⟨page, above, below⟩
    exact ⟨(vaddr - range.1) / 4096, by omega, by omega⟩

/-- The child has the program: every byte of every segment, the file's or a zero, and
a record of the pages of the footprint and no others. -/
structure ImageLoaded (segments : List Segment) (footprint : Nat × Nat) (vspace : CPtr)
    (mappedPage mappedPage' : Std.TreeMap Nat CPtr) (state : KernelState ν) : Prop where
  bytes : ∀ seg ∈ segments, ∀ index < seg.size, state.spaceByte vspace (seg.address + index) =
    some (seg.data[index]?.getD 0)
  gained : ∀ vaddr : Nat, FootprintPage footprint vaddr → vaddr ∈ mappedPage'
  others : ∀ vaddr : Nat, ¬ FootprintPage footprint vaddr → mappedPage'[vaddr]? = mappedPage[vaddr]?

/-- `map_image` stops only where an allocation or a mapping is refused, never for a
slice that is out of range. -/
theorem image_loaded {segments : List Segment} {range : Nat × Nat} (home : Homed space vspace state)
    (found : footprint segments = some range) (short : ∀ seg ∈ segments, seg.data.length ≤ seg.size)
    (apart : segments.Pairwise fun seg seg' => seg.region.Disjoint seg'.region)
    (mappedPage : Std.TreeMap Nat CPtr) :
    MemTriple (fun now => now = state) (mapImage platform mappedPage vspace range segments platform.pageSeat)
      (fun mappedPage' after => ImageLoaded segments range vspace mappedPage mappedPage' after) Refused := by
  obtain ⟨aligned, aligned', inside⟩ := footprint_spec found
  refine (allocatePages_new _).bind fun pages => .fixed fun extended new => ?_
  have length := new.length
  have fits : ∀ seg ∈ segments, Fits range.1 pages.length seg := by
    intro seg member
    obtain ⟨above, below⟩ := inside seg member
    refine ⟨aligned, short seg member, above, ?_⟩
    rw [length]
    simp only [granuleSize] at aligned aligned' ⊢
    omega
  refine ((loadImage_ready segments new.distinct fits).startingAt (new.ready home)).bind
    fun pages' => .fixed ?_
  rintro loaded ⟨frames, ready⟩
  have length' : pages'.length = pages.length := by
    rw [← List.length_map Prod.fst, frames, List.length_map]
  rw [← spots_congr frames] at ready
  have unmapped : ∀ page ∈ pages', loaded.cspace page.1 = some (.frame page.1 none) := by
    intro page member
    obtain ⟨index, bound⟩ := List.mem_iff_getElem?.mp member
    exact ready.unmapped _ (mem_spots.mpr ⟨index, page, bound, rfl⟩)
  refine (mapPages_maps mappedPage ready.home unmapped (frames ▸ new.distinct) aligned).mono ?_
  rintro mappedPage' after ⟨home', mapped⟩
  have pagesEq : ∀ vaddr, InPages range.1 pages'.length vaddr ↔ FootprintPage range vaddr := fun vaddr => by
    rw [length', length]
    exact inPages_footprint aligned aligned'
  refine ⟨fun seg member index bound => ?_, fun vaddr page => ?_, fun vaddr outside => ?_⟩
  · obtain ⟨above, below⟩ := inside seg member
    obtain ⟨number, bounds, low, high⟩ : ∃ number, number < pages'.length ∧
      range.1 + number * granuleSize ≤ seg.address + index ∧
        seg.address + index < range.1 + number * granuleSize + pageSize := by
      refine ⟨(seg.address + index - range.1) / granuleSize, ?_, ?_, ?_⟩
      · rw [length', length]
        simp only [granuleSize] at aligned aligned' ⊢
        omega
      · simp only [granuleSize]
        omega
      · simp only [granuleSize, pageSize]
        omega
    have pageAligned : (range.1 + number * granuleSize) % pageSize = 0 := by
      simp only [granuleSize, pageSize] at aligned ⊢
      omega
    rw [(mapped.holds ready (List.getElem?_eq_getElem bounds)).spaceByte home'.target pageAligned low high]
    exact congrArg some (Memory.storeAll_segments short apart member bound)
  · obtain ⟨index, bound, rfl⟩ := (pagesEq vaddr).mpr page
    obtain ⟨-, -, recorded⟩ := mapped.shown index pages'[index] (List.getElem?_eq_getElem bound)
    rw [Std.TreeMap.mem_iff_isSome_getElem?, recorded]
    rfl
  · exact mapped.others vaddr fun inside => outside ((pagesEq vaddr).mp inside)

def sharedSegments : List Segment :=
  [⟨0x10ff0, 0x20, [1, 2, 3, 4, 5, 6, 7, 8, 9, 10, 11, 12, 13, 14, 15, 16, 17, 18, 19, 20], 5⟩,
    ⟨0x11010, 0x1000, [21, 22], 6⟩]

def sharedRun : EStateM.Result Fault (World Lock (List UInt64) (KernelState Unit))
    (Std.TreeMap Nat CPtr) :=
  (mapImage smallPlatform ∅ plainTask.vspace (0x10000, 0x13000) sharedSegments
    smallPlatform.pageSeat).run plainWorld

theorem image_loaded_shared : ∃ mappedPage', returnValue sharedRun = some mappedPage' ∧
    ImageLoaded sharedSegments (0x10000, 0x13000) plainTask.vspace ∅ mappedPage'
      (finalState sharedRun).memory := by
  have returns : (returnValue sharedRun).isSome = true := by decide +kernel
  obtain ⟨mappedPage', returned⟩ := Option.isSome_iff_exists.mp returns
  refine ⟨mappedPage', returned, ?_⟩
  have apart : sharedSegments.Pairwise fun seg seg' => seg.region.Disjoint seg'.region := by
    simp only [sharedSegments, List.pairwise_cons, List.mem_singleton, forall_eq, List.not_mem_nil,
      false_implies, implies_true, List.Pairwise.nil, and_true]
    intro address first second
    simp only [Segment.region, Region.Contains, Region.stop] at first second
    omega
  exact (image_loaded plainWorld_homed (by decide) (by decide) apart ∅).triple.of_run rfl
    (ran_of_returnValue returned)

def Segment.Overlaps (seg : Segment) (vaddr : Nat) : Prop :=
  seg.address < vaddr + granuleSize ∧ vaddr < seg.address + seg.size

def Asked (segments : List Segment) (vaddr flag : Nat) : Prop :=
  ∃ seg ∈ segments, seg.Overlaps vaddr ∧ seg.flags &&& flag ≠ 0

/-- The page is mapped with the rights that its segments ask for, `PF_R`, `PF_W` and `PF_X`. -/
def GrantsAsked (segments : List Segment) (vaddr : Nat) (rights : CapRights) : Prop :=
  (rights.read = true ↔ Asked segments vaddr 4) ∧ (rights.write = true ↔ Asked segments vaddr 2) ∧
    (rights.grant = true ↔ Asked segments vaddr 1)

theorem addRights_all (flags : Nat) : addRights .all flags = .all := by
  simp [addRights, CapRights.all]

theorem copyData_caps (kernel : cspace kernelVSpace = some (.vspace kernelVSpace))
    (unmapped : ∀ page ∈ pages, cspace page.1 = some (.frame page.1 none)) (seat : Nat)
    (data : List UInt8) (offset : Nat) :
    Leads (fun now : KernelState ν => now.cspace = cspace) (copyData platform seat pages data offset)
      (fun _ now => now.cspace = cspace) := by
  induction pages generalizing data offset with
  | nil => exact .pure fun _ same => same
  | cons page rest ih =>
    have pageEq := unmapped page (List.mem_cons_self ..)
    refine .bind (.fixed fun state same => ?_) fun _ =>
      ih (fun other member => unmapped other (List.mem_cons_of_mem _ member)) _ _
    have stores : Evolves (Quietly False anyPage)
        (storeBytes platform (seat + offset) (data.take (min (granuleSize - offset) data.length)) : KernelM ν Unit) :=
      DataOnly.quietly (storeBytes_dataOnly _ _)
    refine (withSeat_spec (same ▸ kernel) page.1 seat stores).partly fun _ after step => ?_
    obtain ⟨object, mapped, found, -, cspaceEq, -⟩ := step.frame
    rw [same, pageEq] at found
    cases found
    rw [cspaceEq, same, Function.update_eq_self_iff, pageEq]

theorem grantSegment_all (rights : ∀ page ∈ pages, page.2 = CapRights.all) (seg : Segment) :
    grantSegment base seg pages = pages := by
  refine List.ext_getElem? fun index => ?_
  rw [grantSegment, List.getElem?_mapIdx]
  cases found : pages[index]? with
  | none => rfl
  | some page =>
    have all := rights page (List.mem_of_getElem? found)
    rw [Option.map_some, all, addRights_all, ← all]
    split
    · rfl
    · rfl

theorem slicePages_sublist {start : Nat} {pre : KernelState ν → Prop} :
    Leads pre (slicePages pages start count) (fun slice now => (∀ page ∈ slice, page ∈ pages) ∧ pre now) := by
  unfold slicePages
  split
  · exact .pure fun _ holds => ⟨fun page member => List.mem_of_mem_drop (List.mem_of_mem_take member), holds⟩
  · exact .stop fun _ _ => trivial

theorem loadImage_caps (kernel : cspace kernelVSpace = some (.vspace kernelVSpace))
    (unmapped : ∀ page ∈ pages, cspace page.1 = some (.frame page.1 none))
    (rights : ∀ page ∈ pages, page.2 = CapRights.all) (stop seat : Nat) (segments : List Segment) :
    Leads (fun now : KernelState ν => now.cspace = cspace) (loadImage platform (base, stop) seat segments pages)
      (fun pages' now => now.cspace = cspace ∧ pages' = pages) := by
  induction segments with
  | nil => exact .pure fun _ same => ⟨same, rfl⟩
  | cons seg rest ih =>
    unfold loadImage
    rw [loadSegment_steps, grantSegment_all rights]
    simp only [bind_assoc, pure_bind]
    have sliced : ∀ start count, Leads (fun now : KernelState ν => now.cspace = cspace)
      (slicePages pages start count)
        (fun slice now => (∀ page ∈ slice, page ∈ pages) ∧ now.cspace = cspace) := fun _ _ => slicePages_sublist
    refine (sliced _ _).bind fun _ => .fixed ?_
    rintro state ⟨-, same⟩
    refine ((sliced _ _).startingAt same).bind fun dataPages => .fixed ?_
    rintro state ⟨listed, same⟩
    exact ((copyData_caps kernel (fun page member => unmapped page (listed page member))
      seat _ _).startingAt same).bind fun _ => ih

theorem mapImage_rights (home : Homed space vspace state)
    (found : footprint segments = some range) (mappedPage : Std.TreeMap Nat CPtr) (seat : Nat) :
    Yields state (mapImage platform mappedPage vspace range segments seat)
      fun _ after => ∀ vaddr, FootprintPage range vaddr → ∃ frame, after.pages space vaddr = some ⟨frame, .all⟩ := by
  obtain ⟨aligned, aligned', -⟩ := footprint_spec found
  refine ((allocatePages_new _).partly fun _ _ new => new).bind fun pages =>
    .fixed fun extended new => ?_
  have home' := home.kept new.touches nofun
  refine ((loadImage_caps home'.rooted.kernel new.unmapped new.rights range.2 seat
    segments).startingAt rfl).bind fun pages' =>
    MemTriple.fixed ?_
  rintro loaded ⟨same, rfl⟩
  have home'' : Homed space vspace loaded :=
    ⟨⟨same ▸ home'.rooted.kernel, same ▸ home'.rooted.space⟩, same ▸ home'.target, home'.user⟩
  refine (mapPages_maps mappedPage home'' (same ▸ new.unmapped) new.distinct aligned).partly ?_
  rintro mappedPage' after ⟨-, mapped⟩ vaddr page
  obtain ⟨index, bound, rfl⟩ := (inPages_footprint aligned aligned').mpr page
  rw [← new.length] at bound
  have member : pages'[index] ∈ pages' := List.getElem_mem bound
  refine ⟨pages'[index].1, ?_⟩
  rw [(mapped.shown index _ (List.getElem?_eq_getElem bound)).2.1, new.rights _ member]

/-- The child has the rights that its segments ask for exactly if they ask for all of
them in every page. -/
theorem image_rights_iff {segments : List Segment} {range : Nat × Nat}
    {mappedPage mappedPage' : Std.TreeMap Nat CPtr} {seat : Nat} {world after : KernelWorld ν}
    (home : Homed space vspace world.memory) (found : footprint segments = some range)
    (ran : (mapImage platform mappedPage vspace range segments seat).run world = .ok mappedPage' after) :
    (∀ vaddr, FootprintPage range vaddr →
      ∃ mapping, after.memory.pages space vaddr = some mapping ∧ GrantsAsked segments vaddr mapping.rights) ↔
    ∀ vaddr, FootprintPage range vaddr → Asked segments vaddr 4 ∧ Asked segments vaddr 2 ∧
      Asked segments vaddr 1 := by
  have rights := (mapImage_rights home found mappedPage seat).triple.of_run rfl ran
  refine forall₂_congr fun vaddr page => ?_
  obtain ⟨frame, shown⟩ := rights vaddr page
  constructor
  · rintro ⟨mapping, same, granted⟩
    cases shown.symm.trans same
    exact ⟨granted.1.mp rfl, granted.2.1.mp rfl, granted.2.2.mp rfl⟩
  · rintro ⟨read, write, execute⟩
    exact ⟨_, shown, iff_of_true rfl read, iff_of_true rfl write, iff_of_true rfl execute⟩

def onePage (flags : Nat) : List Segment := [⟨0x10000, 0x1000, [1, 2, 3], flags⟩]

def onePageRun (flags : Nat) :
    EStateM.Result Fault (World Lock (List UInt64) (KernelState Unit)) (Std.TreeMap Nat CPtr) :=
  (mapImage smallPlatform ∅ plainTask.vspace (0x10000, 0x11000) (onePage flags)
    smallPlatform.pageSeat).run plainWorld

/-- A segment that asks for everything. -/
theorem image_rights_iff_full :
    ∃ mapping, (finalState (onePageRun 7)).memory.pages 5 0x10000 = some mapping ∧
      GrantsAsked (onePage 7) 0x10000 mapping.rights := by
  have returns : (returnValue (onePageRun 7)).isSome = true := by decide +kernel
  obtain ⟨mappedPage', returned⟩ := Option.isSome_iff_exists.mp returns
  refine (image_rights_iff plainWorld_homed (by decide) (ran_of_returnValue returned)).mpr
    (fun vaddr page => ?_) 0x10000
    (by simp [FootprintPage, granuleSize])
  have overlaps : Segment.Overlaps ⟨0x10000, 0x1000, [1, 2, 3], 7⟩ vaddr := by
    simp only [FootprintPage, granuleSize] at page
    simp only [Segment.Overlaps, granuleSize]
    omega
  exact ⟨⟨_, List.mem_cons_self .., overlaps, by decide⟩,
    ⟨_, List.mem_cons_self .., overlaps, by decide⟩,
    ⟨_, List.mem_cons_self .., overlaps, by decide⟩⟩

/-- A segment that may only be read is mapped writable. -/
theorem read_only_writable :
    (returnValue (onePageRun 4)).isSome = true ∧ footprint (onePage 4) = some (0x10000, 0x11000) ∧
      FootprintPage (0x10000, 0x11000) 0x10000 ∧
      ((finalState (onePageRun 4)).memory.pages 5 0x10000).map Mapping.rights = some ⟨true, true, true⟩ ∧
      ¬ Asked (onePage 4) 0x10000 2 ∧ ¬ Asked (onePage 4) 0x10000 1 := by
  refine ⟨by decide +kernel, by decide, by simp [FootprintPage, granuleSize], by decide +kernel, ?_, ?_⟩
  · rintro ⟨seg, member, -, asked⟩
    rw [List.mem_singleton.mp member] at asked
    exact asked (by decide)
  · rintro ⟨seg, member, -, asked⟩
    rw [List.mem_singleton.mp member] at asked
    exact asked (by decide)

end RootTaskDemo.Kernel
