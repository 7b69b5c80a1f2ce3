import RootTaskDemo.Kernel.Slots
import RootTaskDemo.Kernel.TaskHelper

namespace RootTaskDemo.Kernel

open Lib Thread
open Function (update_self update_of_ne)

variable {ν α : Type} (platform : Platform)
variable {range : Nat × Nat}
variable {object : ObjId} {added : List (Nat × Nat)} {pts : List CPtr}

/-! The address space that the root task makes for a thread: the tables for all of the
image and one page more, the image, and the IPC buffer behind it. -/

def tableAddrs (footprint : Nat × Nat) (level : Nat) : List Nat :=
  let spanBytes := 1 <<< platform.spanBits level
  let footprintAtLevel := coarsenFootprint footprint spanBytes
  (List.range ((footprintAtLevel.2 - footprintAtLevel.1) / spanBytes)).map fun i =>
    footprintAtLevel.1 + i * spanBytes

/-- One table after the other. Below the root every level has the same type of table,
so the map of a table does not depend on the level. -/
def mapTablesAt (vspace : CPtr) : List Nat → KernelM ν Unit
  | [] => return ()
  | addr :: rest => do
    let table ← allocateAndRetype platform .pageTable
    unwrapped (ptMap platform table vspace addr)
    mapTablesAt vspace rest

def mapTablesOf (vspace : CPtr) (footprint : Nat × Nat) : List Nat → KernelM ν Unit
  | [] => return ()
  | level :: rest => do
    mapTablesAt platform vspace (tableAddrs platform footprint level)
    mapTablesOf vspace footprint rest

def mapIntermediateTranslationTables (vspace : CPtr) (footprint : Nat × Nat) : KernelM ν Unit :=
  mapTablesOf platform vspace footprint (List.range' 1 (platform.numLevels - 1))

/-- `mutate` between two slots. The guard of a capability is not part of the state. -/
def cnodeMutate (dest src : CPtr) : KernelM ν (Except Sel4Error Unit) := do
  let state ← read
  match state.cspace dest, state.cspace src with
  | some _, _ => return .error .deleteFirst
  | none, none => return .error .failedLookup
  | none, some cap =>
    update fun state => (state.setCap src none).setCap dest (some cap)
    return .ok ()

/-- `mutate` into the first slot of a new node, which is none of the slots of the thread itself. -/
def cnodeMutateInto (cnode src : CPtr) : KernelM ν (Except Sel4Error Unit) := do
  let state ← read
  match state.cspace cnode, state.cspace src with
  | some (.cnode _), some _ =>
    update fun state => state.setCap src none
    return .ok ()
  | _, _ => return .error .failedLookup

def asidPoolAssign (vspace : CPtr) : KernelM ν (Except Sel4Error Unit) := do
  let state ← read
  match state.cspace vspace with
  | some (.vspace _) => return .ok ()
  | _ => return .error .invalidCapability

def fillChildVspace (mappedPage : Std.TreeMap Nat CPtr) (childVspace : CPtr)
    (imageFootprint : Nat × Nat) (image : List Segment) (freePageAddr : Nat) :
    KernelM ν (Std.TreeMap Nat CPtr × CPtr × Nat × CPtr) := do
  mapIntermediateTranslationTables platform childVspace
    (imageFootprint.1, imageFootprint.2 + granuleSize)
  let mappedPage ← mapImage platform mappedPage childVspace imageFootprint image freePageAddr
  let ipcBufferAddr := imageFootprint.2
  let ipcBufferCap ← allocateAndRetype platform .granule
  unwrapped (frameMap platform ipcBufferCap childVspace ipcBufferAddr .all)
  return (mappedPage.insert ipcBufferAddr ipcBufferCap, childVspace, ipcBufferAddr, ipcBufferCap)

/-- The caller's own address space is the one that shows the free page. An image without
segments has no footprint. -/
def makeChildVspace (cnode : CPtr) (mappedPage : Std.TreeMap Nat CPtr) (image : List Segment)
    (freePageAddr : Nat) :
    KernelM ν (Std.TreeMap Nat CPtr × CPtr × Nat × CPtr) := do
  let innerCnode ← allocate platform (.cnode cnodeRadixBits)
  locked .objAllocator do
    let childVspace ← allocateAndRetype platform .vspace
    unwrapped (cnodeMutateInto cnode innerCnode)
    unwrapped (cnodeMutate tempSlot cnode)
    unwrapped (cnodeMutate cnode tempSlot)
    unwrapped (asidPoolAssign childVspace)
    match footprint image with
    | none => panicWith .outOfBounds
    | some imageFootprint => fillChildVspace platform mappedPage childVspace imageFootprint image freePageAddr

variable {platform}

theorem mapTablesAt_append (vspace : CPtr) (addrs more : List Nat) :
    (mapTablesAt platform vspace (addrs ++ more) : KernelM ν Unit) =
      (mapTablesAt platform vspace addrs >>= fun _ => mapTablesAt platform vspace more) := by
  induction addrs with
  | nil => rfl
  | cons addr rest ih =>
    rw [List.cons_append, mapTablesAt, mapTablesAt, ih, bind_assoc]
    refine bind_congr fun table => ?_
    rw [bind_assoc]

theorem mapTablesOf_eq (vspace : CPtr) (footprint : Nat × Nat) (levels : List Nat) :
    (mapTablesOf platform vspace footprint levels : KernelM ν Unit) =
      mapTablesAt platform vspace (levels.flatMap (tableAddrs platform footprint)) := by
  induction levels with
  | nil => rfl
  | cons level rest ih => rw [List.flatMap_cons, mapTablesAt_append, mapTablesOf, ih]

theorem roundDown_eq (n b : Nat) : roundDown n b = n / b * b := by
  unfold roundDown
  have parts := Nat.div_add_mod n b
  rw [Nat.mul_comm] at parts
  omega

theorem tableAddrs_eq (start stop level : Nat) :
    tableAddrs platform (start, stop) level =
      (platform.hierarchy.spans start stop level).map fun span => span * platform.hierarchy.spanBytes level := by
  have bytes : 1 <<< platform.spanBits level = platform.hierarchy.spanBytes level := by
    rw [Nat.one_shiftLeft]
    rfl
  unfold tableAddrs coarsenFootprint nextMultipleOf Hierarchy.spans
  dsimp only
  rw [bytes, roundDown_eq, ← Nat.sub_mul, Nat.mul_div_cancel _ Hierarchy.spanBytes_pos,
    List.range'_eq_map_range, List.map_map]
  refine List.map_congr_left fun i _ => ?_
  exact (Nat.add_mul ..).symm

theorem tableAddrs_all (start stop : Nat) :
    (List.range' 1 (platform.numLevels - 1)).flatMap (tableAddrs platform (start, stop)) =
      (platform.hierarchy.tablesOf start stop).map fun table => table.2 * platform.hierarchy.spanBytes table.1 := by
  rw [Hierarchy.tablesOf, List.map_flatMap]
  refine List.flatMap_congr fun level _ => ?_
  rw [tableAddrs_eq, List.map_map]
  rfl

variable {vspace : CPtr} {space : ObjId} {state before middle after : KernelState ν}
  {start stop : Nat}

structure TablesInstalled (space : ObjId) (added : List (Nat × Nat)) (pts : List CPtr)
    (before after : KernelState ν) : Prop where
  tables : ∀ level span, (after.vspaces space).tables level span = true ↔
    (before.vspaces space).tables level span = true ∨ (level, span) ∈ added
  recorded : List.Forall₂ (fun pt table => after.cspace pt =
    some (.pageTable pt (some (space, table.1, table.2)))) pts added
  fresh : ∀ pt ∈ pts, before.cspace pt = none
  distinct : pts.Nodup
  pages : after.pages space = before.pages space
  others : ∀ other, other ≠ space → other ∉ pts → after.vspaces other = before.vspaces other
  caps : ∀ slot, slot ∉ pts → after.cspace slot = before.cspace slot

namespace TablesInstalled

theorem nil (state : KernelState ν) : TablesInstalled space [] [] state state :=
  ⟨fun level span => by simp, .nil, nofun, List.nodup_nil, rfl, fun _ _ _ => rfl, fun _ _ => rfl⟩

theorem cons {level span pt : Nat}
    (table : TableInstalled platform (span * platform.hierarchy.spanBytes level) space pt level before middle)
    (installed : TablesInstalled space added pts middle after) :
    TablesInstalled space ((level, span) :: added) (pt :: pts) before after := by
  have own : platform.hierarchy.spanOf level (span * platform.hierarchy.spanBytes level) = span := by
    rw [Hierarchy.spanOf_eq_div, Nat.mul_div_cancel _ Hierarchy.spanBytes_pos]
  have ptEq : middle.cspace pt = some (.pageTable pt (some (space, level, span))) := by
    rw [table.cspace, update_self]
    exact congrArg (fun span => some (Cap.pageTable pt (some (space, level, span)))) own
  have later : pt ∉ pts := by
    intro member
    have fresh := installed.fresh pt member
    rw [ptEq] at fresh
    cases fresh
  refine ⟨fun other index => ?_, .cons ((installed.caps pt later).trans ptEq) installed.recorded,
    fun other member => ?_,
    List.nodup_cons.mpr ⟨later, installed.distinct⟩, installed.pages.trans table.pages,
      fun other different older => ?_,
    fun slot older => ?_⟩
  · rw [installed.tables, table.tables, own, Tables.add_eq_true, List.mem_cons, or_assoc]
  · rcases List.mem_cons.mp member with rfl | member
    · exact table.fresh
    · have apart : other ≠ pt := fun same => later (same ▸ member)
      rw [← installed.fresh other member, table.cspace, update_of_ne apart]
  · obtain ⟨apart, later⟩ := not_or.mp (mt List.mem_cons.mpr older)
    exact (installed.others other different later).trans (table.others other different apart)
  · obtain ⟨apart, later⟩ := not_or.mp (mt List.mem_cons.mpr older)
    rw [installed.caps slot later, table.cspace, update_of_ne apart]

end TablesInstalled

structure Reachable (vspace : CPtr) (space : ObjId) (state : KernelState ν) : Prop where
  target : state.cspace vspace = some (.vspace space)
  root : state.cspace space = some (.vspace space)

theorem mapTablesAt_spec {done tables : List (Nat × Nat)} (nested : platform.hierarchy.Nested)
    (turn : platform.hierarchy.tablesOf start stop = done ++ tables)
    (reachable : Reachable vspace space state)
    (present : ∀ level span, (state.vspaces space).tables level span = true ↔ (level, span) ∈ done) :
    RunFrom state
      (mapTablesAt platform vspace (tables.map fun table => table.2 * platform.hierarchy.spanBytes table.1))
      (fun _ after => (∃ pts, TablesInstalled space tables pts state after) ∧
        state.stock.drawTables platform tables.length = .ok after.stock)
      (fun fault => ∃ panic, state.stock.drawTables platform tables.length = .error panic ∧
        fault = .panicked panic) := by
  induction tables generalizing done state with
  | nil =>
    refine .pure ?_
    rintro _ rfl
    exact ⟨⟨[], .nil _⟩, rfl⟩
  | cons table rest ih =>
    obtain ⟨level, span⟩ := table
    rw [List.length_cons, Stock.drawTables]
    refine ((allocateAndRetype_takes .pageTable state).onStop ?_).bind fun pt =>
      MemTriple.fixed ?_
    · rintro fault ⟨panic, short, rfl⟩
      exact ⟨panic, by rw [short]; rfl, rfl⟩
    rintro extended ⟨stock, allocated⟩
    rw [stock]
    have tableEq : extended.cspace pt = some (.pageTable pt none) := by
      rw [allocated.cspace, update_self]
      rfl
    have top : (platform.hierarchy.missing (extended.vspaces space).tables
        (span * platform.hierarchy.spanBytes level)).head? = some level := by
      rw [allocated.vspaces, update_of_ne (allocated.ne reachable.root)]
      exact Hierarchy.missing_next nested turn present
    refine (ptMap_attempt tableEq (allocated.caps reachable.target) top).raising.bind fun _ => .fixed ?_
    rintro tabled tabledEq
    have table : TableInstalled platform (span * platform.hierarchy.spanBytes level) space pt level
      state tabled :=
      tabledEq ▸ .of_allocated allocated reachable.root
    have sameStock : tabled.stock = extended.stock :=
      tabledEq ▸ (stock_setCap tableEq : ((extended.setTable space level _).setCap pt (some _)).stock = _)
    have presentNext : ∀ other index, (tabled.vspaces space).tables other index = true ↔
        (other, index) ∈ done ++ [(level, span)] := by
      intro other index
      have own := TablesInstalled.cons table (.nil tabled)
      rw [own.tables, present, List.mem_append]
    have turnNext : platform.hierarchy.tablesOf start stop = done ++ [(level, span)] ++ rest := by
      rw [turn, List.append_assoc]
      rfl
    have later := ih turnNext ⟨table.caps reachable.target, table.caps reachable.root⟩ presentNext
    rw [sameStock] at later
    refine later.mono ?_
    rintro _ after ⟨⟨pts, installed⟩, supplied⟩
    exact ⟨⟨pt :: pts, .cons table installed⟩, supplied⟩

def tableMissing : Fault := .panicked (.invocation .failedLookup)

theorem Stock.Short.ne_tableMissing {panic : Panic} (short : Stock.Short panic) :
    Fault.panicked panic ≠ tableMissing := by
  unfold tableMissing
  rcases short with rfl | rfl | rfl
  · simp
  · simp
  · simp

structure FrameMoved (cap : CPtr) (before after : KernelState ν) : Prop where
  frame : ∃ object mapped, before.cspace cap = some (.frame object mapped)
  cspace : ∃ moved, after.cspace = Function.update before.cspace cap moved
  tables : ∀ space, (after.vspaces space).tables = (before.vspaces space).tables
  emptySlots : after.emptySlots = before.emptySlots
  cnodes : after.cnodes = before.cnodes

theorem unwrapped_finds {post : KernelState ν → Prop} {program : KernelM ν (Except Sel4Error Unit)}
    (answered : Delivers state program
      fun result after => match result with
        | .ok _ => post after
        | .error error => error ≠ .failedLookup) :
    RunFrom state (unwrapped program) (fun _ => post) (fun fault => fault ≠ tableMissing) := by
  refine answered.raising.bind fun result => ?_
  cases result with
  | ok _ => exact .pure fun _ holds => holds
  | error error =>
    exact .stop fun _ other same => other (Panic.invocation.inj (Fault.panicked.inj same))

theorem frameMap_finds {cap : CPtr} {vaddr : Nat} {rights : CapRights}
    (target : state.cspace vspace = some (.vspace space))
    (complete : platform.hierarchy.missing (state.vspaces space).tables vaddr = []) :
    RunFrom state (unwrapped (frameMap platform cap vspace vaddr rights))
      (fun _ => FrameMoved cap state) (fun fault => fault ≠ tableMissing) := by
  refine unwrapped_finds (.read_bind ?_)
  rintro state rfl
  rw [target]
  split
  · rename_i object mapped space' frameEq spaceEq
    cases spaceEq
    rw [missingLevel_eq, complete]
    split
    · exact .pure fun _ _ => by simp
    · split
      · exact .pure fun _ _ => by simp
      · split
        · exact .pure fun _ _ => by simp
        · split
          · exact .pure fun _ _ => by simp
          · refine .update_bind (.pure ?_)
            rintro _ rfl
            exact ⟨⟨object, mapped, frameEq⟩, ⟨_, rfl⟩, setPage_tables _ _ _ _, rfl, rfl⟩
  · exact .pure fun _ _ => by simp

theorem frameUnmap_moves (state : KernelState ν) (cap : CPtr) :
    RunFrom state (unwrapped (frameUnmap cap)) (fun _ => FrameMoved cap state)
      (fun fault => fault ≠ tableMissing) := by
  refine unwrapped_finds (.read_bind ?_)
  rintro state rfl
  split
  · rename_i object mapped frameEq
    refine .update_bind (.pure ?_)
    rintro _ rfl
    have tables := unmapFrame_tables state object mapped
    obtain ⟨vspaces, unmaps⟩ := unmapFrame_frame state object mapped
    rw [unmaps] at tables ⊢
    exact ⟨⟨object, mapped, frameEq⟩, ⟨_, rfl⟩, tables, rfl, rfl⟩
  · exact .pure fun _ _ => by simp

/-- A thread with an address space of its own that has the tables for its seat, and with
the node for the next object. -/
structure Seated (platform : Platform) (state : KernelState ν) : Prop where
  node : state.stock.NodeReady
  kernel : state.cspace kernelVSpace = some (.vspace kernelVSpace)
  seat : platform.hierarchy.missing (state.vspaces kernelVSpace).tables platform.pageSeat = []

structure AtWork (platform : Platform) (child : CPtr) (tables : Tables) (state : KernelState ν) :
    Prop extends
    Seated platform state where
  target : state.cspace child = some (.vspace child)
  known : (state.vspaces child).tables = tables

variable {child : CPtr} {tables : Tables}

theorem NodeReady.congr (ready : before.stock.NodeReady)
    (emptySlots : after.emptySlots = before.emptySlots) (cnodes : after.cnodes = before.cnodes) :
    after.stock.NodeReady := by
  unfold Stock.NodeReady KernelState.stock at ready ⊢
  rw [emptySlots, cnodes]
  exact ready

theorem AtWork.changed {slot : CPtr} {cap : Option Cap} (work : AtWork platform child tables before)
    (other : ∀ object, before.cspace slot ≠ some (.vspace object))
    (cspace : after.cspace = Function.update before.cspace slot cap)
    (sameTables : ∀ space, (after.vspaces space).tables = (before.vspaces space).tables)
    (emptySlots : after.emptySlots = before.emptySlots) (cnodes : after.cnodes = before.cnodes) :
    AtWork platform child tables after := by
  have kept : ∀ {place object}, before.cspace place = some (.vspace object) → after.cspace place =
      some (.vspace object) := by
    intro place object found
    have apart : place ≠ slot := by
      rintro rfl
      exact other object found
    rw [cspace, update_of_ne apart, found]
  refine ⟨⟨NodeReady.congr work.node emptySlots cnodes, kept work.kernel, ?_⟩, kept work.target,
    (sameTables child).trans work.known⟩
  rw [sameTables]
  exact work.seat

theorem AtWork.moved {cap : CPtr} (work : AtWork platform child tables before)
    (moved : FrameMoved cap before after) :
    AtWork platform child tables after := by
  obtain ⟨object, mapped, frameEq⟩ := moved.frame
  obtain ⟨cap', cspace⟩ := moved.cspace
  refine work.changed (fun other found => ?_) cspace moved.tables moved.emptySlots moved.cnodes
  rw [frameEq] at found
  cases found

theorem AtWork.undisturbed (work : AtWork platform child tables before)
    (step : Undisturbed before after) :
    AtWork platform child tables after :=
  ⟨⟨NodeReady.congr work.node step.emptySlots step.cnodes, step.cspace ▸ work.kernel,
    step.vspaces ▸ work.seat⟩,
    step.cspace ▸ work.target, step.vspaces ▸ work.known⟩

section Allocation

variable {type : ObjectType} {slot : CPtr}

theorem Seated.allocated (seated : Seated platform before)
    (taken : before.stock.take platform type = .ok after.stock)
    (allocated : Allocated type slot before after) : Seated platform after := by
  refine ⟨(Stock.take_node seated.node type).1 _ taken, allocated.caps seated.kernel, ?_⟩
  rw [allocated.vspaces, update_of_ne (allocated.ne seated.kernel)]
  exact seated.seat

theorem AtWork.allocated (work : AtWork platform child tables before)
    (taken : before.stock.take platform type = .ok after.stock)
    (allocated : Allocated type slot before after) : AtWork platform child tables after := by
  refine ⟨work.toSeated.allocated taken allocated, allocated.caps work.target, ?_⟩
  rw [allocated.vspaces, update_of_ne (allocated.ne work.target)]
  exact work.known

end Allocation

abbrev Finds (platform : Platform) (child : CPtr) (tables : Tables) {α : Type}
    (program : KernelM ν α) : Prop :=
  Preserves (AtWork platform child tables) (fun fault => fault ≠ tableMissing) program

theorem allocateAndRetype_finds (type : ObjectType) :
    Finds platform child tables (allocateAndRetype platform type : KernelM ν CPtr) := by
  refine .fixed fun state work => (allocateAndRetype_takes type state).weaken (fun _ same => same) ?_ ?_
  · rintro slot after ⟨taken, allocated⟩
    exact work.allocated taken allocated
  · rintro fault ⟨panic, short, rfl⟩
    exact ((Stock.take_node work.node type).2 _ short).ne_tableMissing

theorem storeByte_finds (address : Nat) (byte : UInt8) :
    Finds platform child tables (storeByte platform address byte : KernelM ν Unit) := by
  refine .read_bind fun state _ => ?_
  split
  · split
    · exact .stop (by simp [tableMissing])
    · exact .update fun _ work => work.undisturbed ⟨rfl, rfl, rfl, rfl, rfl⟩
  · exact .update fun _ work => work.undisturbed ⟨rfl, rfl, rfl, rfl, rfl⟩

theorem storeBytes_finds (address : Nat) (bytes : List UInt8) :
    Finds platform child tables (storeBytes platform address bytes : KernelM ν Unit) := by
  induction bytes generalizing address with
  | nil => exact .pure
  | cons byte rest ih => exact (storeByte_finds address byte).bind fun _ => ih (address + 1)

theorem withSeat_finds (cap : CPtr) {body : KernelM ν α} (inside : Finds platform child tables body) :
    Finds platform child tables (withSeat platform cap platform.pageSeat body) := by
  have seated : Finds platform child tables
    (unwrapped (frameMap platform cap kernelVSpace platform.pageSeat .all) : KernelM ν Unit) :=
    MemTriple.fixed fun state work => (frameMap_finds work.kernel work.seat).mono fun _ _ moved =>
      work.moved moved
  have unseated : Finds platform child tables (unwrapped (frameUnmap cap) : KernelM ν Unit) :=
    MemTriple.fixed fun state work => (frameUnmap_moves state cap).mono fun _ _ moved => work.moved moved
  exact seated.bind fun _ => inside.bind fun _ => unseated.bind fun _ => .pure

theorem copyData_finds (pages : List ImagePage) (data : List UInt8) (offset : Nat) :
    Finds platform child tables (copyData platform platform.pageSeat pages data offset : KernelM ν Unit) := by
  induction pages generalizing data offset with
  | nil => exact .pure
  | cons page rest ih => exact (withSeat_finds page.1 (storeBytes_finds _ _)).bind fun _ => ih _ _

theorem slicePages_finds (pages : List ImagePage) (start count : Nat) :
    Finds platform child tables (slicePages pages start count : KernelM ν _) := by
  unfold slicePages
  split
  · exact .pure
  · exact .stop (by simp [tableMissing])

def Counted (platform : Platform) (child : CPtr) (tables : Tables) (count : Nat)
    (pages : List ImagePage) (state : KernelState ν) : Prop :=
  pages.length = count ∧ AtWork platform child tables state

theorem allocatePages_finds (count : Nat) :
    MemTriple (AtWork platform child tables) (allocatePages platform count : KernelM ν _)
      (Counted platform child tables count) (fun fault => fault ≠ tableMissing) := by
  induction count with
  | zero => exact .pure fun _ work => ⟨rfl, work⟩
  | succ count ih =>
    refine (allocateAndRetype_finds .granule).followedBy fun page => ih.bind fun rest => .pure ?_
    rintro _ ⟨length, work⟩
    exact ⟨congrArg (· + 1) length, work⟩

theorem loadSegment_finds (range : Nat × Nat) (pages : List ImagePage) (seg : Segment) :
    MemTriple (AtWork platform child tables)
      (loadSegment platform range platform.pageSeat pages seg : KernelM ν _)
      (Counted platform child tables pages.length) (fun fault => fault ≠ tableMissing) := by
  refine (slicePages_finds _ _ _).followedBy fun _ =>
    (slicePages_finds _ _ _).followedBy fun dataPages =>
    (copyData_finds _ _ _).followedBy fun _ => .pure fun _ work => ⟨?_, work⟩
  exact List.length_mapIdx

theorem loadImage_finds (range : Nat × Nat) (segments : List Segment) (pages : List ImagePage) :
    MemTriple (AtWork platform child tables)
      (loadImage platform range platform.pageSeat segments pages : KernelM ν _)
      (Counted platform child tables pages.length) (fun fault => fault ≠ tableMissing) := by
  induction segments generalizing pages with
  | nil => exact .pure fun _ work => ⟨rfl, work⟩
  | cons seg rest ih =>
    refine (loadSegment_finds range pages seg).bind fun pages' => .fixed ?_
    rintro state ⟨length, work⟩
    rw [← length]
    exact (ih pages').startingAt work

theorem mapPages_finds {addr : Nat} {pages : List ImagePage} (mappedPage : Std.TreeMap Nat CPtr)
    (complete : ∀ index < pages.length, platform.hierarchy.missing tables (addr + index * granuleSize) = []) :
    Finds platform child tables (mapPages platform child addr pages mappedPage : KernelM ν _) := by
  induction pages generalizing addr mappedPage with
  | nil => exact .pure
  | cons page rest ih =>
    have here : platform.hierarchy.missing tables addr = [] := by
      have first := complete 0 (Nat.zero_lt_succ _)
      rwa [Nat.zero_mul, Nat.add_zero] at first
    have mapped : Finds platform child tables
      (unwrapped (frameMap platform page.1 child addr page.2) : KernelM ν Unit) :=
      MemTriple.fixed fun state work => (frameMap_finds work.target (work.known ▸ here)).mono
          fun _ _ moved => work.moved moved
    refine mapped.bind fun _ => ih _ fun index bound => ?_
    have later := complete (index + 1) (Nat.succ_lt_succ bound)
    rwa [Nat.succ_mul, Nat.add_comm (index * granuleSize), ← Nat.add_assoc] at later

structure Covered (platform : Platform) (tables : Tables) (range : Nat × Nat) : Prop where
  order : range.1 ≤ range.2
  complete : ∀ vaddr, range.1 ≤ vaddr → vaddr < range.2 + granuleSize →
    platform.hierarchy.missing tables vaddr = []

theorem Covered.page (covered : Covered platform tables range) {index : Nat}
    (bound : index < (range.2 - range.1) / granuleSize) :
    platform.hierarchy.missing tables (range.1 + index * granuleSize) = [] := by
  refine covered.complete _ (Nat.le_add_right ..) ?_
  unfold granuleSize at *
  omega

theorem mapImage_finds (covered : Covered platform tables range) (mappedPage : Std.TreeMap Nat CPtr)
    (segments : List Segment) :
    Finds platform child tables
      (mapImage platform mappedPage child range segments platform.pageSeat : KernelM ν _) := by
  refine (allocatePages_finds _).bind fun pages => .fixed ?_
  rintro state ⟨length, work⟩
  refine ((loadImage_finds range segments pages).startingAt work).bind fun pages' => .fixed ?_
  rintro state ⟨length', work⟩
  refine (mapPages_finds mappedPage fun index bound => ?_).startingAt work
  rw [length', length] at bound
  exact covered.page bound

theorem mapIntermediateTranslationTables_eq (vspace : CPtr) (range : Nat × Nat) :
    (mapIntermediateTranslationTables platform vspace range : KernelM ν Unit) =
      mapTablesAt platform vspace
        ((platform.hierarchy.tablesOf range.1 range.2).map fun table => table.2 * platform.hierarchy.spanBytes table.1) := by
  rw [mapIntermediateTranslationTables, mapTablesOf_eq, ← tableAddrs_all]

theorem mapIntermediateTranslationTables_spec (nested : platform.hierarchy.Nested)
    (reachable : Reachable vspace space state) (empty : (state.vspaces space).tables = Tables.none)
    (range : Nat × Nat) :
    RunFrom state (mapIntermediateTranslationTables platform vspace range)
      (fun _ after => (∃ pts, TablesInstalled space (platform.hierarchy.tablesOf range.1 range.2) pts state after) ∧
        state.stock.drawTables platform (platform.hierarchy.tablesOf range.1 range.2).length = .ok after.stock)
      (fun fault => ∃ panic,
        state.stock.drawTables platform (platform.hierarchy.tablesOf range.1 range.2).length = .error panic ∧
          fault = .panicked panic) := by
  rw [mapIntermediateTranslationTables_eq]
  refine mapTablesAt_spec nested (List.nil_append _).symm reachable fun level span => ?_
  rw [empty]
  exact ⟨nofun, nofun⟩

theorem AtWork.tabled (work : AtWork platform child tables before)
    (different : kernelVSpace ≠ child) (installed : TablesInstalled child added pts before after)
    (ready : after.stock.NodeReady) : AtWork platform child (after.vspaces child).tables after := by
  have kept : ∀ {place object}, before.cspace place = some (.vspace object) → place ∉ pts := by
    intro place object found member
    have fresh := installed.fresh place member
    rw [found] at fresh
    cases fresh
  have kernel : after.cspace kernelVSpace = some (.vspace kernelVSpace) := by
    rw [installed.caps _ (kept work.kernel)]
    exact work.kernel
  refine ⟨⟨ready, kernel, ?_⟩, (installed.caps _ (kept work.target)).trans work.target, rfl⟩
  rw [installed.others _ different (kept work.kernel)]
  exact work.seat

theorem footprint_order {segments : List Segment} (found : footprint segments = some range) :
    range.1 ≤ range.2 := by
  simp only [footprint, Option.bind_eq_bind, Option.bind_eq_some_iff, Option.pure_def,
    Option.some.injEq] at found
  obtain ⟨low, lowEq, high, highEq, rfl⟩ := found
  obtain ⟨seg, member, rfl⟩ := List.mem_map.mp (List.min?_eq_some_iff.mp lowEq).1
  have below := (List.max?_eq_some_iff.mp highEq).2 _ (List.mem_map_of_mem member)
  simp only [coarsenFootprint, roundDown, nextMultipleOf, granuleSize]
  omega

theorem fillChildVspace_finds (nested : platform.hierarchy.Nested)
    (different : kernelVSpace ≠ child) (work : AtWork platform child Tables.none state)
    (order : range.1 ≤ range.2) (mappedPage : Std.TreeMap Nat CPtr) (image : List Segment) :
    RunFrom state (fillChildVspace platform mappedPage child range image platform.pageSeat)
      (fun _ _ => True) (fun fault => fault ≠ tableMissing) := by
  have tabled := mapIntermediateTranslationTables_spec nested ⟨work.target, work.target⟩ work.known
    (range.1, range.2 + granuleSize)
  refine (tabled.onStop ?_).bind fun _ => .fixed ?_
  · rintro fault ⟨panic, short, rfl⟩
    exact ((Stock.drawTables_node work.node _).2 _ short).ne_tableMissing
  rintro tabled ⟨⟨pts, installed⟩, drawn⟩
  have workNow := work.tabled different installed ((Stock.drawTables_node work.node _).1 _ drawn)
  have covered : Covered platform (tabled.vspaces child).tables range := by
    refine ⟨order, fun vaddr above below => Hierarchy.missing_eq_nil (fun table member => ?_) above below⟩
    exact (installed.tables _ _).mpr (Or.inr member)
  have ipcPage : platform.hierarchy.missing (tabled.vspaces child).tables range.2 = [] :=
    covered.complete _ order (Nat.lt_add_of_pos_right (by decide))
  refine ((mapImage_finds covered mappedPage image).startingAt workNow).bind fun mappedPage =>
    (allocateAndRetype_finds .granule).followedBy fun ipcBufferCap => .fixed fun now working => ?_
  refine (frameMap_finds working.target (working.known ▸ ipcPage)).bind fun _ => .pure fun _ _ =>
    trivial

theorem cnodeMutate_finds {dest src : CPtr} {cap : Cap} (found : state.cspace src = some cap) :
    RunFrom state (unwrapped (cnodeMutate dest src))
      (fun _ after => state.cspace dest = none ∧ after = (state.setCap src none).setCap dest (some cap))
      (fun fault => fault ≠ tableMissing) := by
  refine unwrapped_finds (.read_bind ?_)
  rintro state rfl
  rw [found]
  cases free : state.cspace dest with
  | some other => exact .pure fun _ _ => by simp
  | none =>
    refine .update_bind (.pure ?_)
    rintro _ rfl
    exact ⟨rfl, rfl⟩

theorem cnodeMutateInto_finds {cnode src : CPtr} {cap : Cap}
    (node : state.cspace cnode = some (.cnode object)) (found : state.cspace src = some cap) :
    RunFrom state (unwrapped (cnodeMutateInto cnode src)) (fun _ after => after = state.setCap src none)
      (fun fault => fault ≠ tableMissing) := by
  refine unwrapped_finds (.read_bind ?_)
  rintro state rfl
  rw [node, found]
  exact .update_bind (.pure fun _ same => same)

theorem asidPoolAssign_finds (target : state.cspace vspace = some (.vspace space)) :
    RunFrom state (unwrapped (asidPoolAssign vspace)) (fun _ after => after = state)
      (fun fault => fault ≠ tableMissing) := by
  refine unwrapped_finds (.read_bind ?_)
  rintro state rfl
  rw [target]
  exact .pure fun _ same => same

theorem AtWork.setCap {slot : CPtr} (work : AtWork platform child tables state)
    (other : ∀ object, state.cspace slot ≠ some (.vspace object)) (cap : Option Cap) :
    AtWork platform child tables (state.setCap slot cap) :=
  work.changed other rfl (fun _ => rfl) rfl rfl

theorem AtWork.mutated {dest src : CPtr} (work : AtWork platform child tables state)
    (found : state.cspace src = some (.cnode object)) (free : state.cspace dest = none) :
    AtWork platform child tables ((state.setCap src none).setCap dest (some (.cnode object))) := by
  refine (work.setCap (fun other same => ?_) none).setCap (fun other same => ?_) _
  · rw [found] at same
    cases same
  · have apart : dest ≠ src := by
      rintro rfl
      rw [found] at free
      cases free
    rw [cspace_setCap, update_of_ne apart, free] at same
    cases same

theorem makeChildVspace_finds (nested : platform.hierarchy.Nested) (seated : Seated platform state)
    {cnode : CPtr} (node : state.cspace cnode = some (.cnode object))
    (mappedPage : Std.TreeMap Nat CPtr) (image : List Segment) :
    RunFrom state (makeChildVspace platform cnode mappedPage image platform.pageSeat)
      (fun _ _ => True) (fun fault => fault ≠ tableMissing) := by
  have short : ∀ {now : KernelState ν} {type : ObjectType}, now.stock.NodeReady → ∀ fault,
      (∃ panic, now.stock.take platform type = .error panic ∧ fault = .panicked panic) → fault ≠ tableMissing := by
    rintro now type ready _ ⟨panic, lacking, rfl⟩
    exact ((Stock.take_node ready type).2 _ lacking).ne_tableMissing
  refine ((allocate_takes _ state).onStop (short seated.node)).bind fun inner =>
    MemTriple.fixed ?_
  rintro first ⟨taken, made⟩
  have seatedFirst := seated.allocated taken made
  have nodeFirst := made.caps node
  have innerFirst : first.cspace inner = some (.cnode inner) := by
    rw [made.cspace, update_self]
    rfl
  refine .locked (((allocateAndRetype_takes _ first).onStop
      (short seatedFirst.node)).bind fun child => .fixed ?_)
  rintro second ⟨taken', made'⟩
  have different : kernelVSpace ≠ child := made'.ne seatedFirst.kernel
  have work : AtWork platform child Tables.none second := by
    refine ⟨seatedFirst.allocated taken' made', ?_, ?_⟩
    · rw [made'.cspace, update_self]
      rfl
    · rw [made'.vspaces, update_self]
      rfl
  have nodeSecond := made'.caps nodeFirst
  have innerSecond := made'.caps innerFirst
  have apart : cnode ≠ inner := made.ne node
  -- the inner node moves into the node of the child, and the node of the child to a slot and back
  refine (cnodeMutateInto_finds nodeSecond innerSecond).bind fun _ => .fixed ?_
  rintro _ rfl
  have workThird := work.setCap (fun other found => by rw [innerSecond] at found; cases found) none
  have nodeThird : (second.setCap inner none).cspace cnode = some (.cnode object) := by
    rw [cspace_setCap, update_of_ne apart]
    exact nodeSecond
  refine (cnodeMutate_finds nodeThird).bind fun _ => .fixed ?_
  rintro fourth ⟨free, fourthEq⟩
  have workFourth : AtWork platform child Tables.none fourth :=
    fourthEq ▸ workThird.mutated nodeThird free
  have tempFourth : fourth.cspace tempSlot = some (.cnode object) := by
    rw [fourthEq, cspace_setCap, update_self]
  refine (cnodeMutate_finds tempFourth).bind fun _ => .fixed ?_
  rintro fifth ⟨free', fifthEq⟩
  have workFifth : AtWork platform child Tables.none fifth :=
    fifthEq ▸ workFourth.mutated tempFourth free'
  refine (asidPoolAssign_finds workFifth.target).bind fun _ => .fixed ?_
  rintro _ rfl
  split
  · exact .stop fun _ _ => by simp [tableMissing]
  · rename_i range found
    exact fillChildVspace_finds nested different workFifth (footprint_order found) mappedPage image

structure TablesMapped (platform : Platform) (vspace : CPtr) (space : ObjId) (range : Nat × Nat)
    (world : KernelWorld ν) (added : List (Nat × Nat)) : Prop where
  /-- The calls in their order, one for each table. -/
  calls : (mapIntermediateTranslationTables platform vspace range : KernelM ν Unit) =
    mapTablesAt platform vspace (added.map fun table => table.2 * 2 ^ platform.spanBits table.1)
  spans : ∀ level span, (level, span) ∈ added ↔
    (1 ≤ level ∧ level < platform.numLevels) ∧ platform.hierarchy.Overlaps level span range.1 range.2
  shares : range.1 < range.2 → ∀ level span, platform.hierarchy.Overlaps level span range.1 range.2 ↔
    ∃ addr, range.1 ≤ addr ∧ addr < range.2 ∧ addr >>> platform.spanBits level = span
  once : added.Nodup
  upperFirst : added.Pairwise fun table later => table.1 ≤ later.1
  mapped : ∀ left, world.memory.stock.drawTables platform added.length = .ok left → ∃ pts after,
    (mapIntermediateTranslationTables platform vspace range).run world = .ok () after ∧
      TablesInstalled space added pts world.memory after.memory
  short : ∀ panic, world.memory.stock.drawTables platform added.length = .error panic →
    stopReason ((mapIntermediateTranslationTables platform vspace range).run world) = some (.panicked panic)

theorem tables_mapped (nested : platform.hierarchy.Nested) {world : KernelWorld ν}
    (reachable : Reachable vspace space world.memory)
    (empty : (world.memory.vspaces space).tables = Tables.none) (range : Nat × Nat) :
    TablesMapped platform vspace space range world
      (platform.hierarchy.tablesOf range.1 range.2) := by
  have reached := (mapIntermediateTranslationTables_spec nested reachable empty range).triple world rfl
  refine ⟨mapIntermediateTranslationTables_eq vspace range, fun level span => Hierarchy.mem_tablesOf,
    fun nonempty level span => Hierarchy.overlaps_iff nonempty, Hierarchy.tablesOf_nodup, ?_,
      fun left supplied => ?_,
    fun panic short => ?_⟩
  · refine Hierarchy.tablesOf_pairwise.imp ?_
    rintro table later (higher | ⟨same, -⟩)
    · exact Nat.le_of_lt higher
    · exact Nat.le_of_eq same
  · cases ran : (mapIntermediateTranslationTables platform vspace range).run world with
    | ok _ after =>
      rw [ran] at reached
      obtain ⟨⟨pts, installed⟩, -⟩ := reached
      exact ⟨pts, after, rfl, installed⟩
    | error fault after =>
      rw [ran] at reached
      obtain ⟨panic, short, -⟩ := reached
      rw [supplied] at short
      cases short
  · cases ran : (mapIntermediateTranslationTables platform vspace range).run world with
    | ok _ after =>
      rw [ran] at reached
      rw [reached.2] at short
      cases short
    | error fault after =>
      rw [ran] at reached
      obtain ⟨panic', short', rfl⟩ := reached
      rw [short] at short'
      cases short'
      rfl

/-- For every range the tables are mapped once for each span that the range overlaps, from
the top; and whatever the image, no frame of the new address space lacks a table. -/
theorem intermediate_tables_suffice (platform : Platform) (nested : platform.hierarchy.Nested)
    (world : KernelWorld ν) :
    (∀ vspace space range, Reachable vspace space world.memory →
      (world.memory.vspaces space).tables = Tables.none →
      ∃ added, TablesMapped platform vspace space range world added) ∧
    (∀ cnode object mappedPage image, Seated platform world.memory → world.memory.cspace cnode =
      some (.cnode object) →
      stopReason ((makeChildVspace platform cnode mappedPage image platform.pageSeat).run world) ≠
        some tableMissing) := by
  refine ⟨fun vspace space range reachable empty => ⟨_, tables_mapped nested reachable empty range⟩,
    fun cnode object mappedPage image seated node => ?_⟩
  have reached := (makeChildVspace_finds nested seated node mappedPage image).triple world rfl
  cases ran : (makeChildVspace platform cnode mappedPage image platform.pageSeat).run world with
  | ok value after => exact nofun
  | error fault after =>
      rw [ran] at reached
      exact fun same => reached (Option.some.inj same)

def parentWorld : World Lock (List UInt64) (KernelState Unit) :=
  { KernelWorld.boot () with
    memory := { KernelState.boot () with
      cspace := fun slot =>
        if slot = kernelVSpace then some (.vspace kernelVSpace) else if slot = 5 then some (.vspace 5)
        else if slot = 7 then some (.cnode 7) else none
      vspaces := Function.update (KernelState.boot ()).vspaces 5 .empty } }

def straddlingImage : List Segment := [{ address := 0x1ff800, size := 0x1000, data := [], flags := 4 }]

theorem intermediate_tables_suffice_straddling :
    (∃ added, TablesMapped deepPlatform 5 5 (0x1ff000, 0x202000) parentWorld added) ∧
    stopReason ((makeChildVspace deepPlatform 7 ∅ straddlingImage deepPlatform.pageSeat).run
      parentWorld) ≠ some tableMissing ∧
    (returnValue ((makeChildVspace deepPlatform 7 ∅ straddlingImage deepPlatform.pageSeat).run
      parentWorld)).isSome := by
  have nested : deepPlatform.hierarchy.Nested := by
    intro level _ _
    change 48 - 9 * (level + 1) ≤ 48 - 9 * level
    omega
  obtain ⟨tables, children⟩ := intermediate_tables_suffice deepPlatform nested parentWorld
  refine ⟨tables 5 5 _ ⟨rfl, rfl⟩ rfl, children 7 7 ∅ straddlingImage ⟨?_, rfl, rfl⟩
    rfl, by decide +kernel⟩
  intro inside
  exact absurd rfl inside

end RootTaskDemo.Kernel
