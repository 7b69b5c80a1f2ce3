import RootTaskDemo.Kernel.Copying

namespace RootTaskDemo.Kernel

open Common Lib Thread
open Function (update_self update_of_ne)

variable {ν : Type} {platform : Platform} {state now : KernelState ν} {task : Sel4Task}
  {addr buf : Nat}

/-! Lists that are written to and read from the memory of a task. -/

/-- The frame of a byte of the range that starts at `addr`, and its place in the frame. -/
def KernelState.placeOf (state : KernelState ν) (task : Sel4Task) (addr offset : Nat) :
    Option (ObjId × Nat) := do
  let cap ← task.pageCap addr offset
  let frame ← state.frameOf cap
  return (frame, (addr + offset) % pageSize)

theorem placeOf_piece {piece : Piece} {cap : CPtr} {frame : ObjId} {mapped : Option (ObjId × Nat)}
    (found : task.pageCap addr piece.offset = some cap)
    (capEq : state.cspace cap = some (.frame frame mapped))
    (inPage : (addr + piece.offset) % pageSize + piece.length ≤ pageSize) {index : Nat}
    (inside : index < piece.length) :
    state.placeOf task addr (piece.offset + index) = some (frame, (addr + piece.offset) % pageSize + index) := by
  have frameEq : state.frameOf cap = some frame := by
    unfold KernelState.frameOf
    rw [capEq]
  have samePage : task.pageCap addr (piece.offset + index) = some cap := by
    have same : pageOf addr (piece.offset + index) = pageOf addr piece.offset := by
      unfold pageOf alignBits
      unfold pageSize at inPage
      omega
    unfold Sel4Task.pageCap at found ⊢
    rw [same, found]
  have samePlace : (addr + (piece.offset + index)) % pageSize = (addr + piece.offset) % pageSize + index := by
    unfold pageSize at inPage ⊢
    omega
  simp only [KernelState.placeOf, samePage, frameEq, samePlace, Option.bind_eq_bind,
    Option.bind_some, Option.pure_def]

theorem placeOf_aside {after : KernelState ν} (aside : Aside state after) (offset : Nat) :
    after.placeOf task addr offset = state.placeOf task addr offset := by
  unfold KernelState.placeOf KernelState.frameOf
  rw [aside.cspace]

theorem view_eq {offset : Nat} {frame : ObjId} {place : Nat}
    (found : state.placeOf task addr offset = some (frame, place)) :
    state.view task addr offset = state.frames frame place := by
  simp only [KernelState.placeOf, Option.bind_eq_bind, Option.bind_eq_some_iff, Option.pure_def,
    Option.some.injEq, Prod.mk.injEq] at found
  obtain ⟨cap, capEq, shown, frameEq, rfl, rfl⟩ := found
  have present : task.mappedPage[alignBits ((addr + offset) % 2 ^ 64) 12]? = some cap := capEq
  simp only [KernelState.view, KernelState.userByte, present, frameEq, wrapped_mod,
    Option.bind_eq_bind, Option.bind_some, Option.pure_def, Option.getD_some]

theorem placeOf_mapped (backed : Backed state task) {len : Nat} (mapped : FullyMapped task addr len)
    {index : Nat} (inside : index < len) :
    ∃ frame place, state.placeOf task addr index = some (frame, place) := by
  obtain ⟨cap, found⟩ := Option.isSome_iff_exists.mp (mapped index inside)
  obtain ⟨frame, place, capEq⟩ := backed _ cap found
  refine ⟨frame, (addr + index) % pageSize, ?_⟩
  simp only [KernelState.placeOf, found, KernelState.frameOf, capEq, Option.bind_eq_bind,
    Option.bind_some, Option.pure_def]

structure Written (state : KernelState ν) (task : Sel4Task) (addr buf count : Nat)
    (frames : ObjId → Memory) : Prop where
  inside : ∀ index < count, ∀ frame place, state.placeOf task addr index = some (frame, place) →
    frames frame place = state.own (buf + index)
  outside : ∀ frame place, (∀ index < count, state.placeOf task addr index ≠ some (frame, place)) →
    frames frame place = state.frames frame place

def Unaliased (state : KernelState ν) (task : Sel4Task) (addr len : Nat) : Prop :=
  ∀ index < len, ∀ other < len, state.placeOf task addr index = state.placeOf task addr other →
    index = other

theorem Written.piece {start stop : Nat} {piece : Piece} {cap : CPtr} {frame : ObjId}
    {mapped : Option (ObjId × Nat)} {frames : ObjId → Memory}
    (written : Written state task addr buf start frames) (apart : Unaliased state task addr stop)
    (offset : piece.offset = start) (bound : start + piece.length ≤ stop)
    (found : task.pageCap addr piece.offset = some cap)
    (capEq : state.cspace cap = some (.frame frame mapped))
    (inPage : (addr + piece.offset) % pageSize + piece.length ≤ pageSize) :
    Written state task addr buf (start + piece.length) (Function.update frames frame ((frames frame).store
      ((addr + piece.offset) % pageSize) (state.own.load (buf + piece.offset) piece.length))) := by
  have place : ∀ index < piece.length, state.placeOf task addr (start + index) =
      some (frame, (addr + piece.offset) % pageSize + index) := by
    intro index inside
    rw [← offset]
    exact placeOf_piece found capEq inPage inside
  have length : (state.own.load (buf + piece.offset) piece.length).length = piece.length :=
    Memory.length_load
  refine ⟨fun index below other spot placed => ?_, fun other spot nowhere => ?_⟩
  · by_cases earlier : index < start
    · by_cases same : other = frame
      · subst same
        rw [update_self, Memory.store_outside, written.inside index earlier _ _ placed]
        -- a place inside the piece would be that of two bytes
        by_contra inside
        have within : spot - (addr + piece.offset) % pageSize < piece.length := by omega
        have there := place (spot - (addr + piece.offset) % pageSize) within
        rw [show (addr + piece.offset) % pageSize + (spot - (addr + piece.offset) % pageSize) = spot by omega, ← placed] at there
        have equal := apart index (by omega) _ (by omega) there.symm
        omega
      · rw [update_of_ne same]
        exact written.inside index earlier _ _ placed
    · have inside : index - start < piece.length := by omega
      have there := place (index - start) inside
      rw [show start + (index - start) = index by omega, placed, Option.some.injEq, Prod.mk.injEq] at there
      obtain ⟨rfl, rfl⟩ := there
      rw [update_self, Memory.store_inside (Memory.getElem?_load inside),
        show buf + piece.offset + (index - start) = buf + index by omega]
  · have before := written.outside other spot fun index below => nowhere index (by omega)
    by_cases same : other = frame
    · subst same
      rw [update_self, Memory.store_outside, before]
      by_contra inside
      have within : spot - (addr + piece.offset) % pageSize < piece.length := by omega
      have there := place (spot - (addr + piece.offset) % pageSize) within
      rw [show (addr + piece.offset) % pageSize + (spot - (addr + piece.offset) % pageSize) = spot by omega] at there
      exact nowhere _ (by omega) there
    · rw [update_of_ne same]
      exact before

theorem visit_write {start stop : Nat} {access : Piece × CPtr} {rest : List (Piece × CPtr)}
    (ready : SeatReady platform state) (backed : Backed state task)
    (apart : Unaliased state task addr stop) (outside : OutsideSeats platform buf stop)
    (remaining : Remaining task addr start stop (access :: rest)) (aside : Aside state now)
    (own : now.own = state.own) (written : Written state task addr buf start now.frames) :
    MemTriple (fun memory => memory = now)
      (visit platform addr (fun dst offset copyLen (_ : Unit) =>
        copyBytes platform (buf + offset * 1) dst (copyLen * 1)) () access)
      (fun _ after => Aside state after ∧ after.own = state.own ∧
        Written state task addr buf (start + access.1.length) after.frames) (fun _ => False) := by
  obtain ⟨known, inPage⟩ := remaining.each access List.mem_cons_self
  obtain ⟨frame, mapped, capEq⟩ := backed _ _ known
  have offset : access.1.offset = start := remaining.tiles.1
  have bound := remaining.tiles.2.2.le
  have capNow : now.cspace access.2 = some (.frame frame mapped) := aside.cspace ▸ capEq
  refine (withPage_total (fun _ contents => contents.own = state.own ∧
    Written state task addr buf (start + access.1.length) contents.frames) (ready.aside aside) capNow ?_).weaken
      (fun _ same => same) (fun _ _ spec => ⟨aside.trans spec.1, spec.2⟩) fun _ never => never
  dsimp only
  rw [Nat.mul_one, Nat.mul_one]
  have clear : OutsideSeats platform (buf + access.1.offset) access.1.length := by
    intro index inside
    rw [Nat.add_assoc]
    exact outside _ (by omega)
  refine (loadBytes_own _ clear).bind fun bytes => .fixed ?_
  rintro _ ⟨rfl, rfl⟩
  have loaded : (now.borrowing platform frame).own.load (buf + access.1.offset) access.1.length =
      state.own.load (buf + access.1.offset) access.1.length := congrArg (fun memory : Memory => memory.load _ _) own
  rw [loaded]
  have fits : (addr + access.1.offset) % pageSize + (state.own.load (buf + access.1.offset)
      access.1.length).length ≤ pageSize := by
    rw [Memory.length_load]
    exact inPage
  refine (storeBytes_seat (showAtSeat_shows _ _ _) fits).mono ?_
  rintro _ _ rfl
  exact ⟨⟨rfl, rfl, rfl, rfl, rfl⟩, own, written.piece apart offset bound known capEq inPage⟩

theorem writeItemList_written {len : Nat} (ready : SeatReady platform state)
    (backed : Backed state task) (word : addr < 2 ^ 64) (short : len < 2 ^ 64)
    (mapped : FullyMapped task addr len) (apart : Unaliased state task addr len)
    (outside : OutsideSeats platform buf len) :
    MemTriple (fun memory => memory = state) (writeItemList platform 1 task addr (some len) buf)
      (fun _ after => Aside state after ∧ after.own = state.own ∧ Written state task addr buf len after.frames)
      (fun _ => False) := by
  have run := MemTriple.foldlM
    (fun rest (_ : Unit) now => ∃ start, Remaining task addr start len rest ∧ Aside state now ∧
      now.own = state.own ∧ Written state task addr buf start now.frames)
    (fun access rest _ => .fixed fun now reached => by
      obtain ⟨start, remaining, aside, own, written⟩ := reached
      exact (visit_write ready backed apart outside remaining aside own written).mono
          fun _ _ spec => ⟨_, remaining.tail, spec⟩) (accesses task addr len) ()
  rw [writeItemList_walk word 1 short]
  refine (run.startingAt ⟨0, accesses_mapped mapped, .refl _, rfl, ?_⟩).bind fun _ => .pure ?_
  · exact ⟨fun _ impossible => absurd impossible (Nat.not_lt_zero _), fun _ _ _ => rfl⟩
  · rintro after ⟨start, finished, spec⟩
    obtain rfl : start = len := finished.tiles
    exact spec

/-- The copies of a walk stay inside a list of `num` items, and each inside the page of
its piece; they take the offset and the length of a piece for numbers of items. -/
def CopiesWithin (size num addr : Nat) (accesses : List (Piece × CPtr)) : Prop :=
  ∀ access ∈ accesses, access.1.offset * size + access.1.length * size ≤ num * size ∧
    (addr + access.1.offset) % pageSize + access.1.length * size ≤ pageSize

structure ListCopied (platform : Platform) (state : KernelState ν) (task : Sel4Task)
    (size num addr buf out : Nat) : Prop where
  roundTrip : MemTriple (fun now => now = state)
    (do
      let _ ← writeItemList platform size task addr (some num) buf
      readItemList platform size task addr (some num) out)
    (fun _ after => after.own = state.own.store out (state.own.load buf (num * size)) ∧
      Written state task addr buf (num * size) after.frames) (fun _ => False)
  written : CopiesWithin size num addr (accesses task addr num)
  read : CopiesWithin size num addr (accesses task addr (size * num))

variable {size num out : Nat}

theorem copiesWithin_bytes (task : Sel4Task) (addr num : Nat) :
    CopiesWithin 1 num addr (accesses task addr num) := by
  obtain ⟨reached, bound, remaining, -, -⟩ := accesses_remaining task addr num
  intro access member
  have within := remaining.tiles.within (List.mem_map_of_mem member)
  have inPage := (remaining.each access member).2
  omega

theorem copiesWithin_read (mapped : FullyMapped task addr (size * num)) (positive : 0 < size * num)
    (within : CopiesWithin size num addr (accesses task addr (size * num))) : size = 1 := by
  have remaining := accesses_mapped mapped
  obtain ⟨piece, member, first, last⟩ := remaining.tiles.covers (Nat.zero_le (size * num - 1)) (by omega)
  have end_ := (remaining.tiles.within member).2.2
  obtain ⟨access, accessMember, rfl⟩ := List.mem_map.mp member
  have inside := (within access accessMember).1
  rw [← Nat.add_mul, show access.1.offset + access.1.length = size * num by omega] at inside
  have sizePositive : 0 < size := Nat.pos_of_mul_pos_right positive
  have numPositive : 0 < num := Nat.pos_of_mul_pos_left positive
  have items := Nat.le_of_mul_le_mul_right inside sizePositive
  have single : size ≤ 1 := by
    apply Nat.le_of_mul_le_mul_right _ numPositive
    rw [Nat.one_mul]
    exact items
  omega

theorem roundTrip_bytes (ready : SeatReady platform state) (backed : Backed state task)
    (word : addr < 2 ^ 64) (short : num < 2 ^ 64) (mapped : FullyMapped task addr num)
    (apart : Unaliased state task addr num) (bufOutside : OutsideSeats platform buf num)
    (outOutside : OutsideSeats platform out num) :
    Delivers state
      (do
        let _ ← writeItemList platform 1 task addr (some num) buf
        readItemList platform 1 task addr (some num) out)
      fun _ after => after.own = state.own.store out (state.own.load buf num) ∧
        Written state task addr buf num after.frames := by
  refine (writeItemList_written ready backed word short mapped apart bufOutside).bind fun _ => .fixed ?_
  rintro middle ⟨aside, own, written⟩
  refine (readItemList_view (ready.aside aside) (backed.aside aside) word short mapped
    outOutside).mono ?_
  rintro _ after ⟨-, -, contents⟩
  have frames : after.frames = middle.frames := congrArg Contents.frames contents
  have stored : after.own = middle.own.store out ((middle.view task addr).load 0 num) :=
    congrArg Contents.own contents
  have viewed : (middle.view task addr).load 0 num = state.own.load buf num := by
    apply List.map_congr_left
    intro index member
    have inside := List.mem_range.mp member
    obtain ⟨frame, place, placed⟩ := placeOf_mapped backed mapped inside
    rw [Nat.zero_add, view_eq ((placeOf_aside aside index).trans placed),
      written.inside index inside frame place placed]
  rw [stored, viewed, own, frames]
  exact ⟨rfl, written⟩

/-- Writing a list and reading it back works if and only if the items are bytes or there are none.
-/
theorem list_copies_iff (ready : SeatReady platform state) (backed : Backed state task)
    (word : addr < 2 ^ 64) (positive : 0 < size) (short : size * num < 2 ^ 64)
    (mapped : FullyMapped task addr (size * num)) (apart : Unaliased state task addr (size * num))
    (bufOutside : OutsideSeats platform buf (size * num))
    (outOutside : OutsideSeats platform out (size * num)) :
    ListCopied platform state task size num addr buf out ↔ size = 1 ∨ num = 0 := by
  constructor
  · intro copied
    by_cases none : num = 0
    · exact Or.inr none
    · exact Or.inl (copiesWithin_read mapped (Nat.mul_pos positive (Nat.pos_of_ne_zero none)) copied.read)
  · rintro (rfl | rfl)
    · rw [Nat.one_mul] at short mapped apart bufOutside outOutside
      refine ⟨?_, copiesWithin_bytes task addr num, ?_⟩
      · rw [Nat.mul_one]
        exact roundTrip_bytes ready backed word short mapped apart bufOutside outOutside
      · rw [Nat.one_mul]
        exact copiesWithin_bytes task addr num
    · have nothing : accesses task addr 0 = [] := rfl
      refine ⟨?_, ?_, ?_⟩
      · rw [writeItemList_walk word size (by decide), readItemList_walk word size (by omega),
          Nat.mul_zero, nothing, Nat.zero_mul]
        refine .pure ?_
        rintro _ rfl
        exact ⟨Memory.store_nil.symm, fun _ impossible => absurd impossible (Nat.not_lt_zero _), fun _ _ _ => rfl⟩
      · rw [nothing]
        exact fun _ impossible => absurd impossible List.not_mem_nil
      · rw [Nat.mul_zero, nothing]
        exact fun _ impossible => absurd impossible List.not_mem_nil

theorem list_copies_iff_someTask :
    ListCopied smallPlatform (pagedState () someTask someFrames someOwn) someTask 1 4 0x1ffe
      0x600000000010 0x600000000040 ∧
    ¬ ListCopied smallPlatform (pagedState () someTask someFrames someOwn) someTask 4 1 0x1ffe
      0x600000000010 0x600000000040 := by
  have mapped : FullyMapped someTask 0x1ffe 4 := by
    unfold FullyMapped
    decide
  have apart : Unaliased (pagedState () someTask someFrames someOwn) someTask 0x1ffe 4 := by
    unfold Unaliased
    decide
  have bufOutside : OutsideSeats smallPlatform 0x600000000010 4 := by
    unfold OutsideSeats
    decide
  have outOutside : OutsideSeats smallPlatform 0x600000000040 4 := by
    unfold OutsideSeats
    decide
  refine ⟨(list_copies_iff (pagedState_ready ..) (pagedState_backed _ _ _ someTask_named)
    (by decide) (by decide) (by decide) mapped apart
    bufOutside outOutside).mpr (Or.inl rfl), fun copied => ?_⟩
  have condition := (list_copies_iff (pagedState_ready ..) (pagedState_backed _ _ _ someTask_named)
    (by decide) (by decide) (by decide)
    mapped apart bufOutside outOutside).mp copied
  revert condition
  decide

/-- One item of four bytes comes back as sixteen bytes: the byte behind `out` is overwritten. -/
theorem list_copy_overruns :
    (finalState ((do
        let _ ← writeItemList smallPlatform 4 someTask 0x1010 (some 1) 0x600000000010
        readItemList smallPlatform 4 someTask 0x1010 (some 1) 0x600000000040).run
      ⟨[], [], [], pagedState () someTask someFrames someOwn⟩)).memory.own 0x600000000044 = 0 ∧
    (pagedState () someTask someFrames someOwn).own 0x600000000044 = 9 := by
  decide +kernel

end RootTaskDemo.Kernel
