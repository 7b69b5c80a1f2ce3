import RootTaskDemo.Kernel.Returns
import RootTaskDemo.Kernel.SyscallFrame
import RootTaskDemo.Lib.Tiling

namespace RootTaskDemo.Kernel

open Common Lib Thread

variable {ν β : Type} {platform : Platform} {task : Sel4Task} {addr len : Nat}

/-! The loops over the pages of a range, as accesses to the pieces of the range in
the order of their addresses. -/

def pageOf (addr offset : Nat) : Nat := alignBits ((addr + offset) % 2 ^ 64) 12

def Sel4Task.pageCap (task : Sel4Task) (addr offset : Nat) : Option CPtr :=
  task.mappedPage[pageOf addr offset]?

/-- The pieces up to the first page that is not on record, with the capabilities of their pages. -/
def accesses (task : Sel4Task) (addr len : Nat) : List (Piece × CPtr) :=
  recorded (task.pageCap addr) (pieces pageSize addr len)

def visit (platform : Platform) (addr : Nat) (f : Callback ν β) (acc : β) (access : Piece × CPtr) :
    KernelM ν β :=
  withPage platform access.2
    (f (platform.pageSeat + (addr + access.1.offset) % pageSize) access.1.offset access.1.length acc)

theorem pageSize_pos : 0 < pageSize := by decide

theorem wrapped_mod (address : Nat) : address % 2 ^ 64 % pageSize = address % pageSize :=
  Nat.mod_mod_of_dvd address (by decide)

theorem processPages_walk (word : addr < 2 ^ 64) (f : Callback ν β) (fuel : Nat) {offset left : Nat}
    (enough : left ≤ fuel) (short : offset + left < 2 ^ 64) (acc : β) :
    processPages platform task addr f fuel left ((addr + offset) % 2 ^ 64) acc =
      (recorded (task.pageCap addr) (piecesFrom pageSize addr fuel offset left)).foldlM
        (visit platform addr f) acc >>= fun acc =>
        pure (if covered (task.pageCap addr) (piecesFrom pageSize addr fuel offset left) then .ok (offset + left)
          else .error .efault, acc) := by
  have done : ((addr + offset) % 2 ^ 64 + 2 ^ 64 - addr) % 2 ^ 64 = offset := by omega
  induction fuel generalizing offset left acc with
  | zero =>
    obtain rfl : left = 0 := by omega
    simp only [processPages, done, piecesFrom, recorded, covered, List.all_nil, List.foldlM_nil,
      pure_bind, if_true, Nat.add_zero]
  | succ fuel ih =>
    by_cases none : left = 0
    · subst none
      simp only [processPages, piecesFrom, if_true, done, recorded, covered, List.all_nil,
        List.foldlM_nil, pure_bind, Nat.add_zero]
    · have room := Nat.mod_lt (addr + offset) pageSize_pos
      simp only [processPages, piecesFrom, if_neg none, wrapped_mod, done]
      generalize lengthEq : min (pageSize - (addr + offset) % pageSize) left = length
      have next : ((addr + offset) % 2 ^ 64 + length) % 2 ^ 64 = (addr + (offset + length)) % 2 ^ 64 := by omega
      rw [next]
      cases found : task.pageCap addr offset with
      | none =>
        have missing : task.mappedPage[alignBits ((addr + offset) % 2 ^ 64) 12]? = Option.none := found
        simp only [missing, recorded, covered, found, List.all_cons, Option.isSome_none,
          Bool.false_and, Bool.false_eq_true, if_false, List.foldlM_nil, pure_bind]
      | some cap =>
        have present : task.mappedPage[alignBits ((addr + offset) % 2 ^ 64) 12]? = some cap := found
        have rest : offset + length + (left - length) = offset + left := by omega
        have later := @ih (offset + length) (left - length) (by omega) (by omega)
        simp only [present, recorded, covered, found, List.all_cons, Option.isSome_some,
          Bool.true_and, List.foldlM_cons, bind_assoc, visit]
        refine bind_congr fun acc => ?_
        rw [later acc (by omega), rest]
        rfl

def walked (task : Sel4Task) (addr len : Nat) : SysResult :=
  if covered (task.pageCap addr) (pieces pageSize addr len) then .ok len else .error .efault

theorem processItemList_walk (word : addr < 2 ^ 64) (size : Nat) {number : Nat}
    (short : size * number < 2 ^ 64) (f : Callback ν β) (init : β) :
    processItemList platform size task addr (some number) f init =
      (accesses task addr (size * number)).foldlM (visit platform addr f) init >>= fun acc =>
        pure (walked task addr (size * number), acc) := by
  have start : (addr + 0) % 2 ^ 64 = addr := Nat.mod_eq_of_lt word
  have walk := @processPages_walk ν β platform task addr word f (size * number) 0 (size * number)
    (Nat.le_refl _) (by omega) init
  rw [start, Nat.zero_add] at walk
  unfold processItemList
  rw [if_neg fun single => by cases single.1]
  simp only [Option.getD_some, Nat.mod_eq_of_lt short]
  exact walk

theorem readItemList_walk (word : addr < 2 ^ 64) (size : Nat) {num : Nat}
    (short : size * num < 2 ^ 64) (buf : Nat) :
    (readItemList platform size task addr (some num) buf : KernelM ν _) =
      (accesses task addr (size * num)).foldlM (visit platform addr fun src offset copyLen (_ : Unit) =>
        copyBytes platform src (buf + offset * size) (copyLen * size)) () >>= fun _ => pure (walked task addr (size * num)) := by
  unfold readItemList
  rw [processItemList_walk word size short, bind_assoc]
  rfl

theorem writeItemList_walk (word : addr < 2 ^ 64) (size : Nat) {num : Nat} (short : num < 2 ^ 64)
    (buf : Nat) :
    (writeItemList platform size task addr (some num) buf : KernelM ν _) =
      (accesses task addr num).foldlM (visit platform addr fun dst offset copyLen (_ : Unit) =>
        copyBytes platform (buf + offset * size) dst (copyLen * size)) () >>= fun _ => pure (walked task addr num) := by
  unfold writeItemList
  rw [processItemList_walk word 1 (by omega), Nat.one_mul, bind_assoc]
  rfl

def print (platform : Platform) (addr payloadLength : Nat) (access : Piece × CPtr) : KernelM ν Nat := do
  let bytes ← withPage platform access.2
    (loadBytes platform (platform.pageSeat + (addr + access.1.offset) % pageSize) access.1.length)
  update fun state => { state with console := state.console ++ bytes }
  return payloadLength + access.1.length

theorem writeRounds_idle {bufAddr left : Nat}
    (missing : task.mappedPage[alignBits bufAddr 12]? = none) (waiting : left ≠ 0)
    (rounds payloadLength : Nat) :
    (writeRounds platform task rounds ⟨left, bufAddr, payloadLength⟩ : KernelM ν _) = pure none := by
  induction rounds with
  | zero => rw [writeRounds, if_neg waiting]
  | succ rounds ih => simp only [writeRounds, writeRound, if_neg waiting, missing, pure_bind, ih]

theorem writeRounds_walk (rounds : Nat) {offset left : Nat} (enough : left ≤ rounds)
    (payloadLength : Nat) :
    (writeRounds platform task rounds ⟨left, (addr + offset) % 2 ^ 64, payloadLength⟩ : KernelM ν _) =
      (recorded (task.pageCap addr) (piecesFrom pageSize addr rounds offset left)).foldlM
        (print platform addr) payloadLength >>=
        fun payloadLength =>
          pure (if covered (task.pageCap addr) (piecesFrom pageSize addr rounds offset left) then some payloadLength else none) := by
  induction rounds generalizing offset left payloadLength with
  | zero =>
    obtain rfl : left = 0 := by omega
    simp only [writeRounds, piecesFrom, recorded, covered, List.all_nil, List.foldlM_nil, pure_bind, if_true]
  | succ rounds ih =>
    by_cases none : left = 0
    · subst none
      simp only [writeRounds, piecesFrom, if_true, recorded, covered, List.all_nil, List.foldlM_nil, pure_bind]
    · have room := Nat.mod_lt (addr + offset) pageSize_pos
      simp only [writeRounds, writeRound, piecesFrom, if_neg none, wrapped_mod]
      generalize lengthEq : min (pageSize - (addr + offset) % pageSize) left = length
      have next : ((addr + offset) % 2 ^ 64 + length) % 2 ^ 64 = (addr + (offset + length)) % 2 ^ 64 := by omega
      rw [next]
      cases found : task.pageCap addr offset with
      | none =>
        have missing : task.mappedPage[alignBits ((addr + offset) % 2 ^ 64) 12]? = Option.none := found
        simp only [missing, recorded, covered, found, List.all_cons, Option.isSome_none, Bool.false_and, Bool.false_eq_true,
          if_false, List.foldlM_nil, pure_bind, writeRounds_idle missing none]
      | some cap =>
        have present : task.mappedPage[alignBits ((addr + offset) % 2 ^ 64) 12]? = some cap := found
        have later := @ih (offset + length) (left - length) (by omega)
        simp only [present, recorded, covered, found, List.all_cons, Option.isSome_some,
          Bool.true_and, List.foldlM_cons, bind_assoc, print, later, pure_bind]
        rfl

/-- The memory of a task from `addr` on, byte after byte; an unmapped byte reads as zero. -/
def KernelState.view (state : KernelState ν) (task : Sel4Task) (addr : Nat) : Memory :=
  fun offset =>
  (state.userByte task ((addr + offset) % 2 ^ 64)).getD 0

theorem view_piece {state : KernelState ν} {piece : Piece} {cap : CPtr} {frame : ObjId}
    {mapped : Option (ObjId × Nat)} (found : task.pageCap addr piece.offset = some cap)
    (capEq : state.cspace cap = some (.frame frame mapped))
    (inPage : (addr + piece.offset) % pageSize + piece.length ≤ pageSize) :
    (state.frames frame).load ((addr + piece.offset) % pageSize) piece.length =
      (state.view task addr).load piece.offset piece.length := by
  have frameEq : state.frameOf cap = some frame := by
    unfold KernelState.frameOf
    rw [capEq]
  apply List.map_congr_left
  intro index member
  have inside := List.mem_range.mp member
  have samePage : alignBits ((addr + (piece.offset + index)) % 2 ^ 64) 12 = pageOf addr piece.offset := by
    unfold pageOf alignBits
    unfold pageSize at inPage
    omega
  have sameOffset : (addr + (piece.offset + index)) % 2 ^ 64 % pageSize =
      (addr + piece.offset) % pageSize + index := by
    unfold pageSize at inPage ⊢
    omega
  have present : task.mappedPage[pageOf addr piece.offset]? = some cap := found
  simp only [KernelState.view, KernelState.userByte, samePage, sameOffset, present, frameEq,
    Option.bind_eq_bind, Option.bind_some, Option.pure_def, Option.getD_some]

/-- What is left of a walk: the accesses tile the bytes from `start` to `stop`, each is
in one page and has the capability of that page. -/
structure Remaining (task : Sel4Task) (addr start stop : Nat) (rest : List (Piece × CPtr)) : Prop where
  tiles : Tiles start (rest.map Prod.fst) stop
  each : ∀ access ∈ rest, task.pageCap addr access.1.offset = some access.2 ∧
    (addr + access.1.offset) % pageSize + access.1.length ≤ pageSize

theorem Remaining.tail {start stop : Nat} {access : Piece × CPtr} {rest : List (Piece × CPtr)}
    (remaining : Remaining task addr start stop (access :: rest)) :
    Remaining task addr (start + access.1.length) stop rest :=
  ⟨remaining.tiles.2.2, fun later member => remaining.each later (List.mem_cons_of_mem _ member)⟩

theorem accesses_remaining (task : Sel4Task) (addr len : Nat) :
    ∃ reached ≤ len, Remaining task addr 0 reached (accesses task addr len) ∧
      (covered (task.pageCap addr) (pieces pageSize addr len) = true ↔ reached = len) ∧
      (reached < len → task.pageCap addr reached = none) := by
  obtain ⟨reached, tiles, bound, all, gap⟩ := @recorded_tiles CPtr (task.pageCap addr) _ _ _
    (@pieces_tiles pageSize addr pageSize_pos len)
  refine ⟨reached, bound, ⟨tiles, fun access member => ?_⟩, all, gap⟩
  obtain ⟨piece, known⟩ := recorded_known member
  exact ⟨known, pieces_inPage piece pageSize_pos⟩

theorem Remaining.mapped {start stop : Nat} {rest : List (Piece × CPtr)}
    (remaining : Remaining task addr start stop rest) {index : Nat} (lower : start ≤ index)
    (upper : index < stop) : (task.pageCap addr index).isSome := by
  obtain ⟨piece, member, first, last⟩ := remaining.tiles.covers lower upper
  obtain ⟨access, accessMember, rfl⟩ := List.mem_map.mp member
  obtain ⟨known, inPage⟩ := remaining.each access accessMember
  have samePage : pageOf addr index = pageOf addr access.1.offset := by
    unfold pageOf alignBits
    unfold pageSize at inPage
    omega
  unfold Sel4Task.pageCap at known ⊢
  rw [samePage, known]
  rfl

theorem covered_iff : covered (task.pageCap addr) (pieces pageSize addr len) = true ↔
    ∀ index < len, (task.pageCap addr index).isSome := by
  obtain ⟨reached, bound, remaining, all, gap⟩ := accesses_remaining task addr len
  rw [all]
  constructor
  · intro whole index below
    exact remaining.mapped (Nat.zero_le _) (whole ▸ below)
  · intro mapped
    apply Nat.le_antisymm bound
    apply Nat.le_of_not_lt
    intro short
    have present := mapped reached short
    rw [gap short] at present
    cases present

section Runs

variable {state now : KernelState ν} {access : Piece × CPtr} {rest : List (Piece × CPtr)}
  {start stop : Nat}

theorem loadBytes_view (backed : Backed state task)
    (remaining : Remaining task addr start stop (access :: rest)) (aside : Aside state now)
    (frames : now.frames = state.frames) :
    ∃ frame mapped, now.cspace access.2 = some (.frame frame mapped) ∧
      MemTriple (fun memory => memory = now.borrowing platform frame)
        (loadBytes platform (platform.pageSeat + (addr + access.1.offset) % pageSize) access.1.length)
        (fun bytes memory => memory = now.borrowing platform frame ∧
          bytes = (state.view task addr).load access.1.offset access.1.length) (fun _ => False) := by
  obtain ⟨known, inPage⟩ := remaining.each access List.mem_cons_self
  obtain ⟨frame, mapped, capEq⟩ := backed _ _ known
  refine ⟨frame, mapped, aside.cspace ▸ capEq, ?_⟩
  refine (loadBytes_seat (showAtSeat_shows _ _ _) inPage).mono ?_
  rintro bytes _ ⟨rfl, rfl⟩
  refine ⟨rfl, ?_⟩
  have shown : (now.borrowing platform frame).frames = state.frames := frames
  rw [← view_piece known capEq inPage]
  exact congrArg (fun frames : ObjId → Memory => (frames frame).load _ _) frames

theorem visit_read (ready : SeatReady platform state) (backed : Backed state task) {buf : Nat}
    (outside : OutsideSeats platform buf stop)
    (remaining : Remaining task addr start stop (access :: rest)) (aside : Aside state now)
    (contents : now.contents =
      state.contents.setOwn (state.own.store buf ((state.view task addr).load 0 start))) :
    MemTriple (fun memory => memory = now)
      (visit platform addr (fun src offset copyLen (_ : Unit) =>
        copyBytes platform src (buf + offset * 1) (copyLen * 1)) () access)
      (fun _ after => Aside state after ∧ after.contents =
        state.contents.setOwn (state.own.store buf ((state.view task addr).load 0 (start + access.1.length))))
      (fun _ => False) := by
  obtain ⟨frame, mapped, capEq, loads⟩ :=
    @loadBytes_view _ platform _ _ _ _ _ _ _ _ backed remaining aside
    (congrArg Contents.frames contents)
  obtain ⟨offset, positive, later⟩ := remaining.tiles
  have bound := later.le
  change access.1.offset = start at offset
  have stored : state.own.store buf ((state.view task addr).load 0 (start + access.1.length)) =
      now.own.store (buf + start) ((state.view task addr).load start access.1.length) := by
    have own : now.own = state.own.store buf ((state.view task addr).load 0 start) :=
      congrArg Contents.own contents
    have joined := @Memory.store_append state.own buf ((state.view task addr).load 0 start)
      ((state.view task addr).load start access.1.length)
    rw [Memory.length_load] at joined
    rw [own, joined, Memory.load_append, Nat.zero_add]
  refine (withPage_total (fun _ contents => contents = state.contents.setOwn (state.own.store buf
    ((state.view task addr).load 0 (start + access.1.length)))) (ready.aside aside) capEq ?_).weaken
      (fun _ same => same) (fun _ _ spec => ⟨aside.trans spec.1, spec.2⟩) fun _ never => never
  dsimp only
  rw [Nat.mul_one, Nat.mul_one]
  refine loads.bind fun bytes => .fixed ?_
  rintro _ ⟨rfl, rfl⟩
  have clear : OutsideSeats platform (buf + access.1.offset)
      ((state.view task addr).load access.1.offset access.1.length).length := by
    rw [Memory.length_load]
    intro index inside
    rw [Nat.add_assoc]
    exact outside _ (by omega)
  refine (storeBytes_own _ clear).mono ?_
  rintro _ _ rfl
  refine ⟨⟨rfl, rfl, rfl, rfl, rfl⟩, ?_⟩
  rw [stored, ← offset]
  exact congrArg (fun contents : Contents => contents.setOwn (now.own.store _ _)) contents

theorem accesses_read (ready : SeatReady platform state) (backed : Backed state task) {buf : Nat}
    (outside : OutsideSeats platform buf stop) (remaining : Remaining task addr 0 stop rest) :
    MemTriple (fun memory => memory = state)
      (rest.foldlM (visit platform addr fun src offset copyLen (_ : Unit) =>
      copyBytes platform src (buf + offset * 1) (copyLen * 1)) ())
      (fun _ after => Aside state after ∧
        after.contents = state.contents.setOwn (state.own.store buf ((state.view task addr).load 0 stop)))
      (fun _ => False) := by
  have run := MemTriple.foldlM
    (fun rest (_ : Unit) now => ∃ start, Remaining task addr start stop rest ∧ Aside state now ∧
      now.contents = state.contents.setOwn (state.own.store buf ((state.view task addr).load 0 start)))
    (fun access rest _ => .fixed fun now reached => by
      obtain ⟨start, remaining, aside, contents⟩ := reached
      exact (visit_read ready backed outside remaining aside contents).mono
          fun _ _ spec => ⟨_, remaining.tail, spec⟩) rest ()
  refine run.weaken ?_ ?_ fun _ never => never
  · rintro _ rfl
    exact ⟨0, remaining, .refl _, by simp [Memory.load]; rfl⟩
  · rintro _ after ⟨start, finished, spec⟩
    obtain rfl : start = stop := finished.tiles
    exact spec

theorem print_view (ready : SeatReady platform state) (backed : Backed state task)
    (remaining : Remaining task addr start stop (access :: rest)) (aside : Aside state now)
    (contents : now.contents = state.contents.setConsole (state.console ++ (state.view task addr).load 0 start))
    (payloadLength : Nat) :
    MemTriple (fun memory => memory = now) (print platform addr payloadLength access)
      (fun printed after => printed = payloadLength + access.1.length ∧ Aside state after ∧ after.contents =
        state.contents.setConsole (state.console ++ (state.view task addr).load 0 (start + access.1.length)))
      (fun _ => False) := by
  obtain ⟨frame, mapped, capEq, loads⟩ :=
    @loadBytes_view _ platform _ _ _ _ _ _ _ _ backed remaining aside
    (congrArg Contents.frames contents)
  have offset : access.1.offset = start := remaining.tiles.1
  have loaded := withPage_total (fun bytes after =>
    bytes = (state.view task addr).load start access.1.length ∧ after = now.contents)
    (ready.aside aside) capEq (loads.mono (by
      rintro bytes _ ⟨rfl, rfl⟩
      exact ⟨⟨rfl, rfl, rfl, rfl, rfl⟩, by rw [offset], rfl⟩))
  refine loaded.bind fun bytes => .fixed ?_
  rintro after ⟨later, rfl, same⟩
  refine .update_bind (.pure ?_)
  rintro _ rfl
  refine ⟨rfl, aside.trans ⟨later.cspace, later.cnodes, later.emptySlots, later.watermark,
    later.tables⟩, ?_⟩
  have console : after.console = state.console ++ (state.view task addr).load 0 start :=
    congrArg Contents.console (same.trans contents)
  have printed : after.console ++ (state.view task addr).load start access.1.length =
      state.console ++ (state.view task addr).load 0 (start + access.1.length) := by
    rw [console, List.append_assoc, Memory.load_append, Nat.zero_add]
  rw [← printed]
  exact congrArg (fun contents : Contents => contents.setConsole (after.console ++ _))
    (same.trans contents)

theorem accesses_print (ready : SeatReady platform state) (backed : Backed state task)
    (remaining : Remaining task addr 0 stop rest) :
    MemTriple (fun memory => memory = state) (rest.foldlM (print platform addr) 0)
      (fun printed after => printed = stop ∧
        after.contents = state.contents.setConsole (state.console ++ (state.view task addr).load 0 stop)) (fun _ => False) := by
  have run := MemTriple.foldlM (fun rest printed now => Remaining task addr printed stop rest ∧
    Aside state now ∧
      now.contents = state.contents.setConsole (state.console ++ (state.view task addr).load 0 printed))
    (fun access rest printed => .fixed fun now reached => by
      obtain ⟨remaining, aside, contents⟩ := reached
      refine (print_view ready backed remaining aside contents printed).mono ?_
      rintro _ after ⟨rfl, spec⟩
      exact ⟨remaining.tail, spec⟩) rest 0
  refine run.weaken ?_ ?_ fun _ never => never
  · rintro _ rfl
    exact ⟨remaining, .refl _, by simp [Memory.load]; rfl⟩
  · rintro printed after ⟨finished, -, contents⟩
    obtain rfl : printed = stop := finished.tiles
    exact ⟨rfl, contents⟩

end Runs

section Calls

variable {state : KernelState ν}

/-- Every byte of the range is in a page on record. -/
def FullyMapped (task : Sel4Task) (addr len : Nat) : Prop :=
  ∀ index < len, (task.pageCap addr index).isSome

theorem accesses_mapped (mapped : FullyMapped task addr len) :
    Remaining task addr 0 len (accesses task addr len) := by
  obtain ⟨reached, -, remaining, all, -⟩ := accesses_remaining task addr len
  obtain rfl := all.mp (covered_iff.mpr mapped)
  exact remaining

theorem readItemList_view (ready : SeatReady platform state) (backed : Backed state task)
    (word : addr < 2 ^ 64) (short : len < 2 ^ 64) (mapped : FullyMapped task addr len) {out : Nat}
    (outside : OutsideSeats platform out len) :
    Delivers state (readItemList platform 1 task addr (some len) out)
      fun result after => result = .ok len ∧ Aside state after ∧
        after.contents = state.contents.setOwn (state.own.store out ((state.view task addr).load 0 len)) := by
  rw [readItemList_walk word 1 (by omega), Nat.one_mul]
  refine (accesses_read ready backed outside (accesses_mapped mapped)).bind fun _ =>
    .pure fun after spec => ?_
  refine ⟨?_, spec⟩
  unfold walked
  rw [if_pos (covered_iff.mpr mapped)]

theorem sysWriteWithin_view (ready : SeatReady platform state) (backed : Backed state task)
    {badge fd : Nat} (found : state.tasks[badge]? = some task)
    (printing : fd % 2 ^ 32 = 1 ∨ fd % 2 ^ 32 = 2) (word : addr < 2 ^ 64)
    (mapped : FullyMapped task addr len) :
    Delivers state (sysWriteWithin platform len badge fd addr len)
      fun result after => result = some (.ok len) ∧
        after.contents = state.contents.setConsole (state.console ++ (state.view task addr).load 0 len) := by
  have start : (addr + 0) % 2 ^ 64 = addr := Nat.mod_eq_of_lt word
  refine .locked ((taskOf_returns found).bind fun read => .fixed ?_)
  rintro _ ⟨readEq, rfl⟩
  rw [readEq, if_neg (by omega)]
  have walk := @writeRounds_walk ν platform task addr len 0 len (Nat.le_refl _) 0
  have whole : covered (task.pageCap addr) (piecesFrom pageSize addr len 0 len) = true :=
    covered_iff.mpr mapped
  rw [start] at walk
  rw [walk, bind_assoc]
  refine (accesses_print ready backed (accesses_mapped mapped)).bind fun printed => ?_
  rw [if_pos whole, pure_bind]
  refine .pure ?_
  rintro after ⟨rfl, contents⟩
  exact ⟨rfl, contents⟩

theorem sysWrite_view (ready : SeatReady platform state) (backed : Backed state task)
    {badge fd : Nat} (found : state.tasks[badge]? = some task)
    (printing : fd % 2 ^ 32 = 1 ∨ fd % 2 ^ 32 = 2) (word : addr < 2 ^ 64)
    (mapped : FullyMapped task addr len) :
    Delivers state (sysWrite platform badge fd addr len)
      fun result after => result = .ok len ∧
        after.contents = state.contents.setConsole (state.console ++ (state.view task addr).load 0 len) := by
  refine (sysWriteWithin_view ready backed found printing word mapped).bind fun result => .fixed ?_
  rintro now ⟨rfl, contents⟩
  exact .pure fun _ same => ⟨rfl, same ▸ contents⟩

theorem view_mapped (backed : Backed state task) (mapped : FullyMapped task addr len) {index : Nat}
    (inside : index < len) :
    state.userByte task ((addr + index) % 2 ^ 64) = ((state.view task addr).load 0 len)[index]? := by
  obtain ⟨cap, found⟩ := Option.isSome_iff_exists.mp (mapped index inside)
  obtain ⟨frame, place, capEq⟩ := backed _ cap found
  have frameEq : state.frameOf cap = some frame := by
    unfold KernelState.frameOf
    rw [capEq]
  have present : task.mappedPage[alignBits ((addr + index) % 2 ^ 64) 12]? = some cap := found
  rw [Memory.getElem?_load inside, Nat.zero_add]
  simp only [KernelState.view, KernelState.userByte, present, frameEq, Option.bind_eq_bind,
    Option.bind_some, Option.pure_def, Option.getD_some]

end Calls

/-- The walk over the pages of a range equals an access to the flat memory of the
task: the callbacks tile the range up to its end or up to the first unmapped byte, and
what `sys_write` prints is what `read_item_list` reads. -/
theorem page_wise_access_flat (platform : Platform) (task : Sel4Task) {addr len : Nat}
    (word : addr < 2 ^ 64) (short : len < 2 ^ 64) :
    ∃ (accesses : List (Piece × CPtr)) (reached : Nat),
      (∀ (ν β : Type) (f : Callback ν β) (init : β), processItemList platform 1 task addr (some len) f init =
        accesses.foldlM (fun acc access => withPage platform access.2
          (f (platform.pageSeat + (addr + access.1.offset) % pageSize) access.1.offset access.1.length acc)) init >>= fun acc =>
            pure (if reached = len then .ok len else .error .efault, acc)) ∧
      Tiles 0 (accesses.map Prod.fst) reached ∧
      (∀ access ∈ accesses, task.mappedPage[alignBits ((addr + access.1.offset) % 2 ^ 64) 12]? = some access.2 ∧
        (addr + access.1.offset) % pageSize + access.1.length ≤ pageSize) ∧
      reached ≤ len ∧
      (∀ index < reached, (task.mappedPage[alignBits ((addr + index) % 2 ^ 64) 12]?).isSome) ∧
      (reached < len → task.mappedPage[alignBits ((addr + reached) % 2 ^ 64) 12]? = none) ∧
      (reached = len → ∀ (ν : Type) (state : KernelState ν) (badge fd out : Nat),
        SeatReady platform state → Backed state task →
        state.tasks[badge]? = some task → (fd % 2 ^ 32 = 1 ∨ fd % 2 ^ 32 = 2) → OutsideSeats platform out len →
        ∃ bytes : List UInt8, bytes.length = len ∧
          (∀ index < len, state.userByte task ((addr + index) % 2 ^ 64) = bytes[index]?) ∧
          MemTriple (fun now => now = state) (sysWrite platform badge fd addr len)
            (fun result after => result = .ok len ∧ after.console = state.console ++ bytes) (fun _ => False) ∧
          MemTriple (fun now => now = state) (readItemList platform 1 task addr (some len) out)
            (fun result after => result = .ok len ∧ after.own = state.own.store out bytes) (fun _ => False)) := by
  obtain ⟨reached, bound, remaining, all, gap⟩ := accesses_remaining task addr len
  refine ⟨accesses task addr len, reached, fun ν β f init => ?_, remaining.tiles, remaining.each, bound,
    fun index inside => remaining.mapped (Nat.zero_le _) inside, gap, ?_⟩
  · rw [processItemList_walk word 1 (by omega), Nat.one_mul]
    unfold walked
    simp only [all]
    rfl
  · intro whole ν state badge fd out ready backed found printing outside
    have mapped := covered_iff.mp (all.mpr whole)
    refine ⟨(state.view task addr).load 0 len, Memory.length_load, fun index inside =>
      view_mapped backed mapped inside, ?_, ?_⟩
    · exact (sysWrite_view ready backed found printing word mapped).mono
          fun _ _ spec => ⟨spec.1, congrArg Contents.console spec.2⟩
    · exact (readItemList_view ready backed word short mapped outside).mono
          fun _ _ spec => ⟨spec.1, congrArg Contents.own spec.2.2⟩

def pagedTask (mappedPage : Std.TreeMap Nat CPtr) : Sel4Task :=
  { pid := 0, id := 1, tcb := 0, cnode := 0, vspace := 0, mappedPt := [], mappedPage, heap := 0,
    exit := none, clearChildTid := none }

def pagedState (net : ν) (task : Sel4Task) (frames : ObjId → Memory) (own : Memory) : KernelState ν :=
  { KernelState.boot net with
    cnodes := fun _ => true
    emptySlots := (0x1001, 0x100000)
    cspace := fun cap => if 0x500 ≤ cap ∧ cap < 0x600 then some (.frame cap none)
      else (KernelState.boot net).cspace cap
    tasks := Std.TreeMap.empty.insert 1 task
    frames, own }

theorem pagedState_ready (net : ν) (task : Sel4Task) (frames : ObjId → Memory) (own : Memory) :
    SeatReady platform (pagedState net task frames own) := by
  refine ⟨rfl, rfl, ?_⟩
  simp [missingLevel, pagedState, KernelState.boot]

theorem pagedState_backed (net : ν) (frames : ObjId → Memory) (own : Memory)
    (named : ∀ (vaddr : Nat) (cap : CPtr), task.mappedPage[vaddr]? = some cap → 0x500 ≤ cap ∧ cap < 0x600) :
    Backed (pagedState net task frames own) task :=
  fun vaddr cap found => ⟨cap, none, if_pos (named vaddr cap found)⟩

theorem pagedState_found (net : ν) (task : Sel4Task) (frames : ObjId → Memory) (own : Memory) :
    (pagedState net task frames own).tasks[1]? = some task := by
  simp [pagedState]

def someTask : Sel4Task :=
    pagedTask (((Std.TreeMap.empty.insert 0x1000 0x500).insert 0x2000 0x501).insert 0x7000 0x502)

def someFrames : ObjId → Memory := fun frame _ => UInt8.ofNat frame

theorem someTask_named (vaddr : Nat) (cap : CPtr) (found : someTask.mappedPage[vaddr]? = some cap) :
    0x500 ≤ cap ∧ cap < 0x600 := by
  unfold someTask pagedTask at found
  dsimp only at found
  rw [Std.TreeMap.getElem?_insert] at found
  split at found
  · cases found
    decide
  · rw [Std.TreeMap.getElem?_insert] at found
    split at found
    · cases found
      decide
    · rw [Std.TreeMap.getElem?_insert] at found
      split at found
      · cases found
        decide
      · cases found

theorem page_wise_access_flat_someTask :
    MemTriple (fun now => now = pagedState () someTask someFrames fun _ => 0)
      (sysWrite smallPlatform 1 1 0x1ffe 4)
      (fun result after => result = .ok 4 ∧ after.console = [0, 0, 1, 1]) (fun _ => False) := by
  obtain ⟨accesses, reached, -, -, -, bound, -, gap, flat⟩ :=
    page_wise_access_flat smallPlatform someTask
    (show 0x1ffe < 2 ^ 64 by decide) (show 4 < 2 ^ 64 by decide)
  have mapped : ∀ index : Fin 4,
    (someTask.mappedPage[alignBits ((0x1ffe + index.val) % 2 ^ 64) 12]?).isSome := by decide
  have whole : reached = 4 := by
    apply Nat.le_antisymm bound
    apply Nat.le_of_not_lt
    intro short
    have present := mapped ⟨reached, short⟩
    rw [gap short] at present
    cases present
  have outside : OutsideSeats smallPlatform 0x600000000010 4 := by
    unfold OutsideSeats
    decide
  obtain ⟨bytes, length, each, prints, -⟩ :=
    flat whole Unit (pagedState () someTask someFrames fun _ => 0) 1 1 0x600000000010
    (pagedState_ready ..) (pagedState_backed _ _ _ someTask_named) (pagedState_found ..) (Or.inl rfl) outside
  have bytesEq : bytes = [0, 0, 1, 1] := by
    apply List.ext_getElem?
    intro index
    by_cases inside : index < 4
    · rw [← each index inside]
      have byte : ∀ index : Fin 4, (pagedState () someTask someFrames fun _ => 0).userByte someTask
        ((0x1ffe + index.val) % 2 ^ 64) =
          ([0, 0, 1, 1] : List UInt8)[index.val]? := by decide
      exact byte ⟨index, inside⟩
    · rw [List.getElem?_eq_none (by omega), List.getElem?_eq_none (by simpa using inside)]
  rw [bytesEq] at prints
  exact prints

section Rounds

variable {state : KernelState ν} {buf count badge fd : Nat}

theorem writeRounds_stuck (rounds : Nat) {offset left index : Nat} (lower : offset ≤ index)
    (upper : index < offset + left) (missing : task.pageCap buf index = none)
      (payloadLength : Nat) :
    Leads (fun _ => True) (writeRounds platform task rounds
      ⟨left, (buf + offset) % 2 ^ 64, payloadLength⟩ : KernelM ν _)
      (fun result _ => result = none) := by
  have waiting : left ≠ 0 := by omega
  induction rounds generalizing offset left payloadLength with
  | zero =>
    unfold writeRounds
    rw [if_neg waiting]
    exact .pure fun _ _ => rfl
  | succ rounds ih =>
    unfold writeRounds
    rw [if_neg waiting]
    unfold writeRound
    dsimp only
    split
    · rw [pure_bind]
      exact ih lower upper payloadLength waiting
    · rename_i cap found
      rw [bind_assoc]
      refine MemTriple.anything.bind fun bytes => ?_
      rw [bind_assoc]
      refine MemTriple.anything.bind fun _ => ?_
      rw [pure_bind]
      generalize lengthEq : min (pageSize - (buf + offset) % 2 ^ 64 % pageSize) left = length
      -- the missing page is another one than the page of this round
      have beyond : offset + length ≤ index := by
        apply Nat.le_of_not_lt
        intro inside
        have samePage : pageOf buf index = alignBits ((buf + offset) % 2 ^ 64) 12 := by
          unfold pageOf alignBits
          unfold pageSize at lengthEq
          omega
        unfold Sel4Task.pageCap at missing
        rw [samePage, found] at missing
        cases missing
      have next : ((buf + offset) % 2 ^ 64 + length) % 2 ^ 64 = (buf + (offset + length)) % 2 ^ 64 := by omega
      rw [next]
      exact ih beyond (by omega) _ (by omega)

theorem sysWriteWithin_stuck (found : state.tasks[badge]? = some task)
    (printing : fd % 2 ^ 32 = 1 ∨ fd % 2 ^ 32 = 2) (word : buf < 2 ^ 64) {index : Nat}
    (inside : index < count) (missing : task.pageCap buf index = none) (rounds : Nat) :
    Yields state (sysWriteWithin platform rounds badge fd buf count) fun result _ => result = none := by
  have start : (buf + 0) % 2 ^ 64 = buf := Nat.mod_eq_of_lt word
  refine .locked ((taskOf_returns found).raising.bind fun read => .fixed ?_)
  rintro _ ⟨readEq, rfl⟩
  rw [readEq, if_neg (by omega)]
  have stuck := @writeRounds_stuck ν platform task buf rounds 0 count index (Nat.zero_le _)
    (by omega) missing 0
  rw [start] at stuck
  refine (stuck.startingAt trivial).bind fun result => .pure ?_
  rintro _ rfl
  rfl

/-- `sys_write` comes to an end if and only if it has nothing to print or every page of
its buffer is on record. -/
theorem sys_write_ends_iff (ready : SeatReady platform state) (backed : Backed state task)
    (found : state.tasks[badge]? = some task) (word : buf < 2 ^ 64) :
    (∃ rounds, MemTriple (fun now => now = state) (sysWriteWithin platform rounds badge fd buf count)
      (fun result _ => result.isSome) (fun _ => False)) ↔
      (fd % 2 ^ 32 ≠ 1 ∧ fd % 2 ^ 32 ≠ 2) ∨ ∀ index < count,
        (task.mappedPage[alignBits ((buf + index) % 2 ^ 64) 12]?).isSome := by
  by_cases other : fd % 2 ^ 32 ≠ 1 ∧ fd % 2 ^ 32 ≠ 2
  · refine ⟨fun _ => Or.inl other, fun _ => ⟨0, ?_⟩⟩
    refine .locked ((taskOf_returns found).bind fun read => .fixed ?_)
    rintro _ ⟨-, rfl⟩
    rw [if_pos other]
    exact .pure fun _ _ => rfl
  · have printing : fd % 2 ^ 32 = 1 ∨ fd % 2 ^ 32 = 2 := by omega
    constructor
    · rintro ⟨rounds, ends⟩
      refine Or.inr fun index inside => ?_
      by_contra missing
      obtain ⟨result, -, some, none⟩ := ends.meets
        (sysWriteWithin_stuck found printing word inside (Option.not_isSome_iff_eq_none.mp missing) rounds)
      rw [none] at some
      cases some
    · intro condition
      have mapped : FullyMapped task buf count := condition.resolve_left other
      refine ⟨count, (sysWriteWithin_view ready backed found printing word mapped).mono ?_⟩
      rintro _ _ ⟨rfl, -⟩
      rfl

theorem sys_write_ends_iff_someTask :
    (∃ rounds, MemTriple (fun now => now = pagedState () someTask someFrames fun _ => 0)
      (sysWriteWithin smallPlatform rounds 1 1 0x1ffe 4) (fun result _ => result.isSome) (fun _ => False)) ∧
    ¬ ∃ rounds, MemTriple (fun now => now = pagedState () someTask someFrames fun _ => 0)
      (sysWriteWithin smallPlatform rounds 1 1 0x2ffe 4) (fun result _ => result.isSome) (fun _ => False) := by
  have mapped : ∀ index < 4,
    (someTask.mappedPage[alignBits ((0x1ffe + index) % 2 ^ 64) 12]?).isSome := by decide
  refine ⟨(sys_write_ends_iff (pagedState_ready ..) (pagedState_backed _ _ _ someTask_named)
    (pagedState_found ..)
    (by decide)).mpr (Or.inr mapped), fun ends => ?_⟩
  have condition := (sys_write_ends_iff (pagedState_ready ..)
    (pagedState_backed _ _ _ someTask_named) (pagedState_found ..)
    (by decide)).mp ends
  have missing : ¬ ∀ index < 4,
    (someTask.mappedPage[alignBits ((0x2ffe + index) % 2 ^ 64) 12]?).isSome := by decide
  exact missing (condition.resolve_left (by decide))

/-- Two bytes before the end of the second page: the third byte is nowhere. -/
theorem sys_write_spins :
    ¬ ∃ rounds, MemTriple (fun now => now = pagedState () someTask someFrames fun _ => 0)
      (sysWriteWithin smallPlatform rounds 1 1 0x2ffe 4) (fun result _ => result.isSome) (fun _ => False) := by
  rintro ⟨rounds, ends⟩
  have missing : someTask.pageCap 0x2ffe 2 = none := by decide
  obtain ⟨result, -, some, none⟩ :=
    ends.meets (sysWriteWithin_stuck (pagedState_found ..) (Or.inl rfl) (by decide)
    (show 2 < 4 by decide) missing rounds)
  rw [none] at some
  cases some

end Rounds

end RootTaskDemo.Kernel
