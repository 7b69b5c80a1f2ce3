import RootTaskDemo.Kernel.Filling

namespace RootTaskDemo.Kernel

open Common Lib Thread

variable {ν : Type} {platform : Platform} {state : KernelState ν} {space : ObjId}
  {entryPoint stackPtr : Nat}
  {args : List (List UInt8)}
variable {address : Nat}
variable {nums spots : List Nat} {shown : KernelState ν} {arg bytes rest : List UInt8}
  {frame : ObjId}
  {byte : UInt8}

/-! The initial stack of a program: what `map_stack` writes, and what the program finds
when it reads its stack in the layout of the System V ABI. -/

def argRoom (arg : List UInt8) : Nat :=
  (arg.length + stackAlignSize) / stackAlignSize * stackAlignSize

def argsRoom (args : List (List UInt8)) : Nat := (args.map argRoom).sum

/-- Strings, the auxiliary vector, two NULLs, a pointer for each argument and their number. -/
def stackRoom (args : List (List UInt8)) : Nat := argsRoom args + 8 * (args.length + 19)

def argSpots : Nat → List (List UInt8) → List Nat
  | _, [] => []
  | stackPtr, arg :: rest => (stackPtr - argRoom arg) :: argSpots (stackPtr - argRoom arg) rest

def stackWords (entryPoint stackPtr : Nat) (args : List (List UInt8)) : List Nat :=
  Sel4Task.auxiliaryVector ((argSpots stackPtr args).headD 0) entryPoint ++ [0, 0] ++
    (argSpots stackPtr args).reverse ++
    [args.length]

def wordWrites : Nat → List Nat → List (Nat × List UInt8)
  | _, [] => []
  | stackPtr, num :: rest =>
    (stackPtr - 8, (toBigEndian 8 num).reverse) :: wordWrites (stackPtr - 8) rest

def stackWrites (entryPoint stackPtr : Nat) (args : List (List UInt8)) : List (Nat × List UInt8) :=
  (argSpots stackPtr args).zip args ++
    wordWrites (stackPtr - argsRoom args) (stackWords entryPoint stackPtr args)

def storeRegions (platform : Platform) : List (Nat × List UInt8) → KernelM ν Unit
  | [] => return ()
  | write :: rest => do
    storeBytes platform (platform.pageSeat + write.1 % pageSize) write.2
    storeRegions platform rest

theorem storeRegions_append (writes writes' : List (Nat × List UInt8)) :
    (storeRegions platform (writes ++ writes') : KernelM ν Unit) =
      storeRegions platform writes >>= fun _ => storeRegions platform writes' := by
  induction writes with
  | nil => simp [storeRegions]
  | cons write rest ih => simp [storeRegions, ih]

@[simp] theorem length_argSpots (stackPtr : Nat) (args : List (List UInt8)) :
    (argSpots stackPtr args).length = args.length := by
  induction args generalizing stackPtr with
  | nil => rfl
  | cons arg rest ih => simp [argSpots, ih]

theorem length_stackWords : (stackWords entryPoint stackPtr args).length = args.length + 19 := by
  simp [stackWords, Sel4Task.auxiliaryVector]

theorem argRoom_aligned (arg : List UInt8) : argRoom arg % stackAlignSize = 0 := Nat.mul_mod_left ..

theorem length_lt_argRoom (arg : List UInt8) : arg.length < argRoom arg := by
  simp only [argRoom, stackAlignSize]
  omega

theorem argsRoom_cons (arg : List UInt8) (rest : List (List UInt8)) :
    argsRoom (arg :: rest) = argRoom arg + argsRoom rest := by
  simp [argsRoom]

theorem argRoom_le_argsRoom (member : arg ∈ args) : argRoom arg ≤ argsRoom args := by
  induction args with
  | nil => cases member
  | cons first rest ih =>
    rw [argsRoom_cons]
    cases member with
    | head => exact Nat.le_add_right ..
    | tail _ member => exact (ih member).trans (Nat.le_add_left ..)

theorem argsRoom_aligned (args : List (List UInt8)) : argsRoom args % stackAlignSize = 0 := by
  induction args with
  | nil => rfl
  | cons arg rest ih =>
    have here := argRoom_aligned arg
    rw [argsRoom_cons]
    simp only [stackAlignSize] at here ih ⊢
    omega

theorem pushArg_eq (aligned : stackPtr % stackAlignSize = 0) (bounded : stackPtr < 2 ^ 64)
    (fits : argRoom arg ≤ stackPtr) :
    (Sel4Task.pushArg platform stackPtr arg : KernelM ν Nat) =
      storeBytes platform (platform.pageSeat + (stackPtr - argRoom arg) % pageSize) arg >>= fun _ =>
        pure (stackPtr - argRoom arg) := by
  have rounded : (stackPtr + 2 ^ 64 - arg.length - 1) % 2 ^ 64 / stackAlignSize * stackAlignSize =
      stackPtr - argRoom arg := by
    simp only [argRoom, stackAlignSize] at aligned fits ⊢
    omega
  simp only [Sel4Task.pushArg, rounded]

theorem pushArgs_eq (aligned : stackPtr % stackAlignSize = 0) (bounded : stackPtr < 2 ^ 64)
    (fits : argsRoom args ≤ stackPtr) :
    (Sel4Task.pushArgs platform stackPtr args : KernelM ν _) =
      storeRegions platform ((argSpots stackPtr args).zip args) >>= fun _ =>
        pure (argSpots stackPtr args, stackPtr - argsRoom args) := by
  induction args generalizing stackPtr with
  | nil => simp [Sel4Task.pushArgs, storeRegions, argSpots, argsRoom]
  | cons arg rest ih =>
    rw [argsRoom_cons] at fits
    have room := argRoom_aligned arg
    have next : (stackPtr - argRoom arg) % stackAlignSize = 0 := by
      simp only [stackAlignSize] at aligned room ⊢
      omega
    rw [Sel4Task.pushArgs, pushArg_eq aligned bounded (by omega)]
    simp only [bind_assoc, pure_bind, ih next (by omega) (by omega), argSpots, List.zip_cons_cons,
      storeRegions, argsRoom_cons, Nat.sub_sub]

theorem pushNums_eq (bounded : stackPtr < 2 ^ 64) (fits : 8 * nums.length ≤ stackPtr) :
    (Sel4Task.pushNums platform stackPtr nums : KernelM ν Nat) =
      storeRegions platform (wordWrites stackPtr nums) >>= fun _ => pure (stackPtr - 8 * nums.length) := by
  induction nums generalizing stackPtr with
  | nil => simp [Sel4Task.pushNums, storeRegions, wordWrites]
  | cons num rest ih =>
    rw [List.length_cons] at fits
    have below : (stackPtr + 2 ^ 64 - 8) % 2 ^ 64 = stackPtr - 8 := by omega
    have down : stackPtr - 8 - 8 * rest.length = stackPtr - 8 * (rest.length + 1) := by omega
    simp only [Sel4Task.pushNums, below, ih (show stackPtr - 8 < 2 ^ 64 by omega) (by omega),
      storeRegions, wordWrites, bind_assoc, List.length_cons, down]

theorem fillStack_eq (aligned : stackPtr % stackAlignSize = 0) (bounded : stackPtr < 2 ^ 64)
    (nonempty : args ≠ []) (fits : stackRoom args ≤ stackPtr) :
    (Sel4Task.fillStack platform entryPoint stackPtr args : KernelM ν Nat) =
      storeRegions platform (stackWrites entryPoint stackPtr args) >>= fun _ => pure (stackPtr - stackRoom args) := by
  unfold stackRoom at fits ⊢
  obtain ⟨first, rest, rfl⟩ := List.exists_cons_of_ne_nil nonempty
  have words : 8 * (stackWords entryPoint stackPtr (first :: rest)).length ≤
      stackPtr - argsRoom (first :: rest) := by
    rw [length_stackWords]
    omega
  have pushed : (Sel4Task.pushNums platform (stackPtr - argsRoom (first :: rest))
    (stackWords entryPoint stackPtr (first :: rest)) :
      KernelM ν Nat) = _ := pushNums_eq (by omega) words
  rw [length_stackWords, Nat.sub_sub] at pushed
  rw [Sel4Task.fillStack, pushArgs_eq aligned bounded (by omega), stackWrites, storeRegions_append]
  simp only [bind_assoc, pure_bind]
  congr
  funext _
  rw [← pushed]
  simp [stackWords, argSpots]

theorem argWrites_descend (text : List UInt8 → List UInt8)
    (short : ∀ arg, (text arg).length ≤ argRoom arg) (fits : argsRoom args ≤ stackPtr) :
    Memory.Descends (stackPtr - argsRoom args) stackPtr ((argSpots stackPtr args).zip (args.map text)) := by
  induction args generalizing stackPtr with
  | nil => exact Nat.sub_le ..
  | cons arg rest ih =>
    rw [argsRoom_cons] at fits ⊢
    have room := short arg
    refine ⟨show stackPtr - argRoom arg + (text arg).length ≤ stackPtr by omega, ?_⟩
    rw [← Nat.sub_sub]
    exact ih (by omega)

theorem wordWrites_descend (fits : 8 * nums.length ≤ stackPtr) :
    Memory.Descends (stackPtr - 8 * nums.length) stackPtr (wordWrites stackPtr nums) := by
  induction nums generalizing stackPtr with
  | nil => exact Nat.sub_le ..
  | cons num rest ih =>
    rw [List.length_cons] at fits ⊢
    refine ⟨?_, ?_⟩
    · simp only [List.length_reverse, length_toBigEndian]
      omega
    · have down : stackPtr - 8 * (rest.length + 1) = stackPtr - 8 - 8 * rest.length := by omega
      rw [down]
      exact ih (by omega)

theorem stackWords_descend (fits : stackRoom args ≤ stackPtr) :
    Memory.Descends (stackPtr - stackRoom args) (stackPtr - argsRoom args)
      (wordWrites (stackPtr - argsRoom args) (stackWords entryPoint stackPtr args)) := by
  unfold stackRoom at fits ⊢
  have words : 8 * (stackWords entryPoint stackPtr args).length ≤ stackPtr - argsRoom args := by
    rw [length_stackWords]
    omega
  have lower := wordWrites_descend words
  rwa [length_stackWords, Nat.sub_sub] at lower

theorem argsRoom_le : argsRoom args ≤ stackRoom args := Nat.le_add_right ..

theorem stackWrites_descend (fits : stackRoom args ≤ stackPtr) :
    Memory.Descends (stackPtr - stackRoom args) stackPtr (stackWrites entryPoint stackPtr args) := by
  have strings := argWrites_descend id (fun arg => (length_lt_argRoom arg).le) (argsRoom_le.trans fits)
  rw [List.map_id] at strings
  exact strings.append (stackWords_descend fits)

theorem argWrites_terminated {memory : Memory} (blank : ∀ location < stackPtr, memory location = 0)
    (fits : argsRoom args ≤ stackPtr) :
    memory.storeAll ((argSpots stackPtr args).zip args) =
      memory.storeAll ((argSpots stackPtr args).zip (args.map (· ++ [0]))) := by
  induction args generalizing stackPtr memory with
  | nil => rfl
  | cons arg rest ih =>
    rw [argsRoom_cons] at fits
    have room := length_lt_argRoom arg
    have zero : memory.store (stackPtr - argRoom arg) arg (stackPtr - argRoom arg + arg.length) = 0 := by
      rw [Memory.store_outside (Or.inr (Nat.le_refl _))]
      exact blank _ (by omega)
    have ended : memory.store (stackPtr - argRoom arg) (arg ++ [0]) = memory.store (stackPtr - argRoom arg) arg := by
      rw [← Memory.store_append, Memory.store_cons, Memory.store_nil, Function.update_eq_self_iff]
      exact zero.symm
    simp only [argSpots, List.map_cons, List.zip_cons_cons, Memory.storeAll, List.foldl_cons, ended]
    refine ih (fun location below => ?_) (by omega)
    rw [Memory.store_outside (Or.inl below)]
    exact blank location (by omega)

theorem storeRegions_paints (showing : Shows platform frame shown) {base : Nat}
    {memory : Memory} {writes : List (Nat × List UInt8)} (aligned : base % pageSize = 0)
    (inside : ∀ write ∈ writes, base ≤ write.1 ∧ write.1 < base + pageSize ∧
      write.1 + write.2.length ≤ base + pageSize) :
    MemTriple (Painted shown frame base memory) (storeRegions platform writes)
      (fun _ => Painted shown frame base (memory.storeAll writes)) (fun _ => False) := by
  induction writes generalizing memory with
  | nil => exact .pure fun _ painted => painted
  | cons write rest ih =>
    obtain ⟨above, below, room⟩ := inside write (List.mem_cons_self ..)
    have address : base + write.1 % pageSize = write.1 := by
      unfold pageSize at aligned below ⊢
      omega
    have stored : MemTriple (Painted shown frame base memory)
        (storeBytes platform (platform.pageSeat + write.1 % pageSize) write.2)
        (fun _ => Painted shown frame base (memory.store (base + write.1 % pageSize) write.2)) (fun _ => False) :=
      storeBytes_paints showing (by omega)
    rw [address] at stored
    exact stored.bind fun _ => ih fun other member => inside other (List.mem_cons_of_mem _ member)

def stackImage (entryPoint stackPtr : Nat) (args : List (List UInt8)) : Memory :=
  Memory.storeAll (fun _ => 0) (stackWrites entryPoint stackPtr args)

theorem argSpots_lt (fits : argsRoom args ≤ stackPtr) :
    ∀ spot ∈ argSpots stackPtr args, spot < stackPtr := by
  induction args generalizing stackPtr with
  | nil => simp [argSpots]
  | cons arg rest ih =>
    rw [argsRoom_cons] at fits
    have room := length_lt_argRoom arg
    intro spot member
    cases member with
    | head => omega
    | tail _ member =>
      have later := ih (by omega) spot member
      omega

theorem length_wordWrites (top : Nat) (nums : List Nat) :
    ∀ write ∈ wordWrites top nums, write.2.length = 8 := by
  induction nums generalizing top with
  | nil => simp [wordWrites]
  | cons num rest ih => simpa [wordWrites] using ih (top - 8)

theorem stackWrites_lt (fits : stackRoom args ≤ stackPtr) :
    ∀ write ∈ stackWrites entryPoint stackPtr args, write.1 < stackPtr := by
  intro write member
  rcases List.mem_append.mp member with string | word
  · exact argSpots_lt (argsRoom_le.trans fits) _ (List.of_mem_zip string).1
  · have descends := (stackWords_descend fits).within.2 write word
    have length := length_wordWrites _ _ write word
    omega

section Top

variable {stop : Nat}

theorem fillStack_paints (showing : Shows platform frame shown) (aligned : stop % pageSize = 0)
    (bounded : stop < 2 ^ 64) (room : pageSize ≤ stop) (nonempty : args ≠ [])
    (fits : stackRoom args ≤ pageSize) :
    MemTriple (Painted shown frame (stop - pageSize) fun _ => 0)
      (Sel4Task.fillStack platform entryPoint stop args)
      (fun stackPtr after => stackPtr = stop - stackRoom args ∧
        Painted shown frame (stop - pageSize) (stackImage entryPoint stop args) after) (fun _ => False) := by
  have lines : stop % stackAlignSize = 0 := by
    simp only [pageSize, stackAlignSize] at aligned ⊢
    omega
  have base : (stop - pageSize) % pageSize = 0 := by
    unfold pageSize at aligned room ⊢
    omega
  have inside : ∀ write ∈ stackWrites entryPoint stop args, stop - pageSize ≤ write.1 ∧
    write.1 < stop - pageSize + pageSize ∧
      write.1 + write.2.length ≤ stop - pageSize + pageSize := by
    intro write member
    have descends := (stackWrites_descend (by omega)).within.2 write member
    have below := stackWrites_lt (by omega) write member
    omega
  rw [fillStack_eq lines bounded nonempty (by omega)]
  exact (storeRegions_paints showing base inside).bind fun _ => .pure fun _ painted => ⟨rfl, painted⟩

theorem mapStackPages_append (vaddrs vaddrs' : List Nat) (stackPtr : Nat) (self : Sel4Task) :
    (Sel4Task.mapStackPages platform entryPoint stop args (vaddrs ++ vaddrs') stackPtr self : KernelM ν _) =
      Sel4Task.mapStackPages platform entryPoint stop args vaddrs stackPtr self >>= fun result =>
        Sel4Task.mapStackPages platform entryPoint stop args vaddrs' result.1 result.2 := by
  induction vaddrs generalizing stackPtr self with
  | nil => simp [Sel4Task.mapStackPages]
  | cons vaddr rest ih =>
    by_cases top : vaddr = stop - pageSize
    · simp [Sel4Task.mapStackPages, ih, top]
    · simp [Sel4Task.mapStackPages, ih, top]

theorem mapStackPages_lower (vaddrs : List Nat) (lower : ∀ vaddr ∈ vaddrs, vaddr ≠ stop - pageSize)
    (stackPtr : Nat) (self : Sel4Task) (homed : Homed space self.vspace state) :
    Yields state (Sel4Task.mapStackPages platform entryPoint stop args vaddrs stackPtr self)
      fun result after => result.1 = stackPtr ∧ result.2.vspace = self.vspace ∧ Homed space self.vspace after := by
  induction vaddrs generalizing self state with
  | nil =>
    refine .pure fun now same => ⟨rfl, rfl, ?_⟩
    rw [same]
    exact homed
  | cons vaddr rest ih =>
    unfold Sel4Task.mapStackPages
    refine (allocate_spec state .granule).bind fun page => .fixed fun extended allocated => ?_
    simp only [if_neg (lower vaddr (List.mem_cons_self ..)), pure_bind]
    refine (mapPage_mapsAt self (homed.allocated allocated) allocated.frameEq).bind fun self' => .fixed ?_
    rintro mapped ⟨placed, -, vspace⟩
    have homed' := (homed.allocated allocated).kept placed.touches (ownsFrames_single allocated.frameEq)
    refine (ih (fun other member => lower other (List.mem_cons_of_mem _ member)) self'
      (vspace ▸ homed')).partly ?_
    rintro result after ⟨pointer, same, homed''⟩
    exact ⟨pointer, same.trans vspace, vspace ▸ homed''⟩

theorem mapStackPages_top (self : Sel4Task) (homed : Homed space self.vspace state)
    (aligned : stop % pageSize = 0) (bounded : stop < 2 ^ 64) (room : pageSize ≤ stop)
    (nonempty : args ≠ []) (fits : stackRoom args ≤ pageSize) :
    Yields state (Sel4Task.mapStackPages platform entryPoint stop args [stop - pageSize] stop self)
      fun result after => result.1 = stop - stackRoom args ∧ Homed space self.vspace after ∧ ∃ cap,
        result.2.mappedPage[stop - pageSize]? = some cap ∧
        PageHolds space (stackImage entryPoint stop args) (stop - pageSize) cap after := by
  simp only [Sel4Task.mapStackPages, if_true]
  refine (allocate_spec state .granule).bind fun page => .fixed fun extended allocated => ?_
  have home := homed.allocated allocated
  have blank : (extended.frames page).Agrees (fun _ => 0) (stop - pageSize) pageSize := by
    rw [allocated.zero]
    exact fun _ _ => rfl
  have filled : RunFrom extended
      (withSeat platform page platform.pageSeat (Sel4Task.fillStack platform entryPoint stop args))
      (fun stackPtr after => stackPtr = stop - stackRoom args ∧
        ∃ content, Memory.Agrees content (stackImage entryPoint stop args) (stop - pageSize) pageSize ∧
          after = extended.fill platform page page content) Refused :=
    withSeat_paints home.rooted.kernel allocated.frameEq blank fun _ showing =>
      (fillStack_paints showing aligned bounded room nonempty fits).raising
  refine (filled.partly fun _ _ spec => spec).bind fun stackPtr => .fixed ?_
  rintro _ ⟨pointer, content, agrees, rfl⟩
  have home' : Homed space self.vspace (extended.fill platform page page content) :=
    home.kept (fill_touches content) (ownsFrames_single allocated.frameEq)
  have base : (stop - pageSize) % pageSize = 0 := by
    unfold pageSize at aligned room ⊢
    omega
  have mapped : MemTriple _ (self.mapPage platform (stop - pageSize) page) _ Refused :=
    mapPage_holds self home' base (cspace_fill_self content) (by simpa using agrees)
  refine (mapped.partly fun _ _ spec => spec).bind fun self' => .pure ?_
  rintro after ⟨holds, -, home'', records, -⟩
  refine ⟨pointer, home'', page, ?_, holds⟩
  rw [records, Std.TreeMap.getElem?_insert_self]

theorem pageSteps_concat {start : Nat} (below : start < stop) (startAligned : start % pageSize = 0)
    (aligned : stop % pageSize = 0) :
    pageSteps start stop = pageSteps start (stop - pageSize) ++ [stop - pageSize] := by
  obtain ⟨count, rfl⟩ : ∃ count, stop = start + pageSize * (count + 1) := by
    refine ⟨(stop - start) / pageSize - 1, ?_⟩
    unfold pageSize at *
    omega
  have whole : (start + pageSize * (count + 1) - start + pageSize - 1) / pageSize = count + 1 := by
    unfold pageSize
    omega
  have shorter : (start + pageSize * (count + 1) - pageSize - start + pageSize - 1) / pageSize = count := by
    unfold pageSize
    omega
  have last : start + pageSize * (count + 1) - pageSize = start + pageSize * count := by
    unfold pageSize
    omega
  rw [pageSteps, pageSteps, whole, shorter, last, List.range'_concat]

theorem mapStack_spec (self : Sel4Task) {start : Nat} (homed : Homed space self.vspace state)
    (below : start < stop) (bounded : stop < 2 ^ 64) (nonempty : args ≠ [])
    (fits : stackRoom args ≤ pageSize) :
    Yields state (self.mapStack platform entryPoint start stop args)
      fun result after => result.1 = stop - stackRoom args ∧ stop % pageSize = 0 ∧ pageSize ≤ stop ∧
        Homed space self.vspace after ∧ ∃ cap, result.2.mappedPage[stop - pageSize]? = some cap ∧
        PageHolds space (stackImage entryPoint stop args) (stop - pageSize) cap after := by
  unfold Sel4Task.mapStack
  split
  · exact .stop fun _ _ => trivial
  · rename_i aligned
    split
    · exact .stop fun _ _ => trivial
    · rename_i startAligned
      rw [not_not] at aligned startAligned
      have room : pageSize ≤ stop := by
        unfold pageSize
        omega
      rw [pageSteps_concat below startAligned aligned, mapStackPages_append]
      have lower : ∀ vaddr ∈ pageSteps start (stop - pageSize), vaddr ≠ stop - pageSize := by
        have once := pageSteps_nodup start stop
        rw [pageSteps_concat below startAligned aligned, List.nodup_append] at once
        exact fun vaddr member => once.2.2 vaddr member _ (List.mem_singleton_self _)
      refine (mapStackPages_lower _ lower stop self homed).bind fun result => .fixed ?_
      rintro middle ⟨pointer, vspace, home⟩
      rw [pointer]
      refine (mapStackPages_top result.2 (vspace ▸ home) aligned bounded room nonempty fits).partly ?_
      rintro final after ⟨pointer, home, page⟩
      exact ⟨pointer, aligned, room, vspace ▸ home, page⟩

/-- The pointer that a program starts with is aligned exactly if it has an odd number of
arguments: nineteen words are pushed besides their pointers. -/
theorem stack_pointer_aligned_iff {self self' : Sel4Task} {start stackPtr : Nat}
    {world after : KernelWorld ν} (homed : Homed space self.vspace world.memory) (below : start < stop)
    (bounded : stop < 2 ^ 64) (nonempty : args ≠ []) (fits : stackRoom args ≤ pageSize)
    (ran : (self.mapStack platform entryPoint start stop args).run world = .ok (stackPtr, self') after) :
    stackPtr % stackAlignSize = 0 ↔ args.length % 2 = 1 := by
  obtain ⟨pointer, aligned, room, -⟩ :=
    (mapStack_spec self homed below bounded nonempty fits).triple.of_run rfl ran
  have strings := argsRoom_aligned args
  have pointerEq : stackPtr = stop - stackRoom args := pointer
  rw [pointerEq]
  simp only [stackRoom, stackAlignSize, pageSize] at aligned room strings fits ⊢
  omega

end Top

def stackRun (args : List (List UInt8)) :
    EStateM.Result Fault (World Lock (List UInt64) (KernelState Unit)) (Nat × Sel4Task) :=
  (plainTask.mapStack smallPlatform 0 (uspaceStackTop - uspaceStackSize) uspaceStackTop args).run
    plainWorld

/-- The three arguments of the first task. -/
theorem stack_pointer_aligned_child :
    ∃ stackPtr self', returnValue (stackRun childArgs) = some (stackPtr, self') ∧
      stackPtr % stackAlignSize = 0 := by
  have returns : (returnValue (stackRun childArgs)).isSome = true := by decide +kernel
  obtain ⟨⟨stackPtr, self'⟩, returned⟩ := Option.isSome_iff_exists.mp returns
  refine ⟨stackPtr, self', returned, ?_⟩
  exact (stack_pointer_aligned_iff plainWorld_homed (by decide) (by decide) (by decide) (by decide)
    (ran_of_returnValue returned)).mpr (by decide)

/-- `sys_exec` passes two arguments, and its program starts with a pointer that is not aligned. -/
theorem stack_pointer_misaligned :
    execArgs ≠ [] ∧ stackRoom execArgs ≤ pageSize ∧
      (returnValue (stackRun execArgs)).map Prod.fst = some (uspaceStackTop - 200) ∧
        (uspaceStackTop - 200) % stackAlignSize = 8 := by
  refine ⟨by decide, by decide, by decide +kernel, by decide⟩

section Reading

variable (memory : Nat → Option UInt8)

def readBytes : Nat → Nat → Option (List UInt8)
  | _, 0 => some []
  | address, count + 1 => do
    let byte ← memory address
    let rest ← readBytes (address + 1) count
    return byte :: rest

def readWord (address : Nat) : Option Nat :=
  (readBytes memory address 8).map fun bytes => ofBigEndian bytes.reverse

def readWords : Nat → Nat → Option (List Nat)
  | _, 0 => some []
  | address, count + 1 => do
    let word ← readWord memory address
    let rest ← readWords (address + 8) count
    return word :: rest

/-- A string up to its NUL, which is looked for in so many bytes. -/
def readString : Nat → Nat → Option (List UInt8)
  | 0, _ => none
  | fuel + 1, address => do
    let byte ← memory address
    if byte = 0 then return []
    else
      let rest ← readString fuel (address + 1)
      return byte :: rest

def readUntilNull : Nat → Nat → Option (List Nat)
  | 0, _ => none
  | fuel + 1, address => do
    let word ← readWord memory address
    if word = 0 then return []
    else
      let rest ← readUntilNull fuel (address + 8)
      return word :: rest

def readAuxv : Nat → Nat → Option (List (Nat × Nat))
  | 0, _ => none
  | fuel + 1, address => do
    let key ← readWord memory address
    let value ← readWord memory (address + 8)
    if key = 0 then return [(key, value)]
    else
      let rest ← readAuxv fuel (address + 16)
      return (key, value) :: rest

structure InitialStack where
  argc : Nat
  argv : List (List UInt8)
  envp : List Nat
  auxv : List (Nat × Nat)
deriving DecidableEq, Repr

/-- The stack as a program of the System V ABI takes it apart. -/
def parseStack (stackPtr : Nat) : Option InitialStack := do
  let argc ← readWord memory stackPtr
  let argPtrs ← readWords memory (stackPtr + 8) argc
  let null ← readWord memory (stackPtr + 8 * (argc + 1))
  if null ≠ 0 then none
  else
    let argv ← argPtrs.mapM (readString memory pageSize)
    let envp ← readUntilNull memory pageSize (stackPtr + 8 * (argc + 2))
    let auxv ← readAuxv memory pageSize (stackPtr + 8 * (argc + envp.length + 3))
    return { argc, argv, envp, auxv }

variable {memory}

def BytesAt (memory : Nat → Option UInt8) (address : Nat) (bytes : List UInt8) : Prop :=
  ∀ (index : Nat) (byte : UInt8), bytes[index]? = some byte → memory (address + index) = some byte

theorem BytesAt.tail (found : BytesAt memory address (byte :: rest)) :
    BytesAt memory (address + 1) rest := by
  intro index other here
  have shifted := found (index + 1) other (by simpa using here)
  rwa [show address + (index + 1) = address + 1 + index by omega] at shifted

theorem BytesAt.head (found : BytesAt memory address (byte :: rest)) :
    memory address = some byte := found 0 byte rfl

theorem BytesAt.readBytes (found : BytesAt memory address bytes) :
    readBytes memory address bytes.length = some bytes := by
  induction bytes generalizing address with
  | nil => rfl
  | cons byte rest ih => simp [Kernel.readBytes, found.head, ih found.tail]

theorem BytesAt.readWord {num : Nat} (found : BytesAt memory address (toBigEndian 8 num).reverse)
    (small : num < 2 ^ 64) :
    readWord memory address = some num := by
  have bytes := found.readBytes
  rw [List.length_reverse, length_toBigEndian] at bytes
  rw [Kernel.readWord, bytes, Option.map_some, List.reverse_reverse, ofBigEndian_toBigEndian]
  exact congrArg some (Nat.mod_eq_of_lt (by omega))

theorem BytesAt.readString {fuel : Nat} (found : BytesAt memory address (bytes ++ [0]))
    (nulFree : (0 : UInt8) ∉ bytes) (enough : bytes.length < fuel) :
    readString memory fuel address = some bytes := by
  induction bytes generalizing address fuel with
  | nil =>
    obtain ⟨fuel, rfl⟩ := Nat.exists_eq_add_one_of_ne_zero (by simpa using Nat.ne_of_gt enough)
    simp [Kernel.readString, found.head]
  | cons byte rest ih =>
    obtain ⟨fuel, rfl⟩ := Nat.exists_eq_add_one_of_ne_zero (Nat.ne_of_gt (Nat.zero_lt_of_lt enough))
    rw [List.mem_cons, not_or] at nulFree
    have later := ih found.tail nulFree.2 (by simpa using enough)
    simp [Kernel.readString, found.head, Ne.symm nulFree.1, later]

def WordsAt (memory : Nat → Option UInt8) : Nat → List Nat → Prop
  | _, [] => True
  | address, word :: rest => readWord memory address = some word ∧ WordsAt memory (address + 8) rest

theorem wordsAt_append {words words' : List Nat} :
    WordsAt memory address (words ++ words') ↔ WordsAt memory address words ∧
      WordsAt memory (address + 8 * words.length) words' := by
  induction words generalizing address with
  | nil => simp [WordsAt]
  | cons word rest ih =>
    have next : address + 8 + 8 * rest.length = address + 8 * (rest.length + 1) := by omega
    simp only [List.cons_append, WordsAt, ih, List.length_cons, next, and_assoc]

theorem WordsAt.readWords {words : List Nat} (found : WordsAt memory address words) :
    readWords memory address words.length = some words := by
  induction words generalizing address with
  | nil => rfl
  | cons word rest ih => simp [Kernel.readWords, found.1, ih found.2]

theorem WordsAt.readAuxv {last fuel : Nat} {pairs : List (Nat × Nat)}
    (found : WordsAt memory address (pairs.flatMap (fun pair => [pair.1, pair.2]) ++ [0, last]))
    (keys : ∀ pair ∈ pairs, pair.1 ≠ 0) (enough : pairs.length < fuel) :
    readAuxv memory fuel address = some (pairs ++ [(0, last)]) := by
  induction pairs generalizing address fuel with
  | nil =>
    obtain ⟨fuel, rfl⟩ := Nat.exists_eq_add_one_of_ne_zero (Nat.ne_of_gt (Nat.zero_lt_of_lt enough))
    simp [Kernel.readAuxv, found.1, found.2.1]
  | cons pair rest ih =>
    obtain ⟨fuel, rfl⟩ := Nat.exists_eq_add_one_of_ne_zero (Nat.ne_of_gt (Nat.zero_lt_of_lt enough))
    have later := ih found.2.2 (fun other member => keys other (List.mem_cons_of_mem _ member))
      (by simpa using enough)
    simp [Kernel.readAuxv, found.1, found.2.1, keys pair (List.mem_cons_self ..), later]

theorem wordsAt_of_writes {top : Nat}
    (found : ∀ write ∈ wordWrites top nums, BytesAt memory write.1 write.2)
    (small : ∀ num ∈ nums, num < 2 ^ 64) (fits : 8 * nums.length ≤ top) :
    WordsAt memory (top - 8 * nums.length) nums.reverse := by
  induction nums generalizing top with
  | nil => trivial
  | cons num rest ih =>
    rw [List.length_cons] at fits ⊢
    have later := ih (fun write member => found write (List.mem_cons_of_mem _ member))
      (fun other member => small other (List.mem_cons_of_mem _ member)) (show 8 * rest.length ≤ top - 8 by omega)
    have here := (found _ (List.mem_cons_self ..)).readWord (small num (List.mem_cons_self ..))
    have start : top - 8 * (rest.length + 1) = top - 8 - 8 * rest.length := by omega
    have last : top - 8 - 8 * rest.length + 8 * rest.length = top - 8 := by omega
    rw [List.reverse_cons, wordsAt_append, List.length_reverse, start, last]
    exact ⟨later, here, trivial⟩

def insertedPairs (execFn entryPoint : Nat) : List (Nat × Nat) :=
  [(31, execFn), (14, 0), (13, 0), (12, 0), (11, 0), (9, entryPoint), (6, pageSize)]

theorem stackWords_reverse : (stackWords entryPoint stackPtr args).reverse =
    args.length :: (argSpots stackPtr args ++ ([0, 0] ++
      ((insertedPairs ((argSpots stackPtr args).headD 0) entryPoint).flatMap
        (fun pair => [pair.1, pair.2]) ++ [0, 0]))) := by
  simp [stackWords, Sel4Task.auxiliaryVector, insertedPairs]

theorem parseStack_of_words {execFn stackPtr : Nat} (counted : spots.length = args.length)
    (words : WordsAt memory stackPtr (args.length :: (spots ++ ([0, 0] ++
      ((insertedPairs execFn entryPoint).flatMap (fun pair => [pair.1, pair.2]) ++ [0, 0])))))
    (strings : spots.mapM (readString memory pageSize) = some args) :
    parseStack memory stackPtr = some ⟨args.length, args, [], insertedPairs execFn entryPoint ++ [(0, 0)]⟩ := by
  obtain ⟨argc, words⟩ := words
  obtain ⟨pointers, null, envp, vector⟩ := wordsAt_append.mp words
  have argv := pointers.readWords
  have auxv := WordsAt.readAuxv vector (by simp [insertedPairs])
    (show _ < pageSize by simp [insertedPairs, pageSize])
  have nullAt : stackPtr + 8 + 8 * spots.length = stackPtr + 8 * (args.length + 1) := by omega
  have envpAt : stackPtr + 8 + 8 * spots.length + 8 = stackPtr + 8 * (args.length + 2) := by omega
  have auxvAt : stackPtr + 8 + 8 * spots.length + 8 + 8 = stackPtr + 8 * (args.length + 0 + 3) := by
    omega
  rw [nullAt] at null
  rw [envpAt] at envp
  rw [auxvAt] at auxv
  rw [counted] at argv
  have noEnv : readUntilNull memory pageSize (stackPtr + 8 * (args.length + 2)) = some [] := by
    rw [show pageSize = 0xfff + 1 from rfl, readUntilNull, envp]
    rfl
  simp [parseStack, argc, argv, null, strings, noEnv, auxv]

theorem readStrings_of (counted : spots.length = args.length)
    (found : ∀ pair ∈ spots.zip args, readString memory pageSize pair.1 = some pair.2) :
    spots.mapM (readString memory pageSize) = some args := by
  induction spots generalizing args with
  | nil =>
    cases args with
    | nil => rfl
    | cons arg rest => cases counted
  | cons spot spots ih =>
    cases args with
    | nil => cases counted
    | cons arg rest =>
      have later := ih (Nat.succ.inj counted) fun pair member => found pair (List.mem_cons_of_mem _ member)
      have here : readString memory pageSize spot = some arg := found _ (List.mem_cons_self ..)
      simp [here, later]

theorem stackWrites_found {stop : Nat} (fits : stackRoom args ≤ stop)
    (holds : ∀ address, stop - stackRoom args ≤ address → address < stop →
      memory address = some (stackImage entryPoint stop args address)) :
    ∀ write ∈ (argSpots stop args).zip (args.map (· ++ [0])) ++
      wordWrites (stop - argsRoom args) (stackWords entryPoint stop args), BytesAt memory write.1 write.2 := by
  have words : Memory.Descends _ _
    (wordWrites (stop - argsRoom args) (stackWords entryPoint stop args)) := stackWords_descend fits
  have descends := (argWrites_descend (· ++ [0]) (fun arg => by
    rw [List.length_append]
    exact length_lt_argRoom arg) (argsRoom_le.trans fits)).append words
  have image : stackImage entryPoint stop args =
    Memory.storeAll (fun _ => 0) ((argSpots stop args).zip (args.map (· ++ [0])) ++
      wordWrites (stop - argsRoom args) (stackWords entryPoint stop args)) := by
    have strings : Memory.storeAll (fun _ => 0) ((argSpots stop args).zip args) = _ :=
      argWrites_terminated (fun _ _ => rfl) (argsRoom_le.trans fits)
    simp only [Memory.storeAll] at strings
    simp only [stackImage, stackWrites, Memory.storeAll, List.foldl_append, strings]
  intro write member index byte here
  have inside : index < write.2.length := (List.getElem?_eq_some_iff.mp here).1
  have bounds := descends.within.2 write member
  rw [holds (write.1 + index) (by omega) (by omega), image,
    Memory.storeAll_inside descends.apart member here]

theorem stackImage_parses {stop : Nat} (bounded : stop < 2 ^ 64) (nonempty : args ≠ [])
    (nulFree : ∀ arg ∈ args, (0 : UInt8) ∉ arg) (fits : stackRoom args ≤ pageSize)
    (room : pageSize ≤ stop) (entry : entryPoint < 2 ^ 64)
    (holds : ∀ address, stop - pageSize ≤ address → address < stop → memory address =
      some (stackImage entryPoint stop args address)) :
    ∃ execFn, readString memory pageSize execFn = args.head? ∧
      parseStack memory (stop - stackRoom args) =
        some ⟨args.length, args, [], insertedPairs execFn entryPoint ++ [(0, 0)]⟩ := by
  have found := stackWrites_found (fits.trans room) fun address above below =>
    holds address (by omega) below
  have strings : ∀ pair ∈ (argSpots stop args).zip args, readString memory pageSize pair.1 = some pair.2 := by
    rintro ⟨spot, arg⟩ member
    have arg_mem : arg ∈ args := (List.of_mem_zip member).2
    have short : arg.length < pageSize := by
      have room := length_lt_argRoom arg
      have part : argRoom arg ≤ argsRoom args := argRoom_le_argsRoom arg_mem
      have whole : argsRoom args ≤ stackRoom args := argsRoom_le
      omega
    refine (found (spot, arg ++ [0]) (List.mem_append_left _ ?_)).readString (nulFree arg arg_mem) short
    rw [List.zip_map_right]
    exact List.mem_map_of_mem (f := Prod.map id (· ++ [0])) member
  have small : ∀ num ∈ stackWords entryPoint stop args, num < 2 ^ 64 := by
    have spots := argSpots_lt (argsRoom_le.trans (fits.trans room))
    have count : args.length < 2 ^ 64 := by
      unfold stackRoom pageSize at fits
      omega
    have first : (argSpots stop args).headD 0 < 2 ^ 64 := by
      cases spotsEq : argSpots stop args with
      | nil => decide
      | cons spot rest => exact (spots spot (by simp [spotsEq])).trans bounded
    intro num member
    simp only [stackWords, Sel4Task.auxiliaryVector, List.mem_append, List.mem_cons,
      List.mem_reverse, List.not_mem_nil, or_false] at member
    have page : pageSize < 2 ^ 64 := by decide
    rcases member with ((((rfl | rfl | rfl | rfl | rfl | rfl | rfl | rfl | rfl | rfl | rfl | rfl | rfl | rfl | rfl | rfl) |
      (rfl | rfl)) | spot) | rfl)
    all_goals first | omega | exact (spots num spot).trans bounded
  have words := wordsAt_of_writes (fun write member => found write (List.mem_append_right _ member))
    small (by
    rw [length_stackWords]
    unfold stackRoom at fits
    omega)
  rw [length_stackWords, Nat.sub_sub, ← stackRoom, stackWords_reverse] at words
  refine ⟨(argSpots stop args).headD 0, ?_, parseStack_of_words (length_argSpots ..) words
    (readStrings_of (length_argSpots ..) strings)⟩
  obtain ⟨arg, rest, rfl⟩ := List.exists_cons_of_ne_nil nonempty
  exact strings (stop - argRoom arg, arg) (List.mem_cons_self ..)

end Reading

/-- The program takes apart what `map_stack` has put together, which is written without
going over anything twice. -/
theorem initial_stack_parses {self self' : Sel4Task} {start stop stackPtr : Nat}
    {world after : KernelWorld ν} (homed : Homed space self.vspace world.memory)
    (below : start < stop) (bounded : stop < 2 ^ 64) (entry : entryPoint < 2 ^ 64)
    (nonempty : args ≠ []) (nulFree : ∀ arg ∈ args, (0 : UInt8) ∉ arg)
    (fits : stackRoom args ≤ pageSize)
    (ran : (self.mapStack platform entryPoint start stop args).run world = .ok (stackPtr, self') after) :
    (∃ execFn, readString (after.memory.spaceByte self.vspace) pageSize execFn = args.head? ∧
      parseStack (after.memory.spaceByte self.vspace) stackPtr =
        some ⟨args.length, args, [], insertedPairs execFn entryPoint ++ [(0, 0)]⟩) ∧
    (Sel4Task.fillStack platform entryPoint stop args : KernelM ν Nat) =
      (storeRegions platform (stackWrites entryPoint stop args) >>= fun _ => pure stackPtr) ∧
    (stackWrites entryPoint stop args).Pairwise Memory.Apart := by
  obtain ⟨pointer, aligned, room, home, cap, -, page⟩ :=
    (mapStack_spec self homed below bounded nonempty fits).triple.of_run rfl ran
  have pointerEq : stackPtr = stop - stackRoom args := pointer
  have lines : stop % stackAlignSize = 0 := by
    simp only [pageSize, stackAlignSize] at aligned ⊢
    omega
  have base : (stop - pageSize) % pageSize = 0 := by
    unfold pageSize at aligned room ⊢
    omega
  rw [pointerEq]
  refine ⟨stackImage_parses bounded nonempty nulFree fits room entry fun address above below => ?_,
    fillStack_eq lines bounded nonempty (fits.trans room), (stackWrites_descend (fits.trans room)).apart⟩
  exact page.spaceByte home.target base above (by omega)

theorem initial_stack_parses_exec :
    ∃ stackPtr self' execFn, returnValue (stackRun execArgs) = some (stackPtr, self') ∧
      parseStack ((finalState (stackRun execArgs)).memory.spaceByte plainTask.vspace) stackPtr =
        some ⟨2, execArgs, [], insertedPairs execFn 0 ++ [(0, 0)]⟩ := by
  have returns : (returnValue (stackRun execArgs)).isSome = true := by decide +kernel
  obtain ⟨⟨stackPtr, self'⟩, returned⟩ := Option.isSome_iff_exists.mp returns
  obtain ⟨⟨execFn, -, parsed⟩, -⟩ :=
    initial_stack_parses plainWorld_homed (by decide) (by decide) (by decide) (by decide)
    (by decide) (by decide) (ran_of_returnValue returned)
  exact ⟨stackPtr, self', execFn, returned, parsed⟩

end RootTaskDemo.Kernel
