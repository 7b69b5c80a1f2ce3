import RootTaskDemo.Kernel.Loop

namespace RootTaskDemo.Kernel

open Common Lib Thread

variable {ν α β : Type} {platform : Platform}
variable {reason : Panic}

/-! One walk over the code of the kernel thread. What holds of the few steps that
touch a slot or a page, and of putting programs together, holds of every message. -/

/-- The panic of a step whose destination is taken. -/
def destinationTaken : Fault := .panicked (.invocation .deleteFirst)

structure Undisturbed (before after : KernelState ν) : Prop where
  cspace : after.cspace = before.cspace
  cnodes : after.cnodes = before.cnodes
  emptySlots : after.emptySlots = before.emptySlots
  watermark : after.watermark = before.watermark
  vspaces : after.vspaces = before.vspaces

theorem Undisturbed.trans {before middle after : KernelState ν} (first : Undisturbed before middle)
    (second : Undisturbed middle after) : Undisturbed before after :=
  ⟨second.cspace.trans first.cspace, second.cnodes.trans first.cnodes,
    second.emptySlots.trans first.emptySlots,
    second.watermark.trans first.watermark, second.vspaces.trans first.vspaces⟩

def Undisturbing (program : KernelM ν α) : Prop :=
  ∀ state, MemTriple (fun now => now = state) program (fun _ after => Undisturbed state after)
    (fun fault => fault ≠ destinationTaken)

namespace Undisturbing

variable {program : KernelM ν α} {next : α → KernelM ν β}

theorem pure {value : α} : Undisturbing (Pure.pure value : KernelM ν α) := by
  refine fun state => .pure ?_
  rintro _ rfl
  exact ⟨rfl, rfl, rfl, rfl, rfl⟩

theorem stop {fault : Fault} (other : fault ≠ destinationTaken) :
    Undisturbing (Thread.stop fault : KernelM ν α) :=
  fun _ => .stop fun _ _ => other

theorem panic (other : reason ≠ .invocation .deleteFirst) :
    Undisturbing (panicWith reason : KernelM ν α) :=
  stop fun same => other (Fault.panicked.inj same)

theorem bind (first : Undisturbing program) (rest : ∀ value, Undisturbing (next value)) :
    Undisturbing (program >>= next) := by
  refine fun state => (first state).bind fun value => .fixed fun middle step => ?_
  exact (rest value middle).mono fun _ _ later => step.trans later

theorem read : Undisturbing (Thread.read : KernelM ν _) := by
  intro state
  rw [← bind_pure Thread.read]
  refine .read_bind fun _ => ?_
  rintro rfl
  exact pure _

theorem update {change : KernelState ν → KernelState ν}
    (step : ∀ state, Undisturbed state (change state)) :
    Undisturbing (Thread.update change : KernelM ν Unit) := by
  refine fun state => .update ?_
  rintro _ rfl
  exact step _

end Undisturbing

theorem storeByte_undisturbing (address : Nat) (byte : UInt8) :
    Undisturbing (storeByte platform address byte : KernelM ν Unit) := by
  refine .bind .read fun state => ?_
  split
  · split
    · exact .stop (by rintro ⟨⟩)
    · exact .update fun _ => ⟨rfl, rfl, rfl, rfl, rfl⟩
  · exact .update fun _ => ⟨rfl, rfl, rfl, rfl, rfl⟩

/-- A property of programs that holds of loads, of stores, of giving a name, and of what
is put together from them. -/
structure Calm (platform : Platform) (calm : ∀ {α : Type}, KernelM ν α → Prop) : Prop where
  bind : ∀ {α β : Type} {program : KernelM ν α} {next : α → KernelM ν β}, calm program →
    (∀ value, calm (next value)) →
    calm (program >>= next)
  pure : ∀ {α : Type} {value : α}, calm (Pure.pure value : KernelM ν α)
  stop : ∀ {α : Type} {fault : Fault}, fault ≠ destinationTaken → calm (Thread.stop fault : KernelM ν α)
  read : calm (Thread.read : KernelM ν (KernelState ν))
  store : ∀ address byte, calm (storeByte platform address byte : KernelM ν Unit)
  name : calm (update fun state => { state with idCounter := state.idCounter + 1 } : KernelM ν Unit)

namespace Calm

variable {calm : ∀ {α : Type}, KernelM ν α → Prop} (laws : Calm platform calm)

include laws

theorem panic (other : reason ≠ .invocation .deleteFirst) : calm (panicWith reason : KernelM ν α) :=
  laws.stop fun same => other (Fault.panicked.inj same)

theorem loadBytes (address count : Nat) :
    calm (Kernel.loadBytes platform address count : KernelM ν _) := by
  have byte : ∀ address, calm (loadByte platform address : KernelM ν UInt8) := by
    intro address
    refine laws.bind laws.read fun state => ?_
    split
    · split
      · exact laws.stop (by rintro ⟨⟩)
      · exact laws.pure
    · exact laws.pure
  induction count generalizing address with
  | zero => exact laws.pure
  | succ count ih =>
    exact laws.bind (byte address) fun _ => laws.bind (ih (address + 1)) fun _ => laws.pure

theorem storeBytes (address : Nat) (bytes : List UInt8) :
    calm (Kernel.storeBytes platform address bytes : KernelM ν Unit) := by
  induction bytes generalizing address with
  | nil => exact laws.pure
  | cons first rest ih => exact laws.bind (laws.store address first) fun _ => ih (address + 1)

theorem copyBytes (src dst count : Nat) :
    calm (Kernel.copyBytes platform src dst count : KernelM ν Unit) :=
  laws.bind (laws.loadBytes src count) fun _ => laws.storeBytes dst _

theorem fillStack (entryPoint stackPtr : Nat) (args : List (List UInt8)) :
    calm (Sel4Task.fillStack platform entryPoint stackPtr args : KernelM ν Nat) := by
  have pushed : ∀ stackPtr args, calm (Sel4Task.pushArgs platform stackPtr args : KernelM ν _) := by
    intro stackPtr args
    induction args generalizing stackPtr with
    | nil => exact laws.pure
    | cons arg rest ih =>
      exact laws.bind (laws.bind (laws.storeBytes _ _) fun _ => laws.pure) fun argPtr =>
        laws.bind (ih argPtr) fun _ => laws.pure
  have numbers : ∀ stackPtr nums, calm (Sel4Task.pushNums platform stackPtr nums : KernelM ν Nat) := by
    intro stackPtr nums
    induction nums generalizing stackPtr with
    | nil => exact laws.pure
    | cons num rest ih => exact laws.bind (laws.storeBytes _ _) fun _ => ih _
  refine laws.bind (pushed stackPtr args) fun result => ?_
  split
  · exact laws.panic (by rintro ⟨⟩)
  · exact numbers _ _

theorem copySegment (file : ElfFile) (offset vaddr stop : Nat) :
    calm (Sel4Task.copySegment platform file offset vaddr stop : KernelM ν Nat) := by
  refine laws.bind ?_ fun bytes => laws.bind (laws.storeBytes _ _) fun _ => laws.pure
  unfold ElfFile.slice
  split
  · exact laws.pure
  · exact laws.stop (by rintro ⟨⟩)

end Calm

theorem undisturbing_calm : Calm platform (fun {_ : Type} (program : KernelM ν _) =>
    Undisturbing program) where
  bind first rest := first.bind rest
  pure := .pure
  stop other := .stop other
  read := .read
  store := storeByte_undisturbing
  name := .update fun _ => ⟨rfl, rfl, rfl, rfl, rfl⟩

theorem loadBytes_undisturbing (address count : Nat) :
    Undisturbing (loadBytes platform address count : KernelM ν _) :=
  undisturbing_calm.loadBytes address count

theorem storeBytes_undisturbing (address : Nat) (bytes : List UInt8) :
    Undisturbing (storeBytes platform address bytes : KernelM ν Unit) :=
  undisturbing_calm.storeBytes address bytes

theorem copyBytes_undisturbing (src dst count : Nat) :
    Undisturbing (copyBytes platform src dst count : KernelM ν Unit) :=
  undisturbing_calm.copyBytes src dst count

theorem changeTcb_undisturbing (cap : CPtr) (change : Tcb → Tcb) :
    Undisturbing (unwrapped (changeTcb cap change) : KernelM ν Unit) := by
  unfold unwrapped changeTcb
  simp only [bind_assoc]
  refine .bind .read fun state => ?_
  split
  · rw [bind_assoc]
    exact .bind (.update fun _ => ⟨rfl, rfl, rfl, rfl, rfl⟩) fun _ => .pure
  · exact .panic (by rintro ⟨⟩)

theorem tcbReadAllRegisters_undisturbing (cap : CPtr) :
    Undisturbing (unwrapped (tcbReadAllRegisters cap) : KernelM ν _) := by
  unfold unwrapped tcbReadAllRegisters
  simp only [bind_assoc]
  refine .bind .read fun state => ?_
  split
  · exact .pure
  · exact .panic (by rintro ⟨⟩)

theorem taskOf_undisturbing (badge : Nat) : Undisturbing (taskOf badge : KernelM ν _) := by
  refine .bind .read fun state => ?_
  split
  · exact .panic (by rintro ⟨⟩)
  · exact .pure

theorem setTask_undisturbing (badge : Nat) (task : Sel4Task) :
    Undisturbing (setTask badge task : KernelM ν Unit) :=
  .update fun _ => ⟨rfl, rfl, rfl, rfl, rfl⟩

section Net

variable (link : NetLink ν) (errno : AxErrno)

theorem sendNetIpc_undisturbing (label : NetRequsetabel) (cap : Option CPtr) :
    Undisturbing (sendNetIpc link label cap) := by
  refine .bind .read fun state => ?_
  dsimp only
  split
  · exact .stop (by rintro ⟨⟩)
  · exact .update fun _ => ⟨rfl, rfl, rfl, rfl, rfl⟩

theorem msgReg_undisturbing (index : Nat) : Undisturbing (msgReg index : KernelM ν UInt64) :=
  Undisturbing.bind .read fun _ => .pure

theorem axresult_undisturbing (val : UInt64) : Undisturbing (axresult errno val : KernelM ν _) := by
  unfold axresult
  split
  · exact .panic (by rintro ⟨⟩)
  · exact .pure

theorem unitReply_undisturbing : Undisturbing (Tcp.unitReply errno : KernelM ν _) :=
  (msgReg_undisturbing 0).bind fun word => (axresult_undisturbing errno word).bind fun _ => .pure

theorem received_undisturbing (buf : Nat) :
    Undisturbing (Tcp.received platform errno buf : KernelM ν _) :=
  (msgReg_undisturbing 0).bind fun word => (copyBytes_undisturbing _ _ _).bind fun _ =>
    axresult_undisturbing errno word

theorem errnoOf_undisturbing {α : Type} (expected : List AxError) (error : AxError) :
    Undisturbing (errnoOf expected error : KernelM ν (Except Errno α)) := by
  unfold errnoOf
  split
  · exact .pure
  · exact .panic (by rintro ⟨⟩)

theorem request_undisturbing (label : NetRequsetabel) : Undisturbing (do
    sendNetIpc link label none
    Tcp.unitReply errno) :=
  (sendNetIpc_undisturbing link label none).bind fun _ => unitReply_undisturbing errno

theorem accept_undisturbing (socketId : UInt64) : Undisturbing (Tcp.accept link errno socketId) := by
  refine (sendNetIpc_undisturbing link _ none).bind fun _ => .bind .read fun state => ?_
  split
  · exact .panic (by rintro ⟨⟩)
  · exact .pure

end Net

def copyToNew (platform : Platform) (cap : CPtr) : KernelM ν CPtr := do
  let slot ← locked .objAllocator (allocateSlot platform)
  unwrapped (cnodeCopy slot.2.2 cap)
  return slot.2.2

/-- A property of programs that holds of the steps by which a task comes into being, given
what holds of loads and stores. -/
structure TaskWalk (platform : Platform) (calm holds : ∀ {α : Type}, KernelM ν α → Prop) : Prop where
  laws : Calm platform calm
  quiet : ∀ {α : Type} {program : KernelM ν α}, calm program → holds program
  bind : ∀ {α β : Type} {program : KernelM ν α} {next : α → KernelM ν β}, holds program →
    (∀ value, holds (next value)) →
    holds (program >>= next)
  locked : ∀ {α : Type} (lock : Lock) {program : KernelM ν α}, holds program →
    holds (locked lock program)
  retype : ∀ type, holds (allocateAndRetype platform type : KernelM ν CPtr)
  copied : ∀ cap, holds (copyToNew platform cap : KernelM ν CPtr)
  frameMap : ∀ cap vspace vaddr rights,
    holds (unwrapped (frameMap platform cap vspace vaddr rights) : KernelM ν Unit)
  frameUnmap : ∀ cap, holds (unwrapped (frameUnmap cap) : KernelM ν Unit)
  mapPageLoop : ∀ vaddr page tries self,
    holds (Sel4Task.mapPageLoop platform vaddr page tries self : KernelM ν Sel4Task)
  withPage : ∀ {α : Type} (cap : CPtr) {body : KernelM ν α}, calm body →
    holds (withPage platform cap body)

namespace TaskWalk

variable {calm holds : ∀ {α : Type}, KernelM ν α → Prop} (walk : TaskWalk platform calm holds)

include walk

theorem pure {value : α} : holds (Pure.pure value : KernelM ν α) := walk.quiet walk.laws.pure

theorem panic (other : reason ≠ .invocation .deleteFirst) : holds (panicWith reason : KernelM ν α) :=
  walk.quiet (walk.laws.panic other)

theorem allocate (type : ObjectType) : holds (Kernel.allocate platform type : KernelM ν CPtr) :=
  walk.locked _ (walk.retype type)

theorem withSeat (cap : CPtr) (seat : Nat) {body : KernelM ν α} (inside : holds body) :
    holds (Kernel.withSeat platform cap seat body) :=
  walk.bind (walk.frameMap _ _ _ _) fun _ => walk.bind inside fun _ =>
    walk.bind (walk.frameUnmap cap) fun _ => walk.pure

theorem mapPage (self : Sel4Task) (vaddr : Nat) (page : CPtr) :
    holds (self.mapPage platform vaddr page : KernelM ν _) := by
  unfold Sel4Task.mapPage
  split
  · exact walk.panic (by rintro ⟨⟩)
  · exact walk.mapPageLoop _ _ _ _

theorem new : holds (Sel4Task.new platform : KernelM ν _) :=
  walk.bind (walk.allocate _) fun _ => walk.bind (walk.allocate _) fun _ =>
    walk.bind (walk.allocate _) fun _ =>
    walk.quiet (walk.laws.bind walk.laws.read fun _ => walk.laws.bind walk.laws.name fun _ => walk.laws.pure)

theorem mapStackPages (entryPoint stop : Nat) (args : List (List UInt8)) (vaddrs : List Nat)
    (stackPtr : Nat) (self : Sel4Task) :
    holds (Sel4Task.mapStackPages platform entryPoint stop args vaddrs stackPtr self : KernelM ν _) := by
  induction vaddrs generalizing stackPtr self with
  | nil => exact walk.pure
  | cons vaddr rest ih =>
    refine walk.bind (walk.allocate _) fun page => ?_
    have mapped : ∀ stackPtr, holds (self.mapPage platform vaddr page >>=
        Sel4Task.mapStackPages platform entryPoint stop args rest stackPtr) :=
      fun stackPtr => walk.bind (walk.mapPage self vaddr page) (ih stackPtr)
    dsimp only
    split
    · exact walk.bind (walk.withSeat _ _ (walk.quiet (walk.laws.fillStack _ _ _))) mapped
    · exact walk.bind walk.pure mapped

theorem mapStack (self : Sel4Task) (entryPoint start stop : Nat) (args : List (List UInt8)) :
    holds (self.mapStack platform entryPoint start stop args : KernelM ν _) := by
  unfold Sel4Task.mapStack
  split
  · exact walk.panic (by rintro ⟨⟩)
  · split
    · exact walk.panic (by rintro ⟨⟩)
    · exact walk.mapStackPages _ _ _ _ _ _

theorem loadPages (file : ElfFile) (stop vaddrEnd fuel offset vaddr : Nat)
    (mappedPage : Std.TreeMap Nat CPtr) (self : Sel4Task) :
    holds (Sel4Task.loadPages platform file stop vaddrEnd fuel offset vaddr mappedPage self :
      KernelM ν (Std.TreeMap Nat CPtr × Sel4Task)) := by
  induction fuel generalizing offset vaddr mappedPage self with
  | zero => exact walk.pure
  | succ fuel ih =>
    unfold Sel4Task.loadPages
    split
    · refine walk.bind ?_ fun page => ?_
      · unfold Sel4Task.loadFrame
        split
        · exact walk.bind (walk.frameUnmap _) fun _ => walk.pure
        · exact walk.allocate _
      · dsimp only
        split
        · exact walk.bind (walk.withSeat _ _ (walk.quiet (walk.laws.copySegment _ _ _ _))) fun _ =>
            walk.bind (walk.mapPage self _ page) fun _ => ih _ _ _ _
        · exact walk.bind walk.pure fun _ => walk.bind (walk.mapPage self _ page) fun _ => ih _ _ _ _
    · exact walk.pure

theorem loadElf (self : Sel4Task) (file : ElfFile) :
    holds (self.loadElf platform file : KernelM ν _) := by
  have segments : ∀ programs mappedPage self,
    holds (Sel4Task.loadSegments platform file programs mappedPage self :
      KernelM ν Sel4Task) := by
    intro programs
    induction programs with
    | nil => exact fun _ _ => walk.pure
    | cons ph rest ih =>
      exact fun _ _ => walk.bind (walk.loadPages _ _ _ _ _ _ _ _) fun loaded => ih loaded.1 loaded.2
  exact segments _ _ _

theorem processPages (task : Sel4Task) (addr : Nat) {f : Callback ν β}
    (data : ∀ seat offset count acc, calm (f seat offset count acc)) (fuel len bufAddr : Nat)
    (acc : β) : holds (Kernel.processPages platform task addr f fuel len bufAddr acc) := by
  induction fuel generalizing len bufAddr acc with
  | zero => exact walk.pure
  | succ fuel ih =>
    unfold Kernel.processPages
    split
    · exact walk.pure
    · split
      · exact walk.pure
      · exact walk.bind (walk.withPage _ (data _ _ _ _)) fun acc => ih _ _ acc

theorem processItemList (size : Nat) (task : Sel4Task) (addr : Nat) (number : Option Nat)
    {f : Callback ν β} (data : ∀ seat offset count acc, calm (f seat offset count acc)) (init : β) :
    holds (Kernel.processItemList platform size task addr number f init) := by
  unfold Kernel.processItemList
  split
  · exact walk.pure
  · exact walk.processPages _ _ data _ _ _ _

theorem readItem (size : Nat) (task : Sel4Task) (addr : Nat) :
    holds (Kernel.readItem platform size task addr : KernelM ν _) :=
  walk.bind (walk.processItemList _ _ _ _ (fun _ _ _ _ => walk.laws.loadBytes _ _) _) fun _ => walk.pure

theorem cloneSpace (task newTask : Sel4Task) (shared : Bool) :
    holds (Kernel.cloneSpace platform task newTask shared : KernelM ν _) := by
  have pages : ∀ (entries : List (Nat × CPtr)) (dst : Sel4Task),
      holds (cloneVspace platform entries dst : KernelM ν _) := by
    intro entries
    induction entries with
    | nil => exact fun _ => walk.pure
    | cons entry rest ih =>
      exact fun dst => walk.bind (walk.allocate _) fun newPage =>
        walk.bind (walk.withSeat _ _ (walk.withPage _ (walk.laws.copyBytes _ _ _))) fun _ =>
          walk.bind (walk.mapPage dst _ newPage) ih
  unfold Kernel.cloneSpace
  split
  · have copied : holds (copyToNew platform task.vspace >>= fun slot =>
      Pure.pure { newTask with vspace := slot }) :=
      walk.bind (walk.copied task.vspace) fun _ => walk.pure
    simp only [copyToNew, bind_assoc, pure_bind] at copied
    exact copied
  · exact pages _ _

end TaskWalk

/-- A property of programs that holds of every step on slots and pages, of all that
leaves them alone, and of what is put together from programs that have it. -/
structure Walk (platform : Platform) (holds : ∀ {α : Type}, KernelM ν α → Prop) : Prop
    extends TaskWalk platform (fun {_ : Type} (program : KernelM ν _) => Undisturbing program) holds where
  reply : ∀ words : List UInt64, holds (reply words : KernelM ν Unit)
  delete : ∀ slot, holds (cnodeDelete platform slot : KernelM ν Unit)

namespace Walk

variable {holds : ∀ {α : Type}, KernelM ν α → Prop} (walk : Walk platform holds)

include walk

theorem unmapPage (self : Sel4Task) (vaddr : Nat) (page : CPtr) :
    holds (self.unmapPage vaddr page : KernelM ν _) := by
  unfold Sel4Task.unmapPage
  split
  · exact walk.panic (by rintro ⟨⟩)
  · exact walk.bind (walk.frameUnmap _) fun _ => walk.pure

theorem mapFresh (vaddrs : List Nat) (self : Sel4Task) :
    holds (Sel4Task.mapFresh platform vaddrs self : KernelM ν _) := by
  induction vaddrs generalizing self with
  | nil => exact walk.pure
  | cons vaddr rest ih =>
    exact walk.bind (walk.allocate _) fun page => walk.bind (walk.mapPage self vaddr page) ih

theorem drop (self : Sel4Task) : holds (self.drop platform : KernelM ν Unit) := by
  have all : ∀ caps, holds (Sel4Task.deleteAll platform caps : KernelM ν Unit) := by
    intro caps
    induction caps with
    | nil => exact walk.pure
    | cons cap rest ih => exact walk.bind (walk.delete cap) fun _ => ih
  exact all _

theorem copyData (freePageAddr : Nat) (pages : List ImagePage) (data : List UInt8) (offset : Nat) :
    holds (Kernel.copyData platform freePageAddr pages data offset : KernelM ν Unit) := by
  induction pages generalizing data offset with
  | nil => exact walk.pure
  | cons page rest ih =>
    exact walk.bind (walk.withSeat _ _ (walk.quiet (storeBytes_undisturbing _ _))) fun _ => ih _ _

theorem loadSegment (footprint : Nat × Nat) (freePageAddr : Nat) (pages : List ImagePage)
    (seg : Segment) :
    holds (Kernel.loadSegment platform footprint freePageAddr pages seg : KernelM ν _) := by
  have sliced : ∀ pages start count, holds (slicePages pages start count : KernelM ν _) := by
    intro pages start count
    unfold slicePages
    split
    · exact walk.pure
    · exact walk.panic (by rintro ⟨⟩)
  exact walk.bind (sliced _ _ _) fun _ => walk.bind (sliced _ _ _) fun _ =>
    walk.bind (walk.copyData _ _ _ _) fun _ => walk.pure

theorem mapImage (mappedPage : Std.TreeMap Nat CPtr) (vspace : CPtr) (footprint : Nat × Nat)
    (segments : List Segment) (freePageAddr : Nat) :
    holds (Kernel.mapImage platform mappedPage vspace footprint segments freePageAddr : KernelM ν _) := by
  have allocated : ∀ count, holds (allocatePages platform count : KernelM ν _) := by
    intro count
    induction count with
    | zero => exact walk.pure
    | succ count ih => exact walk.bind (walk.retype _) fun _ => walk.bind ih fun _ => walk.pure
  have loaded : ∀ segments pages,
      holds (loadImage platform footprint freePageAddr segments pages : KernelM ν _) := by
    intro segments
    induction segments with
    | nil => exact fun _ => walk.pure
    | cons seg rest ih => exact fun pages => walk.bind (walk.loadSegment _ _ pages seg) ih
  have mapped : ∀ pages addr mappedPage,
      holds (mapPages platform vspace addr pages mappedPage : KernelM ν _) := by
    intro pages
    induction pages with
    | nil => exact fun _ _ => walk.pure
    | cons page rest ih => exact fun _ _ => walk.bind (walk.frameMap _ _ _ _) fun _ => ih _ _
  exact walk.bind (allocated _) fun _ => walk.bind (loaded _ _) fun _ => mapped _ _ _

theorem copyItems (size : Nat) (task : Sel4Task) (addr : Nat) (number : Option Nat)
    {f : Callback ν Unit} (data : ∀ seat offset count acc, Undisturbing (f seat offset count acc)) :
    holds (do
      let result ← Kernel.processItemList platform size task addr number f ()
      return result.1 : KernelM ν _) :=
  walk.bind (walk.processItemList _ _ _ _ data _) fun _ => walk.pure

theorem withTask (badge : Nat) {body : Sel4Task → KernelM ν α} (inside : ∀ task, holds (body task)) :
    holds (Thread.locked .taskMap (taskOf badge >>= body)) :=
  walk.locked _ (walk.bind (walk.quiet (taskOf_undisturbing badge)) inside)

theorem setTask (badge : Nat) (task : Sel4Task) {result : SysResult} :
    holds (do
      Kernel.setTask badge task
      return result) :=
  walk.quiet ((setTask_undisturbing badge task).bind fun _ => .pure)

theorem sysMmap (badge addr length prot flags : Nat) :
    holds (Kernel.sysMmap platform badge addr length prot flags : KernelM ν _) := by
  have missing : ∀ vaddrs task, holds (mapMissing platform vaddrs task : KernelM ν _) := by
    intro vaddrs
    induction vaddrs with
    | nil => exact fun _ => walk.pure
    | cons vaddr rest ih =>
      intro task
      unfold mapMissing
      split
      · exact ih task
      · exact walk.bind (walk.allocate _) fun page => walk.bind (walk.mapPage task vaddr page) ih
  refine walk.withTask badge fun task => ?_
  split
  · exact walk.bind (missing _ _) fun _ => walk.setTask _ _
  · exact walk.pure

theorem sysUnmap (badge addr length : Nat) :
    holds (Kernel.sysUnmap badge addr length : KernelM ν _) := by
  have present : ∀ vaddrs task, holds (unmapPresent vaddrs task : KernelM ν _) := by
    intro vaddrs
    induction vaddrs with
    | nil => exact fun _ => walk.pure
    | cons vaddr rest ih =>
      intro task
      unfold unmapPresent
      split
      · exact ih task
      · exact walk.bind (walk.unmapPage task vaddr _) ih
  exact walk.withTask badge fun task => walk.bind (present _ _) fun _ => walk.setTask _ _

theorem sysBrk (badge addr : Nat) : holds (Kernel.sysBrk platform badge addr : KernelM ν _) := by
  refine walk.withTask badge fun task => ?_
  split
  · exact walk.pure
  · dsimp only
    split
    · refine walk.bind ?_ fun _ => walk.bind walk.pure fun _ => walk.setTask _ _
      unfold Sel4Task.brk
      split
      · exact walk.pure
      · exact walk.bind (walk.mapFresh _ _) fun _ => walk.pure
    · exact walk.bind walk.pure fun _ => walk.setTask _ _

theorem cloneTask (outcome : CloneOutcome) (task : Sel4Task) (args : CloneArgs) (flags : Nat) :
    holds (Kernel.cloneTask platform outcome task args flags : KernelM ν _) := by
  refine walk.bind walk.new fun newTask => ?_
  split
  · exact walk.bind (walk.drop _) fun _ => walk.pure
  · refine walk.bind (walk.cloneSpace _ _ _) fun newTask => walk.bind (walk.allocate _) fun page =>
      walk.bind (walk.mapPage newTask _ page) fun newTask => ?_
    split
    · exact walk.bind (walk.drop _) fun _ => walk.pure
    · exact walk.quiet ((changeTcb_undisturbing _ _).bind fun _ => (tcbReadAllRegisters_undisturbing _).bind fun _ =>
        (changeTcb_undisturbing _ _).bind fun _ => (changeTcb_undisturbing _ _).bind fun _ =>
          (setTask_undisturbing _ _).bind fun _ => .pure)

theorem sysClone (decode : List UInt8 → CloneArgs) (outcome : CloneOutcome) (badge cloneArgs : Nat) :
    holds (Kernel.sysClone platform decode outcome badge cloneArgs : KernelM ν _) := by
  refine walk.withTask badge fun task => ?_
  split
  · exact walk.pure
  · refine walk.bind (walk.readItem _ _ _) fun result => ?_
    split
    · exact walk.pure
    · split
      · exact walk.pure
      · exact walk.cloneTask _ _ _ _

theorem sysExec (program : Program) (badge : Nat) :
    holds (Kernel.sysExec platform program badge : KernelM ν _) := by
  refine walk.withTask badge fun task => ?_
  split
  · exact walk.panic (by rintro ⟨⟩)
  · exact walk.bind (walk.locked _ (walk.mapImage _ _ _ _ _)) fun _ =>
      walk.bind (walk.mapStack _ _ _ _ _) fun stacked =>
      walk.bind (walk.allocate _) fun page => walk.bind (walk.mapPage stacked.2 _ page) fun _ =>
        walk.quiet ((changeTcb_undisturbing _ _).bind fun _ => (changeTcb_undisturbing _ _).bind fun _ =>
          (setTask_undisturbing _ _).bind fun _ => (changeTcb_undisturbing _ _).bind fun _ => .pure)

theorem writeRounds (task : Sel4Task) (rounds : Nat) (loop : WriteLoop) :
    holds (Kernel.writeRounds platform task rounds loop : KernelM ν _) := by
  induction rounds generalizing loop with
  | zero => exact walk.pure
  | succ rounds ih =>
    unfold Kernel.writeRounds
    split
    · exact walk.pure
    · refine walk.bind ?_ fun _ => ih _
      unfold writeRound
      split
      · exact walk.pure
      · exact walk.bind (walk.withPage _ (loadBytes_undisturbing _ _)) fun _ =>
          walk.quiet (.bind (.update fun _ => ⟨rfl, rfl, rfl, rfl, rfl⟩) fun _ => .pure)

theorem sysWrite (badge fd buf count : Nat) :
    holds (Kernel.sysWrite platform badge fd buf count : KernelM ν _) := by
  refine walk.bind (walk.withTask badge fun task => ?_) fun result => ?_
  · split
    · exact walk.pure
    · exact walk.bind (walk.writeRounds _ _ _) fun _ => walk.pure
  · split
    · exact walk.pure
    · exact walk.quiet (.stop (by rintro ⟨⟩))

section Net

variable (link : NetLink ν) (errno : AxErrno) (layout : SocketAddrLayout)

theorem genCap (size item : Nat) (num : Option Nat) :
    holds (Kernel.genCap platform size item num : KernelM ν CPtr) := by
  refine walk.bind (walk.allocate _) fun newCap => walk.bind (walk.frameMap _ _ _ _) fun _ => ?_
  dsimp only
  split
  · exact walk.panic (by rintro ⟨⟩)
  · exact walk.quiet ((copyBytes_undisturbing _ _ _).bind fun _ => .pure)

theorem granted (size item : Nat) (num : Option Nat) {request : CPtr → KernelM ν α}
    (rest : ∀ cap, Undisturbing (request cap)) :
    holds (Kernel.genCap platform size item num >>= request) :=
  walk.bind (walk.genCap _ _ _) fun cap => walk.quiet (rest cap)

theorem passAddress (label : NetRequsetabel) (addr : SocketAddr) :
    holds (do
      storeBytes platform platform.localAddr (layout.bytes addr)
      let cap ← Kernel.genCap platform socketAddrSize platform.localAddr none
      sendNetIpc link label (some cap)
      Tcp.unitReply errno) :=
  walk.bind (walk.quiet (storeBytes_undisturbing _ _)) fun _ => walk.granted _ _ _ fun _ =>
    (sendNetIpc_undisturbing _ _ _).bind fun _ => unitReply_undisturbing errno

theorem withAddress (badge addr : Nat) (expected : List AxError)
    {request : SocketAddr → KernelM ν (AxResult Unit)} (asked : ∀ addr, holds (request addr)) :
    holds (Kernel.withAddress platform badge addr expected request) := by
  refine walk.withTask badge fun task => walk.bind (walk.readItem _ _ _) fun result => ?_
  split
  · exact walk.pure
  · refine walk.bind (asked _) fun result => ?_
    split
    · exact walk.pure
    · exact walk.quiet (errnoOf_undisturbing _ _)

theorem request (label : NetRequsetabel) :
    holds (do
      match ← (do
        sendNetIpc link label none
        Tcp.unitReply errno : KernelM ν _) with
      | .ok () => return (.ok 0 : SysResult)
      | .error error => errnoOf [.invalidInput, .addrInUse] error) := by
  refine walk.quiet ((request_undisturbing link errno label).bind fun result => ?_)
  split
  · exact .pure
  · exact errnoOf_undisturbing _ _

theorem sysAccept (badge socketFd addr : Nat) :
    holds (Kernel.sysAccept platform link errno badge socketFd addr) := by
  refine walk.withTask badge fun task => walk.bind (walk.quiet (accept_undisturbing link errno _))
    fun result => ?_
  split
  · exact walk.quiet (errnoOf_undisturbing _ _)
  · exact walk.bind (walk.quiet (storeBytes_undisturbing _ _)) fun _ =>
      walk.bind (walk.copyItems _ _ _ _ fun _ _ _ _ => copyBytes_undisturbing _ _ _) fun _ => walk.pure

theorem withCapacity (capacity : Nat) :
    holds (ByteVec.withCapacity platform capacity : KernelM ν ByteVec) := by
  unfold ByteVec.withCapacity
  split
  · exact walk.panic (by rintro ⟨⟩)
  · exact walk.pure

theorem sysSendto (badge socketFd buf len addr : Nat) :
    holds (Kernel.sysSendto platform link errno badge socketFd buf len addr) := by
  refine walk.withTask badge fun task => walk.bind (walk.readItem _ _ _) fun result => ?_
  split
  · exact walk.pure
  · refine walk.bind (walk.withCapacity len) fun payload =>
      walk.bind (walk.copyItems _ _ _ _ fun _ _ _ _ => copyBytes_undisturbing _ _ _) fun _ =>
        walk.bind ?_ fun result => ?_
    · unfold Tcp.send
      split
      · exact walk.panic (by rintro ⟨⟩)
      · exact walk.granted _ _ _ fun _ => (copyBytes_undisturbing _ _ _).bind fun _ =>
          (sendNetIpc_undisturbing _ _ _).bind fun _ =>
          (msgReg_undisturbing 0).bind fun _ => axresult_undisturbing errno _
    · split
      · exact walk.pure
      · exact walk.quiet (errnoOf_undisturbing _ _)

theorem sysRecvfrom (badge socketFd buf len : Nat) :
    holds (Kernel.sysRecvfrom platform link errno badge socketFd buf len) := by
  refine walk.withTask badge fun task => walk.bind (walk.withCapacity len) fun recvBuf =>
    walk.bind ?_ fun result => ?_
  · unfold Tcp.recv
    split
    · exact walk.panic (by rintro ⟨⟩)
    · exact walk.granted _ _ _ fun _ => (sendNetIpc_undisturbing _ _ _).bind fun _ => received_undisturbing errno _
  · split
    · exact walk.copyItems _ _ _ _ fun _ _ _ _ => copyBytes_undisturbing _ _ _
    · exact walk.quiet (errnoOf_undisturbing _ _)

end Net

variable {env : Env ν}

omit walk in
theorem handleIpcCall (walk : Walk env.platform holds) (outcome : CloneOutcome) (badge sysId : Nat)
    (args : Nat → Nat) :
    holds (Kernel.handleIpcCall env outcome badge sysId args) := by
  have looked : ∀ {body : Sel4Task → KernelM ν SysResult}, (∀ task, Undisturbing (body task)) →
      holds (Thread.locked .taskMap (taskOf badge >>= body)) :=
    fun quiet => walk.withTask badge fun task => walk.quiet (quiet task)
  unfold Kernel.handleIpcCall
  split
  · exact walk.pure
  · exact walk.sysWrite _ _ _ _
  · exact walk.sysBrk _ _
  · exact walk.sysMmap _ _ _ _ _
  · exact walk.sysUnmap _ _ _
  · exact looked fun _ => (setTask_undisturbing _ _).bind fun _ =>
      (changeTcb_undisturbing _ _).bind fun _ => .pure
  · exact looked fun _ => (setTask_undisturbing _ _).bind fun _ =>
      (changeTcb_undisturbing _ _).bind fun _ => .pure
  · exact looked fun _ => .pure
  · exact walk.sysExec _ _
  · exact walk.sysClone _ _ _ _
  · exact walk.pure
  · exact walk.pure
  · exact looked fun _ => .pure
  · exact looked fun _ => (setTask_undisturbing _ _).bind fun _ => .pure
  · exact looked fun _ => .pure
  · exact looked fun _ => .pure
  · exact walk.quiet ((Undisturbing.bind (sendNetIpc_undisturbing _ _ _) fun _ =>
      msgReg_undisturbing 0).bind fun _ => .pure)
  · exact walk.sysAccept _ _ _ _ _
  · exact walk.withAddress _ _ _ fun _ => walk.passAddress _ _ _ _ _
  · exact walk.withAddress _ _ _ fun _ => walk.passAddress _ _ _ _ _
  · exact walk.request _ _ _
  · exact walk.sysSendto _ _ _ _ _ _ _
  · exact walk.sysRecvfrom _ _ _ _ _ _
  · exact walk.request _ _ _
  · exact walk.pure

omit walk in
theorem serve (walk : Walk env.platform holds) (input : KernelInput) :
    holds (Kernel.serve env input) := by
  have replies : ∀ words, holds (replyWith words : KernelM ν Unit) := fun words =>
    walk.bind (walk.quiet (.update fun _ => ⟨rfl, rfl, rfl, rfl, rfl⟩)) fun _ => walk.reply words
  unfold Kernel.serve
  split
  · refine walk.bind (walk.allocate _) fun page => walk.withTask _ fun task =>
      walk.bind (walk.mapPage task _ page) fun _ => ?_
    exact walk.quiet ((setTask_undisturbing _ _).bind fun _ => changeTcb_undisturbing _ _)
  · exact walk.pure
  · refine walk.bind (walk.quiet (.update fun _ => ⟨rfl, rfl, rfl, rfl, rfl⟩)) fun _ => ?_
    split
    · exact replies _
    · exact walk.bind (walk.handleIpcCall _ _ _ _) fun _ => replies _
    · exact walk.quiet (.stop (by rintro ⟨⟩))
    · exact walk.pure

omit walk in
theorem startChild (walk : Walk env.platform holds) (ep : UInt64) : holds (Kernel.startChild env ep) :=
  walk.bind walk.new fun task => walk.bind (walk.loadElf task _) fun task =>
    walk.bind (walk.mapStack task _ _ _ _) fun stacked =>
    walk.bind (walk.allocate _) fun page => walk.bind (walk.mapPage stacked.2 _ page) fun _ =>
      walk.bind (walk.quiet (changeTcb_undisturbing _ _)) fun _ =>
        walk.bind (walk.quiet (changeTcb_undisturbing _ _)) fun _ =>
          walk.bind (walk.quiet (changeTcb_undisturbing _ _)) fun _ =>
            walk.locked _ (walk.quiet (setTask_undisturbing _ _))

end Walk

end RootTaskDemo.Kernel
