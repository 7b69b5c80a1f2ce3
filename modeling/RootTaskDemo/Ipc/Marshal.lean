import RootTaskDemo.Kernel.SyscallFrame
import RootTaskDemo.Kernel.UserAccess
import RootTaskDemo.Lib.Runs
import RootTaskDemo.Net.Handler

namespace RootTaskDemo.Ipc

open Common Lib Thread Kernel

variable {ν : Type} {platform : Platform}

/-! A socket address on its way from the memory of a task to the net thread: read
from the task, copied into a frame, and read out of the frame at the offset that
the request names. -/

inductive AddressCall where
  | bind
  | connect
deriving DecidableEq, Repr

def AddressCall.run (call : AddressCall) (platform : Platform) (link : NetLink ν) (errno : AxErrno)
    (layout : SocketAddrLayout) (badge socketFd addr : Nat) : KernelM ν SysResult :=
  match call with
  | .bind => sysBind platform link errno layout badge socketFd addr
  | .connect => sysConnect platform link errno layout badge socketFd addr

def AddressCall.request (call : AddressCall) (platform : Platform) (socketFd : Nat) : NetRequsetabel :=
  match call with
  | .bind => .bind (socketIdOf socketFd) (UInt64.ofNat platform.localAddr)
  | .connect => .connect (socketIdOf socketFd) 0

def keeping : NetLink (List Net.NetMessage) := fun info regs page net =>
  some { words := [0], page, net := net ++ [⟨info, regs, page⟩] }

def itemRead (smol : Net.Smoltcp) (layout : SocketAddrLayout) (page : Option Memory)
    (ptr : UInt64) :
    Option SocketAddr :=
  match effect (Net.readItem layout ptr : Net.NetM smol SocketAddr)
    { Net.NetState.init smol with page } with
  | .ok result => some result.1
  | .error _ => none

def addressRead (smol : Net.Smoltcp) (layout : SocketAddrLayout) (message : Net.NetMessage) :
    Option SocketAddr :=
  match NetRequsetabel.tryFrom message.info message.regs with
  | some (.bind _ ptr) | some (.connect _ ptr) => itemRead smol layout message.page ptr
  | _ => none

theorem decode_encodeLibcSocketAddr (addr : LibcSocketAddr) :
    decodeLibcSocketAddr (encodeLibcSocketAddr addr) = addr := by
  obtain ⟨family, data⟩ := addr
  have bound := family.toNat_lt
  have familyEq : UInt16.ofNat
    ((UInt8.ofNat family.toNat).toNat + 256 * (UInt8.ofNat (family.toNat / 256)).toNat) =
      family := by
    apply UInt16.toNat_inj.mp
    simp only [UInt8.toNat_ofNat', UInt16.toNat_ofNat']
    omega
  refine congrArg₂ LibcSocketAddr.mk familyEq (Vector.ext fun index inside => ?_)
  rw [Vector.getElem_ofFn]
  simp [encodeLibcSocketAddr, List.getD_eq_getElem?_getD, inside]

theorem length_encodeLibcSocketAddr (addr : LibcSocketAddr) :
    (encodeLibcSocketAddr addr).length = libcSocketAddrSize := by
  simp [encodeLibcSocketAddr, libcSocketAddrSize]

def grantedPage (platform : Platform) (layout : SocketAddrLayout) (own : Memory)
    (address : SocketAddr) : Memory :=
  Memory.store (fun _ => 0) 0
    ((own.store platform.localAddr (layout.bytes address)).load platform.localAddr
    (socketAddrSize * socketAddrSize))

def AddressCall.message (call : AddressCall) (platform : Platform) (layout : SocketAddrLayout)
    (socketFd : Nat) (state : KernelState ν) (address : SocketAddr) : Net.NetMessage :=
  let message := (call.request platform socketFd).build state.msgRegs
  { info := message.1, regs := message.2, page := some (grantedPage platform layout state.own address) }

variable (errno : AxErrno) (layout : SocketAddrLayout)

theorem sendNetIpc_keeping {state : KernelState (List Net.NetMessage)} (request : NetRequsetabel)
    {slot : CPtr} (frame : state.frameOf slot = some slot) :
    Delivers state (sendNetIpc keeping request (some slot))
      fun _ after => after.net = state.net ++ [⟨(request.build state.msgRegs).1, (request.build state.msgRegs).2,
        some (state.frames slot)⟩] ∧ after.msgRegs 0 = 0 := by
  refine .read_bind ?_
  rintro state rfl
  simp only [Option.bind_some, frame, Option.map_some, keeping]
  refine .update ?_
  rintro _ rfl
  exact ⟨rfl, rfl⟩

theorem axresult_zero : (axresult errno 0 : KernelM ν _) = pure (.ok 0) := rfl

theorem unitReply_returns {state : KernelState ν} (word : state.msgRegs 0 = 0) :
    Delivers state (Tcp.unitReply errno) fun result after => result = .ok () ∧ after = state := by
  refine (msgReg_returns state 0).bind fun register => .fixed ?_
  rintro _ ⟨rfl, rfl⟩
  rw [word, axresult_zero, pure_bind]
  exact .pure fun _ same => ⟨rfl, same⟩

theorem requests_address {state : KernelState (List Net.NetMessage)}
    (can : CanAllocate platform state)
    (kernel : state.cspace kernelVSpace = some (.vspace kernelVSpace))
    (tables : missingLevel platform (state.vspaces kernelVSpace) platform.pageSeat = none)
    (outside : OutsideSeats platform platform.localAddr (socketAddrSize * socketAddrSize))
    (address : SocketAddr) (request : NetRequsetabel) :
    Delivers state
      (do
        storeBytes platform platform.localAddr (layout.bytes address)
        let cap ← genCap platform socketAddrSize platform.localAddr none
        sendNetIpc keeping request (some cap)
        Tcp.unitReply errno)
      fun result after => result = .ok () ∧ after.net = state.net ++
        [⟨(request.build state.msgRegs).1, (request.build state.msgRegs).2,
          some (grantedPage platform layout state.own address)⟩] := by
  have placed : OutsideSeats platform platform.localAddr (layout.bytes address).length := by
    intro offset inside
    rw [layout.length_bytes] at inside
    exact outside offset (Nat.lt_of_lt_of_le inside (by decide))
  refine (storeBytes_own state placed).bind fun _ => .fixed ?_
  rintro stored rfl
  have canStored : CanAllocate platform
    (state.setOwn (state.own.store platform.localAddr (layout.bytes address))) :=
    ⟨can.slot, can.free, can.memory⟩
  refine (genCap_shows canStored kernel tables (by decide) (by decide) outside).bind fun cap =>
    .fixed ?_
  rintro grantedState ⟨rfl, -, page⟩
  refine (sendNetIpc_keeping request page.frame).bind fun _ => .fixed ?_
  rintro answered ⟨netEq, word⟩
  refine (unitReply_returns errno word).mono ?_
  rintro result _ ⟨rfl, rfl⟩
  refine ⟨rfl, ?_⟩
  rw [netEq, page.net, page.msgRegs, page.frames, Function.update_self]
  rfl

theorem tables_setPage (state : KernelState ν) (vaddr : Nat) (mapping : Option Mapping) :
    missingLevel platform ((state.setPage kernelVSpace vaddr mapping).vspaces kernelVSpace) platform.pageSeat =
      missingLevel platform (state.vspaces kernelVSpace) platform.pageSeat := by
  simp only [missingLevel, KernelState.setPage, KernelState.changeSpace, Function.update_self]

section Call

variable {state : KernelState (List Net.NetMessage)} {badge : Nat} {task : Sel4Task} {addr : Nat}
  {libc : LibcSocketAddr}
  (call : AddressCall) (socketFd : Nat)

theorem run_sends (ready : SeatReady platform state) (can : CanAllocate platform state)
    (outside : OutsideSeats platform platform.localAddr (socketAddrSize * socketAddrSize))
    (found : state.tasks[badge]? = some task)
    (holds : state.Holds task addr (encodeLibcSocketAddr libc))
    (inPage : libcSocketAddrSize + addr % Kernel.pageSize ≤ Kernel.pageSize) :
    Delivers state (call.run platform keeping errno layout badge socketFd addr)
      fun _ after => after.net = state.net ++ [call.message platform layout socketFd state libc.toSocketAddr] := by
  have size := length_encodeLibcSocketAddr libc
  have called : ∀ (expected : List AxError) (request : SocketAddr → KernelM (List Net.NetMessage) (AxResult Unit)),
      (∀ address, Delivers (state.setPage kernelVSpace platform.pageSeat none) (request address)
        fun result after => result = .ok () ∧
          after.net = state.net ++ [call.message platform layout socketFd state address]) →
      Delivers state (withAddress platform badge addr expected request)
        fun _ after => after.net = state.net ++ [call.message platform layout socketFd state libc.toSocketAddr] := by
    intro expected request requests
    refine .locked ((taskOf_returns found).bind fun _ => .fixed ?_)
    rintro _ ⟨rfl, rfl⟩
    have item := readItem_returns ready holds (by rw [size]; decide) (by rw [size]; exact inPage)
    rw [size] at item
    refine item.bind fun result => .fixed ?_
    rintro _ ⟨rfl, rfl⟩
    dsimp only
    rw [decode_encodeLibcSocketAddr]
    refine (requests _).bind fun result => .fixed ?_
    rintro after ⟨rfl, netEq⟩
    exact .pure fun _ same => same ▸ netEq
  have canRead : CanAllocate platform (state.setPage kernelVSpace platform.pageSeat none) :=
    ⟨can.slot, can.free, can.memory⟩
  have tables : missingLevel platform
    ((state.setPage kernelVSpace platform.pageSeat none).vspaces kernelVSpace)
      platform.pageSeat = none := (tables_setPage state platform.pageSeat none).trans ready.tables
  cases call with
  | bind => exact called _ _ fun address => requests_address errno layout canRead ready.kernel tables outside address _
  | connect => exact called _ _ fun address => requests_address errno layout canRead ready.kernel tables outside address _

theorem run_refuses (found : state.tasks[badge]? = some task)
    (crossing : Kernel.pageSize < libcSocketAddrSize + addr % Kernel.pageSize) :
    Delivers state (call.run platform keeping errno layout badge socketFd addr)
      fun _ after => after.net = state.net := by
  have refused : ∀ (expected : List AxError) (request : SocketAddr → KernelM (List Net.NetMessage) (AxResult Unit)),
      Delivers state (withAddress platform badge addr expected request)
        fun _ after => after.net = state.net := by
    intro expected request
    refine .locked ((taskOf_returns found).bind fun _ => .fixed ?_)
    rintro _ ⟨rfl, rfl⟩
    rw [readItem_crossing _ crossing, pure_bind]
    exact .pure fun _ same => same ▸ rfl
  cases call with
  | bind => exact refused _ _
  | connect => exact refused _ _

end Call

theorem itemRead_granted (smol : Net.Smoltcp) (page : Memory) (ptr : UInt64) :
    itemRead smol layout (some page) ptr =
      if Net.pageSize - ptr.toNat % Net.pageSize < socketAddrSize then none
      else some (layout.read (page.load (ptr.toNat % Net.pageSize) socketAddrSize)) := by
  have looked : (Net.readItem layout ptr : Net.NetM smol _) = (do
      let page ← Net.mapPage
      if Net.pageSize - ptr.toNat % Net.pageSize < socketAddrSize then Net.panicWith .notInPage
      else return layout.read (page.load (ptr.toNat % Net.pageSize) socketAddrSize)) := rfl
  unfold itemRead
  rw [looked]
  by_cases short : Net.pageSize - ptr.toNat % Net.pageSize < socketAddrSize
  · simp only [if_pos short]
    rfl
  · simp only [if_neg short]
    rfl

theorem addressRead_message (smol : Net.Smoltcp) (call : AddressCall) (socketFd : Nat)
    (state : KernelState ν) (address : SocketAddr) :
    addressRead smol layout (call.message platform layout socketFd state address) =
      itemRead smol layout (some (grantedPage platform layout state.own address))
        (match call with | .bind => UInt64.ofNat platform.localAddr | .connect => 0) := by
  have decoded := NetRequsetabel.tryFrom_build (call.request platform socketFd) state.msgRegs
  unfold addressRead AddressCall.message
  dsimp only
  rw [decoded]
  cases call with
  | bind => rfl
  | connect => rfl

theorem grantedPage_load (own : Memory) (address : SocketAddr) :
    (grantedPage platform layout own address).load 0 socketAddrSize = layout.bytes address := by
  unfold grantedPage
  rw [Memory.load_store_take (by rw [Memory.length_load]; decide), Memory.take_load (by decide)]
  have whole : (own.store platform.localAddr (layout.bytes address)).load platform.localAddr
    (layout.bytes address).length =
      layout.bytes address := Memory.load_store
  rw [layout.length_bytes] at whole
  exact whole

/-- Wherever an address lies in the memory of a task, the handler reads that
address. Only one that crosses a page is not sent. -/
def Marshals (smol : Net.Smoltcp) (platform : Platform) (call : AddressCall) : Prop :=
  ∀ (errno : AxErrno) (layout : SocketAddrLayout) (state : KernelState (List Net.NetMessage)) (badge : Nat)
    (task : Sel4Task) (socketFd addr : Nat) (libc : LibcSocketAddr),
    SeatReady platform state → CanAllocate platform state → state.tasks[badge]? = some task →
    state.Holds task addr (encodeLibcSocketAddr libc) →
    MemTriple (fun now => now = state) (call.run platform keeping errno layout badge socketFd addr)
      (fun _ after => ∃ sent, after.net = state.net ++ sent ∧
        (∀ message ∈ sent, addressRead smol layout message = some libc.toSocketAddr) ∧
        (sent = [] → Kernel.pageSize < libcSocketAddrSize + addr % Kernel.pageSize)) (fun _ => False)

theorem marshals_of_offset_zero (smol : Net.Smoltcp) {call : AddressCall}
    (placed : OutsideSeats platform platform.localAddr (socketAddrSize * socketAddrSize))
    (offset : call = .connect ∨ platform.localAddr % Kernel.pageSize = 0) :
    Marshals smol platform call := by
  intro errno layout state badge task socketFd addr libc ready can found holds
  by_cases inPage : libcSocketAddrSize + addr % Kernel.pageSize ≤ Kernel.pageSize
  · refine (run_sends errno layout call socketFd ready can placed found holds inPage).mono ?_
    intro _ after netEq
    refine ⟨_, netEq, fun message member => ?_, nofun⟩
    obtain rfl := List.mem_singleton.mp member
    have start : (match call with | .bind => UInt64.ofNat platform.localAddr | .connect => (0 : UInt64)).toNat %
        Net.pageSize = 0 := by
      cases call with
      | connect => rfl
      | bind =>
        obtain offset := offset.resolve_left nofun
        simp only [UInt64.toNat_ofNat']
        unfold Kernel.pageSize at offset
        unfold Net.pageSize
        omega
    rw [addressRead_message, itemRead_granted, start, if_neg (by decide), grantedPage_load, layout.read_bytes]
  · refine (run_refuses errno layout call socketFd found (by omega)).mono ?_
    intro _ after netEq
    exact ⟨[], by rw [netEq, List.append_nil], nofun, fun _ => by omega⟩

/-- Port 1801 at the unspecified address: every other place than the first one of
its bytes has something else than its first byte. -/
def strayLibc : LibcSocketAddr :=
    { saFamily := 2, saData := #v[7, 9, 0, 0, 0, 0, 0, 0, 0, 0, 0, 0, 0, 0] }

def strayTask : Sel4Task :=
  { pid := 0, id := 1, tcb := 0, cnode := 0, vspace := 0, mappedPt := [],
    mappedPage := Std.TreeMap.empty.insert 0x1000 0x500,
    heap := 0, exit := none, clearChildTid := none }

/-- One task, whose only page starts with the contents; all other memory is zero. -/
def oneTask (net : ν) (contents : List UInt8) : KernelState ν :=
  { KernelState.boot net with
    cnodes := fun _ => true
    emptySlots := (0x1001, 0x100000)
    cspace := Function.update (KernelState.boot net).cspace 0x500 (some (.frame 0x500 none))
    frames := fun _ => Memory.store (fun _ => 0) 0 contents
    tasks := Std.TreeMap.empty.insert 1 strayTask }

theorem oneTask_ready (net : ν) (contents : List UInt8) :
    SeatReady platform (oneTask net contents) := by
  refine ⟨by simp [oneTask, KernelState.boot, kernelVSpace], by simp [oneTask, KernelState.boot, kernelVSpace, tempSlot], ?_⟩
  simp [missingLevel, oneTask, KernelState.boot]

theorem oneTask_canAllocate (net : ν) (contents : List UInt8)
    (room : Kernel.pageSize ≤ platform.untypedSize) :
    CanAllocate platform (oneTask net contents) := by
  have inNode : ¬ (oneTask net contents).emptySlots.1 &&& 0xfff = 0 :=
    show ¬ 0x1001 &&& 0xfff = 0 by decide
  refine ⟨show 0x1001 < 0x100000 by decide, by simp [oneTask, KernelState.boot, kernelVSpace], ?_⟩
  rw [if_neg inNode]
  exact ⟨rfl, show Untyped.start 0 12 + 2 ^ 12 ≤ platform.untypedSize from room⟩

theorem oneTask_named (net : ν) (contents : List UInt8) : FramesNamed (oneTask net contents) := by
  intro slot frame mapped capEq
  simp only [oneTask, KernelState.boot] at capEq
  rw [Function.update_apply] at capEq
  split at capEq
  · rename_i same
    cases capEq
    exact same.symm
  · rw [Function.update_apply] at capEq
    split at capEq <;> cases capEq

theorem oneTask_found (net : ν) (contents : List UInt8) :
    (oneTask net contents).tasks[1]? = some strayTask := by
  simp [oneTask]

theorem oneTask_holds (net : ν) {contents : List UInt8} (short : contents.length ≤ Kernel.pageSize) :
    (oneTask net contents).Holds strayTask 0x1000 contents := by
  intro index byte found
  obtain ⟨bound, -⟩ := List.getElem?_eq_some_iff.mp found
  have inside : index < 0x1000 := Nat.lt_of_lt_of_le bound short
  have page : alignBits (0x1000 + index) 12 = 0x1000 := by
    unfold alignBits
    omega
  have offset : (0x1000 + index) % Kernel.pageSize = index := by
    unfold Kernel.pageSize
    omega
  simp [KernelState.userByte, page, offset, strayTask, KernelState.frameOf, oneTask, Memory.store,
    found]

def strayState : KernelState (List Net.NetMessage) := oneTask [] (encodeLibcSocketAddr strayLibc)

theorem strayState_holds : strayState.Holds strayTask 0x1000 (encodeLibcSocketAddr strayLibc) :=
  oneTask_holds [] (by rw [length_encodeLibcSocketAddr]; decide)

theorem stray_byte {offset : Nat} (positive : 0 < offset) :
    grantedPage platform .tagged strayState.own strayLibc.toSocketAddr offset ≠ 7 := by
  have bytes : ∀ index, 0 < index →
      ((SocketAddrLayout.tagged.bytes strayLibc.toSocketAddr)[index]?).getD 0 ≠ 7 := by
    intro index positive
    by_cases inside : index < 32
    · have all : ∀ index < 32, 0 < index → ((SocketAddrLayout.tagged.bytes strayLibc.toSocketAddr)[index]?).getD 0 ≠ 7 := by
        decide +kernel
      exact all index inside positive
    · rw [List.getElem?_eq_none (by rw [SocketAddrLayout.length_bytes]; omega)]
      decide
  have own : ∀ index, (Memory.store strayState.own platform.localAddr
      (SocketAddrLayout.tagged.bytes strayLibc.toSocketAddr)) (platform.localAddr + index) =
      ((SocketAddrLayout.tagged.bytes strayLibc.toSocketAddr)[index]?).getD 0 := by
    intro index
    unfold Memory.store
    rw [if_pos (Nat.le_add_right _ _), Nat.add_sub_cancel_left]
    rfl
  unfold grantedPage Memory.store
  rw [if_pos (Nat.zero_le _), Nat.sub_zero]
  by_cases inside : offset < socketAddrSize * socketAddrSize
  · have loaded : (Memory.load (Memory.store strayState.own platform.localAddr
        (SocketAddrLayout.tagged.bytes strayLibc.toSocketAddr)) platform.localAddr (socketAddrSize * socketAddrSize))[offset]? =
        some _ := Memory.getElem?_load inside
    rw [own] at loaded
    exact fun same => bytes offset positive ((congrArg (Option.getD · 0) loaded).symm.trans same)
  · rw [List.getElem?_eq_none (by rw [Memory.length_load]; omega)]
    exact (by decide : (0 : UInt8) ≠ 7)

theorem stray_read (smol : Net.Smoltcp) {ptr : UInt64} (offset : ptr.toNat % Net.pageSize ≠ 0) :
    itemRead smol .tagged (some (grantedPage platform .tagged strayState.own strayLibc.toSocketAddr)) ptr ≠
      some strayLibc.toSocketAddr := by
  rw [itemRead_granted]
  split
  · exact nofun
  · intro same
    have port := congrArg (fun addr : SocketAddr => addr.port.toNat) (Option.some.inj same)
    have high : grantedPage platform .tagged strayState.own strayLibc.toSocketAddr
      (ptr.toNat % Net.pageSize) ≠ 7 :=
      stray_byte (Nat.pos_of_ne_zero offset)
    have expected : strayLibc.toSocketAddr.port.toNat = 7 * 256 + 9 := by decide
    rw [expected] at port
    simp only [SocketAddrLayout.tagged, readTagged, UInt16.toNat_ofNat', List.getD_eq_getElem?_getD] at port
    rw [Memory.getElem?_load (by decide), Option.getD_some, Nat.add_zero] at port
    refine high (UInt8.toNat_inj.mp ?_)
    have := UInt8.toNat_lt (grantedPage platform .tagged strayState.own strayLibc.toSocketAddr
      (ptr.toNat % Net.pageSize))
    have := UInt8.toNat_lt ((((grantedPage platform .tagged strayState.own strayLibc.toSocketAddr).load
      (ptr.toNat % Net.pageSize) socketAddrSize)[1]?).getD 0)
    simp only [SocketAddrLayout.tagged] at *
    change _ = 7
    omega

theorem address_marshalled_iff (smol : Net.Smoltcp) (platform : Platform) (call : AddressCall)
    (placed : OutsideSeats platform platform.localAddr (socketAddrSize * socketAddrSize))
    (room : Kernel.pageSize ≤ platform.untypedSize) :
    Marshals smol platform call ↔ call = .connect ∨ platform.localAddr % Kernel.pageSize = 0 := by
  refine ⟨fun marshals => ?_, marshals_of_offset_zero smol placed⟩
  cases call with
  | connect => exact Or.inl rfl
  | bind =>
      refine Or.inr (by_contra fun offset => ?_)
      have found : strayState.tasks[1]? = some strayTask := oneTask_found ..
      have claimed := marshals .sequential .tagged strayState 1 strayTask 0 0x1000 strayLibc (oneTask_ready ..)
        (oneTask_canAllocate _ _ room) found strayState_holds
      have sends := run_sends .sequential .tagged .bind 0 (oneTask_ready ..) (oneTask_canAllocate _ _ room) placed found
        strayState_holds (by decide)
      obtain ⟨_, after, ⟨sent, netEq, reads, -⟩, netEq'⟩ := claimed.meets sends
      have sentEq := List.append_cancel_left (netEq.symm.trans netEq')
      have address := reads _ (sentEq ▸ List.mem_singleton_self _)
      rw [addressRead_message] at address
      refine stray_read smol ?_ address
      rw [UInt64.toNat_ofNat']
      unfold Kernel.pageSize at offset
      unfold Net.pageSize
      omega

theorem smallPlatform_placed :
    OutsideSeats smallPlatform smallPlatform.localAddr (socketAddrSize * socketAddrSize) := by
  unfold OutsideSeats
  decide +kernel

theorem address_marshalled_iff_smallPlatform : ¬ Marshals .small smallPlatform .bind := fun marshals =>
  absurd ((address_marshalled_iff .small smallPlatform .bind smallPlatform_placed (by decide)).mp
    marshals) (by decide)

/-- The variable lies at offset sixteen, so the handler of the bind request reads
from the middle of the address. -/
theorem bind_address_lost :
    strayState.Holds strayTask 0x1000 (encodeLibcSocketAddr strayLibc) ∧
    (finalState ((sysBind smallPlatform keeping .sequential .tagged 1 0 0x1000).run
      ⟨[], [], [], strayState⟩)).memory.net.map (addressRead .small .tagged) = [some ⟨.v4 (Vector.replicate 4 0), 0⟩] ∧
    strayLibc.toSocketAddr = ⟨.v4 (Vector.replicate 4 0), 1801⟩ :=
  ⟨strayState_holds, by decide +kernel⟩

end RootTaskDemo.Ipc
