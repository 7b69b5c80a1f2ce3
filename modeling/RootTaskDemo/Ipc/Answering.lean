import RootTaskDemo.Ipc.ReplyCodec
import RootTaskDemo.Ipc.Transfer
import RootTaskDemo.Kernel.Returns

namespace RootTaskDemo.Ipc

open Common Lib Thread Kernel

variable {ν α : Type} {platform : Platform}
variable {outcome : AxResult UInt64}

/-! The system calls on sockets when the net thread has come to a result: which
results the caller gets to see, and which bring the kernel thread down. -/

/-- The calls with their argument words, by the type of what the operation of the
net thread results in. -/
inductive SocketCall : Type → Type where
  | bind (socketFd addr : UInt64) : SocketCall Unit
  | connect (socketFd addr : UInt64) : SocketCall Unit
  | listen (socketFd : UInt64) : SocketCall Unit
  | accept (socketFd addr : UInt64) : SocketCall (UInt64 × SocketAddr)
  | shutdown (socketFd : UInt64) : SocketCall Unit
  | sendto (socketFd buf len addr : UInt64) : SocketCall UInt64
  | recvfrom (socketFd buf len : UInt64) : SocketCall UInt64

namespace SocketCall

def run (platform : Platform) (link : NetLink ν) (errno : AxErrno) (layout : SocketAddrLayout)
    (badge : Nat) :
    SocketCall α → KernelM ν SysResult
  | bind socketFd addr => sysBind platform link errno layout badge socketFd.toNat addr.toNat
  | connect socketFd addr => sysConnect platform link errno layout badge socketFd.toNat addr.toNat
  | listen socketFd => sysListen link errno socketFd.toNat
  | accept socketFd addr => sysAccept platform link errno badge socketFd.toNat addr.toNat
  | shutdown socketFd => sysShutdown link errno socketFd.toNat
  | sendto socketFd buf len addr =>
    sysSendto platform link errno badge socketFd.toNat buf.toNat len.toNat addr.toNat
  | recvfrom socketFd buf len =>
    sysRecvfrom platform link errno badge socketFd.toNat buf.toNat len.toNat

def words (errno : AxErrno) : SocketCall α → AxResult α → List UInt64
  | bind _ _, outcome => [Net.handleAxresult errno outcome]
  | connect _ _, outcome => [Net.handleAxresult errno outcome]
  | listen _, outcome => [Net.handleAxresult errno outcome]
  | accept _ _, outcome => Net.acceptWords errno outcome
  | shutdown _, outcome => [Net.handleAxresult errno outcome]
  | sendto _ _ _ _, outcome => [Net.countWord errno outcome]
  | recvfrom _ _ _, outcome => [Net.countWord errno outcome]

/-- The results there can be: the id of a socket is an index of a vector, and the
slice that goes with a send or a receive has no bytes to count. -/
def Produces : SocketCall α → AxResult α → Prop
  | accept _ _, outcome => ∀ accepted, outcome = .ok accepted → accepted.1.toNat < 2 ^ 63
  | sendto _ _ _ _, outcome => ∀ count, outcome = .ok count → count = 0
  | recvfrom _ _ _, outcome => ∀ count, outcome = .ok count → count = 0
  | _, _ => True

end SocketCall

/-- The net thread when its operation has come to the result, whatever else it does
to the frame and to its own state. -/
def answering (words : List UInt64) (page : Option Memory) (net : ν) : NetLink ν :=
  fun _ _ _ _ => some { words, page, net }

def Expected (expected : List AxError) (outcome : AxResult α) : Prop :=
  ∀ error, outcome = .error error → error ∈ expected

def SocketCall.Answerable (platform : Platform) (state : KernelState ν) (task : Sel4Task) :
    SocketCall α → AxResult α → Prop
  | bind _ addr, outcome => InRecord task libcSocketAddrSize addr.toNat →
    CanAllocate platform state ∧ Expected [.invalidInput] outcome
  | connect _ addr, outcome => InRecord task libcSocketAddrSize addr.toNat →
    CanAllocate platform state ∧ Expected [.invalidInput, .addrInUse] outcome
  | listen _, outcome => Expected [.invalidInput, .addrInUse] outcome
  | accept _ addr, _ => WriteFits platform state task libcSocketAddrSize addr.toNat
  | shutdown _, outcome => Expected [.invalidInput, .addrInUse] outcome
  | sendto _ _ len addr, outcome => InRecord task libcSocketAddrSize addr.toNat →
    len.toNat ≤ platform.heapRoom ∧ CanAllocate platform state ∧ Expected [.invalidInput, .addrInUse] outcome
  | recvfrom _ _ len, outcome =>
    len.toNat ≤ platform.heapRoom ∧ CanAllocate platform state ∧ Expected [.invalidInput, .addrInUse] outcome

structure Placed (platform : Platform) (errno : AxErrno) : Prop where
  localAddr : OutsideSeats platform platform.localAddr (socketAddrSize * socketAddrSize)
  heap : ∀ capacity ≤ platform.heapRoom, OutsideSeats platform (platform.heapBuffer capacity) capacity
  /-- An error code that is taken for a length stays inside a page and inside the heap. -/
  code_page : ∀ error, (errno.code error).toNat ≤ Kernel.pageSize
  code_heap : ∀ capacity ≤ platform.heapRoom, ∀ error,
    OutsideSeats platform (platform.heapBuffer capacity) (errno.code error).toNat

section Reply

variable {state : KernelState ν} {words : List UInt64} {page : Option Memory} {net : ν}

theorem sendNetIpc_answering (state : KernelState ν) (request : NetRequsetabel) (cap : Option CPtr) :
    Delivers state (sendNetIpc (answering words page net) request cap)
      fun _ after => Undisturbed state after ∧ ∃ regs : MsgRegs, after.msgRegs = regs.write words := by
  refine .read_bind ?_
  rintro state rfl
  refine .update ?_
  rintro _ rfl
  exact ⟨⟨rfl, rfl, rfl, rfl, rfl⟩, _, rfl⟩

theorem axresult_unit (errno : AxErrno) (outcome : AxResult Unit) :
    (axresult errno (Net.handleAxresult errno outcome) : KernelM ν _) = pure (outcome.map fun _ => 0) := by
  cases outcome with
  | ok value => rfl
  | error error =>
    unfold axresult Net.handleAxresult
    dsimp only
    rw [handleAxresult_errorWord]
    rfl

theorem axresult_count (errno : AxErrno) (none : ∀ count, outcome = .ok count → count = 0) :
    (axresult errno (Net.countWord errno outcome) : KernelM ν _) = pure outcome := by
  cases outcome with
  | ok count =>
    rw [none count rfl]
    rfl
  | error error =>
    unfold axresult Net.countWord
    dsimp only
    rw [handleAxresult_errorWord]

theorem unitReply_reads (errno : AxErrno) (outcome : AxResult Unit) {regs : MsgRegs}
    (replied : state.msgRegs = regs.write [Net.handleAxresult errno outcome]) :
    Delivers state (Tcp.unitReply errno) fun result after => result = outcome ∧ after = state := by
  refine (msgReg_returns state 0).bind fun word => .fixed ?_
  rintro state ⟨rfl, rfl⟩
  have word : state.msgRegs 0 = Net.handleAxresult errno outcome := congrFun replied 0
  rw [word, axresult_unit, pure_bind]
  refine .pure fun _ same => ⟨?_, same⟩
  cases outcome with
  | ok value => rfl
  | error error => rfl

theorem request_reads (errno : AxErrno) (outcome : AxResult Unit) (state : KernelState ν)
    (request : NetRequsetabel) :
    Delivers state
      (do sendNetIpc (answering [Net.handleAxresult errno outcome] page net) request none; Tcp.unitReply errno)
      fun result _ => result = outcome := by
  refine (sendNetIpc_answering state request none).bind fun _ => .fixed ?_
  rintro answered ⟨-, regs, replied⟩
  exact (unitReply_reads errno outcome replied).mono fun _ _ spec => spec.1

theorem errnoOf_decides (expected : List AxError) (error : AxError) :
    RunFrom state (errnoOf expected error : KernelM ν SysResult)
      (fun _ _ => Expected expected (.error error : AxResult α))
        (fun _ => ¬ Expected expected (.error error : AxResult α)) := by
  unfold errnoOf
  split
  · rename_i member
    refine .pure fun _ _ other same => ?_
    cases same
    exact member
  · rename_i unexpected
    exact .stop fun _ _ expects => unexpected (expects error rfl)

theorem expected_ok (expected : List AxError) (value : α) : Expected expected (.ok value) := by
  rintro error ⟨⟩

theorem unitResult_decides (expected : List AxError) (outcome : AxResult Unit) (state : KernelState ν) :
    RunFrom state
      (match outcome with
        | .ok () => pure (.ok 0)
        | .error error => errnoOf expected error : KernelM ν SysResult)
      (fun _ _ => Expected expected outcome) (fun _ => ¬ Expected expected outcome) := by
  cases outcome with
  | ok value => exact .pure fun _ _ => expected_ok expected value
  | error error => exact errnoOf_decides expected error

theorem unitCall_decides (errno : AxErrno) (expected : List AxError) (outcome : AxResult Unit)
    (state : KernelState ν) (request : NetRequsetabel) :
    RunFrom state
      (do
        match ← (do sendNetIpc (answering [Net.handleAxresult errno outcome] page net) request none; Tcp.unitReply errno) with
        | .ok () => return .ok 0
        | .error error => errnoOf expected error : KernelM ν SysResult)
      (fun _ _ => Expected expected outcome) (fun _ => ¬ Expected expected outcome) := by
  refine (request_reads errno outcome state request).raising.bind fun result => .fixed ?_
  rintro answered rfl
  exact unitResult_decides expected result answered

end Reply

section Frames

variable {state : KernelState ν} {page : Option Memory} {net : ν} {errno : AxErrno}
  {layout : SocketAddrLayout}

theorem addressRequest_decides (placed : Placed platform errno) (ready : SeatReady platform state)
    (outcome : AxResult Unit) (address : SocketAddr) (request : NetRequsetabel) :
    RunFrom state
      (do
        storeBytes platform platform.localAddr (layout.bytes address)
        let cap ← genCap platform socketAddrSize platform.localAddr none
        sendNetIpc (answering [Net.handleAxresult errno outcome] page net) request (some cap)
        Tcp.unitReply errno)
      (fun result _ => CanAllocate platform state ∧ result = outcome) (fun _ => ¬ CanAllocate platform state) := by
  have local_ : OutsideSeats platform platform.localAddr (layout.bytes address).length := by
    intro offset inside
    rw [layout.length_bytes] at inside
    exact placed.localAddr offset (Nat.lt_of_lt_of_le inside (by decide))
  refine (storeBytes_own state local_).raising.bind fun _ => .fixed ?_
  rintro _ rfl
  have aside : Aside state (state.setOwn
    (state.own.store platform.localAddr (layout.bytes address))) := ⟨rfl, rfl, rfl, rfl, rfl⟩
  refine ((genCap_decides (ready.aside aside) (by decide) (by decide) placed.localAddr).onStop
      fun _ denied can => denied ((CanAllocate.aside aside).mpr can)).bind fun cap => .fixed ?_
  rintro granted ⟨can, -⟩
  refine (sendNetIpc_answering granted request (some cap)).raising.bind fun _ => .fixed ?_
  rintro answered ⟨-, regs, replied⟩
  refine (unitReply_reads errno outcome replied).weaken (fun _ same => same) ?_ fun _ never =>
    never.elim
  rintro result _ ⟨rfl, -⟩
  exact ⟨(CanAllocate.aside aside).mp can, rfl⟩

theorem withAddress_decides (ready : SeatReady platform state) {badge : Nat} {task : Sel4Task}
    (found : state.tasks[badge]? = some task) (backed : Backed state task) (addr : Nat)
    (expected : List AxError) {outcome : AxResult Unit}
    {request : SocketAddr → KernelM ν (AxResult Unit)}
    (requests : ∀ address now, Aside state now →
      MemTriple (fun memory => memory = now) (request address) (fun result _ =>
      CanAllocate platform state ∧ result = outcome) (fun _ => ¬ CanAllocate platform state)) :
    RunFrom state (withAddress platform badge addr expected request)
      (fun _ _ => InRecord task libcSocketAddrSize addr → CanAllocate platform state ∧ Expected expected outcome)
      (fun _ => ¬ (InRecord task libcSocketAddrSize addr → CanAllocate platform state ∧
        Expected expected outcome)) := by
  refine .locked ((taskOf_returns found).raising.bind fun caller => .fixed ?_)
  rintro state ⟨rfl, rfl⟩
  refine (readItem_settled ready backed (by decide) addr).raising.bind fun item => .fixed ?_
  rintro read ⟨aside, recorded⟩
  cases item with
  | error error =>
    refine .pure fun _ _ present => ?_
    obtain ⟨_, ⟨⟩⟩ := recorded.mpr present
  | ok bytes =>
    have present := recorded.mp ⟨bytes, rfl⟩
    refine ((requests _ read aside).onStop
        fun _ denied holds => denied (holds present).1).bind fun result => .fixed ?_
    rintro answered ⟨can, rfl⟩
    exact (unitResult_decides expected result answered).weaken (fun _ same => same)
      (fun _ _ expects _ => ⟨can, expects⟩)
      fun _ denied holds => denied (holds present).2

theorem sendEmpty_decides (ready : SeatReady platform state)
    (none : ∀ count, outcome = .ok count → count = 0) (socketId : UInt64) (buf : Nat) :
    RunFrom state
      (Tcp.send platform (answering [Net.countWord errno outcome] page net) errno socketId buf 0)
      (fun result _ => CanAllocate platform state ∧ result = outcome) (fun _ => ¬ CanAllocate platform state) := by
  unfold Tcp.send
  rw [if_neg (by decide)]
  have nothing : OutsideSeats platform buf (1 * (some 0).getD 1 * 1) := fun _ impossible =>
    absurd impossible (Nat.not_lt_zero _)
  refine (genCap_decides ready (Nat.zero_le _) (Nat.zero_le _) nothing).bind fun cap => .fixed ?_
  rintro granted ⟨can, -⟩
  have copied : RunFrom granted (copyBytes platform buf platform.pageSeat 0)
      (fun _ after => after = granted) (fun _ => ¬ CanAllocate platform state) := .pure fun _ same => same
  refine copied.bind fun _ => (sendNetIpc_answering granted _ (some cap)).raising.bind fun _ =>
    .fixed ?_
  rintro answered ⟨-, regs, replied⟩
  refine (msgReg_returns answered 0).raising.bind fun word => .fixed ?_
  rintro answered ⟨rfl, rfl⟩
  have word : answered.msgRegs 0 = Net.countWord errno outcome := congrFun replied 0
  rw [word, axresult_count errno none]
  exact .pure fun _ _ => ⟨can, rfl⟩

theorem received_reads (placed : Placed platform errno) {capacity : Nat}
    (room : capacity ≤ platform.heapRoom) {frame : ObjId} (shown : Shows platform frame state)
    (none : ∀ count, outcome = .ok count → count = 0) {regs : MsgRegs}
    (replied : state.msgRegs = regs.write [Net.countWord errno outcome]) :
    Delivers state (Tcp.received platform errno (platform.heapBuffer capacity))
      fun result _ => result = outcome := by
  have word : state.msgRegs 0 = Net.countWord errno outcome := congrFun replied 0
  have bounds : (Net.countWord errno outcome).toNat ≤ Kernel.pageSize ∧
      OutsideSeats platform (platform.heapBuffer capacity) (Net.countWord errno outcome).toNat := by
    cases outcome with
    | ok count =>
      rw [none count rfl]
      exact ⟨Nat.zero_le _, fun _ impossible => absurd impossible (Nat.not_lt_zero _)⟩
    | error error =>
      have code : (Net.countWord errno (.error error)).toNat = (errno.code error).toNat :=
        toNat_ofSigned (Int.le_of_lt (errno.code_pos error)) (errno.code_i32 error)
      rw [code]
      exact ⟨placed.code_page error, placed.code_heap capacity room error⟩
  refine (msgReg_returns state 0).bind fun register => .fixed ?_
  rintro state ⟨rfl, rfl⟩
  rw [word, axresult_count errno none]
  have copied : Delivers state
      (copyBytes platform platform.pageSeat (platform.heapBuffer capacity) (Net.countWord errno outcome).toNat)
      fun _ _ => True := by
    have loads := loadBytes_seat shown (by rw [Nat.zero_add]; exact bounds.1 : 0 + (Net.countWord errno outcome).toNat ≤ Kernel.pageSize)
    rw [Nat.add_zero] at loads
    refine loads.bind fun bytes => .fixed ?_
    rintro state ⟨rfl, rfl⟩
    have fits : OutsideSeats platform (platform.heapBuffer capacity)
        (Memory.load (state.frames frame) 0 (Net.countWord errno outcome).toNat).length := by
      rw [Memory.length_load]
      exact bounds.2
    exact (storeBytes_own state fits).mono fun _ _ _ => trivial
  exact copied.bind fun _ => .pure fun _ _ => rfl

theorem recvEmpty_decides (placed : Placed platform errno) (ready : SeatReady platform state)
    {capacity : Nat} (room : capacity ≤ platform.heapRoom)
    (none : ∀ count, outcome = .ok count → count = 0) (socketId : UInt64) :
    RunFrom state
      (Tcp.recv platform (answering [Net.countWord errno outcome] page net) errno socketId
        (platform.heapBuffer capacity) 0)
      (fun result _ => CanAllocate platform state ∧ result = outcome) (fun _ => ¬ CanAllocate platform state) := by
  unfold Tcp.recv
  rw [if_neg (by decide)]
  have nothing : OutsideSeats platform (platform.heapBuffer capacity) (1 * (some 0).getD 1 * 1) :=
    fun _ impossible => absurd impossible (Nat.not_lt_zero _)
  refine (genCap_decides ready (Nat.zero_le _) (Nat.zero_le _) nothing).bind fun cap => .fixed ?_
  rintro granted ⟨can, frame, shown⟩
  refine (sendNetIpc_answering granted _ (some cap)).raising.bind fun _ => .fixed ?_
  rintro answered ⟨step, regs, replied⟩
  have still : Shows platform frame answered := by
    unfold Shows KernelState.pages at shown ⊢
    rw [step.vspaces]
    exact shown
  exact (received_reads placed room still none replied).weaken (fun _ same => same)
    (fun _ _ same => ⟨can, same⟩)
    fun _ never => never.elim

end Frames

section Calls

variable {state : KernelState ν} {page : Option Memory} {net : ν} {errno : AxErrno}
  {layout : SocketAddrLayout} {badge : Nat}
  {task : Sel4Task} (placed : Placed platform errno) (ready : SeatReady platform state)
  (found : state.tasks[badge]? = some task) (backed : Backed state task)

include placed ready found backed

theorem sysAccept_decides (socketFd addr : Nat) {outcome : AxResult (UInt64 × SocketAddr)}
    (index : ∀ accepted, outcome = .ok accepted → accepted.1.toNat < 2 ^ 63) :
    RunFrom state
      (sysAccept platform (answering (Net.acceptWords errno outcome) page net) errno badge socketFd addr)
      (fun _ _ => WriteFits platform state task libcSocketAddrSize addr)
      (fun _ => ¬ WriteFits platform state task libcSocketAddrSize addr) := by
  have read : ∀ regs : MsgRegs, ∃ socket,
      acceptedSocket errno (regs.write (Net.acceptWords errno outcome)) = some (.ok socket) := by
    intro regs
    cases outcome with
    | ok accepted => exact ⟨_, acceptedSocket_of_id errno regs accepted.1 accepted.2 (index accepted rfl)⟩
    | error error => exact acceptedSocket_of_error errno regs error
  refine .locked ((taskOf_returns found).raising.bind fun caller => .fixed ?_)
  rintro state ⟨rfl, rfl⟩
  have accepts : Delivers state
      (Tcp.accept (answering (Net.acceptWords errno outcome) page net) errno (socketIdOf socketFd))
      fun result after => (∃ socket, result = .ok socket) ∧ Undisturbed state after := by
    refine (sendNetIpc_answering state _ none).bind fun _ => .read_bind ?_
    rintro answered ⟨step, regs, replied⟩
    obtain ⟨socket, socketEq⟩ := read regs
    rw [replied, socketEq]
    refine .pure ?_
    rintro _ rfl
    exact ⟨⟨socket, rfl⟩, step⟩
  refine accepts.raising.bind fun result => .fixed ?_
  rintro answered ⟨⟨socket, rfl⟩, step⟩
  have size := length_encodeLibcSocketAddr (.ofSocketAddr socket.2)
  have local_ : OutsideSeats platform platform.localAddr
      (encodeLibcSocketAddr (.ofSocketAddr socket.2)).length := by
    intro offset inside
    rw [size] at inside
    exact placed.localAddr offset (Nat.lt_of_lt_of_le inside (by decide))
  refine (storeBytes_own answered local_).raising.bind fun _ => .fixed ?_
  rintro stored rfl
  have kept : Undisturbed state (answered.setOwn (answered.own.store platform.localAddr
      (encodeLibcSocketAddr (.ofSocketAddr socket.2)))) := step.trans ⟨rfl, rfl, rfl, rfl, rfl⟩
  have item : OutsideSeats platform platform.localAddr (libcSocketAddrSize * libcSocketAddrSize) :=
    fun offset inside => placed.localAddr offset (Nat.lt_trans inside (by decide))
  refine ((writeItem_decides (ready.aside kept.aside) (backed.aside kept.aside) (by decide) addr
    item).weaken
    (fun _ same => same) (fun _ _ fits => kept.writeFits.mp fits) fun _ denied fits =>
      denied (kept.writeFits.mpr fits)).bind fun _ => ?_
  exact .pure fun _ fits => fits

theorem sysSendto_decides (socketFd buf len addr : UInt64)
    (none : ∀ count, outcome = .ok count → count = 0) :
    RunFrom state (sysSendto platform (answering [Net.countWord errno outcome] page net) errno badge
        socketFd.toNat buf.toNat len.toNat addr.toNat)
      (fun _ _ => (SocketCall.sendto socketFd buf len addr).Answerable platform state task outcome)
      (fun _ => ¬ (SocketCall.sendto socketFd buf len addr).Answerable platform state task outcome) := by
  refine .locked ((taskOf_returns found).raising.bind fun caller => .fixed ?_)
  rintro state ⟨rfl, rfl⟩
  refine (readItem_settled ready backed (by decide) addr.toNat).raising.bind fun item => .fixed ?_
  rintro read ⟨aside, recorded⟩
  cases item with
  | error error =>
    refine .pure fun _ _ present => ?_
    obtain ⟨_, ⟨⟩⟩ := recorded.mpr present
  | ok bytes =>
    have present := recorded.mp ⟨bytes, rfl⟩
    refine ((withCapacity_spec read len.toNat).onStop
        fun _ large holds => Nat.not_le.mpr large.2 (holds present).1).bind fun payload => .fixed ?_
    rintro read ⟨rfl, room, rfl⟩
    refine (readItemList_settled buf.toNat_lt len.toNat_lt (placed.heap _ room) (ready.aside aside)
      (backed.aside aside)).raising.bind fun _ => .fixed ?_
    intro filled later
    have whole := aside.trans later
    refine ((sendEmpty_decides (ready.aside whole) none (socketIdOf socketFd.toNat) _).onStop
        fun _ denied holds => denied ((CanAllocate.aside whole).mpr (holds present).2.1)).bind fun result =>
        MemTriple.fixed ?_
    rintro answered ⟨can, rfl⟩
    have allocated := (CanAllocate.aside whole).mp can
    cases result with
    | ok count => exact .pure fun _ _ _ => ⟨room, allocated, expected_ok _ count⟩
    | error error =>
      exact (errnoOf_decides _ error).weaken (fun _ same => same) (fun _ _ expects _ => ⟨room, allocated, expects⟩)
        fun _ denied holds => denied (holds present).2.2

theorem sysRecvfrom_decides (socketFd buf len : UInt64)
    (none : ∀ count, outcome = .ok count → count = 0) :
    RunFrom state (sysRecvfrom platform (answering [Net.countWord errno outcome] page net) errno badge
        socketFd.toNat buf.toNat len.toNat)
      (fun _ _ => (SocketCall.recvfrom socketFd buf len).Answerable platform state task outcome)
      (fun _ => ¬ (SocketCall.recvfrom socketFd buf len).Answerable platform state task outcome) := by
  refine .locked ((taskOf_returns found).raising.bind fun caller => .fixed ?_)
  rintro state ⟨rfl, rfl⟩
  refine ((withCapacity_spec state len.toNat).onStop
      fun _ large holds => Nat.not_le.mpr large.2 holds.1).bind fun recvBuf => .fixed ?_
  rintro state ⟨rfl, room, rfl⟩
  refine ((recvEmpty_decides placed ready room none (socketIdOf socketFd.toNat)).onStop
      fun _ denied holds => denied holds.2.1).bind fun result => .fixed ?_
  rintro answered ⟨can, rfl⟩
  cases result with
  | ok count =>
    rw [none count rfl]
    exact .pure fun _ _ => ⟨room, can, expected_ok _ 0⟩
  | error error =>
    exact (errnoOf_decides _ error).weaken (fun _ same => same) (fun _ _ expects => ⟨room, can, expects⟩)
      fun _ denied holds => denied holds.2.2

/-- A call on a socket returns, with a value or an error number, if and only if it
has an answer for what the net thread came to. -/
theorem socket_call_returns_iff (call : SocketCall α) (outcome : AxResult α)
    (produced : call.Produces outcome) :
    MemTriple (fun now => now = state)
      (call.run platform (answering (call.words errno outcome) page net) errno layout badge)
      (fun _ _ => True) (fun _ => False) ↔ call.Answerable platform state task outcome := by
  refine MemTriple.returns_iff ?_
  cases call with
  | bind socketFd addr =>
      exact withAddress_decides ready found backed addr.toNat [.invalidInput] fun address now aside =>
        (addressRequest_decides placed (ready.aside aside) outcome address _).weaken (fun _ same => same)
          (fun _ _ spec => ⟨(CanAllocate.aside aside).mp spec.1, spec.2⟩) fun _ denied can => denied ((CanAllocate.aside aside).mpr can)
  | connect socketFd addr =>
      exact withAddress_decides ready found backed addr.toNat [.invalidInput, .addrInUse] fun address now aside =>
        (addressRequest_decides placed (ready.aside aside) outcome address _).weaken (fun _ same => same)
          (fun _ _ spec => ⟨(CanAllocate.aside aside).mp spec.1, spec.2⟩) fun _ denied can => denied ((CanAllocate.aside aside).mpr can)
  | listen socketFd => exact unitCall_decides errno _ outcome state _
  | accept socketFd addr =>
    exact sysAccept_decides placed ready found backed socketFd.toNat addr.toNat produced
  | shutdown socketFd => exact unitCall_decides errno _ outcome state _
  | sendto socketFd buf len addr =>
    exact sysSendto_decides placed ready found backed socketFd buf len addr produced
  | recvfrom socketFd buf len =>
    exact sysRecvfrom_decides placed ready found backed socketFd buf len produced

end Calls

theorem smallPlatform_outside {address count : Nat} (above : 0x400000002000 ≤ address) :
    OutsideSeats smallPlatform address count := by
  intro offset _
  have first : (address + offset) / Kernel.pageSize * Kernel.pageSize ≠ 0x400000000000 := by
    unfold Kernel.pageSize
    omega
  have second : (address + offset) / Kernel.pageSize * Kernel.pageSize ≠ 0x400000001000 := by
    unfold Kernel.pageSize
    omega
  exact Bool.or_eq_false_iff.mpr ⟨beq_eq_false_iff_ne.mpr first, beq_eq_false_iff_ne.mpr second⟩

theorem smallPlatform_apart : Placed smallPlatform .sequential where
  localAddr := smallPlatform_outside (by decide)
  heap _ _ := smallPlatform_outside (show 0x400000002000 ≤ 0x500000000000 by decide)
  code_page error := by cases error <;> decide
  code_heap _ _ _ := smallPlatform_outside (show 0x400000002000 ≤ 0x500000000000 by decide)

theorem oneTask_backed (net : ν) (contents : List UInt8) : Backed (oneTask net contents) strayTask := by
  intro vaddr cap found
  have entry : vaddr = 0x1000 ∧ cap = 0x500 := by
    simp only [strayTask, Std.TreeMap.getElem?_insert] at found
    split at found
    · rename_i same
      exact ⟨(compare_eq_iff_eq.mp same).symm, (Option.some.inj found).symm⟩
    · cases found
  rw [entry.2]
  exact ⟨0x500, none, by simp [oneTask]⟩

/-- A bind that went well is reported, and one whose address is in use is not. -/
theorem socket_call_returns_iff_oneTask :
    MemTriple (fun now => now = oneTask () []) ((SocketCall.bind 0 0x1000).run smallPlatform
        (answering ((SocketCall.bind 0 0x1000).words .sequential (.ok ())) none ()) .sequential .tagged 1)
      (fun _ _ => True) (fun _ => False) ∧
    ¬ MemTriple (fun now => now = oneTask () []) ((SocketCall.bind 0 0x1000).run smallPlatform
        (answering ((SocketCall.bind 0 0x1000).words .sequential (.error .addrInUse)) none ()) .sequential .tagged 1)
      (fun _ _ => True) (fun _ => False) := by
  have can : CanAllocate smallPlatform (oneTask () []) := oneTask_canAllocate _ _ (by decide)
  have present : InRecord strayTask libcSocketAddrSize (0x1000 : UInt64).toNat :=
    ⟨by decide, by decide +kernel⟩
  refine ⟨(socket_call_returns_iff smallPlatform_apart (oneTask_ready ..) (oneTask_found ..)
    (oneTask_backed () [])
    (.bind 0 0x1000) (.ok ()) trivial).mpr fun _ => ⟨can, expected_ok _ ()⟩, fun returns => ?_⟩
  have answerable := (socket_call_returns_iff smallPlatform_apart (oneTask_ready ..)
    (oneTask_found ..) (oneTask_backed () [])
    (.bind 0 0x1000) (.error .addrInUse) trivial).mp returns
  exact absurd ((answerable present).2 .addrInUse rfl) (by decide)

/-- A receive on a new socket, a second connect, and a buffer that is too long. -/
theorem socket_calls_panic :
    stopReason ((do
        let _ ← sysSocket (netThread .small .sequential .tagged)
        (SocketCall.recvfrom 0 0x1000 2).run smallPlatform (netThread .small .sequential .tagged) .sequential .tagged 1).run
      ⟨[], [], [], oneTask (Net.NetState.init .small) []⟩) = some (.panicked .unknownError) ∧
    stopReason (((SocketCall.connect 0 0x1000).run smallPlatform
      (netThread .small .sequential .tagged) .sequential .tagged 1).run
      ⟨[], [], [], oneTask (connectedNet []) (encodeLibcSocketAddr strayLibc)⟩) = some (.panicked .unknownError) ∧
    stopReason (((SocketCall.recvfrom 0 0x1000 0x8001).run smallPlatform (netThread .small .sequential .tagged)
      .sequential .tagged 1).run ⟨[], [], [], oneTask (connectedNet [7, 8]) []⟩) = some (.panicked .noHeap) := by
  decide +kernel

end RootTaskDemo.Ipc
