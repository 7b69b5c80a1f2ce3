import RootTaskDemo.Ipc.Answering

namespace RootTaskDemo.Ipc

open Common Lib Thread Kernel

variable {ν : Type} {platform : Platform} {errno : AxErrno}

/-! The buffers of `tcp::send` and `tcp::recv` and the page that stands for them in
the net thread. -/

inductive Receiving where
  | recv (socketId : UInt64)
  | recvTimeout (socketId timeout : UInt64)

namespace Receiving

def run (platform : Platform) (link : NetLink ν) (errno : AxErrno) (buf len : Nat) :
    Receiving → KernelM ν (AxResult UInt64)
  | recv socketId => Tcp.recv platform link errno socketId buf len
  | recvTimeout socketId timeout => Tcp.recvTimeout platform link errno socketId buf len timeout

def request (buf len : Nat) : Receiving → NetRequsetabel
  | recv socketId => .recv socketId (UInt64.ofNat buf) (UInt64.ofNat len)
  | recvTimeout socketId timeout => .recvTimeout socketId (UInt64.ofNat buf) (UInt64.ofNat len) timeout

theorem run_eq (call : Receiving) (link : NetLink ν) {buf len : Nat} (small : len ≤ Kernel.pageSize) :
    call.run platform link errno buf len = (do
      let cap ← genCap platform 1 buf (some len)
      sendNetIpc link (call.request buf len) (some cap)
      Tcp.received platform errno buf) := by
  have fits : ¬ Kernel.pageSize < len := Nat.not_lt.mpr small
  cases call with
  | recv socketId => exact if_neg fits
  | recvTimeout socketId timeout => exact if_neg fits

end Receiving

section Receive

variable {state : KernelState ν} {buf len : Nat} {outcome : AxResult UInt64}

theorem genCap_bytes (ready : SeatReady platform state) (can : CanAllocate platform state)
    (small : len ≤ Kernel.pageSize) (outside : OutsideSeats platform buf len) :
    Delivers state (genCap platform 1 buf (some len))
      fun cap after => cap = state.emptySlots.1 ∧ Shows platform cap after ∧
        PageGranted cap (state.own.load buf len) state after := by
  have length : 1 * (some len).getD 1 * 1 = len := by
    rw [Option.getD_some, Nat.one_mul, Nat.mul_one]
  have grants : RunFrom state (genCap platform 1 buf (some len)) _ _ :=
    genCap_shows can ready.kernel ready.tables (by rw [Option.getD_some, Nat.one_mul]; exact small)
      (by rw [length]; exact small) (by rw [length]; exact outside)
  rw [length] at grants
  exact grants

theorem received_copies {frame : ObjId} (shown : Shows platform frame state) {word : UInt64}
    (wordEq : state.msgRegs 0 = word) (inside : word.toNat ≤ Kernel.pageSize)
    (outside : OutsideSeats platform buf word.toNat) :
    Ends state (Tcp.received platform errno buf)
      (fun after => after.own = state.own.store buf ((state.frames frame).load 0 word.toNat)) := by
  refine Ends.bind ((msgReg_returns state 0).mono ?_)
  rintro _ now ⟨rfl, same⟩
  rw [wordEq, same]
  have loads := loadBytes_seat shown
    (by rw [Nat.zero_add]; exact inside : 0 + word.toNat ≤ Kernel.pageSize)
  rw [Nat.add_zero] at loads
  have copies : Delivers state (copyBytes platform platform.pageSeat buf word.toNat)
      fun _ after => after.own = state.own.store buf ((state.frames frame).load 0 word.toNat) := by
    refine loads.bind fun bytes => .fixed ?_
    rintro now ⟨same, rfl⟩
    rw [same]
    have fits : OutsideSeats platform buf ((state.frames frame).load 0 word.toNat).length := by
      rw [Memory.length_load]
      exact outside
    refine (storeBytes_own state fits).mono ?_
    rintro _ _ rfl
    rfl
  refine Ends.bind (copies.mono ?_)
  intro _ after stored
  unfold axresult
  split
  · rintro world rfl
    exact stored
  · rintro world rfl
    exact stored

/-- The copy after a reply, whatever the page holds by then: it stays inside the buffer,
and there is none after an error. -/
def StaysInside (platform : Platform) (errno : AxErrno) (state : KernelState ν) (call : Receiving)
    (buf len : Nat) (outcome : AxResult UInt64) : Prop :=
  ∀ (page : Memory) (net : ν), Ends state
    (call.run platform (answering [Net.countWord errno outcome] (some page) net) errno buf len)
    fun after => (∀ address, address < buf ∨ buf + len ≤ address → after.own address = state.own address) ∧
      ∀ error, outcome = .error error → after.own = state.own

theorem run_copies (ready : SeatReady platform state) (can : CanAllocate platform state)
    (small : len ≤ Kernel.pageSize) (outside : OutsideSeats platform buf len) {word : UInt64}
    (inside : word.toNat ≤ Kernel.pageSize) (wordOutside : OutsideSeats platform buf word.toNat)
    (call : Receiving) (page : Memory) (net : ν) :
    Ends state (call.run platform (answering [word] (some page) net) errno buf len)
      (fun after => after.own = state.own.store buf (page.load 0 word.toNat)) := by
  rw [call.run_eq _ small]
  refine Ends.bind ((genCap_bytes ready can small outside).mono ?_)
  rintro cap granted ⟨rfl, shown, granting⟩
  have sends : Delivers granted (sendNetIpc (answering [word] (some page) net) (call.request buf len)
      (some state.emptySlots.1)) fun _ after => Shows platform state.emptySlots.1 after ∧ after.msgRegs 0 = word ∧
        after.frames state.emptySlots.1 = page ∧ after.own = state.own := by
    refine .read_bind ?_
    rintro granted rfl
    refine .update fun now same => ?_
    rw [same]
    simp only [Option.bind_some, granting.frame, KernelState.answered]
    exact ⟨shown, rfl, Function.update_self .., granting.own⟩
  refine Ends.bind (sends.mono ?_)
  rintro _ answered ⟨shown, wordEq, frames, own⟩
  refine (received_copies shown wordEq inside wordOutside).weaken fun after stored => ?_
  rw [stored, frames, own]

/-- A receive stays inside its buffer if and only if the reply is a count. An error is a
length as well, and so many bytes are copied. -/
theorem recv_stays_inside_iff (ready : SeatReady platform state) (can : CanAllocate platform state)
    (small : len ≤ Kernel.pageSize) (outside : OutsideSeats platform buf len)
    (codes : ∀ error, (errno.code error).toNat ≤ Kernel.pageSize ∧
      OutsideSeats platform buf (errno.code error).toNat)
    (counted : ∀ count, outcome = .ok count → count.toNat ≤ len) (call : Receiving) :
    StaysInside platform errno state call buf len outcome ↔ ∃ count, outcome = .ok count := by
  cases outcome with
  | ok count =>
      refine ⟨fun _ => ⟨count, rfl⟩, fun _ page net => ?_⟩
      have bound : count.toNat ≤ len := counted count rfl
      refine (@run_copies _ _ errno _ _ _ ready can small outside count (by omega)
        (fun index below => outside index (by omega)) call page
        net).weaken fun after stored => ⟨fun address away => ?_, fun _ impossible => by cases impossible⟩
      rw [stored, Memory.store_outside (by rw [Memory.length_load]; omega)]
  | error error =>
      refine ⟨fun stays => ?_, fun ok => by obtain ⟨_, ⟨⟩⟩ := ok⟩
      have code : (Net.countWord errno (.error error)).toNat = (errno.code error).toNat :=
        toNat_ofSigned (Int.le_of_lt (errno.code_pos error)) (errno.code_i32 error)
      have positive : 0 < (Net.countWord errno (.error error)).toNat := by
        have := errno.code_pos error
        omega
      -- a page with another first byte than the buffer
      obtain ⟨after, ⟨-, kept⟩, stored⟩ := (stays (fun _ => state.own buf + 1) state.net).meets
        (run_copies ready can small outside (by rw [code]; exact (codes error).1)
          (by rw [code]; exact (codes error).2) call _ state.net)
      rw [kept error rfl] at stored
      have first := congrFun stored buf
      have found : (Memory.load (fun _ => state.own buf + 1) 0 (Net.countWord errno (.error error)).toNat)[0]? =
          some (state.own buf + 1) := Memory.getElem?_load positive
      have inside := @Memory.store_inside state.own buf _ 0 _ found
      rw [Nat.add_zero] at inside
      rw [inside] at first
      have numbers : (state.own buf).toNat = ((state.own buf).toNat + 1) % 2 ^ 8 := by
        rw [← UInt8.toNat_one, ← UInt8.toNat_add, ← first]
      omega

/-- A buffer of two bytes; the error code of a refused connection is five. -/
theorem recv_stays_inside_iff_oneTask :
    StaysInside smallPlatform .sequential (oneTask () []) (.recv 0) 0x500000000000 2 (.ok 2) ∧
    ¬ StaysInside smallPlatform .sequential (oneTask () []) (.recvTimeout 0 9) 0x500000000000 2
      (.error .connectionRefused) := by
  have can : CanAllocate smallPlatform (oneTask () []) := oneTask_canAllocate _ _ (by decide)
  have outside : ∀ count, OutsideSeats smallPlatform 0x500000000000 count :=
    fun _ => smallPlatform_outside (by decide)
  have codes : ∀ error, (AxErrno.sequential.code error).toNat ≤ Kernel.pageSize ∧
      OutsideSeats smallPlatform 0x500000000000 (AxErrno.sequential.code error).toNat :=
    fun error => ⟨smallPlatform_apart.code_page error, outside _⟩
  have counted : ∀ count : UInt64, (Except.ok 2 : AxResult UInt64) = .ok count → count.toNat ≤ 2 := by
    rintro _ ⟨⟩
    decide
  refine ⟨(recv_stays_inside_iff (oneTask_ready ..) can (by decide) (outside 2) codes counted _).mpr
    ⟨2, rfl⟩, fun stays => ?_⟩
  obtain ⟨_, ⟨⟩⟩ := (recv_stays_inside_iff (oneTask_ready ..) can (by decide) (outside 2) codes
    (by rintro _ ⟨⟩) _).mp stays

/-- The reply to a receive on a refused connection: three bytes behind the buffer are overwritten.
-/
theorem recv_overruns :
    (finalState ((Tcp.recv smallPlatform (answering [Net.countWord .sequential (.error .connectionRefused)] (some fun _ => 6) ())
      .sequential 0 0x500000000000 2).run ⟨[], [], [], oneTask () []⟩)).memory.own.load
        0x500000000000 6 = [6, 6, 6, 6, 6, 0] ∧
    (oneTask () []).own.load 0x500000000000 6 = [0, 0, 0, 0, 0, 0] := by
  decide +kernel

end Receive

def sendBytes (smol : Net.Smoltcp) (errno : AxErrno) (id : UInt64) (bytes : List UInt8) :
    Net.NetM smol Unit :=
  Net.onSocket id fun socket => do
    let ans ← socket.send bytes
    return ([Net.countWord errno (ans.1.map UInt64.ofNat)], ans.2)

def recvWindow (smol : Net.Smoltcp) (errno : AxErrno) (id : UInt64) (page : Memory) (len : Nat) :
    Net.NetM smol Unit :=
  Net.onSocket id fun socket => do
    let ans ← socket.recv len
    match ans.1 with
    | .error error => return ([Net.countWord errno (.error error)], ans.2)
    | .ok bytes =>
      update fun state => { state with page := some (page.store 0 bytes) }
      return ([Net.countWord errno (.ok (UInt64.ofNat bytes.length))], ans.2)

def HandledAs {smol : Net.Smoltcp} (errno : AxErrno) (layout : SocketAddrLayout)
    (message : Net.NetMessage) (request : Net.NetM smol Unit) : Prop :=
  ∀ thread : Net.NetWorld smol, thread.memory.page = message.page →
    (Net.handleMessage errno layout message : Net.NetM smol Unit).run thread = request.run thread

section Handler

variable {smol : Net.Smoltcp} {buf len : Nat}

theorem slicePage_run (word : buf < 2 ^ 64) (small : len ≤ Kernel.pageSize)
    {thread : Net.NetWorld smol} {page : Memory} (pageEq : thread.memory.page = some page) :
    (Net.slicePage (UInt64.ofNat buf) (UInt64.ofNat len)).run thread =
      if buf % Kernel.pageSize + len ≤ Kernel.pageSize then .ok page thread
        else .error (.panicked .notInPage) thread := by
  have bufEq : (UInt64.ofNat buf).toNat = buf := by
    rw [UInt64.toNat_ofNat', Nat.mod_eq_of_lt word]
  have lenEq : (UInt64.ofNat len).toNat = len := by
    rw [UInt64.toNat_ofNat', Nat.mod_eq_of_lt (Nat.lt_of_le_of_lt small (by decide))]
  have sum : (buf % Net.pageSize + len) % 2 ^ 64 = buf % Kernel.pageSize + len := by
    unfold Net.pageSize
    unfold Kernel.pageSize at small ⊢
    omega
  have mapped : (Net.mapPage : Net.NetM smol Memory).run thread = .ok page thread := by
    obtain ⟨_, _, _, ⟨_, _, _, _, _, _⟩⟩ := thread
    cases pageEq
    rfl
  have fits : ¬ Net.pageSize < len := Nat.not_lt.mpr small
  rw [Net.slicePage, EStateM.run_bind, mapped, bufEq, lenEq, sum]
  change (if Net.pageSize < buf % Kernel.pageSize + len then Net.panicWith .notInPage
    else if Net.pageSize < len then stop .undefined else pure page : Net.NetM smol Memory).run thread = _
  by_cases within : buf % Kernel.pageSize + len ≤ Kernel.pageSize
  · rw [if_pos within, if_neg
      (show ¬ Net.pageSize < buf % Kernel.pageSize + len from Nat.not_lt.mpr within), if_neg fits]
    rfl
  · rw [if_neg within, if_pos (show Net.pageSize < buf % Kernel.pageSize + len from Nat.not_le.mp within)]
    rfl

def bufferMessage (state : KernelState ν) (request : NetRequsetabel) (buf len : Nat) : Net.NetMessage :=
  { info := (request.build state.msgRegs).1
    regs := (request.build state.msgRegs).2
    page := some (Memory.store (fun _ => 0) 0 (state.own.load buf len)) }

theorem onSocket_congr {id : UInt64}
    {left right : Net.TcpSocket → Net.NetM smol (List UInt64 × Net.TcpSocket)}
    {thread : Net.NetWorld smol}
    (same : ∀ socket now, now.memory = thread.memory → (left socket).run now = (right socket).run now) :
    (Net.onSocket id left).run thread = (Net.onSocket id right).run thread := by
  refine MemTriple.locked_run_congr fun now known => ?_
  refine (Net.unwrapSocket_spec thread.memory id).run_bind_congr known fun socket found spec => ?_
  rw [EStateM.run_bind, EStateM.run_bind, same socket found spec.1]

def closedSocket : Net.TcpSocket :=
  { state := .closed, handle := none, localAddr := unspecifiedEndpoint,
    peerAddr := unspecifiedEndpoint, nonblock := false,
    reuseAddr := false }

theorem onSlice_iff (word : buf < 2 ^ 64) (small : len ≤ Kernel.pageSize) {page : Memory}
    (id : UInt64) {request : Net.TcpSocket → Memory → Net.NetM smol (List UInt64 × Net.TcpSocket)}
    (answers : ∃ words, request closedSocket page = pure words) :
    (∀ thread : Net.NetWorld smol, thread.memory.page = some page →
      (Net.onSocket id fun socket => Net.slicePage (UInt64.ofNat buf) (UInt64.ofNat len) >>=
        request socket).run thread =
        (Net.onSocket id fun socket => request socket page).run thread) ↔
      buf % Kernel.pageSize + len ≤ Kernel.pageSize := by
  have sliced : ∀ socket (now : Net.NetWorld smol), now.memory.page = some page →
      (Net.slicePage (UInt64.ofNat buf) (UInt64.ofNat len) >>= request socket).run now =
        if buf % Kernel.pageSize + len ≤ Kernel.pageSize then (request socket page).run now
        else .error (.panicked .notInPage) now := by
    intro socket now pageEq
    rw [EStateM.run_bind, slicePage_run word small pageEq]
    by_cases within : buf % Kernel.pageSize + len ≤ Kernel.pageSize
    · rw [if_pos within, if_pos within]
    · rw [if_neg within, if_neg within]
  constructor
  · intro same
    by_contra crossing
    -- a table with a closed socket at the index: the request returns there
    let net : Net.NetState smol := { Net.NetState.init smol with
      socketVec := List.replicate id.toNat none ++ [some closedSocket]
      page := some page }
    have found : net.socketVec[id.toNat]? = some (some closedSocket) := by
      rw [List.getElem?_append_right (by rw [List.length_replicate]), List.length_replicate, Nat.sub_self]
      rfl
    have stops : Yields net
        (Net.onSocket id fun socket => Net.slicePage (UInt64.ofNat buf) (UInt64.ofNat len) >>= request socket)
        fun _ _ => False := by
      refine .locked (((Net.unwrapSocket_spec net id).partly fun _ _ spec => spec.1).bind fun socket => ?_)
      have panics : Yields net (Net.slicePage (UInt64.ofNat buf) (UInt64.ofNat len) >>= request socket)
          fun _ _ => False := by
        refine MemTriple.of_triple fun now known => ?_
        rw [sliced socket now (by rw [known]), if_neg crossing]
        trivial
      exact panics.bind fun _ => .fixed fun _ never => never.elim
    have returns : Delivers net (Net.onSocket id fun socket => request socket page) fun _ _ => True := by
      obtain ⟨words, answered⟩ := answers
      refine .locked (((Net.unwrapSocket_spec net id).weaken (fun _ known => known) (fun _ _ spec => spec.2)
        fun _ missing => missing.2 _ found).bind fun socket => .fixed fun now known => ?_)
      cases Option.some.inj (Option.some.inj (found.symm.trans known))
      dsimp only
      rw [answered, pure_bind]
      exact .update_bind (.reply fun _ _ => trivial)
    have one := stops.triple ⟨[], [], [], net⟩ rfl
    have other := returns.triple ⟨[], [], [], net⟩ rfl
    rw [same _ rfl] at one
    cases outcome : (Net.onSocket id fun socket => request socket page).run ⟨[], [], [], net⟩ with
    | ok _ _ =>
      rw [outcome] at one
      exact one
    | error _ _ =>
      rw [outcome] at other
      exact other
  · intro condition thread pageEq
    refine onSocket_congr fun socket now known => ?_
    rw [sliced socket now (by rw [known]; exact pageEq), if_pos condition]

theorem sends_iff (layout : SocketAddrLayout) (word : buf < 2 ^ 64) (small : len ≤ Kernel.pageSize)
    (state : KernelState ν) (socketId : UInt64) :
    HandledAs errno layout (bufferMessage state (.send socketId (UInt64.ofNat buf) (UInt64.ofNat len)) buf len)
      (sendBytes smol errno socketId (state.own.load buf len)) ↔ buf % Kernel.pageSize + len ≤ Kernel.pageSize := by
  have decoded := NetRequsetabel.tryFrom_build
    (.send socketId (UInt64.ofNat buf) (UInt64.ofNat len)) state.msgRegs
  have whole : (Memory.store (fun _ => 0) 0 (state.own.load buf len)).load 0
      (UInt64.ofNat len).toNat = state.own.load buf len := by
    have stored := @Memory.load_store (fun _ => 0) 0 (state.own.load buf len)
    rw [Memory.length_load] at stored
    rw [UInt64.toNat_ofNat', Nat.mod_eq_of_lt (Nat.lt_of_le_of_lt small (by decide)), stored]
  have decides := @onSlice_iff smol buf len word small
    (Memory.store (fun _ => 0) 0 (state.own.load buf len)) socketId
    (fun socket page => do
      let ans ← socket.send (page.load 0 (UInt64.ofNat len).toNat)
      return ([Net.countWord errno (ans.1.map UInt64.ofNat)], ans.2)) ⟨_, rfl⟩
  rw [whole] at decides
  have handles := @Net.handleMessage_of_tryFrom smol errno layout (bufferMessage state _ buf len) _
    decoded
  rw [HandledAs, handles]
  exact decides

theorem recvs_iff (layout : SocketAddrLayout) (word : buf < 2 ^ 64) (small : len ≤ Kernel.pageSize)
    (state : KernelState ν) (socketId : UInt64) :
    HandledAs errno layout (bufferMessage state (.recv socketId (UInt64.ofNat buf) (UInt64.ofNat len)) buf len)
      (recvWindow smol errno socketId (Memory.store (fun _ => 0) 0 (state.own.load buf len)) len) ↔
      buf % Kernel.pageSize + len ≤ Kernel.pageSize := by
  have decoded := NetRequsetabel.tryFrom_build
    (.recv socketId (UInt64.ofNat buf) (UInt64.ofNat len)) state.msgRegs
  have lenEq : (UInt64.ofNat len).toNat = len := by
    rw [UInt64.toNat_ofNat', Nat.mod_eq_of_lt (Nat.lt_of_le_of_lt small (by decide))]
  have decides := @onSlice_iff smol buf len word small
    (Memory.store (fun _ => 0) 0 (state.own.load buf len)) socketId
    (fun socket page => do
      let ans ← socket.recv (UInt64.ofNat len).toNat
      match ans.1 with
      | .error error => return ([Net.countWord errno (.error error)], ans.2)
      | .ok bytes =>
        update fun state => { state with page := some (page.store 0 bytes) }
        return ([Net.countWord errno (.ok (UInt64.ofNat bytes.length))], ans.2)) ⟨_, rfl⟩
  rw [lenEq] at decides
  have handles := @Net.handleMessage_of_tryFrom smol errno layout (bufferMessage state _ buf len) _
    decoded
  rw [HandledAs, handles, Net.handleRequest, Net.handleRecv, lenEq]
  exact decides

variable {state : KernelState (List Net.NetMessage)}

theorem send_message (ready : SeatReady platform state) (can : CanAllocate platform state)
    (small : len ≤ Kernel.pageSize) (outside : OutsideSeats platform buf len) (socketId : UInt64) :
    Delivers state (Tcp.send platform keeping errno socketId buf len)
      fun _ after => after.net = state.net ++
        [bufferMessage state (.send socketId (UInt64.ofNat buf) (UInt64.ofNat len)) buf len] := by
  unfold Tcp.send
  rw [if_neg (Nat.not_lt.mpr small)]
  refine (genCap_bytes ready can small outside).bind fun cap => .fixed ?_
  rintro granted ⟨rfl, shown, page⟩
  -- the bytes are in the page already
  refine (copyBytes_toSeat shown outside small).bind fun _ => .fixed ?_
  rintro copied rfl
  refine (sendNetIpc_keeping _ (show (granted.setFrame _ _).frameOf state.emptySlots.1 =
    some state.emptySlots.1 from page.frame)).bind
    fun _ => .fixed ?_
  rintro answered ⟨netEq, wordEq⟩
  refine (msgReg_returns answered 0).bind fun register => .fixed ?_
  rintro now ⟨rfl, same⟩
  rw [wordEq, axresult_zero]
  refine .pure fun memory known => ?_
  rw [known, same, netEq]
  have contents : (granted.setFrame state.emptySlots.1
    ((granted.frames state.emptySlots.1).store 0 (granted.own.load buf len))).frames
      state.emptySlots.1 = Memory.store (fun _ => 0) 0 (state.own.load buf len) := by
    simp only [KernelState.setFrame, Function.update_self, page.frames, page.own, Memory.store_store]
  rw [contents]
  change granted.net ++ [⟨(NetRequsetabel.build _ granted.msgRegs).1,
    (NetRequsetabel.build _ granted.msgRegs).2, _⟩] = _
  rw [page.net, page.msgRegs]
  rfl

theorem recv_message (ready : SeatReady platform state) (can : CanAllocate platform state)
    (small : len ≤ Kernel.pageSize) (outside : OutsideSeats platform buf len) (socketId : UInt64) :
    Delivers state (Tcp.recv platform keeping errno socketId buf len)
      fun _ after => after.net = state.net ++
        [bufferMessage state (.recv socketId (UInt64.ofNat buf) (UInt64.ofNat len)) buf len] := by
  unfold Tcp.recv
  rw [if_neg (Nat.not_lt.mpr small)]
  refine (genCap_bytes ready can small outside).bind fun cap => .fixed ?_
  rintro granted ⟨rfl, -, page⟩
  refine (sendNetIpc_keeping _ page.frame).bind fun _ => .fixed ?_
  rintro answered ⟨netEq, wordEq⟩
  refine (msgReg_returns answered 0).bind fun register => .fixed ?_
  rintro now ⟨rfl, same⟩
  rw [wordEq]
  -- a count of zero: nothing is copied
  have nothing : (copyBytes platform platform.pageSeat buf
    (0 : UInt64).toNat : KernelM (List Net.NetMessage) Unit) = pure () := rfl
  rw [nothing, pure_bind, axresult_zero]
  refine .pure fun memory known => ?_
  rw [known, same, netEq, page.net, page.msgRegs, page.frames, Function.update_self]
  rfl

structure HandedOver (smol : Net.Smoltcp) (platform : Platform) (errno : AxErrno)
    (layout : SocketAddrLayout) (state : KernelState (List Net.NetMessage)) (socketId : UInt64)
    (buf len : Nat) : Prop where
  send : MemTriple (fun now => now = state) (Tcp.send platform keeping errno socketId buf len)
    (fun _ after => ∃ message, after.net = state.net ++ [message] ∧
      HandledAs errno layout message (sendBytes smol errno socketId (state.own.load buf len))) (fun _ => False)
  recv : MemTriple (fun now => now = state) (Tcp.recv platform keeping errno socketId buf len)
    (fun _ after => ∃ message page, after.net = state.net ++ [message] ∧ message.page = some page ∧
      HandledAs errno layout message (recvWindow smol errno socketId page len)) (fun _ => False)

/-- A buffer is handed over if and only if it does not cross a page where it lies in the
memory of the kernel thread, although its bytes are at the start of the page that is sent. -/
theorem payload_handed_over_iff (layout : SocketAddrLayout) (ready : SeatReady platform state)
    (can : CanAllocate platform state) (word : buf < 2 ^ 64) (small : len ≤ Kernel.pageSize)
    (outside : OutsideSeats platform buf len) (socketId : UInt64) :
    HandedOver smol platform errno layout state socketId buf len ↔ buf % Kernel.pageSize + len ≤
      Kernel.pageSize := by
  have sends := @send_message platform errno buf len state ready can small outside socketId
  constructor
  · intro handed
    obtain ⟨_, after, ⟨message, netEq, handled⟩, sent⟩ := handed.send.meets sends
    obtain rfl : message = _ := List.singleton_inj.mp (List.append_cancel_left (netEq.symm.trans sent))
    exact (sends_iff layout word small state socketId).mp handled
  · intro condition
    refine ⟨sends.mono fun _ after sent => ⟨_, sent, ?_⟩,
      (recv_message ready can small outside socketId).mono fun _ after sent => ⟨_, _, sent, rfl, ?_⟩⟩
    · exact (sends_iff layout word small state socketId).mpr condition
    · exact (recvs_iff layout word small state socketId).mpr condition

end Handler

/-- Two bytes inside a page and two bytes across the end of it. -/
theorem payload_handed_over_iff_oneTask :
    HandedOver .small smallPlatform .sequential .tagged (oneTask [] []) 0 0x500000000ffe 2 ∧
    ¬ HandedOver .small smallPlatform .sequential .tagged (oneTask [] []) 0 0x500000000fff 2 := by
  have can : CanAllocate smallPlatform (oneTask ([] : List Net.NetMessage) []) :=
    oneTask_canAllocate _ _ (by decide)
  refine ⟨(payload_handed_over_iff .tagged (oneTask_ready ..) can (by decide) (by decide)
    (smallPlatform_outside (by decide)) 0).mpr
    (by decide), fun handed => ?_⟩
  exact absurd ((payload_handed_over_iff .tagged (oneTask_ready ..) can (by decide) (by decide)
    (smallPlatform_outside (by decide))
    0).mp handed) (by decide)

/-- What the handler of a net thread with a connected socket does with a send of two bytes at the
address. -/
def sendOutcome (buf : Nat) : Option (Option Net.Fault) :=
  (finalState ((Tcp.send smallPlatform keeping .sequential 0 buf 2).run
    ⟨[], [], [], oneTask [] []⟩)).memory.net.head?.map fun message =>
    stopReason ((Net.handleIpc .sequential .tagged message : Net.NetM .small (Option Memory)).run
      ⟨[], [], [], connectedNet []⟩)

theorem send_across_pages_panics :
    sendOutcome 0x500000000ffe = some none ∧ sendOutcome 0x500000000fff =
      some (some (.panicked .notInPage)) := by
  decide +kernel

end RootTaskDemo.Ipc
