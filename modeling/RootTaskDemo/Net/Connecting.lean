import RootTaskDemo.Net.Handles

namespace RootTaskDemo.Net

open Common Lib Thread

variable {smol : Smoltcp} {α : Type}
variable {request : NetRequsetabel}
variable {pre : NetState smol → Prop} {handle : SocketHandle} {socket : TcpSocket}

/-! A connect on a nonblocking socket. Only a poll of the socket finds that the
handshake is over, and no request polls it. -/

theorem errorWord_inj (errno : AxErrno) {error other : AxError}
    (same : errorWord errno error = errorWord errno other) :
    error = other := by
  have number : ∀ error, asI32 (errorWord errno error) = errno.code error := fun error =>
    asI32_ofSigned (Int.le_of_lt (errno.code_pos error)) (errno.code_i32 error)
  have codes : errno.code error = errno.code other := by rw [← number, same, number]
  have found := errno.tryFrom_code error
  rw [codes, errno.tryFrom_code other] at found
  exact (Option.some.inj found).symm

theorem handleAxresult_eq_errorWord (errno : AxErrno) {result : AxResult Unit} {error : AxError}
    (same : handleAxresult errno result = errorWord errno error) : result = .error error := by
  cases result with
  | error other => rw [errorWord_inj errno same]
  | ok value =>
    have number := asI32_ofSigned (Int.le_of_lt (errno.code_pos error)) (errno.code_i32 error)
    have positive := errno.code_pos error
    have zero : asI32 (errorWord errno error) = 0 := by
      rw [← same]
      change asI32 0 = 0
      decide
    rw [errorWord, number] at zero
    omega

theorem onSocket_sends {state : NetState smol} {sent : List (List UInt64)} (id : UInt64)
    {request : TcpSocket → NetM smol (List UInt64 × TcpSocket)}
    {post : TcpSocket → List UInt64 × TcpSocket → NetState smol → Prop}
    (body : ∀ socket, state.socketVec[id.toNat]? = some (some socket) →
      Yields state (request socket) (post socket))
    (silent : ∀ socket, Replies 0 (request socket)) :
    Triple (fun world => world.memory = state ∧ world.sent = sent) (onSocket id request)
      (fun _ world => ∃ socket result middle, state.socketVec[id.toNat]? = some (some socket) ∧
        post socket result middle ∧
        world.memory = { middle with socketVec := middle.socketVec.set id.toNat (some result.2) } ∧
        world.sent = sent ++ [result.1]) (fun _ _ => True) := by
  have unwraps := (unwrapSocket_spec state id).partly (fun _ _ spec => spec)
  have noReply : Replies 0 (unwrapSocket id : NetM smol _) :=
    (unwrapSocket_disciplined id : Disciplined (fun _ => True) 0 _).replies
  refine Replies.under_lock (fun memory messages => memory = state ∧ messages = sent)
    (fun _ memory messages => ∃ socket result middle, state.socketVec[id.toNat]? = some (some socket) ∧
      post socket result middle ∧ memory = { middle with socketVec := middle.socketVec.set id.toNat (some result.2) } ∧
      messages = sent ++ [result.1]) ?_
  refine (Replies.silently noReply unwraps sent).bind fun socket => ?_
  rintro world ⟨⟨same, found⟩, sentEq⟩
  refine ((Replies.silently (silent socket) (body socket found) sent).bind fun result => ?_) world
    ⟨same, sentEq⟩
  rintro world ⟨holds, sentEq⟩
  exact ⟨socket, result, world.memory, found, holds, rfl, by rw [← sentEq]⟩

section Serve

variable (errno : AxErrno) (layout : SocketAddrLayout)

theorem serve_spec {input : NetInput}
    (decoded : NetRequsetabel.tryFrom input.message.info input.message.regs = some request) {state : NetState smol}
    {sent : List (List UInt64)} (post : NetState smol → List (List UInt64) → Prop)
    (handles : Triple (fun world => world.memory = input.arrive state ∧ world.sent = sent)
      (handleRequest errno layout request) (fun _ world => post world.memory world.sent) (fun _ _ => True)) :
    Triple (fun world => world.memory = state ∧ world.sent = sent) (serve errno layout input)
      (fun _ world => ∃ page, post { world.memory with page } world.sent) (fun _ _ => True) := by
  have arrives : Triple (fun world => world.memory = state ∧ world.sent = sent)
      (update fun state => { state with incoming := state.incoming ++ input.arrivals } : NetM smol Unit)
      (fun _ world => world.memory = { state with incoming := state.incoming ++ input.arrivals } ∧ world.sent = sent)
      (fun _ _ => True) := by
    rintro world ⟨rfl, rfl⟩
    exact ⟨rfl, rfl⟩
  have granted : Triple (fun world =>
    world.memory = { state with incoming := state.incoming ++ input.arrivals } ∧
        world.sent = sent) (update fun state => { state with page := input.message.page } : NetM smol Unit)
      (fun _ world => world.memory = input.arrive state ∧ world.sent = sent) (fun _ _ => True) := by
    rintro world ⟨same, rfl⟩
    exact ⟨congrArg (fun memory : NetState smol => { memory with page := input.message.page }) same, rfl⟩
  rw [← handleMessage_of_tryFrom errno layout decoded] at handles
  refine arrives.bind fun _ => Triple.bind (granted.bind fun _ => handles.bind fun _ => ?_) fun _ =>
    Triple.pure fun _ holds => holds
  intro world holds
  exact ⟨world.memory.page, holds⟩

end Serve

namespace TcpSocket

theorem connectSocket_error (iface : Interface) (remote : IpEndpoint) (bound : IpListenEndpoint)
    (handle : SocketHandle) :
    Leads pre (SocketSetWrapper.withSocketMut handle (connectSocket iface remote bound))
      (fun result _ => result ≠ .error .wouldBlock) := by
  refine withSocketMut_result handle fun socket => MemTriple.anything.bind fun connected => ?_
  split
  · exact .pure fun _ _ => nofun
  · exact .pure fun _ _ => nofun
  · split
    · exact .pure fun _ _ => nofun
    · exact panicWith_triple fun _ _ => trivial

theorem connect_wouldBlock {self : TcpSocket} (nonblocking : self.nonblock = true)
    (remoteAddr : SocketAddr) :
    Leads pre (self.connect remoteAddr)
      (fun result _ => result.1 = .error .wouldBlock → result.2.state = .connecting) := by
  have started : Leads pre (self.updateState .closed .connecting (connectStart remoteAddr))
      (fun result _ => result.1 ≠ .ok (.error .wouldBlock) ∧
        (result.1 = .ok (.ok ()) → result.2.state = .connecting ∧ result.2.nonblock = true)) := by
    refine updateState_triple (fun _ => ?_) fun _ _ _ => ⟨by rintro ⟨⟩, by rintro ⟨⟩⟩
    refine MemTriple.anything.bind fun handle => MemTriple.fixed fun now _ => ?_
    refine ((boundEndpoint_quietly { self with state := .busy }).start now).bind fun bound => MemTriple.fixed ?_
    rintro middle ⟨-, port, rfl, -⟩
    refine (connectSocket_error _ _ _ handle).bind fun result => ?_
    cases result with
    | error error =>
      refine .pure fun _ other => ⟨?_, by rintro ⟨⟩⟩
      rintro ⟨⟩
      exact other rfl
    | ok addrs => exact .pure fun _ _ => ⟨by rintro ⟨⟩, fun _ => ⟨rfl, nonblocking⟩⟩
  refine started.bind fun result => .fixed fun now holds => ?_
  obtain ⟨other | error | ⟨⟩, after⟩ := result
  · exact .pure (by rintro _ _ ⟨⟩)
  · exact .pure fun _ _ same => absurd (congrArg Except.ok same) holds.1
  · obtain ⟨connecting, nonblocking⟩ := holds.2 rfl
    dsimp only
    rw [if_pos nonblocking]
    exact .pure fun _ _ _ => connecting

end TcpSocket

section Requests

variable (errno : AxErrno) (layout : SocketAddrLayout) {state : NetState smol}
  {sent : List (List UInt64)} {id : UInt64}

theorem handleConnect_sends (named : socket.handle = some handle)
    (found : state.socketVec[id.toNat]? = some (some socket)) (nonblocking : socket.nonblock = true)
    (remoteAddr : UInt64) :
    Triple (fun world => world.memory = state ∧ world.sent = sent) (handleConnect errno layout id remoteAddr)
      (fun _ world => world.sent = sent ++ [[errorWord errno .wouldBlock]] → world.memory.ConnectingAt id.toNat)
      (fun _ _ => True) := by
  have connects : ∀ socket, state.socketVec[id.toNat]? = some (some socket) → Yields state
      (do let remoteAddr ← readItem layout remoteAddr
          let ans ← socket.connect remoteAddr
          return ([handleAxresult errno ans.1], ans.2) : NetM smol _)
      fun result now => now.socketVec = state.socketVec ∧
        (result.1 = [errorWord errno .wouldBlock] → result.2.state = .connecting) := by
    intro other stored
    obtain rfl : socket = other := Option.some.inj (Option.some.inj (found.symm.trans stored))
    refine .bind ((readItem_spec layout state remoteAddr).partly fun _ _ spec => spec.1) fun addr => ?_
    refine (((socket.connect_quietly named addr).start state).also
      (socket.connect_wouldBlock nonblocking addr)).bind fun ans =>
      MemTriple.pure fun now spec => ⟨spec.1.1.toTame.table, fun answered => spec.2 ?_⟩
    exact handleAxresult_eq_errorWord errno (List.singleton_inj.mp answered)
  have silent : ∀ socket : TcpSocket, Replies 0 (do
      let remoteAddr ← readItem layout remoteAddr
      let ans ← socket.connect remoteAddr
      return ([handleAxresult errno ans.1], ans.2) : NetM smol _) := fun socket =>
    ((readItem_disciplined layout remoteAddr : Disciplined belowTable 0 _).andThen fun addr =>
      (TcpSocket.connect_disciplined socket addr).andThen fun _ => .pure).replies
  refine (onSocket_sends id connects silent).weaken (fun _ holds => holds) ?_ fun _ _ holds => holds
  rintro _ world ⟨socket, result, middle, stored, ⟨table, connecting⟩, memory, sentEq⟩ answered
  rw [sentEq] at answered
  have words := List.singleton_inj.mp (List.append_cancel_left answered)
  have inside : id.toNat < middle.socketVec.length := by
    rw [table]
    exact (List.getElem?_eq_some_iff.mp stored).1
  refine ⟨result.2, ?_, connecting words⟩
  rw [memory]
  exact List.getElem?_set_self inside

def Transfers (id : UInt64) : NetRequsetabel → Prop
  | .send other _ _ | .recv other _ _ => other = id
  | _ => False

theorem handleTransfer_sends (connecting : state.ConnectingAt id.toNat)
    (transfers : Transfers id request) :
    Triple (fun world => world.memory = state ∧ world.sent = sent) (handleRequest errno layout request)
      (fun _ world => world.memory.sockets = state.sockets ∧ world.sent = sent ++ [[errorWord errno .wouldBlock]])
      (fun _ _ => True) := by
  obtain ⟨socket, found, waits⟩ := connecting
  -- both requests come to the same answer, and neither looks at the connection
  have refused : ∀ {request : TcpSocket → NetM smol (List UInt64 × TcpSocket)},
      (∀ socket, Replies 0 (request socket)) →
      Yields state (request socket) (fun result now => result.1 = [errorWord errno .wouldBlock] ∧ now = state) →
      Triple (fun world => world.memory = state ∧ world.sent = sent) (onSocket id request)
        (fun _ world => world.memory.sockets = state.sockets ∧ world.sent = sent ++ [[errorWord errno .wouldBlock]])
        (fun _ _ => True) := by
    intro request silent answers
    have body : ∀ other, state.socketVec[id.toNat]? = some (some other) → Yields state (request other)
        fun result now => result.1 = [errorWord errno .wouldBlock] ∧ now = state := by
      intro other stored
      obtain rfl : socket = other := Option.some.inj (Option.some.inj (found.symm.trans stored))
      exact answers
    refine (onSocket_sends id body silent).weaken (fun _ holds => holds) ?_ fun _ _ holds => holds
    rintro _ world ⟨other, result, middle, -, ⟨words, rfl⟩, memory, sentEq⟩
    exact ⟨by rw [memory], by rw [sentEq, words]⟩
  cases request with
  | send other buf bufLen =>
    obtain rfl : other = id := transfers
    refine refused (fun socket =>
      ((slicePage_disciplined buf bufLen : Disciplined belowTable 0 _).andThen fun page =>
      (TcpSocket.onConnected_disciplined socket _).andThen fun _ => .pure).replies) ?_
    refine .bind ((slicePage_spec state buf bufLen).partly fun _ _ same => same) fun page => ?_
    rw [TcpSocket.send, TcpSocket.onConnected, if_pos waits, pure_bind]
    exact .pure fun _ same => ⟨rfl, same⟩
  | recv other buf bufLen =>
    obtain rfl : other = id := transfers
    refine refused (fun socket =>
      ((slicePage_disciplined buf bufLen : Disciplined belowTable 0 _).andThen fun page =>
      (TcpSocket.onConnected_disciplined socket _).andThen fun ans => ?_).replies) ?_
    · split
      · exact .pure
      · exact Disciplined.update.andThen fun _ => .pure
    · refine .bind ((slicePage_spec state buf bufLen).partly fun _ _ same => same) fun page => ?_
      rw [TcpSocket.recv, TcpSocket.onConnected, if_pos waits, pure_bind]
      exact .pure fun _ same => ⟨rfl, same⟩
  | _ => exact transfers.elim

end Requests

section Serve

variable (errno : AxErrno) (layout : SocketAddrLayout) {input : NetInput} {id : UInt64}
  {start done : NetWorld smol}

theorem serve_connects {remoteAddr : UInt64}
    (decoded : NetRequsetabel.tryFrom input.message.info input.message.regs = some (.connect id remoteAddr))
    (named : socket.handle = some handle)
    (found : start.memory.socketVec[id.toNat]? = some (some socket)) (nonblocking : socket.nonblock = true)
    (connects : (serve errno layout input).run start = .ok () done)
    (wouldBlock : done.sent = start.sent ++ [[errorWord errno .wouldBlock]]) : done.memory.ConnectingAt id.toNat := by
  have lookup : (input.arrive start.memory).socketVec[id.toNat]? = some (some socket) := found
  obtain ⟨_, connecting⟩ := (serve_spec errno layout decoded
    (fun memory sent => sent = start.sent ++ [[errorWord errno .wouldBlock]] → memory.ConnectingAt id.toNat)
    (handleConnect_sends errno layout named lookup nonblocking remoteAddr)).of_run ⟨rfl, rfl⟩ connects
  exact connecting wouldBlock

theorem serve_transfers
    (decoded : NetRequsetabel.tryFrom input.message.info input.message.regs = some request)
    (transfers : Transfers id request) (connecting : start.memory.ConnectingAt id.toNat)
    (served : (serve errno layout input).run start = .ok () done) :
    done.memory.sockets = start.memory.sockets ∧ done.sent = start.sent ++ [[errorWord errno .wouldBlock]] := by
  have waits : (input.arrive start.memory).ConnectingAt id.toNat := connecting
  obtain ⟨_, unchanged, answered⟩ := (serve_spec errno layout decoded
    (fun memory sent => memory.sockets = start.memory.sockets ∧ sent = start.sent ++
      [[errorWord errno .wouldBlock]])
    (handleTransfer_sends errno layout waits transfers)).of_run ⟨rfl, rfl⟩ served
  exact ⟨unchanged, answered⟩

end Serve

theorem run_handled {smol : Smoltcp} (lawful : smol.Lawful) (errno : AxErrno) (layout : SocketAddrLayout)
    {inputs : List NetInput} {start later : NetWorld smol} (owned : Owned False none start.memory)
    (ran : (runAll (serve errno layout) inputs).run start = .ok () later) :
    Owned False none later.memory ∧ ∀ id, (∀ input ∈ inputs, input.closedSlot ≠ some id) →
      start.memory.ConnectingAt id → later.memory.ConnectingAt id := by
  induction inputs generalizing start with
  | nil =>
    cases ran
    exact ⟨owned, fun _ _ connecting => connecting⟩
  | cons input rest ih =>
    rw [runAll, EStateM.run_bind] at ran
    cases served : (serve errno layout input : NetM smol Unit).run start with
    | error fault world =>
      rw [served] at ran
      cases ran
    | ok value middle =>
      rw [served] at ran
      have handled := (serve_handled errno layout lawful input owned False.elim).triple.of_run rfl served
      obtain ⟨owned, kept⟩ := ih handled.1 ran
      refine ⟨owned, fun id others connecting => kept id (fun other member => others other ?_) ?_⟩
      · exact List.mem_cons_of_mem _ member
      · exact handled.2 id (others input (List.mem_cons_self ..)) connecting

/-- After a connect that would block, a send or a receive on the socket is told
`WouldBlock` too, whatever has become of the connection meanwhile. -/
theorem nonblocking_connect_never_completes (smol : Smoltcp) (lawful : smol.Lawful)
    (errno : AxErrno) (layout : SocketAddrLayout) (earlier inputs : List NetInput)
    (start waiting later done : NetWorld smol)
    (reached : (runAll (serve errno layout) earlier).run (NetWorld.init smol) = .ok () start)
    (id remoteAddr : UInt64) (page : Option Memory) (arrivals : List Batch) (socket : TcpSocket)
    (found : start.memory.socketVec[id.toNat]? = some (some socket))
    (nonblocking : socket.nonblock = true)
    (connects : (serve errno layout (.ofRequest (.connect id remoteAddr) page arrivals)).run start =
      .ok () waiting)
    (wouldBlock : waiting.sent = start.sent ++ [[errorWord errno .wouldBlock]])
    (others : ∀ input ∈ inputs, input.closedSlot ≠ some id.toNat)
    (ran : (runAll (serve errno layout) inputs).run waiting = .ok () later)
    (request : NetRequsetabel) (transfers : Transfers id request) (page' : Option Memory)
    (arrivals' : List Batch)
    (served : (serve errno layout (.ofRequest request page' arrivals')).run later = .ok () done) :
    done.memory.sockets = later.memory.sockets ∧ done.sent = later.sent ++ [[errorWord errno .wouldBlock]] := by
  have owned := (run_handled lawful errno layout (init_owned False smol) reached).1
  obtain ⟨handle, named⟩ := owned.named _ _ found
  have connecting := serve_connects errno layout (NetRequsetabel.tryFrom_build _ _) named found
    nonblocking connects wouldBlock
  have owned := ((serve_handled errno layout lawful _ owned nofun).triple.of_run rfl connects).1
  have connecting := (run_handled lawful errno layout owned ran).2 id.toNat others connecting
  exact serve_transfers errno layout (NetRequsetabel.tryFrom_build _ _) transfers connecting served

def clientPage : Memory := Memory.store (fun _ => 0) 0 (taggedBytes ⟨.v4 #v[10, 0, 2, 2], 80⟩)

def clientRun : List NetInput := [.ofRequest .new none [], .ofRequest (.setNonBlocking 0 1) none []]

def clientSocket : TcpSocket :=
  { state := .closed, handle := some 0, localAddr := unspecifiedEndpoint,
    peerAddr := unspecifiedEndpoint,
    nonblock := true, reuseAddr := false }

def meanwhileRun : List NetInput :=
    [.ofRequest .new none [], .ofRequest (.close 1) none [⟨[], [synAckFrame 80 0x1000]⟩]]

theorem nonblocking_connect_never_completes_clientRun :
    let start := finalState ((runAll (serve .sequential .tagged) clientRun).run (NetWorld.init .small))
    let waiting := finalState
      ((serve .sequential .tagged (.ofRequest (.connect 0 0) (some clientPage) [])).run start)
    let later := finalState ((runAll (serve .sequential .tagged) meanwhileRun).run waiting)
    let after := finalState ((serve .sequential .tagged (.ofRequest (.recv 0 0 16) (some clientPage) [])).run later)
    after.memory.sockets = later.memory.sockets ∧ after.sent = later.sent ++
      [[errorWord .sequential .wouldBlock]] := by
  intro start waiting later after
  have reached : returnValue
      ((runAll (serve .sequential .tagged) clientRun).run (NetWorld.init .small)) = some () := by
    decide +kernel
  have connects : returnValue
    ((serve .sequential .tagged (.ofRequest (.connect 0 0) (some clientPage) [])).run start) =
      some () := by decide +kernel
  have ran : returnValue ((runAll (serve .sequential .tagged) meanwhileRun).run waiting) =
    some () := by decide +kernel
  have served : returnValue
    ((serve .sequential .tagged (.ofRequest (.recv 0 0 16) (some clientPage) [])).run later) =
      some () := by decide +kernel
  exact nonblocking_connect_never_completes .small Smoltcp.small_lawful .sequential .tagged
    clientRun meanwhileRun
    start waiting later after (ran_of_returnValue reached) 0 0 (some clientPage) [] clientSocket
      (by decide +kernel) rfl
    (ran_of_returnValue connects) (by decide +kernel) (by decide) (ran_of_returnValue ran) (.recv 0 0 16) rfl
    (some clientPage) [] (ran_of_returnValue served)

/-- The connection is established and could send, and the send is told to wait. -/
theorem established_send_would_block :
    let waiting := finalState ((runAll (serve .sequential .tagged)
      (clientRun ++ [.ofRequest (.connect 0 0) (some clientPage) []])).run (NetWorld.init .small))
    let later := finalState ((runAll (serve .sequential .tagged) meanwhileRun).run waiting)
    let sending := (serve .sequential .tagged (.ofRequest (.send 0 0 16) (some clientPage) [])).run later
    waiting.sent.getLast? = some [errorWord .sequential .wouldBlock] ∧
      later.memory.sockets[0]?.map SmallSocket.state = some .established ∧
      later.memory.sockets[0]?.map Smoltcp.small.canSend = some true ∧
      returnValue sending = some () ∧
      (finalState sending).sent = later.sent ++ [[errorWord .sequential .wouldBlock]] := by
  decide +kernel

end RootTaskDemo.Net
