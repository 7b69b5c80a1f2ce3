import RootTaskDemo.Net.Quiet

namespace RootTaskDemo.Net

open Common Lib Thread MemTriple

variable {smol : Smoltcp} {α : Type} {self : TcpSocket} {state : NetState smol}
  {handle : SocketHandle}
variable {f : smol.Socket → NetM smol (α × smol.Socket)} {port : UInt16} {socket : smol.Socket}

/-! What `poll` reports against what the operations do: a socket is reported ready
exactly if the operation would not have to wait. -/

/-- The predicates of a TCP socket as the stack documents them. -/
structure Smoltcp.Documented (smol : Smoltcp) : Prop where
  mayRecv : ∀ socket, smol.mayRecv socket = true ↔
    smol.state socket ∈ [.established, .finWait1, .finWait2] ∨ 0 < smol.recvQueue socket
  canRecv : ∀ socket, smol.canRecv socket = true ↔ smol.mayRecv socket = true ∧ 0 < smol.recvQueue socket
  maySend : ∀ socket, smol.maySend socket = true ↔ smol.state socket ∈ [.established, .closeWait]
  canSend : ∀ socket, smol.canSend socket = true → smol.maySend socket = true
  isActive : ∀ socket, smol.isActive socket = false ↔ smol.state socket ∈ [.closed, .timeWait, .listen]

def PollsReadable (state : NetState smol) (self : TcpSocket) : Prop :=
  Returns state self.poll fun result => ∃ poll, result.1 = .ok poll ∧ poll.readable = true

def PollsWritable (state : NetState smol) (self : TcpSocket) : Prop :=
  Returns state self.poll fun result => ∃ poll, result.1 = .ok poll ∧ poll.writable = true

def Proceeds (state : NetState smol) (operation : NetM smol (AxResult α × TcpSocket)) : Prop :=
  Returns state operation fun result => isWouldBlock result.1 = false

def TcpSocket.nonblocking (self : TcpSocket) : TcpSocket := { self with nonblock := true }

def Attached (state : NetState smol) (self : TcpSocket) (ready : smol.Socket → Prop) : Prop :=
  ∃ handle socket, self.handle = some handle ∧ state.sockets[handle]? = some socket ∧ ready socket

theorem withSocketMut_missing {post : α → NetState smol → Prop}
    (missing : state.sockets[handle]? = none) :
    Yields state (SocketSetWrapper.withSocketMut handle f) post := by
  refine .locked (.read_bind ?_)
  rintro state rfl
  rw [missing]
  exact panicWith_triple fun _ _ => trivial

theorem withSocketMut_returns {good : α → Prop} (found : state.sockets[handle]? = some socket)
    (body : Returns state (f socket) fun result => good result.1) :
    Returns state (SocketSetWrapper.withSocketMut handle f) good := by
  refine .locked (.read_bind ?_)
  rintro state rfl
  rw [found]
  exact .bind body fun result => .bind (.update fun _ holds => holds) fun _ =>
    MemTriple.pure fun _ holds => holds

theorem unwrapHandle_decides {body : SocketHandle → NetM smol α} {good : α → Prop}
    {ready : smol.Socket → Prop}
    (found : ∀ handle socket, state.sockets[handle]? = some socket →
      Returns state (body handle) fun value => good value ↔ ready socket)
    (missing : ∀ handle, state.sockets[handle]? = none → Yields state (body handle) fun _ _ =>
      False) :
    Returns state (self.unwrapHandle >>= body) good ↔ Attached state self ready := by
  refine returns_iff_of ?_
  unfold TcpSocket.unwrapHandle
  cases named : self.handle with
  | none =>
    refine .bind (panicWith_triple (fun _ _ => ?_) : MemTriple _ _ (fun _ _ => False) _) fun _ =>
      MemTriple.fixed fun _ never => never.elim
    rintro ⟨handle, socket, same, -⟩
    rw [named] at same
    cases same
  | some handle =>
    dsimp only
    rw [pure_bind]
    cases lookup : state.sockets[handle]? with
    | none =>
      refine (missing handle lookup).weaken (fun _ same => same) (fun _ _ never => never.elim) fun _ _ => ?_
      rintro ⟨other, socket, same, here, -⟩
      cases Option.some.inj (named.symm.trans same)
      rw [lookup] at here
      cases here
    | some socket =>
      refine MemTriple.weaken (found handle socket lookup) (fun _ same => same)
        (fun value _ agree => agree.trans ?_) nofun
      refine ⟨fun ready => ⟨handle, socket, named, lookup, ready⟩, ?_⟩
      rintro ⟨other, socket', same, here, ready⟩
      cases Option.some.inj (named.symm.trans same)
      cases Option.some.inj (lookup.symm.trans here)
      exact ready

theorem pollStream_missing (missing : state.sockets[handle]? = none) {f : smol.Socket → NetM smol α} :
    Yields state (SocketSetWrapper.withSocket handle f) fun _ _ => False := by
  refine SocketSetWrapper.withSocket_spec (fun socket found => ?_) fun _ => trivial
  rw [missing] at found
  cases found

theorem poll_connected (connected : self.state = .connected) :
    (self.poll : NetM smol _) = self.unwrapHandle >>= fun handle =>
      SocketSetWrapper.withSocket handle (fun socket =>
        return .ok { readable := !smol.mayRecv socket || smol.canRecv socket
                     writable := !smol.maySend socket || smol.canSend socket }) >>= fun result => pure (result, self) := by
  rw [TcpSocket.poll, connected]
  simp only [TcpSocket.pollStream, bind_assoc]

theorem poll_connected_iff (connected : self.state = .connected) (report : PollState → Bool) :
    Returns state self.poll (fun result => ∃ poll, result.1 = .ok poll ∧ report poll = true) ↔
      Attached state self fun socket => report { readable := !smol.mayRecv socket || smol.canRecv socket
                                                 writable := !smol.maySend socket || smol.canSend socket } = true := by
  rw [poll_connected connected]
  refine unwrapHandle_decides (fun handle socket found => ?_) fun handle missing =>
    (pollStream_missing missing).bind fun _ => .fixed fun _ never => never.elim
  have polled : Returns state (SocketSetWrapper.withSocket handle fun socket : smol.Socket =>
      (return .ok { readable := !smol.mayRecv socket || smol.canRecv socket
                    writable := !smol.maySend socket || smol.canSend socket } : NetM smol (AxResult PollState)))
      fun result => result = .ok { readable := !smol.mayRecv socket || smol.canRecv socket
                                   writable := !smol.maySend socket || smol.canSend socket } := by
    refine SocketSetWrapper.withSocket_spec (fun other here => ?_) fun absent => ?_
    · cases Option.some.inj (found.symm.trans here)
      exact .pure fun _ _ => rfl
    · exact absent (Std.TreeMap.mem_iff_isSome_getElem?.mpr (by rw [found]; rfl))
  refine .bind polled fun result => .fixed ?_
  rintro _ rfl
  refine .pure fun _ _ => ?_
  constructor
  · rintro ⟨poll, same, holds⟩
    cases same
    exact holds
  · exact fun holds => ⟨_, rfl, holds⟩

def RecvWaits (socket : smol.Socket) : Prop :=
  smol.recvQueue socket = 0 ∧ smol.isActive socket = true ∧ smol.mayRecv socket = true

def SendWaits (socket : smol.Socket) : Prop :=
  smol.isActive socket = true ∧ smol.maySend socket = true ∧ smol.canSend socket = false

theorem recvOnce_goes_on (len : Nat) (socket : smol.Socket) :
    isWouldBlock (TcpSocket.recvOnce len socket).1 = false ↔ ¬ RecvWaits socket := by
  unfold TcpSocket.recvOnce RecvWaits
  by_cases data : smol.recvQueue socket > 0
  · have ready : smol.recvQueue socket ≠ 0 := by omega
    cases smol.recvSlice len socket with
    | none => simp [data, ready, isWouldBlock]
    | some read => simp [data, ready, isWouldBlock]
  · have empty : smol.recvQueue socket = 0 := by omega
    cases active : smol.isActive socket with
    | false => simp [empty, isWouldBlock]
    | true =>
      cases may : smol.mayRecv socket with
      | false => simp [empty, isWouldBlock]
      | true => simp [empty, isWouldBlock]

theorem sendOnce_goes_on (buf : List UInt8) (socket : smol.Socket) :
    isWouldBlock (TcpSocket.sendOnce buf socket).1 = false ↔ ¬ SendWaits socket := by
  unfold TcpSocket.sendOnce SendWaits
  cases active : smol.isActive socket with
  | false => simp [isWouldBlock]
  | true =>
    cases may : smol.maySend socket with
    | false => simp [isWouldBlock]
    | true =>
      cases room : smol.canSend socket with
      | false => simp [isWouldBlock]
      | true =>
        cases smol.sendSlice buf socket with
        | none => simp [isWouldBlock]
        | some sent => simp [isWouldBlock]

theorem onConnected_proceeds_iff {once : smol.Socket → AxResult α × smol.Socket}
    {waits : smol.Socket → Prop} (connected : self.state = .connected)
    (goesOn : ∀ socket, isWouldBlock (once socket).1 = false ↔ ¬ waits socket) :
    Proceeds state (self.nonblocking.onConnected once) ↔ Attached state self fun socket => ¬ waits socket := by
  have round : self.nonblocking.onConnected once = self.nonblocking.unwrapHandle >>= fun handle =>
      SocketSetWrapper.withSocketMut handle (fun socket => return once socket) >>= fun result =>
        pure (result, self.nonblocking) := by
    rw [TcpSocket.onConnected, if_neg (by rw [TcpSocket.nonblocking, connected]; decide),
      if_neg (by simp [TcpSocket.nonblocking, connected])]
    rfl
  rw [Proceeds, round]
  refine unwrapHandle_decides (fun handle socket here => ?_) fun handle absent =>
    (withSocketMut_missing absent : Yields _ _ fun _ _ => False).bind fun _ => .fixed fun _ never => never.elim
  exact .bind (withSocketMut_returns here (.pure fun _ _ => goesOn socket)) fun result =>
    .pure fun _ agree => agree

theorem Attached.congr {ready ready' : smol.Socket → Prop}
    (same : ∀ socket, ready socket ↔ ready' socket) :
    Attached state self ready ↔ Attached state self ready' := by
  unfold Attached
  simp only [same]

theorem Smoltcp.Documented.readable_iff (documented : smol.Documented) (socket : smol.Socket) :
    (!smol.mayRecv socket || smol.canRecv socket) = true ↔ ¬ RecvWaits socket := by
  have may := documented.mayRecv socket
  have can := documented.canRecv socket
  have active := documented.isActive socket
  rw [Bool.or_eq_true, Bool.not_eq_true', can, RecvWaits]
  cases receives : smol.mayRecv socket with
  | false => simp
  | true =>
    rw [receives] at may
    by_cases data : 0 < smol.recvQueue socket
    · simp [data, Nat.ne_of_gt data]
    · -- without data only an open connection may receive, and it is active
      have states := (may.mp rfl).resolve_right data
      have live : smol.isActive socket = true := by
        rw [← Bool.not_eq_false, active]
        intro idle
        simp only [List.mem_cons, List.not_mem_nil, or_false] at states idle
        rcases states with open' | open' | open' <;> simp [open'] at idle
      simp [live, Nat.le_zero.mp (Nat.not_lt.mp data)]

theorem Smoltcp.Documented.writable_iff (documented : smol.Documented) (socket : smol.Socket) :
    (!smol.maySend socket || smol.canSend socket) = true ↔ ¬ SendWaits socket := by
  have may := documented.maySend socket
  have active := documented.isActive socket
  rw [SendWaits]
  cases sends : smol.maySend socket with
  | false => simp
  | true =>
    rw [sends] at may
    have states := may.mp rfl
    have live : smol.isActive socket = true := by
      rw [← Bool.not_eq_false, active]
      intro idle
      simp only [List.mem_cons, List.not_mem_nil, or_false] at states idle
      rcases states with open' | open' <;> simp [open'] at idle
    simp [live]

/-- Where the search of a queue ends: at the first connection that is past its handshake,
behind the queue, or, with `none`, at a handle that is not in the set. -/
def NetState.firstConnected (state : NetState smol) : List SocketHandle → Option (Option Nat)
  | [] => some none
  | handle :: rest =>
    match state.sockets[handle]? with
    | none => none
    | some socket =>
      if isConnectedState (smol.state socket) then some (some 0)
        else (state.firstConnected rest).map (Option.map (· + 1))

theorem findConnected_decides (queue : List SocketHandle) :
    RunFrom state (ListenTable.findConnected queue)
      (fun found now => now = state ∧ state.firstConnected queue = some found)
        (fun _ => state.firstConnected queue = none) := by
  induction queue with
  | nil => exact .pure fun _ same => ⟨same, rfl⟩
  | cons handle rest ih =>
    unfold NetState.firstConnected
    cases lookup : state.sockets[handle]? with
    | none =>
      have panics : Yields state (isConnected handle) fun _ _ => False :=
        pollStream_missing lookup
      exact (panics.onStop fun _ _ => rfl).bind fun _ =>
        MemTriple.fixed fun _ never => never.elim
    | some socket =>
      have checked : Delivers state (isConnected handle)
          fun connected now => now = state ∧ connected = isConnectedState (smol.state socket) := by
        refine SocketSetWrapper.withSocket_spec (fun other here => ?_) fun absent => ?_
        · cases Option.some.inj (lookup.symm.trans here)
          exact .pure fun _ same => ⟨same, rfl⟩
        · exact absent (Std.TreeMap.mem_iff_isSome_getElem?.mpr (by rw [lookup]; rfl))
      refine checked.raising.bind fun connected => .fixed ?_
      rintro now ⟨rfl, rfl⟩
      dsimp only
      split
      · exact .pure fun _ same => ⟨same, rfl⟩
      · refine (ih.onStop fun _ missing => ?_).bind fun found => .pure ?_
        · rw [missing]
          rfl
        · rintro now ⟨rfl, here⟩
          exact ⟨rfl, by rw [here]; rfl⟩

theorem anyConnected_eq (queue : List SocketHandle) :
    (ListenTable.anyConnected queue : NetM smol Bool) = ListenTable.findConnected queue >>=
      fun found => pure found.isSome := by
  induction queue with
  | nil => rfl
  | cons handle rest ih =>
    unfold ListenTable.anyConnected ListenTable.findConnected
    rw [bind_assoc]
    refine congrArg _ (funext fun connected => ?_)
    split
    · rfl
    · rw [ih, bind_assoc]
      refine congrArg _ (funext fun found => ?_)
      rw [pure_bind, Option.isSome_map]

theorem firstConnected_found {queue : List SocketHandle} {index : Nat}
    (found : state.firstConnected queue = some (some index)) :
    ∃ handle socket, queue[index]? = some handle ∧ state.sockets[handle]? = some socket ∧
      isConnectedState (smol.state socket) = true := by
  induction queue generalizing index with
  | nil => cases found
  | cons handle rest ih =>
    unfold NetState.firstConnected at found
    cases lookup : state.sockets[handle]? with
    | none => simp [lookup] at found
    | some socket =>
      simp only [lookup] at found
      split at found
      · cases found
        exact ⟨handle, socket, rfl, lookup, by assumption⟩
      · obtain ⟨inner, later, mapped⟩ := Option.map_eq_some_iff.mp found
        obtain ⟨before, innerEq, rfl⟩ := Option.map_eq_some_iff.mp mapped
        exact ih (innerEq ▸ later)

theorem swapRemoveFront_present {queue : List α} {index : Nat} {value : α}
    (present : queue[index]? = some value) :
    ∃ rest, swapRemoveFront queue index = some (value, rest) := by
  cases queue with
  | nil => cases present
  | cons front tail =>
    cases index with
    | zero =>
      cases present
      exact ⟨tail, rfl⟩
    | succ index =>
      rw [List.getElem?_cons_succ] at present
      exact ⟨tail.set index front, by rw [swapRemoveFront, present]; rfl⟩

def NetState.Waiting (state : NetState smol) (port : UInt16) : Prop :=
  ∃ inside : port.toNat < portNum, ∃ entry, state.listenTable ⟨port.toNat, inside⟩ = some entry ∧
    ∃ index, state.firstConnected entry.synQueue = some (some index)

theorem lockSlot_decides {body : Fin portNum → NetM smol α} {post : α → Prop}
    (slot : ∀ inside : port.toNat < portNum, RunFrom state (body ⟨port.toNat, inside⟩)
      (fun value _ => post value) (fun _ => ¬ state.Waiting port)) :
    RunFrom state (ListenTable.lockSlot port body) (fun value _ => post value)
      (fun _ => ¬ state.Waiting port) := by
  unfold ListenTable.lockSlot
  split
  · rename_i inside
    exact .locked (slot inside)
  · rename_i outside
    exact panicWith_triple fun _ _ waiting => outside waiting.1

theorem waiting_iff {inside : port.toNat < portNum} {entry : ListenTableEntry}
    (found : state.listenTable ⟨port.toNat, inside⟩ = some entry) :
    state.Waiting port ↔ ∃ index, state.firstConnected entry.synQueue = some (some index) := by
  refine ⟨?_, fun waits => ⟨inside, entry, found, waits⟩⟩
  rintro ⟨_, other, here, waits⟩
  cases Option.some.inj (found.symm.trans here)
  exact waits

theorem findConnected_waiting {inside : port.toNat < portNum} {entry : ListenTableEntry}
    (found : state.listenTable ⟨port.toNat, inside⟩ = some entry) :
    RunFrom state (ListenTable.findConnected entry.synQueue)
      (fun index now => now = state ∧ state.firstConnected entry.synQueue = some index ∧
        (index.isSome = true ↔ state.Waiting port))
      (fun _ => ¬ state.Waiting port) := by
  refine (findConnected_decides entry.synQueue).weaken (fun _ same => same)
    (fun index now spec => ⟨spec.1, spec.2, ?_⟩)
    fun _ missing => ?_
  · rw [waiting_iff found, spec.2]
    simp [Option.isSome_iff_exists]
  · rw [waiting_iff found, missing]
    simp

theorem canAccept_decides (port : UInt16) :
    RunFrom state (ListenTable.canAccept port) (fun result _ => result = .ok true ↔ state.Waiting port)
      (fun _ => ¬ state.Waiting port) := by
  refine lockSlot_decides fun inside => .read_bind ?_
  rintro state rfl
  cases found : state.listenTable ⟨port.toNat, inside⟩ with
  | none =>
    refine .pure fun _ _ => ⟨nofun, ?_⟩
    rintro ⟨_, entry, here, -⟩
    rw [found] at here
    cases here
  | some entry =>
    dsimp only
    rw [anyConnected_eq, bind_assoc]
    refine (findConnected_waiting found).bind fun index => .pure ?_
    rintro _ ⟨-, -, agree⟩
    rw [← agree, Except.ok.injEq]

theorem listenTable_accept_decides (lawful : smol.Lawful)
    (listens : ∀ inside : port.toNat < portNum, (state.listenTable ⟨port.toNat, inside⟩).isSome = true) :
    RunFrom state (ListenTable.accept port)
      (fun result _ => isWouldBlock result = false ↔ state.Waiting port) (fun _ => ¬ state.Waiting port) := by
  refine lockSlot_decides fun inside => .read_bind ?_
  rintro state rfl
  obtain ⟨entry, found⟩ := Option.isSome_iff_exists.mp (listens inside)
  rw [found]
  refine (findConnected_waiting found).bind fun index => .fixed ?_
  rintro state ⟨rfl, first, agree⟩
  cases index with
  | none =>
    refine .pure fun _ _ => ?_
    rw [← agree]
    simp [isWouldBlock]
  | some index =>
    have waiting : state.Waiting port := agree.mp rfl
    obtain ⟨handle, socket, queued, lookup, connected⟩ := firstConnected_found first
    obtain ⟨rest, removed⟩ := swapRemoveFront_present queued
    have goesOn : ∀ {result : AxResult (SocketHandle × IpEndpoint × IpEndpoint)}, isWouldBlock result = false →
        (isWouldBlock result = false ↔ state.Waiting port) := fun other => ⟨fun _ => waiting, fun _ => other⟩
    dsimp only
    rw [removed]
    refine .update_bind ?_
    have here : (state.setEntry ⟨port.toNat, inside⟩
      (some { entry with synQueue := rest })).sockets[handle]? = some socket := lookup
    refine ((isClosed_spec _ handle).onStop fun _ missing => ?_).bind fun closed =>
      MemTriple.fixed ?_
    · exact absurd (Std.TreeMap.mem_iff_isSome_getElem?.mpr (by rw [here]; rfl)) missing
    · rintro _ ⟨rfl, other, same, rfl⟩
      cases Option.some.inj (here.symm.trans same)
      split
      · exact .pure fun _ _ => goesOn rfl
      · rename_i open'
        have states : smol.state socket ≠ .closed ∧ smol.state socket ≠ .listen := by
          constructor
          · simpa using open'
          · intro listening
            simp [isConnectedState, listening] at connected
        obtain ⟨localAddr, localEq⟩ := Option.isSome_iff_exists.mp (lawful.endpoints socket states.1 states.2).1
        obtain ⟨peerAddr, peerEq⟩ := Option.isSome_iff_exists.mp (lawful.endpoints socket states.1 states.2).2
        refine .bind (SocketSetWrapper.withSocket_spec (fun other same => ?_) fun missing => ?_ :
          MemTriple _ _ (fun _ _ => True) _) fun addrs => .pure fun _ _ => goesOn rfl
        · cases Option.some.inj (here.symm.trans same)
          rw [localEq, peerEq]
          exact .pure fun _ _ => trivial
        · exact absurd (Std.TreeMap.mem_iff_isSome_getElem?.mpr (by rw [here]; rfl)) missing

theorem poll_listening_iff (listening : self.state = .listening) :
    PollsReadable state self ↔ state.Waiting self.localAddr.port := by
  refine returns_iff_of ?_
  rw [TcpSocket.poll, listening]
  dsimp only
  rw [TcpSocket.pollListener, bind_assoc]
  refine (canAccept_decides self.localAddr.port).bind fun result => ?_
  cases result with
  | error error =>
    refine .pure fun _ agree => ?_
    rw [← agree]
    simp
  | ok readable =>
    refine .pure fun _ agree => ?_
    rw [← agree]
    simp

theorem accept_proceeds_iff (lawful : smol.Lawful) (listening : self.state = .listening)
    (listens : ∀ inside : self.localAddr.port.toNat < portNum,
      (state.listenTable ⟨self.localAddr.port.toNat, inside⟩).isSome = true) :
    Proceeds state self.nonblocking.accept ↔ state.Waiting self.localAddr.port := by
  refine returns_iff_of ?_
  rw [TcpSocket.accept, if_neg (by simp [TcpSocket.nonblocking, listening]), TcpSocket.blockOn,
    if_pos (show self.nonblocking.nonblock = true from rfl)]
  refine (listenTable_accept_decides lawful listens).bind fun result => ?_
  cases result with
  | error error =>
    refine .pure fun _ agree => ?_
    cases error <;> exact agree
  | ok accepted => exact .pure fun _ agree => agree

/-- A socket is reported readable exactly if `recv`, or `accept` of a listener, would not have
to wait, and a stream is reported writable exactly if `send` would not. -/
theorem readiness_agrees (lawful : smol.Lawful) (documented : smol.Documented) (self : TcpSocket)
    (state : NetState smol) :
    (self.state = .connected → ∀ len, PollsReadable state self ↔ Proceeds state (self.nonblocking.recv len)) ∧
      (self.state = .connected → ∀ buf, PollsWritable state self ↔ Proceeds state (self.nonblocking.send buf)) ∧
      (self.state = .listening →
        (∀ inside : self.localAddr.port.toNat < portNum, (state.listenTable ⟨self.localAddr.port.toNat, inside⟩).isSome = true) →
        (PollsReadable state self ↔ Proceeds state self.nonblocking.accept)) := by
  refine ⟨fun connected len => ?_, fun connected buf => ?_, fun listening listens => ?_⟩
  · rw [PollsReadable, poll_connected_iff connected PollState.readable, TcpSocket.recv,
      onConnected_proceeds_iff connected (recvOnce_goes_on _)]
    exact Attached.congr documented.readable_iff
  · rw [PollsWritable, poll_connected_iff connected PollState.writable, TcpSocket.send,
      onConnected_proceeds_iff connected (sendOnce_goes_on _)]
    exact Attached.congr documented.writable_iff
  · rw [poll_listening_iff listening, accept_proceeds_iff lawful listening listens]

theorem SmallSocket.state_cases (socket : SmallSocket) :
    socket.state ∈ [.closed, .listen, .synSent, .synReceived, .established, .finWait1] := by
  cases socket with
  | closed | listening => simp [SmallSocket.state]
  | connection phase => cases phase <;> simp [SmallSocket.state, Phase.state]

theorem Smoltcp.small_documented : Smoltcp.small.Documented where
  mayRecv socket := by
    have cases := SmallSocket.state_cases socket
    simp only [Smoltcp.small, decide_eq_true_eq, List.length_pos_iff]
    aesop
  canRecv socket := by
    simp only [Smoltcp.small, decide_eq_true_eq, List.length_pos_iff]
    exact ⟨fun queued => ⟨Or.inr (Or.inr queued), queued⟩, And.right⟩
  maySend socket := by
    have cases := SmallSocket.state_cases socket
    simp only [Smoltcp.small, decide_eq_true_eq]
    aesop
  canSend socket := id
  isActive socket := by
    have cases := SmallSocket.state_cases socket
    simp only [Smoltcp.small, decide_eq_false_iff_not]
    aesop

def readyState : NetState Smoltcp.small :=
  let stream := SmallSocket.connection .established ⟨none, 0⟩ ⟨none, 80⟩ unspecifiedEndpoint
    unspecifiedEndpoint
  { NetState.init Smoltcp.small with
    sockets := ((Std.TreeMap.empty.insert 0 (stream [1, 2, 3])).insert 1
      (.listening ⟨none, 0⟩ ⟨none, 80⟩)).insert 2 (stream [])
    listenTable := Function.update (fun _ => none) ⟨80, by decide⟩ (some ⟨⟨none, 80⟩, [1, 2]⟩) }

def readyStream : TcpSocket := TcpSocket.newConnected 0 unspecifiedEndpoint unspecifiedEndpoint

def readyListener : TcpSocket :=
  { readyStream with state := .listening, handle := none, localAddr := { unspecifiedEndpoint with port := 80 } }

theorem readiness_agrees_ready :
    (PollsReadable readyState readyStream ↔ Proceeds readyState (readyStream.nonblocking.recv 2)) ∧
      (PollsWritable readyState readyStream ↔ Proceeds readyState (readyStream.nonblocking.send [7])) ∧
      (PollsReadable readyState readyListener ↔ Proceeds readyState readyListener.nonblocking.accept) := by
  obtain ⟨readable, writable, -⟩ := readiness_agrees Smoltcp.small_lawful Smoltcp.small_documented readyStream readyState
  obtain ⟨-, -, acceptable⟩ := readiness_agrees Smoltcp.small_lawful Smoltcp.small_documented readyListener readyState
  exact ⟨readable rfl 2, writable rfl [7], acceptable rfl fun inside => by rfl⟩

end RootTaskDemo.Net
