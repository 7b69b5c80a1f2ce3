import RootTaskDemo.Lib.Runs
import RootTaskDemo.Net.Locks

namespace RootTaskDemo.Net

open Common Lib Thread

variable {smol : Smoltcp} {α : Type}
variable {locks : Lock → Prop}

/-! No request asks for a lock that its own guards hold, but for an accept that
finds a connection: it looks for a free slot of the socket table under the guard
of that table. -/

namespace NetState

def readyHandle (state : NetState smol) (port : UInt16) : Option SocketHandle :=
  if inside : port.toNat < portNum then
    (state.listenTable ⟨port.toNat, inside⟩).bind fun entry => entry.synQueue.find? state.connected
  else none

/-- The connection is handed out unless it was reset while it was queued. -/
def readySocket (state : NetState smol) (port : UInt16) : Option smol.Socket :=
  (state.readyHandle port).bind fun handle => state.sockets[handle]?

def handsOut (state : NetState smol) (port : UInt16) : Bool :=
  (state.readySocket port).any fun socket => smol.state socket != .closed

def takesReset (state : NetState smol) (port : UInt16) : Bool :=
  (state.readySocket port).any fun socket => smol.state socket == .closed

/-- The test holds at the first poll that leaves a handle ready. -/
def holdsWithin (test : NetState smol → Bool) (port : UInt16) : List Batch → NetState smol → Bool
  | [], _ => false
  | _ :: rest, state => match effect SocketSetWrapper.pollInterfaces state with
    | .error _ => false
    | .ok ((), polled) => test polled || (polled.readyHandle port).isNone && holdsWithin test port rest polled

end NetState

namespace TcpSocket

def acceptsWhen (self : TcpSocket) (test : NetState smol → Bool) (state : NetState smol) : Bool :=
  self.state == .listening &&
    if self.nonblock then test state else state.holdsWithin test self.localAddr.port state.incoming

def handsOut (self : TcpSocket) (state : NetState smol) : Bool :=
  self.acceptsWhen (NetState.handsOut · self.localAddr.port) state

/-- An accept takes a connection that was reset while it was queued. -/
def takesReset (self : TcpSocket) (state : NetState smol) : Bool :=
  self.acceptsWhen (NetState.takesReset · self.localAddr.port) state

end TcpSocket

theorem ListenTable.accept_spec (state : NetState smol) (port : UInt16) :
    Yields state (ListenTable.accept port)
      fun result now => (∀ value, result = .ok value → state.handsOut port = true) ∧
        (result = .error .connectionReset → state.takesReset port = true) ∧
        (isWouldBlock result = true → now = state ∧ state.readyHandle port = none) := by
  unfold ListenTable.accept ListenTable.lockSlot
  split
  · rename_i inside
    refine .locked (.read_bind ?_)
    rintro state rfl
    cases listener : state.listenTable ⟨port.toNat, inside⟩ with
    | none => exact .pure fun _ _ => ⟨nofun, nofun, nofun⟩
    | some entry =>
      have ready : state.readyHandle port = entry.synQueue.find? state.connected := by
        rw [NetState.readyHandle, dif_pos inside, listener]
        rfl
      rw [List.find?_eq_bind_findIdx?_getElem?] at ready
      refine .bind ((findConnected_spec state entry.synQueue).partly
          fun _ _ spec => spec) fun found => .fixed ?_
      rintro state ⟨rfl, rfl⟩
      cases first : entry.synQueue.findIdx? state.connected with
      | none =>
        rw [first] at ready
        exact .pure fun now same => ⟨nofun, nofun, fun _ => ⟨same, ready⟩⟩
      | some index =>
        rw [first] at ready
        dsimp only
        cases removed : swapRemoveFront entry.synQueue index with
        | none => exact panicWith_triple fun _ _ => trivial
        | some taken =>
          obtain ⟨handle, synQueue⟩ := taken
          have taken : state.readyHandle port = some handle := by
            rw [ready]
            exact swapRemoveFront_fst removed
          refine .update_bind ?_
          refine .bind ((isClosed_spec _ handle).partly
              fun _ _ spec => spec) fun closed => .fixed ?_
          rintro now ⟨-, socket, found, rfl⟩
          rw [setEntry_sockets] at found
          have first : state.readySocket port = some socket := by rw [NetState.readySocket, taken, Option.bind_some, found]
          split
          · rename_i closed
            have reset : state.takesReset port = true := by rw [NetState.takesReset, first, Option.any_some, closed]
            exact .pure fun _ _ => ⟨nofun, fun _ => reset, nofun⟩
          · rename_i alive
            have handed : state.handsOut port = true := by
              rw [NetState.handsOut, first, Option.any_some, bne, Bool.eq_false_of_not_eq_true alive, Bool.not_false]
            exact MemTriple.anything.bind fun addrs => .pure fun _ _ => ⟨fun _ _ => handed, nofun, nofun⟩
  · exact panicWith_triple fun _ _ => trivial

namespace TcpSocket

theorem acceptOnce_spec (state : NetState smol) (self : TcpSocket) :
    Yields state self.acceptOnce
      fun result now => result.2 = self ∧
        (∀ value, result.1 = .ok value → state.handsOut self.localAddr.port = true) ∧
        (result.1 = .error .connectionReset → state.takesReset self.localAddr.port = true) ∧
        (isWouldBlock result.1 = true → now = state ∧ state.readyHandle self.localAddr.port = none) := by
  refine (ListenTable.accept_spec state self.localAddr.port).bind fun accepted => ?_
  cases accepted with
  | error error =>
    refine .pure fun now spec =>
      ⟨rfl, nofun, fun reset => spec.2.1 (by rw [Except.error.inj reset]), fun waits => spec.2.2 ?_⟩
    cases error <;> first | rfl | cases waits
  | ok value => exact .pure fun now spec => ⟨rfl, fun _ _ => spec.1 value rfl, nofun, nofun⟩

section Accepting

variable {self : TcpSocket} (good : AxResult TcpSocket → Prop) (test : NetState smol → Bool)
  (once : ∀ state, Yields state self.acceptOnce fun result _ => good result.1 → test state = true)
include once

theorem blockOnLoop_accept_spec (state : NetState smol) (batches : List Batch) :
    Yields state (blockOnLoop acceptOnce batches self) fun result _ =>
      good result.1 → state.holdsWithin test self.localAddr.port batches = true := by
  induction batches generalizing state with
  | nil => exact .stop fun _ _ => trivial
  | cons batch rest ih =>
    have polling : Yields state SocketSetWrapper.pollInterfaces
        fun _ after => effect SocketSetWrapper.pollInterfaces state = .ok ((), after) :=
      (MemTriple.of_effect pollInterfaces_disciplined.uniform state).partly fun _ _ ran => ran
    refine polling.bind fun _ => .fixed fun polled ran => ?_
    simp only [NetState.holdsWithin, ran, Bool.or_eq_true, Bool.and_eq_true]
    refine ((acceptOnce_spec polled self).also (once polled)).bind fun result => .fixed ?_
    rintro now ⟨⟨same, -, -, waits⟩, passes⟩
    split
    · rename_i blocking
      obtain ⟨rfl, empty⟩ := waits blocking
      rw [same]
      exact (ih now).mono fun result _ later holds => Or.inr ⟨by rw [empty]; rfl, later holds⟩
    · exact .pure fun _ _ holds => Or.inl (passes holds)

/-- A result of an accept that shows in one attempt shows in the attempt that came to it. -/
theorem accept_passes (rejects : ¬ good (.error .invalidInput)) (state : NetState smol) :
    Yields state self.accept fun result _ => good result.1 → self.acceptsWhen test state = true := by
  unfold accept
  split
  · exact .pure fun _ _ holds => absurd holds rejects
  · rename_i listening
    simp only [ne_eq, Decidable.not_not] at listening
    simp only [acceptsWhen, listening, beq_self_eq_true, Bool.true_and]
    unfold blockOn
    split
    · exact once state
    · refine .read_bind ?_
      rintro state rfl
      exact blockOnLoop_accept_spec good test once state state.incoming

end Accepting

theorem accept_spec (state : NetState smol) (self : TcpSocket) :
    Yields state self.accept fun result _ => ∀ value, result.1 = .ok value → self.handsOut state = true := by
  refine (accept_passes (fun result => ∃ value, result = .ok value)
    (NetState.handsOut · self.localAddr.port) (fun state => ?_)
    nofun state).mono fun _ _ passes value ok => passes ⟨value, ok⟩
  exact (acceptOnce_spec state self).mono fun _ _ spec ⟨value, ok⟩ => spec.2.1 value ok

theorem accept_reset_spec (state : NetState smol) (self : TcpSocket) :
    Yields state self.accept fun result _ => result.1 = .error .connectionReset → self.takesReset state = true :=
  accept_passes (· = .error .connectionReset) (NetState.takesReset · self.localAddr.port)
    (fun state => (acceptOnce_spec state self).mono fun _ _ spec => spec.2.2.1) nofun state

end TcpSocket

def anyLock (_ : Lock) : Prop := True

theorem locked_socketVec_disciplined {count : Nat} {program : NetM smol α}
    (body : Disciplined belowTable count program) :
    Disciplined anyLock count (locked .socketVec program) :=
  body.locked (fun different => different rfl) fun _ _ => trivial

theorem socketSlot_disciplined (id : Nat) :
    Disciplined locks 0 (socketSlot id : NetM smol _) := by
  refine Disciplined.read.andThen fun state => ?_
  split
  · exact panicWith_disciplined _
  · exact .pure

theorem unwrapSocket_disciplined (id : UInt64) :
    Disciplined locks 0 (unwrapSocket id : NetM smol _) := by
  refine (socketSlot_disciplined _).andThen fun slot => ?_
  split
  · exact panicWith_disciplined _
  · exact .pure

theorem allocSocketId_disciplined : Disciplined anyLock 0 (allocSocketId : NetM smol Nat) := by
  apply locked_socketVec_disciplined
  refine Disciplined.read.andThen fun state => ?_
  split
  · exact .pure
  · exact Disciplined.update.andThen fun _ => .pure

theorem assignSlot_disciplined (id : Nat) (socket : TcpSocket) :
    Disciplined belowTable 0 (assignSlot id socket : NetM smol Unit) := by
  refine (socketSlot_disciplined id).andThen fun old => Disciplined.update.andThen fun _ => ?_
  split
  · exact .pure
  · exact TcpSocket.drop_disciplined _

theorem mapPage_disciplined : Disciplined locks 0 (mapPage : NetM smol Memory) := by
  refine Disciplined.read.andThen fun state => ?_
  split
  · exact panicWith_disciplined _
  · exact .pure

theorem readItem_disciplined (layout : SocketAddrLayout) (ptr : UInt64) :
    Disciplined locks 0 (readItem layout ptr : NetM smol _) := by
  refine mapPage_disciplined.andThen fun page => ?_
  split
  · exact panicWith_disciplined _
  · exact .pure

theorem slicePage_disciplined (buf bufLen : UInt64) :
    Disciplined locks 0 (slicePage buf bufLen : NetM smol Memory) := by
  refine mapPage_disciplined.andThen fun page => ?_
  split
  · exact panicWith_disciplined _
  · split
    · exact .stop
    · exact .pure

theorem onSocket_disciplined (id : UInt64) {request : TcpSocket → NetM smol (List UInt64 × TcpSocket)}
    (body : ∀ socket, Disciplined belowTable 0 (request socket)) :
    Disciplined anyLock 1 (onSocket id request) :=
  locked_socketVec_disciplined <| (unwrapSocket_disciplined id).andThen fun socket =>
    (body socket).andThen fun _ => Disciplined.update.andThen fun _ => Disciplined.reply

section Requests

variable (errno : AxErrno) (layout : SocketAddrLayout)

theorem handleNew_disciplined : Disciplined anyLock 1 (handleNew : NetM smol Unit) :=
  (TcpSocket.new_disciplined.mono fun _ _ => trivial).andThen fun socket =>
    allocSocketId_disciplined.andThen fun id =>
      (locked_socketVec_disciplined (assignSlot_disciplined id socket)).andThen fun _ => .reply

theorem handleClose_disciplined (id : UInt64) :
    Disciplined anyLock 1 (handleClose id : NetM smol Unit) := by
  apply locked_socketVec_disciplined
  refine (unwrapSocket_disciplined id).andThen fun socket => Disciplined.update.andThen fun _ =>
    (TcpSocket.close_disciplined socket).andThen fun _ => ?_
  exact Disciplined.bind Disciplined.reply fun _ => TcpSocket.drop_disciplined socket

theorem handleRecv_disciplined (id buf bufLen : UInt64) :
    Disciplined anyLock 1 (handleRecv errno id buf bufLen : NetM smol Unit) := by
  refine onSocket_disciplined id fun socket => (slicePage_disciplined _ _).andThen fun page =>
    (TcpSocket.onConnected_disciplined socket _).andThen fun ans => ?_
  split
  · exact .pure
  · exact Disciplined.update.andThen fun _ => .pure

theorem handleIsNonBlocking_disciplined (id : UInt64) :
    Disciplined anyLock 1 (handleIsNonBlocking id : NetM smol Unit) :=
  locked_socketVec_disciplined <| (socketSlot_disciplined _).andThen fun _ => .reply

theorem handleRequest_disciplined (request : NetRequsetabel) (other : ∀ id, request ≠ .accept id) :
    Disciplined anyLock 1 (handleRequest errno layout request : NetM smol Unit) := by
  cases request with
  | new => exact handleNew_disciplined
  | isNonBlocking id => exact handleIsNonBlocking_disciplined id
  | setNonBlocking id isNonblocking => exact onSocket_disciplined id fun _ => .pure
  | bind id localAddr =>
    exact onSocket_disciplined id fun socket => (readItem_disciplined _ _).andThen fun addr =>
      (TcpSocket.bind_disciplined socket addr).andThen fun _ => .pure
  | send id buf bufLen =>
    exact onSocket_disciplined id fun socket => (slicePage_disciplined _ _).andThen fun page =>
      (TcpSocket.onConnected_disciplined socket _).andThen fun _ => .pure
  | recv id buf bufLen => exact handleRecv_disciplined errno id buf bufLen
  | recvTimeout id buf bufLen timeout =>
    exact onSocket_disciplined id fun socket => (slicePage_disciplined _ _).andThen fun page =>
      panicWith_disciplined _
  | connect id remoteAddr =>
    exact onSocket_disciplined id fun socket => (readItem_disciplined _ _).andThen fun addr =>
      (TcpSocket.connect_disciplined socket addr).andThen fun _ => .pure
  | listen id =>
    exact onSocket_disciplined id fun socket =>
      (TcpSocket.listen_disciplined socket).andThen fun _ => .pure
  | accept id => exact absurd rfl (other id)
  | shutdown id =>
    exact onSocket_disciplined id fun socket =>
      (TcpSocket.shutdown_disciplined socket).andThen fun _ => .pure
  | close id => exact handleClose_disciplined id

theorem handleAccept_lockSafe (id : UInt64) :
    LockSafe (fun state : NetState smol => ∀ socket, state.socketVec[id.toNat]? = some (some socket) →
      socket.handsOut state = false) anyLock (handleAccept errno id) := by
  refine LockSafe.locked (LockSafe.fixed fun state refused => ?_)
    (fun different : belowTable .socketVec => different rfl)
    fun _ _ => trivial
  refine (unwrapSocket_disciplined id).safe.bind (unwrapSocket_spec state id) fun socket =>
    LockSafe.fixed ?_
  rintro state ⟨rfl, found⟩
  refine (TcpSocket.accept_disciplined socket).safe.bind (TcpSocket.accept_spec state socket)
    fun ans => ?_
  cases accepted : ans.1 with
  | error error =>
    exact (Disciplined.andThen Disciplined.update fun _ => .reply).safe
  | ok newSocket =>
    refine LockSafe.impossible fun _ handed => ?_
    have taken := handed newSocket rfl
    rw [refused socket found] at taken
    cases taken

theorem handleMessage_lockSafe (message : NetMessage) :
    LockSafe (fun state : NetState smol => ∀ id,
      NetRequsetabel.tryFrom message.info message.regs = some (.accept id) → ∀ socket,
        state.socketVec[id.toNat]? = some (some socket) → socket.handsOut state = false)
      anyLock (handleMessage errno layout message) := by
  unfold handleMessage
  split
  · exact (panicWith_disciplined _ : Disciplined anyLock 0 _).safe
  · cases received : NetRequsetabel.tryFrom message.info message.regs with
    | none => exact LockSafe.pure
    | some request =>
      by_cases other : ∀ id, request ≠ .accept id
      · exact (handleRequest_disciplined errno layout request other).safe
      · simp only [ne_eq, not_forall, Decidable.not_not] at other
        obtain ⟨id, rfl⟩ := other
        exact (handleAccept_lockSafe errno id).mono (fun _ refused => refused id rfl) fun _ member => member

/-- The request is an accept that hands out a connection. -/
def NetInput.handsOut (input : NetInput) (state : NetState smol) : Bool :=
  match NetRequsetabel.tryFrom input.message.info input.message.regs with
  | some (.accept id) => match state.socketVec[id.toNat]? with
    | some (some socket) => socket.handsOut
        { state with incoming := state.incoming ++ input.arrivals, page := input.message.page }
    | _ => false
  | _ => false

theorem serve_lockSafe (input : NetInput) :
    LockSafe (fun state : NetState smol => input.handsOut state = false) anyLock (serve errno layout input) := by
  refine LockSafe.fixed fun state refused => ?_
  refine LockSafe.update_bind ?_
  refine LockSafe.bind ?_ MemTriple.anything fun _ => LockSafe.pure
  refine LockSafe.update_bind ?_
  refine LockSafe.bind ((handleMessage_lockSafe errno layout input.message).mono ?_ fun _ member =>
    member)
    MemTriple.anything fun _ =>
      (Disciplined.read.andThen fun _ => Disciplined.update.andThen fun _ => .pure).lockSafe
  rintro _ rfl id received socket found
  simp only [NetInput.handsOut, received] at refused
  rw [found] at refused
  exact refused

end Requests

/-- A new socket listens on the first ephemeral port; a peer connects to it, and the
handshake is over when the socket accepts. -/
def acceptingRun : List NetInput :=
  [.ofRequest .new none [], .ofRequest (.listen 0) none [],
    .ofRequest (.accept 0) none [⟨[], [synFrame 0x1000]⟩, ⟨[], [ackFrame 0x1000]⟩]]

/-- A connection whose handshake goes on is not handed out: the accept would block. -/
def pollingRun : List NetInput :=
  [.ofRequest .new none [], .ofRequest (.listen 0) none [], .ofRequest .new none [],
    .ofRequest (.close 1) none [⟨[], [synFrame 0x1000]⟩], .ofRequest (.setNonBlocking 0 1) none [],
    .ofRequest (.accept 0) none [], .ofRequest (.close 0) none []]

end RootTaskDemo.Net
