import RootTaskDemo.Common.Message
import RootTaskDemo.Net.Reply
import RootTaskDemo.Net.Tcp

namespace RootTaskDemo.Net

open Common Lib Thread

variable {smol : Smoltcp}

/-! The request handler of the net thread. A request arrives with the contents of
its message registers and of the frame whose capability came along. -/

structure NetMessage where
  info : MessageInfo
  regs : MsgRegs
  page : Option Memory

def pageSize : Nat := 0x1000

def replyWith (regs : List UInt64) : NetM smol Unit := reply regs

def allocSocketId : NetM smol Nat :=
  locked .socketVec do
    let state ← read
    match state.socketVec.findIdx? Option.isNone with
    | some id => return id
    | none =>
      update fun state => { state with socketVec := state.socketVec ++ [none] }
      return state.socketVec.length

def socketSlot (id : Nat) : NetM smol (Option TcpSocket) := do
  let state ← read
  match state.socketVec[id]? with
  | none => panicWith (.socketVecIndex id)
  | some slot => return slot

def unwrapSocket (id : UInt64) : NetM smol TcpSocket := do
  let slot ← socketSlot id.toNat
  match slot with
  | none => panicWith (.emptySlot id.toNat)
  | some socket => return socket

def NotMissing (fault : Fault) : Prop := ∀ handle, fault ≠ .panicked (.missingHandle handle)

theorem socketSlot_spec (state : NetState smol) (id : Nat) :
    RunFrom state (socketSlot id)
      (fun slot now => now = state ∧ state.socketVec[id]? = some slot)
      (fun fault => NotMissing fault ∧ state.socketVec[id]? = none) := by
  refine .read_bind ?_
  rintro state rfl
  cases found : state.socketVec[id]? with
  | none => exact panicWith_triple fun _ _ => ⟨nofun, rfl⟩
  | some slot => exact .pure fun _ same => ⟨same, rfl⟩

theorem unwrapSocket_spec (state : NetState smol) (id : UInt64) :
    RunFrom state (unwrapSocket id)
      (fun socket now => now = state ∧ state.socketVec[id.toNat]? = some (some socket))
      (fun fault => NotMissing fault ∧ ∀ socket, state.socketVec[id.toNat]? ≠ some (some socket)) := by
  refine .bind ((socketSlot_spec state id.toNat).onStop ?_)
    fun slot => .fixed ?_
  · rintro fault ⟨other, outside⟩
    refine ⟨other, fun socket => ?_⟩
    rw [outside]
    exact nofun
  · rintro state ⟨rfl, found⟩
    cases slot with
    | none =>
      refine panicWith_triple fun _ _ => ⟨nofun, fun socket => ?_⟩
      rw [found]
      exact nofun
    | some socket => exact .pure fun _ same => ⟨same, found⟩

def setSlot (id : Nat) (slot : Option TcpSocket) : NetM smol Unit :=
  update fun state => { state with socketVec := state.socketVec.set id slot }

/-- `socket_vec[id] = Some(socket)`: the value the slot had is dropped. -/
def assignSlot (id : Nat) (socket : TcpSocket) : NetM smol Unit := do
  let old ← socketSlot id
  setSlot id (some socket)
  match old with
  | none => return ()
  | some old => old.drop

/-- `new_cap.frame_map(..).unwrap()` -/
def mapPage : NetM smol Memory := do
  let state ← read
  match state.page with
  | none => panicWith .frameMap
  | some page => return page

def readItem (layout : SocketAddrLayout) (ptr : UInt64) : NetM smol SocketAddr := do
  let page ← mapPage
  if pageSize - ptr.toNat % pageSize < socketAddrSize then panicWith .notInPage
  else return layout.read (page.load (ptr.toNat % pageSize) socketAddrSize)

/-- The slice of the mapped page that a send or a receive works on. The build
does not check the sum for overflow, and a length that made it wrap around is
past what a slice may have. -/
def slicePage (buf bufLen : UInt64) : NetM smol Memory := do
  let page ← mapPage
  if pageSize < (buf.toNat % pageSize + bufLen.toNat) % 2 ^ 64 then panicWith .notInPage
  else if pageSize < bufLen.toNat then stop .undefined
  else return page

variable (errno : AxErrno) (layout : SocketAddrLayout)

def handleNew : NetM smol Unit := do
  let socket ← TcpSocket.new
  let id ← allocSocketId
  locked .socketVec (assignSlot id socket)
  replyWith [UInt64.ofNat id]

def handleIsNonBlocking (id : UInt64) : NetM smol Unit :=
  locked .socketVec do
    let slot ← socketSlot id.toNat
    replyWith [slot.elim 0 fun socket => if socket.nonblock then 1 else 0]

def onSocket (id : UInt64) (request : TcpSocket → NetM smol (List UInt64 × TcpSocket)) :
    NetM smol Unit :=
  locked .socketVec do
    let socket ← unwrapSocket id
    let result ← request socket
    setSlot id.toNat (some result.2)
    replyWith result.1

def handleBind (id localAddr : UInt64) : NetM smol Unit :=
  onSocket id fun socket => do
    let localAddr ← readItem layout localAddr
    let ans ← socket.bind localAddr
    return ([handleAxresult errno ans.1], ans.2)

def handleSend (id buf bufLen : UInt64) : NetM smol Unit :=
  onSocket id fun socket => do
    let page ← slicePage buf bufLen
    let ans ← socket.send (page.load 0 bufLen.toNat)
    return ([countWord errno (ans.1.map UInt64.ofNat)], ans.2)

def handleRecv (id buf bufLen : UInt64) : NetM smol Unit :=
  onSocket id fun socket => do
    let page ← slicePage buf bufLen
    let ans ← socket.recv bufLen.toNat
    match ans.1 with
    | .error error => return ([countWord errno (.error error)], ans.2)
    | .ok bytes =>
      update fun state => { state with page := some (page.store 0 bytes) }
      return ([countWord errno (.ok (UInt64.ofNat bytes.length))], ans.2)

/-- `TcpSocket::recv_timeout` is `unimplemented!()`. -/
def handleRecvTimeout (id buf bufLen _timeout : UInt64) : NetM smol Unit :=
  onSocket id fun _ => do
    let _ ← slicePage buf bufLen
    panicWith .unimplemented

def handleConnect (id remoteAddr : UInt64) : NetM smol Unit :=
  onSocket id fun socket => do
    let remoteAddr ← readItem layout remoteAddr
    let ans ← socket.connect remoteAddr
    return ([handleAxresult errno ans.1], ans.2)

def handleListen (id : UInt64) : NetM smol Unit :=
  onSocket id fun socket => do
    let ans ← socket.listen
    return ([handleAxresult errno ans.1], ans.2)

/-- The new socket is given its id while the guard of the table is still held. -/
def handleAccept (id : UInt64) : NetM smol Unit :=
  locked .socketVec do
    let socket ← unwrapSocket id
    let ans ← socket.accept
    setSlot id.toNat (some ans.2)
    match ans.1 with
    | .error error => replyWith (acceptWords errno (.error error))
    | .ok newSocket =>
      let newId ← allocSocketId
      match newSocket.getLocalAddr with
      | .error _ => panicWith .unwrapNone
      | .ok socketAddr =>
        assignSlot newId newSocket
        replyWith (acceptWords errno (.ok (UInt64.ofNat newId, socketAddr)))

/-- The socket taken out of its slot is dropped before the guard. -/
def handleClose (id : UInt64) : NetM smol Unit :=
  locked .socketVec do
    let socket ← unwrapSocket id
    setSlot id.toNat none
    socket.close
    replyWith []
    socket.drop

def handleSetNonBlocking (id isNonblocking : UInt64) : NetM smol Unit :=
  onSocket id fun socket => return ([], { socket with nonblock := isNonblocking != 0 })

def handleShutdown (id : UInt64) : NetM smol Unit :=
  onSocket id fun socket => do
    let ans ← socket.shutdown
    return ([handleAxresult errno ans.1], ans.2)

def handleRequest : NetRequsetabel → NetM smol Unit
  | .new => handleNew
  | .isNonBlocking id => handleIsNonBlocking id
  | .bind id localAddr => handleBind errno layout id localAddr
  | .send id buf bufLen => handleSend errno id buf bufLen
  | .recv id buf bufLen => handleRecv errno id buf bufLen
  | .recvTimeout id buf bufLen timeout => handleRecvTimeout id buf bufLen timeout
  | .connect id remoteAddr => handleConnect errno layout id remoteAddr
  | .listen id => handleListen errno id
  | .accept id => handleAccept errno id
  | .close id => handleClose id
  | .setNonBlocking id isNonblocking => handleSetNonBlocking id isNonblocking
  | .shutdown id => handleShutdown errno id

def handleMessage (message : NetMessage) : NetM smol Unit :=
  if message.info.label < 0x8 then panicWith .unimplemented
  else match NetRequsetabel.tryFrom message.info message.regs with
    | some request => handleRequest errno layout request
    | none => return ()

theorem handleMessage_of_tryFrom {message : NetMessage} {request : NetRequsetabel}
    (decoded : NetRequsetabel.tryFrom message.info message.regs = some request) :
    (handleMessage errno layout message : NetM smol Unit) = handleRequest errno layout request := by
  have past : ¬ message.info.label < 0x8 := by
    intro below
    have early : message.info.label < NetRequsetabel.labelStart := Nat.lt_trans below (by decide)
    rw [NetRequsetabel.tryFrom, if_pos early] at decoded
    cases decoded
  rw [handleMessage, if_neg past, decoded]

/-- One round of the server loop. The capability in the receive slot is deleted
at the end; the frame, which the sender still has, is the result. -/
def handleIpc (message : NetMessage) : NetM smol (Option Memory) := do
  update fun state => { state with page := message.page }
  handleMessage errno layout message
  let state ← read
  update fun state => { state with page := none }
  return state.page

/-- A request together with the frames that arrive before the next one. -/
structure NetInput where
  message : NetMessage
  arrivals : List Batch

def NetInput.ofRequest (request : NetRequsetabel) (page : Option Memory) (arrivals : List Batch) :
    NetInput :=
  { message := { info := (request.build fun _ => 0).1, regs := (request.build fun _ => 0).2, page },
    arrivals }

def serve (input : NetInput) : NetM smol Unit := do
  update fun state => { state with incoming := state.incoming ++ input.arrivals }
  let _ ← handleIpc errno layout input.message

end RootTaskDemo.Net
