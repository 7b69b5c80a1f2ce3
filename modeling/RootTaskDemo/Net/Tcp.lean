import RootTaskDemo.Net.Poll

namespace RootTaskDemo.Net

open Common Lib Thread

variable {smol : Smoltcp} {α : Type}
variable {f : TcpSocket → NetM smol (AxResult α × TcpSocket)}
variable {pre : NetState smol → Prop} {raised : Fault → Prop} {self : TcpSocket}

def portStart : UInt16 := 0x1000

def portEnd : UInt16 := 0xffff

def nextPort (port : UInt16) : UInt16 := if port = portEnd then portStart else port + 1

def ephemeralLoop : Nat → NetM smol (AxResult UInt16)
  | 0 => return .error .addrInUse
  | tries + 1 => do
    let state ← read
    update fun state => { state with curr := nextPort state.curr }
    let free ← ListenTable.canListen state.curr
    if free then return .ok state.curr else ephemeralLoop tries

def getEphemeralPort : NetM smol (AxResult UInt16) :=
  locked .ephemeral do
    let _ ← ListenTable.canListen 6379
    ephemeralLoop (portEnd.toNat - portStart.toNat + 1)

structure PollState where
  readable : Bool
  writable : Bool
deriving DecidableEq, Repr

def Interface.lock : Interface → Lock
  | .loopback => .loopback
  | .eth0 => .eth0Iface

def isWouldBlock : AxResult α → Bool
  | .error .wouldBlock => true
  | _ => false

namespace TcpSocket

def new : NetM smol TcpSocket := do
  let socket ← SocketSetWrapper.newTcpSocket
  let handle ← SocketSetWrapper.add socket
  return { state := .closed, handle := some handle, localAddr := unspecifiedEndpoint,
           peerAddr := unspecifiedEndpoint, nonblock := false, reuseAddr := false }

def newConnected (handle : SocketHandle) (localAddr peerAddr : IpEndpoint) : TcpSocket :=
  { state := .connected, handle := some handle, localAddr, peerAddr, nonblock := false,
    reuseAddr := false }

def getLocalAddr (self : TcpSocket) : AxResult SocketAddr :=
  match self.state with
  | .connected | .listening | .closed => .ok (intoCoreSockaddr self.localAddr)
  | _ => .error .notConnected

/-- The state is `busy` while `f` runs and goes to `next` or back to `expect` after it. -/
def updateState (self : TcpSocket) (expect next : SocketState)
    (f : TcpSocket → NetM smol (AxResult α × TcpSocket)) :
    NetM smol (Except SocketState (AxResult α) × TcpSocket) :=
  if self.state = expect then do
    let result ← f { self with state := .busy }
    match result.1 with
    | .ok value => return (.ok (.ok value), { result.2 with state := next })
    | .error error => return (.ok (.error error), { result.2 with state := expect })
  else return (.error self.state, self)

def blockOnLoop (f : TcpSocket → NetM smol (AxResult α × TcpSocket)) :
    List Batch → TcpSocket → NetM smol (AxResult α × TcpSocket)
  | [], _ => stop .blocked
  | _ :: rest, self => do
    SocketSetWrapper.pollInterfaces
    let result ← f self
    if isWouldBlock result.1 then blockOnLoop f rest result.2 else return result

/-- Each round of the loop takes one batch of frames from the schedule. -/
def blockOn (self : TcpSocket) (f : TcpSocket → NetM smol (AxResult α × TcpSocket)) :
    NetM smol (AxResult α × TcpSocket) :=
  if self.nonblock then f self
  else do
    let state ← read
    blockOnLoop f state.incoming self

theorem updateState_triple {expect next : SocketState}
    {post : Except SocketState (AxResult α) × TcpSocket → NetState smol → Prop}
    (body : self.state = expect → MemTriple pre (f { self with state := .busy })
      (fun result state => match result.1 with
        | .ok value => post (.ok (.ok value), { result.2 with state := next }) state
        | .error error => post (.ok (.error error), { result.2 with state := expect }) state) raised)
    (other : self.state ≠ expect → ∀ state, pre state → post (.error self.state, self) state) :
    MemTriple pre (self.updateState expect next f) post raised := by
  unfold updateState
  split
  · rename_i expected
    refine (body expected).bind fun result => ?_
    cases result.1 with
    | ok value => exact .pure fun _ holds => holds
    | error error => exact .pure fun _ holds => holds
  · rename_i unexpected
    exact .pure (other unexpected)

theorem blockOn_triple {shape : TcpSocket → Prop}
    {post : AxResult α × TcpSocket → NetState smol → Prop}
    (polls : Preserves pre raised (SocketSetWrapper.pollInterfaces : NetM smol Unit))
    (body : ∀ self, shape self → MemTriple pre (f self) post raised)
    (again : ∀ result state, isWouldBlock result.1 = true → post result state → pre state ∧
      shape result.2)
    (blocked : raised .blocked) (holds : shape self) :
    MemTriple pre (self.blockOn f) post raised := by
  have loop : ∀ (batches : List Batch) (self : TcpSocket), shape self →
      MemTriple pre (blockOnLoop f batches self) post raised := by
    intro batches
    induction batches with
    | nil => exact fun _ _ => .stop fun _ _ => blocked
    | cons batch rest ih =>
      intro self holds
      refine .bind polls fun _ => (body self holds).bind fun result => .fixed fun state kept => ?_
      split
      · rename_i waits
        obtain ⟨ready, shaped⟩ := again result state waits kept
        exact (ih result.2 shaped).weaken (fun _ same => same ▸ ready) (fun _ _ kept => kept) fun _ raised => raised
      · exact .pure fun _ same => same ▸ kept
  unfold blockOn
  split
  · exact body self holds
  · refine .read_bind fun state ready => ?_
    exact (loop state.incoming self holds).weaken (fun _ same => same ▸ ready) (fun _ _ kept => kept)
      fun _ raised => raised

def portOrEphemeral (port : UInt16) : NetM smol (AxResult UInt16) :=
  if port = 0 then getEphemeralPort else return .ok port

def boundEndpoint (self : TcpSocket) : NetM smol (AxResult IpListenEndpoint) := do
  let chosen ← portOrEphemeral self.localAddr.port
  match chosen with
  | .error error => return .error error
  | .ok port =>
    if port = 0 then panicWith .zeroPort
    else
      let addr := if isUnspecified self.localAddr.addr then none else some self.localAddr.addr
      return .ok { addr, port }

def handleOrAdd (self : TcpSocket) : NetM smol SocketHandle :=
  match self.handle with
  | some handle => return handle
  | none => do
    let socket ← SocketSetWrapper.newTcpSocket
    SocketSetWrapper.add socket

def connectSocket (iface : Interface) (remote : IpEndpoint) (bound : IpListenEndpoint)
    (socket : smol.Socket) : NetM smol (AxResult (IpEndpoint × IpEndpoint) × smol.Socket) := do
  let connected ← locked iface.lock (return smol.connect iface remote bound socket)
  match connected with
  | .error .invalidState => return (.error .badState, socket)
  | .error .unaddressable => return (.error .connectionRefused, socket)
  | .ok socket =>
    match smol.localEndpoint socket, smol.remoteEndpoint socket with
    | some localAddr, some peerAddr => return (.ok (localAddr, peerAddr), socket)
    | _, _ => panicWith .missingEndpoint

def interfaceFor (remote : IpEndpoint) : Interface :=
  if remote.addr.asBytes.head? = some 127 then .loopback else .eth0

def connectStart (remoteAddr : SocketAddr) (self : TcpSocket) :
    NetM smol (AxResult Unit × TcpSocket) := do
  let handle ← self.handleOrAdd
  let bound ← self.boundEndpoint
  match bound with
  | .error error => return (.error error, self)
  | .ok bound =>
    let remote := fromCoreSockaddr remoteAddr
    let result ← SocketSetWrapper.withSocketMut handle (connectSocket (interfaceFor remote) remote bound)
    match result with
    | .error error => return (.error error, self)
    | .ok addrs =>
      return (.ok (), { self with localAddr := addrs.1, peerAddr := addrs.2, handle := some handle })

def unwrapHandle (self : TcpSocket) : NetM smol SocketHandle :=
  match self.handle with
  | some handle => return handle
  | none => panicWith .unwrapNone

def pollConnect (self : TcpSocket) : NetM smol (AxResult PollState × TcpSocket) := do
  let handle ← self.unwrapHandle
  let writable ← SocketSetWrapper.withSocket handle fun socket =>
    match smol.state socket with
    | .synSent => return (false, self)
    | .established =>
      -- the debug line unwraps the remote endpoint
      match smol.remoteEndpoint socket with
      | some _ => return (true, { self with state := .connected })
      | none => panicWith .missingEndpoint
    | _ =>
      return (true, { self with
        localAddr := unspecifiedEndpoint, peerAddr := unspecifiedEndpoint, state := .closed })
  return (.ok { readable := false, writable := writable.1 }, writable.2)

def connectPoll (self : TcpSocket) : NetM smol (AxResult Unit × TcpSocket) := do
  let polled ← self.pollConnect
  match polled.1 with
  | .error error => return (.error error, polled.2)
  | .ok poll =>
    if !poll.writable then return (.error .wouldBlock, polled.2)
    else if polled.2.state = .connected then return (.ok (), polled.2)
    else return (.error .connectionRefused, polled.2)

def connect (self : TcpSocket) (remoteAddr : SocketAddr) : NetM smol (AxResult Unit × TcpSocket) := do
  let started ← self.updateState .closed .connecting (connectStart remoteAddr)
  match started.1 with
  | .error _ => return (.error .alreadyExists, started.2)
  | .ok (.error error) => return (.error error, started.2)
  | .ok (.ok ()) =>
    if started.2.nonblock then return (.error .wouldBlock, started.2)
    else started.2.blockOn connectPoll

def choosePort (localAddr : SocketAddr) : NetM smol (AxResult SocketAddr) := do
  let chosen ← portOrEphemeral localAddr.port
  match chosen with
  | .error error => return .error error
  | .ok port => return .ok { localAddr with port }

def checkBind (self : TcpSocket) (endpoint : IpEndpoint) : NetM smol (AxResult Unit) :=
  if self.reuseAddr then return .ok () else SocketSetWrapper.bindCheck endpoint.addr endpoint.port

def bindStart (localAddr : SocketAddr) (self : TcpSocket) : NetM smol (AxResult Unit × TcpSocket) := do
  let chosen ← choosePort localAddr
  match chosen with
  | .error error => return (.error error, self)
  | .ok localAddr =>
    if self.localAddr ≠ unspecifiedEndpoint then return (.error .invalidInput, self)
    else
      let self := { self with localAddr := fromCoreSockaddr localAddr }
      let checked ← self.checkBind (fromCoreSockaddr localAddr)
      match checked with
      | .error error => return (.error error, self)
      | .ok () =>
        let bound ← self.boundEndpoint
        match bound with
        | .error error => return (.error error, self)
        | .ok bound =>
          let handle ← self.handleOrAdd
          SocketSetWrapper.withSocketMut handle fun socket =>
            return ((), smol.setBoundEndpoint bound socket)
          return (.ok (), self)

def bind (self : TcpSocket) (localAddr : SocketAddr) : NetM smol (AxResult Unit × TcpSocket) := do
  let bound ← self.updateState .closed .closed (bindStart localAddr)
  match bound.1 with
  | .error _ => return (.error .invalidInput, bound.2)
  | .ok result => return (result, bound.2)

def listenStart (self : TcpSocket) : NetM smol (AxResult Unit × TcpSocket) := do
  let bound ← self.boundEndpoint
  match bound with
  | .error error => return (.error error, self)
  | .ok bound =>
    let self := { self with localAddr := { self.localAddr with port := bound.port } }
    let result ← ListenTable.listen bound
    return (result, self)

def listen (self : TcpSocket) : NetM smol (AxResult Unit × TcpSocket) := do
  let started ← self.updateState .closed .listening listenStart
  match started.1 with
  | .error _ => return (.ok (), started.2)
  | .ok result => return (result, started.2)

def acceptOnce (self : TcpSocket) : NetM smol (AxResult TcpSocket × TcpSocket) := do
  let accepted ← ListenTable.accept self.localAddr.port
  match accepted with
  | .error error => return (.error error, self)
  | .ok (handle, localAddr, peerAddr) => return (.ok (newConnected handle localAddr peerAddr), self)

def accept (self : TcpSocket) : NetM smol (AxResult TcpSocket × TcpSocket) :=
  if self.state ≠ .listening then return (.error .invalidInput, self)
  else self.blockOn acceptOnce

def shutdownStream (self : TcpSocket) : NetM smol (AxResult Unit × TcpSocket) := do
  let handle ← self.unwrapHandle
  SocketSetWrapper.withSocketMut handle fun socket => return ((), smol.close socket)
  SocketSetWrapper.pollInterfaces
  return (.ok (), { self with localAddr := unspecifiedEndpoint })

def shutdownListener (self : TcpSocket) : NetM smol (AxResult Unit × TcpSocket) := do
  ListenTable.unlisten self.localAddr.port
  SocketSetWrapper.pollInterfaces
  return (.ok (), { self with localAddr := unspecifiedEndpoint })

def shutdown (self : TcpSocket) : NetM smol (AxResult Unit × TcpSocket) := do
  let stream ← self.updateState .connected .closed shutdownStream
  match stream.1 with
  | .ok (.error error) => return (.error error, stream.2)
  | _ =>
    let listener ← stream.2.updateState .listening .closed shutdownListener
    match listener.1 with
    | .ok (.error error) => return (.error error, listener.2)
    | _ => return (.ok (), listener.2)

def close (self : TcpSocket) : NetM smol Unit :=
  match self.handle with
  | none => return ()
  | some handle => do
    SocketSetWrapper.withSocketMut handle fun socket => return ((), smol.close socket)
    SocketSetWrapper.pollInterfaces

def drop (self : TcpSocket) : NetM smol Unit := do
  let result ← self.shutdown
  match result.2.handle with
  | none => return ()
  | some handle => SocketSetWrapper.remove handle

/-- What `recv` and `send` have in common: the socket has to be connected, and `once` is asked
until it does not want to wait. -/
def onConnected (self : TcpSocket) (once : smol.Socket → AxResult α × smol.Socket) :
    NetM smol (AxResult α × TcpSocket) :=
  if self.state = .connecting then return (.error .wouldBlock, self)
  else if self.state ≠ .connected then return (.error .notConnected, self)
  else do
    let handle ← self.unwrapHandle
    self.blockOn fun self => do
      let result ← SocketSetWrapper.withSocketMut handle fun socket => return once socket
      return (result, self)

def recvOnce (len : Nat) (socket : smol.Socket) : AxResult (List UInt8) × smol.Socket :=
  if smol.recvQueue socket > 0 then
    match smol.recvSlice len socket with
    | none => (.error .badState, socket)
    | some (bytes, socket) => (.ok bytes, socket)
  else if !smol.isActive socket then (.error .connectionRefused, socket)
  else if !smol.mayRecv socket then (.ok [], socket)
  else (.error .wouldBlock, socket)

/-- Receives into a buffer of `len` bytes: the bytes written are the result. -/
def recv (self : TcpSocket) (len : Nat) : NetM smol (AxResult (List UInt8) × TcpSocket) :=
  self.onConnected (recvOnce len)

def sendOnce (buf : List UInt8) (socket : smol.Socket) : AxResult Nat × smol.Socket :=
  if !smol.isActive socket || !smol.maySend socket then (.error .connectionReset, socket)
  else if smol.canSend socket then
    match smol.sendSlice buf socket with
    | none => (.error .badState, socket)
    | some (len, socket) => (.ok len, socket)
  else (.error .wouldBlock, socket)

def send (self : TcpSocket) (buf : List UInt8) : NetM smol (AxResult Nat × TcpSocket) :=
  self.onConnected (sendOnce buf)

def pollStream (self : TcpSocket) : NetM smol (AxResult PollState) := do
  let handle ← self.unwrapHandle
  SocketSetWrapper.withSocket handle fun socket =>
    return .ok { readable := !smol.mayRecv socket || smol.canRecv socket
                 writable := !smol.maySend socket || smol.canSend socket }

def pollListener (self : TcpSocket) : NetM smol (AxResult PollState) := do
  let ready ← ListenTable.canAccept self.localAddr.port
  match ready with
  | .error error => return .error error
  | .ok readable => return .ok { readable, writable := false }

def poll (self : TcpSocket) : NetM smol (AxResult PollState × TcpSocket) :=
  match self.state with
  | .connecting => self.pollConnect
  | .connected => do
    let result ← self.pollStream
    return (result, self)
  | .listening => do
    let result ← self.pollListener
    return (result, self)
  | _ => return (.ok { readable := false, writable := false }, self)

end TcpSocket

/-- The net thread as it starts to serve: no socket, no listener, no frame received. -/
def NetState.init (smol : Smoltcp) : NetState smol :=
  { socketVec := []
    sockets := ∅
    listenTable := fun _ => none
    curr := portStart
    incoming := []
    page := none }

def NetWorld.init (smol : Smoltcp) : NetWorld smol :=
  { held := [], reentered := [], sent := [], memory := NetState.init smol }

end RootTaskDemo.Net
