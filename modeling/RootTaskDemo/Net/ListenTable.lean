import RootTaskDemo.Net.State

namespace RootTaskDemo.Net

open Common Lib Thread

variable {smol : Smoltcp} {α : Type} (state : NetState smol)

/-- `VecDeque::swap_remove_front`: the front element takes the place of the removed one. -/
def swapRemoveFront : List α → Nat → Option (α × List α)
  | [], _ => none
  | front :: rest, 0 => some (front, rest)
  | front :: rest, index + 1 => rest[index]?.map fun value => (value, rest.set index front)

def NetState.setEntry (state : NetState smol) (slot : Fin portNum)
    (entry : Option ListenTableEntry) : NetState smol :=
  { state with listenTable := Function.update state.listenTable slot entry }

@[simp] theorem setEntry_sockets (slot : Fin portNum)
    (entry : Option ListenTableEntry) : (state.setEntry slot entry).sockets = state.sockets := rfl

theorem setEntry_listenTable (slot : Fin portNum) (entry : Option ListenTableEntry) :
    (state.setEntry slot entry).listenTable = Function.update state.listenTable slot entry := rfl

theorem setEntry_self (slot : Fin portNum) :
    state.setEntry slot (state.listenTable slot) = state := by
  rw [NetState.setEntry, Function.update_eq_self]

def isConnectedState (state : TcpState) : Bool :=
  !(state == .listen || state == .synReceived)

def isConnected (handle : SocketHandle) : NetM smol Bool :=
  SocketSetWrapper.withSocket handle fun socket => return isConnectedState (smol.state socket)

def isClosed (handle : SocketHandle) : NetM smol Bool :=
  SocketSetWrapper.withSocket handle fun socket => return smol.state socket == .closed

def getAddrTuple (handle : SocketHandle) : NetM smol (IpEndpoint × IpEndpoint) :=
  SocketSetWrapper.withSocket handle fun socket =>
    match smol.localEndpoint socket, smol.remoteEndpoint socket with
    | some localAddr, some peerAddr => return (localAddr, peerAddr)
    | _, _ => panicWith .missingEndpoint

namespace ListenTableEntry

def new (listenEndpoint : IpListenEndpoint) : ListenTableEntry :=
  { listenEndpoint, synQueue := [] }

def canAccept (entry : ListenTableEntry) (dst : IpAddress) : Bool :=
  match entry.listenEndpoint.addr with
  | some addr => addr == dst
  | none => true

/-- Dropping an entry removes the sockets still waiting in its queue. -/
def dropQueue : List SocketHandle → NetM smol Unit
  | [] => pure ()
  | handle :: rest => do
    SocketSetWrapper.remove handle
    dropQueue rest

end ListenTableEntry

def dropEntry : Option ListenTableEntry → NetM smol Unit
  | none => pure ()
  | some entry => ListenTableEntry.dropQueue entry.synQueue

namespace ListenTable

/-- `self.tcp[port as usize].lock()`: the index is checked before the lock is taken. -/
def lockSlot (port : UInt16) (body : Fin portNum → NetM smol α) : NetM smol α :=
  if inside : port.toNat < portNum then locked (.listenSlot port.toNat) (body ⟨port.toNat, inside⟩)
  else panicWith (.listenTableIndex port.toNat)

def canListen (port : UInt16) : NetM smol Bool :=
  lockSlot port fun slot => do
    let state ← read
    return (state.listenTable slot).isNone

def listen (listenEndpoint : IpListenEndpoint) : NetM smol (AxResult Unit) :=
  if listenEndpoint.port = 0 then panicWith .zeroPort
  else lockSlot listenEndpoint.port fun slot => do
    let state ← read
    if (state.listenTable slot).isNone then
      update fun state => state.setEntry slot (some (ListenTableEntry.new listenEndpoint))
      return .ok ()
    else
      return .error .addrInUse

def unlisten (port : UInt16) : NetM smol Unit :=
  lockSlot port fun slot => do
    let state ← read
    dropEntry (state.listenTable slot)
    update fun state => state.setEntry slot none

/-- `syn_queue.iter().any(|&handle| is_connected(handle))` -/
def anyConnected : List SocketHandle → NetM smol Bool
  | [] => return false
  | handle :: rest => do
    let connected ← isConnected handle
    if connected then return true else anyConnected rest

def canAccept (port : UInt16) : NetM smol (AxResult Bool) :=
  lockSlot port fun slot => do
    let state ← read
    match state.listenTable slot with
    | none => return .error .invalidInput
    | some entry =>
      let ready ← anyConnected entry.synQueue
      return .ok ready

/-- The index of the first handle of the queue that is past its handshake. -/
def findConnected : List SocketHandle → NetM smol (Option Nat)
  | [] => return none
  | handle :: rest => do
    let connected ← isConnected handle
    if connected then return some 0
    else
      let found ← findConnected rest
      return found.map (· + 1)

def accept (port : UInt16) : NetM smol (AxResult (SocketHandle × IpEndpoint × IpEndpoint)) :=
  lockSlot port fun slot => do
    let state ← read
    match state.listenTable slot with
    | none => return .error .invalidInput
    | some entry =>
      let found ← findConnected entry.synQueue
      match found with
      | none => return .error .wouldBlock
      | some index =>
        match swapRemoveFront entry.synQueue index with
        | none => panicWith .unwrapNone
        | some (handle, synQueue) =>
          update fun state => state.setEntry slot (some { entry with synQueue })
          -- a connection that was reset while queued is reported, not handed out
          let closed ← isClosed handle
          if closed then return .error .connectionReset
          else
            let addrs ← getAddrTuple handle
            return .ok (handle, addrs)

/-- The caller holds the lock of the socket set and passes the set itself. -/
def incomingTcpPacket (_src dst : IpEndpoint) : NetM smol Unit :=
  lockSlot dst.port fun slot => do
    let state ← read
    match state.listenTable slot with
    | none => return ()
    | some entry =>
      if !entry.canAccept dst.addr then return ()
      else if listenQueueSize ≤ entry.synQueue.length then return ()
      else
        let socket ← SocketSetWrapper.newTcpSocket
        match smol.listen entry.listenEndpoint socket with
        | none => return ()
        | some socket =>
          let handle := smol.freshHandle state.sockets
          update fun state => { state with sockets := state.sockets.insert handle socket }
          update fun state => state.setEntry slot (some { entry with synQueue := entry.synQueue ++ [handle] })

end ListenTable

def NetState.connected (state : NetState smol) (handle : SocketHandle) : Bool :=
  match state.sockets[handle]? with
  | none => false
  | some socket => isConnectedState (smol.state socket)

theorem isConnected_spec (handle : SocketHandle) :
    RunFrom state (isConnected handle)
      (fun found now => now = state ∧ found = state.connected handle) (fun _ => handle ∉ state.sockets) := by
  refine SocketSetWrapper.withSocket_spec (fun socket found => .pure ?_) fun missing => missing
  rintro now rfl
  refine ⟨rfl, ?_⟩
  rw [NetState.connected, found]

theorem findConnected_spec (queue : List SocketHandle) :
    RunFrom state (ListenTable.findConnected queue)
      (fun found now => now = state ∧ found = queue.findIdx? state.connected)
      (fun _ => ∃ handle ∈ queue, handle ∉ state.sockets) := by
  induction queue with
  | nil => exact .pure fun _ same => ⟨same, rfl⟩
  | cons handle rest ih =>
    refine .bind ((isConnected_spec state handle).onStop
        fun _ missing => ⟨handle, List.mem_cons_self .., missing⟩) fun connected => .fixed ?_
    rintro _ ⟨rfl, rfl⟩
    rw [List.findIdx?_cons]
    split
    · exact .pure fun _ same => ⟨same, rfl⟩
    · refine .bind (ih.onStop ?_) fun found =>
        MemTriple.pure ?_
      · rintro _ ⟨other, member, missing⟩
        exact ⟨other, List.mem_cons_of_mem _ member, missing⟩
      · rintro _ ⟨rfl, rfl⟩
        exact ⟨rfl, rfl⟩

theorem isClosed_spec (handle : SocketHandle) :
    RunFrom state (isClosed handle)
      (fun closed now => now = state ∧
        ∃ socket, state.sockets[handle]? = some socket ∧ closed = (smol.state socket == .closed))
      (fun _ => handle ∉ state.sockets) :=
  SocketSetWrapper.withSocket_spec
    (fun socket found => .pure fun _ same => ⟨same, socket, found, rfl⟩) fun missing => missing

theorem swapRemoveFront_fst {queue rest : List α} {index : Nat} {value : α}
    (removed : swapRemoveFront queue index = some (value, rest)) : queue[index]? = some value := by
  cases queue with
  | nil => cases removed
  | cons front tail =>
    cases index with
    | zero =>
      cases removed
      rfl
    | succ index =>
      rw [List.getElem?_cons_succ]
      cases found : tail[index]? with
      | none => simp [swapRemoveFront, found] at removed
      | some other =>
        simp only [swapRemoveFront, found, Option.map_some, Option.some.injEq, Prod.mk.injEq] at removed
        rw [removed.1]

end RootTaskDemo.Net
