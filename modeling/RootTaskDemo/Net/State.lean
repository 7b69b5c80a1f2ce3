import RootTaskDemo.Common.Error
import RootTaskDemo.Lib.Memory
import RootTaskDemo.Lib.Thread
import RootTaskDemo.Net.Smoltcp

namespace RootTaskDemo.Net

open Common Lib Thread

/-- The spin locks of the net thread. The listen table has one for each port. -/
inductive Lock where
  | socketVec
  | socketSet
  | listenSlot (port : Nat)
  | loopback
  | loopbackDev
  | eth0Dev
  | eth0Iface
  | ephemeral
deriving DecidableEq, Repr

inductive Panic where
  | listenTableIndex (port : Nat)
  | socketVecIndex (id : Nat)
  | emptySlot (id : Nat)
  | missingHandle (handle : SocketHandle)
  | missingEndpoint
  | unwrapNone
  | zeroPort
  | notInPage
  | frameMap
  | outOfMemory
  | unimplemented
deriving DecidableEq, Repr

/-- How a run of the net thread can fail to return: a panic, a slice that Rust
does not define, or a wait for frames that never arrive. -/
inductive Fault where
  | panicked (reason : Panic)
  | undefined
  | blocked
deriving DecidableEq, Repr

/-- The frames that one call of `poll_interfaces` receives on each interface. -/
structure Batch where
  loopback : List (List UInt8)
  eth0 : List (List UInt8)

/-- The state byte of a `TcpSocket`. -/
inductive SocketState where
  | closed
  | busy
  | connecting
  | connected
  | listening
deriving DecidableEq, Repr

structure TcpSocket where
  state : SocketState
  handle : Option SocketHandle
  localAddr : IpEndpoint
  peerAddr : IpEndpoint
  nonblock : Bool
  reuseAddr : Bool
deriving DecidableEq, Repr

def portNum : Nat := 0x2000

def listenQueueSize : Nat := 32

structure ListenTableEntry where
  listenEndpoint : IpListenEndpoint
  synQueue : List SocketHandle
deriving DecidableEq

/-- The statics of the net thread, with the frames still to arrive (`incoming`)
and the frame whose capability lies in the receive slot (`page`). -/
structure NetState (smol : Smoltcp) where
  socketVec : List (Option TcpSocket)
  sockets : SocketSet smol.Socket
  listenTable : Fin portNum → Option ListenTableEntry
  curr : UInt16
  incoming : List Batch
  page : Option Memory

abbrev NetM (smol : Smoltcp) := Thread Lock (List UInt64) Fault (NetState smol)

abbrev NetWorld (smol : Smoltcp) := World Lock (List UInt64) (NetState smol)

variable {smol : Smoltcp} {α : Type}

def panicWith (reason : Panic) : NetM smol α := stop (.panicked reason)

theorem panicWith_triple {reason : Panic} {pre : NetState smol → Prop} {post : α → NetState smol → Prop}
    {raised : Fault → Prop} (holds : ∀ state, pre state → raised (.panicked reason)) :
    MemTriple pre (panicWith reason) post raised := .stop holds

/-- The heap holds that many sockets more. -/
def NetState.RoomFor (state : NetState smol) (count : Nat) : Prop :=
  count ≤ smol.capacity - state.sockets.size

instance (state : NetState smol) : DecidablePred state.RoomFor :=
  fun _ => inferInstanceAs (Decidable (_ ≤ _))

namespace SocketSetWrapper

/-- The two buffers of a socket come out of the heap. -/
def newTcpSocket : NetM smol smol.Socket := do
  let state ← read
  if state.RoomFor 1 then return smol.newTcpSocket else panicWith .outOfMemory

def add (socket : smol.Socket) : NetM smol SocketHandle :=
  locked .socketSet do
    let state ← read
    let handle := smol.freshHandle state.sockets
    update fun state => { state with sockets := state.sockets.insert handle socket }
    return handle

def withSocket (handle : SocketHandle) (f : smol.Socket → NetM smol α) : NetM smol α :=
  locked .socketSet do
    let state ← read
    match state.sockets[handle]? with
    | none => panicWith (.missingHandle handle)
    | some socket => f socket

def withSocketMut (handle : SocketHandle) (f : smol.Socket → NetM smol (α × smol.Socket)) :
    NetM smol α :=
  locked .socketSet do
    let state ← read
    match state.sockets[handle]? with
    | none => panicWith (.missingHandle handle)
    | some socket =>
      let result ← f socket
      update fun state => { state with sockets := state.sockets.insert handle result.2 }
      return result.1

/-- The check compares the address alone: the port is an unused argument. -/
def bindCheck (addr : IpAddress) (_port : UInt16) : NetM smol (AxResult Unit) :=
  locked .socketSet do
    let state ← read
    if state.sockets.toList.any fun item => (smol.getBoundEndpoint item.2).addr == some addr then
      return .error .addrInUse
    else
      return .ok ()

def remove (handle : SocketHandle) : NetM smol Unit :=
  locked .socketSet do
    let state ← read
    match state.sockets[handle]? with
    | none => panicWith (.missingHandle handle)
    | some _ => update fun state => { state with sockets := state.sockets.erase handle }

theorem newTcpSocket_spec (state : NetState smol) :
    RunFrom state newTcpSocket (fun socket now => now = state ∧ socket = smol.newTcpSocket)
      (fun fault => fault = .panicked .outOfMemory ∧ ¬ state.RoomFor 1) := by
  refine .read_bind ?_
  rintro state rfl
  split
  · exact .pure fun _ same => ⟨same, rfl⟩
  · rename_i full
    exact panicWith_triple fun _ _ => ⟨rfl, full⟩

theorem withSocket_spec {state : NetState smol} {handle : SocketHandle}
    {f : smol.Socket → NetM smol α} {post : α → NetState smol → Prop} {raised : Fault → Prop}
    (found : ∀ socket, state.sockets[handle]? = some socket → RunFrom state (f socket) post raised)
    (missing : handle ∉ state.sockets → raised (.panicked (.missingHandle handle))) :
    RunFrom state (withSocket handle f) post raised := by
  refine .locked (.read_bind ?_)
  rintro state rfl
  cases lookup : state.sockets[handle]? with
  | none =>
    refine panicWith_triple fun _ _ => missing fun member => ?_
    rw [Std.TreeMap.mem_iff_isSome_getElem?, lookup] at member
    cases member
  | some socket => exact found socket lookup

end SocketSetWrapper

end RootTaskDemo.Net
