import RootTaskDemo.Kernel.NetReply
import RootTaskDemo.Kernel.Syscalls

namespace RootTaskDemo.Kernel

open Common Lib Thread

variable {ν : Type}

/-! The system calls on sockets, each a call to the net thread. -/

structure NetAnswer (ν : Type) where
  words : List UInt64
  page : Option Memory
  net : ν

/-- What the net thread makes of a message and of the frame that goes along. It
may never answer. -/
abbrev NetLink (ν : Type) := MessageInfo → MsgRegs → Option Memory → ν → Option (NetAnswer ν)

variable (platform : Platform) (link : NetLink ν)

/-- The frame that the capability sent along refers to. -/
def KernelState.frameOf (state : KernelState ν) (cap : CPtr) : Option ObjId :=
  match state.cspace cap with
  | some (.frame object _) => some object
  | _ => none

/-- The net thread shares the frame, so what it writes is seen here. -/
def KernelState.answered (state : KernelState ν) (regs : MsgRegs) (frame : Option ObjId)
    (answer : NetAnswer ν) :
    KernelState ν :=
  { state with
    net := answer.net
    msgRegs := regs.write answer.words
    frames := match frame, answer.page with
      | some frame, some contents => Function.update state.frames frame contents
      | _, _ => state.frames }

def sendNetIpc (label : NetRequsetabel) (cap : Option CPtr) : KernelM ν Unit := do
  let state ← read
  let message := label.build state.msgRegs
  let frame := cap.bind state.frameOf
  match link message.1 message.2 (frame.map state.frames) state.net with
  | none => stop .unanswered
  | some answer => update fun state => state.answered message.2 frame answer

/-- The copy takes `size_of::<T>() * num` items, not bytes. The frame stays mapped at the seat. -/
def genCap (size item : Nat) (num : Option Nat) : KernelM ν CPtr := do
  let newCap ← allocate platform .granule
  unwrapped (frameMap platform newCap kernelVSpace platform.pageSeat .all)
  let copyNum := num.getD 1
  if pageSize < size * copyNum then panicWith .itemTooLarge
  else
    copyBytes platform item platform.pageSeat (size * copyNum * size)
    return newCap

def msgReg (index : Nat) : KernelM ν UInt64 := do
  let state ← read
  return state.msgRegs index

/-- `handle_axresult` of a word, with the panic on a code that is no error. -/
def axresult (errno : AxErrno) (val : UInt64) : KernelM ν (AxResult UInt64) :=
  match handleAxresult errno val with
  | none => panicWith .errorCode
  | some result => return result

namespace Tcp

variable (errno : AxErrno) (layout : SocketAddrLayout)

def new : KernelM ν UInt64 := do
  sendNetIpc link .new none
  msgReg 0

def unitReply : KernelM ν (AxResult Unit) := do
  let word ← msgReg 0
  let result ← axresult errno word
  return result.map fun _ => ()

/-- The request has the address of the local variable, while the frame has its
contents at offset zero. -/
def bind (socketId : UInt64) (localAddr : SocketAddr) : KernelM ν (AxResult Unit) := do
  storeBytes platform platform.localAddr (layout.bytes localAddr)
  let cap ← genCap platform socketAddrSize platform.localAddr none
  sendNetIpc link (.bind socketId (UInt64.ofNat platform.localAddr)) (some cap)
  unitReply errno

def send (socketId : UInt64) (buf len : Nat) : KernelM ν (AxResult UInt64) :=
  if pageSize < len then panicWith .notInPage
  else do
    let cap ← genCap platform 1 buf (some len)
    copyBytes platform buf platform.pageSeat len
    sendNetIpc link (.send socketId (UInt64.ofNat buf) (UInt64.ofNat len)) (some cap)
    let word ← msgReg 0
    axresult errno word

/-- The bytes are copied before the word is looked at as a result. -/
def received (buf : Nat) : KernelM ν (AxResult UInt64) := do
  let word ← msgReg 0
  copyBytes platform platform.pageSeat buf word.toNat
  axresult errno word

def recv (socketId : UInt64) (buf len : Nat) : KernelM ν (AxResult UInt64) :=
  if pageSize < len then panicWith .notInPage
  else do
    let cap ← genCap platform 1 buf (some len)
    sendNetIpc link (.recv socketId (UInt64.ofNat buf) (UInt64.ofNat len)) (some cap)
    received platform errno buf

def recvTimeout (socketId : UInt64) (buf len : Nat) (timeout : UInt64) : KernelM ν (AxResult UInt64) :=
  if pageSize < len then panicWith .notInPage
  else do
    let cap ← genCap platform 1 buf (some len)
    sendNetIpc link (.recvTimeout socketId (UInt64.ofNat buf) (UInt64.ofNat len) timeout) (some cap)
    received platform errno buf

def listen (socketId : UInt64) : KernelM ν (AxResult Unit) := do
  sendNetIpc link (.listen socketId) none
  unitReply errno

def connect (socketId : UInt64) (remoteAddr : SocketAddr) : KernelM ν (AxResult Unit) := do
  storeBytes platform platform.localAddr (layout.bytes remoteAddr)
  let cap ← genCap platform socketAddrSize platform.localAddr none
  sendNetIpc link (.connect socketId 0) (some cap)
  unitReply errno

def accept (socketId : UInt64) : KernelM ν (AxResult (UInt64 × SocketAddr)) := do
  sendNetIpc link (.accept socketId) none
  let state ← read
  match acceptedSocket errno state.msgRegs with
  | none => panicWith .errorCode
  | some result => return result

def shutdown (socketId : UInt64) : KernelM ν (AxResult Unit) := do
  sendNetIpc link (.shutdown socketId) none
  unitReply errno

end Tcp

section Syscalls

variable (errno : AxErrno) (layout : SocketAddrLayout)

/-- The file descriptor as the net thread gets it: the low half, with its sign. -/
def socketIdOf (socketFd : Nat) : UInt64 := ofSigned (asI32 (UInt64.ofNat socketFd))

def libcSocketAddrSize : Nat := 16

def decodeLibcSocketAddr (bytes : List UInt8) : LibcSocketAddr :=
  { saFamily := UInt16.ofNat ((bytes.getD 0 0).toNat + 256 * (bytes.getD 1 0).toNat)
    saData := Vector.ofFn fun index => bytes.getD (index + 2) 0 }

def encodeLibcSocketAddr (addr : LibcSocketAddr) : List UInt8 :=
  [UInt8.ofNat addr.saFamily.toNat, UInt8.ofNat (addr.saFamily.toNat / 256)] ++ addr.saData.toList

/-- The error kinds that the socket calls answer; any other one is a panic. -/
def errnoOf {α : Type} (expected : List AxError) (error : AxError) : KernelM ν (Except Errno α) :=
  if error ∈ expected then return .error .einval else panicWith .unknownError

def sysSocket : KernelM ν SysResult := do
  let id ← Tcp.new link
  return .ok id.toNat

def withAddress (badge addr : Nat) (expected : List AxError)
    (request : SocketAddr → KernelM ν (AxResult Unit)) :
    KernelM ν SysResult :=
  locked .taskMap do
    let task ← taskOf badge
    match ← readItem platform libcSocketAddrSize task addr with
    | .error error => return .error error
    | .ok bytes =>
      match ← request (decodeLibcSocketAddr bytes).toSocketAddr with
      | .ok () => return .ok 0
      | .error error => errnoOf expected error

def sysBind (badge socketFd addr : Nat) : KernelM ν SysResult :=
  withAddress platform badge addr [.invalidInput]
    (Tcp.bind platform link errno layout (socketIdOf socketFd))

def sysConnect (badge socketFd addr : Nat) : KernelM ν SysResult :=
  withAddress platform badge addr [.invalidInput, .addrInUse]
    (Tcp.connect platform link errno layout (socketIdOf socketFd))

def sysListen (socketFd : Nat) : KernelM ν SysResult := do
  match ← Tcp.listen link errno (socketIdOf socketFd) with
  | .ok () => return .ok 0
  | .error error => errnoOf [.invalidInput, .addrInUse] error

/-- The address is written through a local variable; whether that worked is not looked at. -/
def sysAccept (badge socketFd addr : Nat) : KernelM ν SysResult :=
  locked .taskMap do
    let task ← taskOf badge
    match ← Tcp.accept link errno (socketIdOf socketFd) with
    | .error error => errnoOf [.invalidInput, .addrInUse] error
    | .ok accepted =>
      storeBytes platform platform.localAddr (encodeLibcSocketAddr (.ofSocketAddr accepted.2))
      let _ ← writeItem platform libcSocketAddrSize task addr platform.localAddr
      return .ok accepted.1.toNat

def sysShutdown (socketFd : Nat) : KernelM ν SysResult := do
  match ← Tcp.shutdown link errno (socketIdOf socketFd) with
  | .ok () => return .ok 0
  | .error error => errnoOf [.invalidInput, .addrInUse] error

/-- A vector of bytes: `with_capacity` gives one of length zero. -/
structure ByteVec where
  ptr : Nat
  len : Nat

/-- A capacity that the heap has no room for is a panic. -/
def ByteVec.withCapacity (capacity : Nat) : KernelM ν ByteVec :=
  if platform.heapRoom < capacity then panicWith .noHeap
    else return { ptr := platform.heapBuffer capacity, len := 0 }

/-- `sys_sendto` with the request it ends in left open. -/
def sysSendtoWith (send : UInt64 → Nat → Nat → KernelM ν (AxResult UInt64))
    (badge socketFd buf len addr : Nat) :
    KernelM ν SysResult :=
  locked .taskMap do
    let task ← taskOf badge
    match ← readItem platform libcSocketAddrSize task addr with
    | .error error => return .error error
    | .ok _ =>
      let payload ← ByteVec.withCapacity platform len
      let _ ← readItemList platform 1 task buf (some len) payload.ptr
      match ← send (socketIdOf socketFd) payload.ptr payload.len with
      | .ok len => return .ok len.toNat
      | .error error => errnoOf [.invalidInput, .addrInUse] error

def sysSendto (badge socketFd buf len addr : Nat) : KernelM ν SysResult :=
  sysSendtoWith platform (Tcp.send platform link errno) badge socketFd buf len addr

def sysRecvfrom (badge socketFd buf len : Nat) : KernelM ν SysResult :=
  locked .taskMap do
    let task ← taskOf badge
    let recvBuf ← ByteVec.withCapacity platform len
    match ← Tcp.recv platform link errno (socketIdOf socketFd) recvBuf.ptr recvBuf.len with
    | .ok len => writeItemList platform 1 task buf (some len.toNat) recvBuf.ptr
    | .error error => errnoOf [.invalidInput, .addrInUse] error

end Syscalls

end RootTaskDemo.Kernel
