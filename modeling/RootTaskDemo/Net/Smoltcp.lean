import Std.Data.TreeMap
import RootTaskDemo.Common.Address

namespace RootTaskDemo.Net

open Common

/-! The TCP stack under the net thread. `smoltcp` and the network driver are not
part of the repository, so their operations are a parameter of the model. -/

inductive TcpState where
  | closed
  | listen
  | synSent
  | synReceived
  | established
  | finWait1
  | finWait2
  | closeWait
  | closing
  | lastAck
  | timeWait
deriving DecidableEq, Repr

inductive ConnectError where
  | invalidState
  | unaddressable
deriving DecidableEq, Repr

inductive Interface where
  | loopback
  | eth0
deriving DecidableEq, Repr

abbrev SocketHandle := Nat

abbrev SocketSet (Socket : Type) := Std.TreeMap SocketHandle Socket

/-- What the snooping code reads of a packet that `Ipv4Packet::new_checked` accepts. -/
structure Ipv4Packet where
  isTcp : Bool
  srcAddr : IpAddress
  dstAddr : IpAddress
  payload : List UInt8
deriving DecidableEq

/-- What the snooping code reads of a segment that `TcpPacket::new_checked` accepts. -/
structure TcpPacket where
  srcPort : UInt16
  dstPort : UInt16
  syn : Bool
  ack : Bool
deriving DecidableEq

def tcpRxBufLen : Nat := 64 * 64

def tcpTxBufLen : Nat := 64 * 64

def heapSize : Nat := 0x100000

structure Smoltcp where
  Socket : Type
  newTcpSocket : Socket
  /-- How many sockets the heap holds, with their buffers and their places in the tables. -/
  capacity : Nat
  capacity_fits : capacity * (tcpRxBufLen + tcpTxBufLen) ≤ heapSize
  state : Socket → TcpState
  localEndpoint : Socket → Option IpEndpoint
  remoteEndpoint : Socket → Option IpEndpoint
  getBoundEndpoint : Socket → IpListenEndpoint
  setBoundEndpoint : IpListenEndpoint → Socket → Socket
  listen : IpListenEndpoint → Socket → Option Socket
  connect : Interface → IpEndpoint → IpListenEndpoint → Socket → Except ConnectError Socket
  close : Socket → Socket
  recvQueue : Socket → Nat
  isActive : Socket → Bool
  mayRecv : Socket → Bool
  canRecv : Socket → Bool
  maySend : Socket → Bool
  canSend : Socket → Bool
  /-- Into a buffer of the given length. -/
  recvSlice : Nat → Socket → Option (List UInt8 × Socket)
  sendSlice : List UInt8 → Socket → Option (Nat × Socket)
  /-- The handle that `SocketSet::add` picks. -/
  freshHandle : SocketSet Socket → SocketHandle
  /-- What processing one received frame does to each socket of the set. -/
  ingress : Interface → List UInt8 → SocketSet Socket → SocketHandle → Socket → Socket
  /-- What sending what is due does to each of them. -/
  egress : Interface → SocketSet Socket → SocketHandle → Socket → Socket
  /-- The payload of a frame that `EthernetFrame::new_checked` accepts. -/
  ethernetPayload : List UInt8 → Option (List UInt8)
  ipv4Packet : List UInt8 → Option Ipv4Packet
  tcpPacket : List UInt8 → Option TcpPacket

/-- What the wrapper relies on: a new handle is not in use, and a socket that is
neither closed nor listening has both its endpoints. -/
structure Smoltcp.Lawful (smol : Smoltcp) : Prop where
  freshHandle : ∀ set : SocketSet smol.Socket, smol.freshHandle set ∉ set
  endpoints : ∀ socket, smol.state socket ≠ .closed → smol.state socket ≠ .listen →
    (smol.localEndpoint socket).isSome ∧ (smol.remoteEndpoint socket).isSome
  connected : ∀ iface remote bound socket socket',
    smol.connect iface remote bound socket = .ok socket' → smol.state socket' = .synSent

/-! ## The packet views -/

def wordAt (bytes : List UInt8) (index : Nat) : UInt16 :=
  UInt16.ofNat ((bytes.getD index 0).toNat * 256 + (bytes.getD (index + 1) 0).toNat)

def ipv4At (bytes : List UInt8) (index : Nat) : IpAddress :=
  .ipv4 (Vector.ofFn fun octet => bytes.getD (index + octet) 0)

/-- The header says how long it is, and how long the packet is as a whole. -/
def parseIpv4 (bytes : List UInt8) : Option Ipv4Packet :=
  let headerLen := (bytes.getD 0 0).toNat % 16 * 4
  let totalLen := (wordAt bytes 2).toNat
  if 20 ≤ bytes.length ∧ headerLen ≤ totalLen ∧ totalLen ≤ bytes.length then
    some { isTcp := bytes.getD 9 0 = 6
           srcAddr := ipv4At bytes 12
           dstAddr := ipv4At bytes 16
           payload := (bytes.take totalLen).drop headerLen }
  else none

def tcpHeaderLen (bytes : List UInt8) : Nat := (bytes.getD 12 0).toNat / 16 * 4

def parseTcp (bytes : List UInt8) : Option TcpPacket :=
  if 20 ≤ tcpHeaderLen bytes ∧ tcpHeaderLen bytes ≤ bytes.length then
    some { srcPort := wordAt bytes 0
           dstPort := wordAt bytes 2
           syn := bytes.getD 13 0 &&& 0x02 ≠ 0
           ack := bytes.getD 13 0 &&& 0x10 ≠ 0 }
  else none

/-! ## A small stack

A stack that meets these facts. A connection goes through its handshake and ends with a
reset; sequence numbers are not looked at. -/

structure TcpSegment where
  src : IpEndpoint
  dst : IpEndpoint
  syn : Bool
  ack : Bool
  rst : Bool
  data : List UInt8

def segmentOf (packet : List UInt8) : Option TcpSegment := do
  let ipv4 ← parseIpv4 packet
  let tcp ← if ipv4.isTcp then parseTcp ipv4.payload else none
  return { src := ⟨ipv4.srcAddr, tcp.srcPort⟩
           dst := ⟨ipv4.dstAddr, tcp.dstPort⟩
           syn := tcp.syn
           ack := tcp.ack
           rst := ipv4.payload.getD 13 0 &&& 0x04 ≠ 0
           data := ipv4.payload.drop (tcpHeaderLen ipv4.payload) }

def segmentOn : Interface → List UInt8 → Option TcpSegment
  | .loopback, frame => segmentOf frame
  | .eth0, frame => if wordAt frame 12 = 0x0800 then segmentOf (frame.drop 14) else none

inductive Phase where
  | synSent
  | synReceived
  | established
  | finWait1
deriving DecidableEq

/-- A socket of the small stack. One with a connection keeps the endpoint it listened on:
a reset before the end of the handshake takes it back there. -/
inductive SmallSocket where
  | closed (bound : IpListenEndpoint)
  | listening (bound listener : IpListenEndpoint)
  | connection (phase : Phase) (bound listener : IpListenEndpoint) (localAddr remote : IpEndpoint)
      (received : List UInt8)
deriving DecidableEq

def Phase.state : Phase → TcpState
  | .synSent => .synSent
  | .synReceived => .synReceived
  | .established => .established
  | .finWait1 => .finWait1

namespace SmallSocket

def state : SmallSocket → TcpState
  | .closed _ => .closed
  | .listening _ _ => .listen
  | .connection phase _ _ _ _ _ => phase.state

def localEndpoint : SmallSocket → Option IpEndpoint
  | .connection _ _ _ localAddr _ _ => some localAddr
  | _ => none

def remoteEndpoint : SmallSocket → Option IpEndpoint
  | .connection _ _ _ _ remote _ => some remote
  | _ => none

def bound : SmallSocket → IpListenEndpoint
  | .closed bound | .listening bound _ | .connection _ bound _ _ _ _ => bound

def setBound (bound : IpListenEndpoint) : SmallSocket → SmallSocket
  | .closed _ => .closed bound
  | .listening _ listener => .listening bound listener
  | .connection phase _ listener localAddr remote received =>
    .connection phase bound listener localAddr remote received

def received : SmallSocket → List UInt8
  | .connection _ _ _ _ _ received => received
  | _ => []

def setReceived (received : List UInt8) : SmallSocket → SmallSocket
  | .connection phase bound listener localAddr remote _ =>
    .connection phase bound listener localAddr remote received
  | socket => socket

def close : SmallSocket → SmallSocket
  | .connection phase bound listener localAddr remote received =>
    if phase = .synSent then .closed bound
    else .connection .finWait1 bound listener localAddr remote received
  | socket => .closed socket.bound

def accepts (segment : TcpSegment) : SmallSocket → Bool
  | .closed _ => false
  | .listening _ listener => !segment.ack && !segment.rst && segment.dst.port = listener.port &&
    listener.addr.all (· = segment.dst.addr)
  | .connection _ _ _ localAddr remote _ => segment.dst = localAddr && segment.src = remote

def process (segment : TcpSegment) : SmallSocket → SmallSocket
  | .listening bound listener =>
    if segment.syn then .connection .synReceived bound listener segment.dst segment.src []
    else .listening bound listener
  | .connection phase bound listener localAddr remote received =>
    let next phase := connection phase bound listener localAddr remote
    if segment.rst then if phase = .synReceived then .listening bound listener else .closed bound
    else match phase with
      | .synSent => next (if segment.syn && segment.ack then .established else .synSent) received
      | .synReceived => next (if segment.ack then .established else .synReceived) segment.data
      | phase => next phase (received ++ segment.data)
  | socket => socket

end SmallSocket

/-- The address of each interface, which a connection starts from by default. -/
def sourceAddr : Interface → IpAddress
  | .loopback => .ipv4 #v[127, 0, 0, 1]
  | .eth0 => .ipv4 #v[10, 0, 2, 15]

theorem heap_capacity_fits :
    heapSize / (tcpRxBufLen + tcpTxBufLen) * (tcpRxBufLen + tcpTxBufLen) ≤ heapSize :=
  Nat.div_mul_le_self ..

def Smoltcp.small : Smoltcp where
  Socket := SmallSocket
  newTcpSocket := .closed ⟨none, 0⟩
  capacity := heapSize / (tcpRxBufLen + tcpTxBufLen)
  capacity_fits := heap_capacity_fits
  state := SmallSocket.state
  localEndpoint := SmallSocket.localEndpoint
  remoteEndpoint := SmallSocket.remoteEndpoint
  getBoundEndpoint := SmallSocket.bound
  setBoundEndpoint := SmallSocket.setBound
  listen endpoint socket :=
    if socket.state = .closed ∧ endpoint.port ≠ 0 then some (.listening socket.bound endpoint) else none
  connect iface remote endpoint socket :=
    if socket.state ≠ .closed then .error .invalidState
    else if remote.port = 0 ∨ isUnspecified remote.addr ∨ endpoint.port = 0 then .error .unaddressable
    else .ok (.connection .synSent socket.bound ⟨none, 0⟩
      ⟨endpoint.addr.getD (sourceAddr iface), endpoint.port⟩ remote [])
  close := SmallSocket.close
  recvQueue socket := socket.received.length
  isActive socket := socket.state ≠ .closed ∧ socket.state ≠ .listen
  mayRecv socket := socket.state = .established ∨ socket.state = .finWait1 ∨ socket.received ≠ []
  canRecv socket := socket.received ≠ []
  maySend socket := socket.state = .established
  canSend socket := socket.state = .established
  recvSlice len socket := some (socket.received.take len, socket.setReceived (socket.received.drop len))
  sendSlice buf socket := some (buf.length, socket)
  freshHandle set := set.keys.foldr (fun handle next => max (handle + 1) next) 0
  -- a segment goes to the first socket that accepts it
  ingress iface frame set handle socket :=
    match segmentOn iface frame with
    | none => socket
    | some segment =>
      if (set.toList.find? fun item => item.2.accepts segment).map Prod.fst = some handle
      then socket.process segment else socket
  egress _ _ _ := id
  ethernetPayload frame := if 14 ≤ frame.length then some (frame.drop 14) else none
  ipv4Packet := parseIpv4
  tcpPacket := parseTcp

theorem handleBehind_not_mem {α : Type} (set : SocketSet α) :
    set.keys.foldr (fun handle next => max (handle + 1) next) 0 ∉ set := by
  have below : ∀ keys : List Nat, ∀ key ∈ keys,
      key < keys.foldr (fun handle next => max (handle + 1) next) 0 := by
    intro keys
    induction keys with
    | nil => exact nofun
    | cons head rest ih =>
      intro key member
      rw [List.foldr_cons]
      rcases List.mem_cons.mp member with rfl | member
      · exact Nat.lt_of_lt_of_le (Nat.lt_succ_self key) (Nat.le_max_left _ _)
      · exact Nat.lt_of_lt_of_le (ih key member) (Nat.le_max_right _ _)
  intro member
  exact Nat.lt_irrefl _ (below set.keys _ (Std.TreeMap.mem_keys.mpr member))

theorem Smoltcp.small_lawful : Smoltcp.small.Lawful where
  freshHandle := handleBehind_not_mem
  endpoints socket notClosed notListening := by
    change SmallSocket at socket
    cases socket with
    | closed bound => exact absurd rfl notClosed
    | listening bound listener => exact absurd rfl notListening
    | connection phase bound listener localAddr remote received => exact ⟨rfl, rfl⟩
  connected iface remote bound socket socket' connected := by
    simp only [Smoltcp.small] at connected ⊢
    split at connected
    · cases connected
    · split at connected
      · cases connected
      · cases connected
        rfl

/-! ## Frames

Segments from the gateway to the net thread, without options and data. -/

def bytesOf (word : Nat) : List UInt8 := [UInt8.ofNat (word / 256), UInt8.ofNat word]

def wordSum : List UInt8 → Nat
  | high :: low :: rest => high.toNat * 256 + low.toNat + wordSum rest
  | [high] => high.toNat * 256
  | [] => 0

def checksum (bytes : List UInt8) : List UInt8 := bytesOf (0xffff - wordSum bytes % 0xffff)

def tcpFrame (srcPort dstPort : UInt16) (flags : UInt8) : List UInt8 :=
  let ethernet := [0x52, 0x54, 0x00, 0x12, 0x34, 0x56, 0x52, 0x55, 0x0a, 0x00, 0x02, 0x02, 0x08, 0x00]
  let addrs := [10, 0, 2, 2, 10, 0, 2, 15]
  let ipv4 := [0x45, 0, 0, 40, 0, 0, 0, 0, 64, 6]
  let tcp := bytesOf srcPort.toNat ++ bytesOf dstPort.toNat ++ List.replicate 8 0 ++
    [0x50, flags, 0x10, 0x00]
  let pseudo := addrs ++ [0, 6, 0, 20]
  ethernet ++ ipv4 ++ checksum (ipv4 ++ addrs) ++ addrs ++ tcp ++ checksum (pseudo ++ tcp) ++ [0, 0]

def clientPort : UInt16 := 0xc000

def synFrame (port : UInt16) : List UInt8 := tcpFrame clientPort port 0x02

def ackFrame (port : UInt16) : List UInt8 := tcpFrame clientPort port 0x10

def rstFrame (port : UInt16) : List UInt8 := tcpFrame clientPort port 0x14

/-- The answer of a server at `srcPort` to a connection that starts. -/
def synAckFrame (srcPort dstPort : UInt16) : List UInt8 := tcpFrame srcPort dstPort 0x12

end RootTaskDemo.Net
