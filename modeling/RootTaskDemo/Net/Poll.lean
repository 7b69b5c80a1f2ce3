import RootTaskDemo.Net.ListenTable

namespace RootTaskDemo.Net

open Common Lib Thread

variable {smol : Smoltcp}

/-- A packet that a parser rejects; the callers drop the result. -/
inductive WireError where
  | malformed

/-- The part that the two snooping functions share: the first segment of a TCP
connection prepares a socket for the later `accept`. -/
def snoopIpv4 (smol : Smoltcp) (packet : List UInt8) : NetM smol (Except WireError Unit) :=
  match smol.ipv4Packet packet with
  | none => return .error .malformed
  | some ipv4 =>
    if ipv4.isTcp then
      match smol.tcpPacket ipv4.payload with
      | none => return .error .malformed
      | some tcp =>
        if tcp.syn && !tcp.ack then do
          ListenTable.incomingTcpPacket ⟨ipv4.srcAddr, tcp.srcPort⟩ ⟨ipv4.dstAddr, tcp.dstPort⟩
          return .ok ()
        else return .ok ()
    else return .ok ()

def snoopTcpFromIp (smol : Smoltcp) (buffer : List UInt8) : NetM smol (Except WireError Unit) :=
  snoopIpv4 smol buffer

def snoopTcpPacket (smol : Smoltcp) (buf : List UInt8) : NetM smol (Except WireError Unit) :=
  match smol.ethernetPayload buf with
  | none => return .error .malformed
  | some payload => snoopIpv4 smol payload

def preprocess (smol : Smoltcp) : Interface → List UInt8 → NetM smol (Except WireError Unit)
  | .loopback => snoopTcpFromIp smol
  | .eth0 => snoopTcpPacket smol

def snoopedIpv4 (smol : Smoltcp) (packet : List UInt8) : Option UInt16 := do
  let ipv4 ← smol.ipv4Packet packet
  let tcp ← if ipv4.isTcp then smol.tcpPacket ipv4.payload else none
  if tcp.syn && !tcp.ack then some tcp.dstPort else none

def snoopedPort (smol : Smoltcp) : Interface → List UInt8 → Option UInt16
  | .loopback, frame => snoopedIpv4 smol frame
  | .eth0, frame => (smol.ethernetPayload frame).bind (snoopedIpv4 smol)

/-- A frame is passed over, unless it is the first segment of a connection. -/
theorem preprocess_cases (smol : Smoltcp) (iface : Interface) (frame : List UInt8) :
    (snoopedPort smol iface frame = none ∧ ∃ result, preprocess smol iface frame = pure result) ∨
      ∃ src dst : IpEndpoint, snoopedPort smol iface frame = some dst.port ∧
        preprocess smol iface frame = (do ListenTable.incomingTcpPacket src dst; return .ok ()) := by
  have packets : ∀ packet, (snoopedIpv4 smol packet = none ∧ ∃ result, snoopIpv4 smol packet =
    pure result) ∨
      ∃ src dst : IpEndpoint, snoopedIpv4 smol packet = some dst.port ∧
        snoopIpv4 smol packet = (do ListenTable.incomingTcpPacket src dst; return .ok ()) := by
    intro packet
    unfold snoopIpv4 snoopedIpv4
    cases smol.ipv4Packet packet with
    | none => exact Or.inl ⟨rfl, _, rfl⟩
    | some ipv4 =>
      cases isTcp : ipv4.isTcp with
      | false => exact Or.inl ⟨by simp [isTcp], _, by simp [isTcp]; rfl⟩
      | true =>
        cases segment : smol.tcpPacket ipv4.payload with
        | none => exact Or.inl ⟨by simp [isTcp, segment], _, by simp [isTcp, segment]; rfl⟩
        | some tcp =>
          cases first : tcp.syn && !tcp.ack with
          | false => exact Or.inl ⟨by simp [isTcp, segment, -Bool.and_eq_true, first], _, by simp [isTcp, segment, first]; rfl⟩
          | true =>
            refine Or.inr ⟨⟨ipv4.srcAddr, tcp.srcPort⟩, ⟨ipv4.dstAddr, tcp.dstPort⟩, ?_, ?_⟩
            · simp [isTcp, segment, -Bool.and_eq_true, first]
            · simp [isTcp, segment, first]
  cases iface with
  | loopback => exact packets frame
  | eth0 =>
    simp only [preprocess, snoopTcpPacket, snoopedPort]
    cases smol.ethernetPayload frame with
    | none => exact Or.inl ⟨rfl, _, rfl⟩
    | some payload => exact packets payload

/-- One `Interface::poll`: each received frame is snooped and then processed. -/
def pollInterface (iface : Interface) : List (List UInt8) → NetM smol Unit
  | [] => update fun state => { state with sockets := state.sockets.map (smol.egress iface state.sockets) }
  | frame :: rest => do
    let _ ← preprocess smol iface frame
    update fun state =>
      { state with sockets := state.sockets.map (smol.ingress iface frame state.sockets) }
    pollInterface iface rest

def nextBatch : NetM smol Batch := do
  let state ← read
  match state.incoming with
  | [] => return ⟨[], []⟩
  | batch :: rest =>
    update fun state => { state with incoming := rest }
    return batch

def SocketSetWrapper.pollInterfaces : NetM smol Unit := do
  let batch ← nextBatch
  locked .loopback <| locked .loopbackDev <| locked .socketSet <|
    pollInterface .loopback batch.loopback
  locked .eth0Dev <| locked .eth0Iface <| locked .socketSet <|
    pollInterface .eth0 batch.eth0

end RootTaskDemo.Net
