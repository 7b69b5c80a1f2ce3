import Mathlib.Algebra.Order.Ring.Int

namespace RootTaskDemo.Common

/-! Socket addresses in the three shapes the threads exchange: the address of
`core::net`, the sixteen bytes a user program passes, and the endpoint of the TCP
stack. -/

inductive IpAddr where
  | v4 (octets : Vector UInt8 4)
  | v6 (octets : Vector UInt8 16)
deriving DecidableEq, Repr

structure SocketAddr where
  ip : IpAddr
  port : UInt16
deriving DecidableEq, Repr

/-- The thirty-two bytes of a `SocketAddr` in memory. Rust fixes no layout, so
both threads are given one: whatever bytes lie in memory are read as some
address, and the bytes of an address as that address. -/
structure SocketAddrLayout where
  bytes : SocketAddr → List UInt8
  read : List UInt8 → SocketAddr
  length_bytes : ∀ addr, (bytes addr).length = 32
  read_bytes : ∀ addr, read (bytes addr) = addr

def socketAddrSize : Nat := 32

/-- A tag, the octets padded to sixteen, the port and padding. -/
def taggedBytes (addr : SocketAddr) : List UInt8 :=
  let port := [UInt8.ofNat (addr.port.toNat / 256), UInt8.ofNat addr.port.toNat]
  match addr.ip with
  | .v4 octets => port ++ 0 :: (octets.toList ++ List.replicate 25 0)
  | .v6 octets => port ++ 1 :: (octets.toList ++ List.replicate 13 0)

def readTagged (bytes : List UInt8) : SocketAddr :=
  { ip := if bytes.getD 2 0 = 0 then .v4 (Vector.ofFn fun index => bytes.getD (index + 3) 0)
      else .v6 (Vector.ofFn fun index => bytes.getD (index + 3) 0)
    port := UInt16.ofNat ((bytes.getD 0 0).toNat * 256 + (bytes.getD 1 0).toNat) }

theorem readTagged_taggedBytes (addr : SocketAddr) : readTagged (taggedBytes addr) = addr := by
  obtain ⟨ip, port⟩ := addr
  have bound := port.toNat_lt
  have joined : UInt16.ofNat
      ((UInt8.ofNat (port.toNat / 256)).toNat * 256 + (UInt8.ofNat port.toNat).toNat) = port := by
    apply UInt16.toNat_inj.mp
    simp only [UInt8.toNat_ofNat', UInt16.toNat_ofNat']
    omega
  have octet : ∀ {width : Nat} (octets : Vector UInt8 width) (tail : List UInt8) (index : Fin width),
      (octets.toList ++ tail).getD index 0 = octets[index] := by
    intro width octets tail index
    simp [List.getD_eq_getElem?_getD, List.getElem?_append_left]
  cases ip with
  | v4 octets =>
    refine congrArg₂ SocketAddr.mk (congrArg IpAddr.v4 ?_) joined
    refine Vector.ext fun index inside => ?_
    rw [Vector.getElem_ofFn]
    exact octet octets _ ⟨index, inside⟩
  | v6 octets =>
    refine congrArg₂ SocketAddr.mk (congrArg IpAddr.v6 ?_) joined
    refine Vector.ext fun index inside => ?_
    rw [Vector.getElem_ofFn]
    exact octet octets _ ⟨index, inside⟩

def SocketAddrLayout.tagged : SocketAddrLayout where
  bytes := taggedBytes
  read := readTagged
  length_bytes addr := by
    obtain ⟨ip, port⟩ := addr
    cases ip <;> simp [taggedBytes]
  read_bytes := readTagged_taggedBytes

structure LibcSocketAddr where
  saFamily : UInt16
  saData : Vector UInt8 14
deriving DecidableEq, Repr

/-- The port and the IPv4 address of the sixteen bytes; the family is not looked at. -/
def LibcSocketAddr.toSocketAddr (addr : LibcSocketAddr) : SocketAddr :=
  let data := addr.saData
  { ip := .v4 #v[data[2], data[3], data[4], data[5]]
    port := UInt16.ofNat (data[0].toNat * 256 + data[1].toNat) }

/-- Every address is presented as `AF_INET`; of an IPv6 address only twelve octets fit. -/
def LibcSocketAddr.ofSocketAddr (value : SocketAddr) : LibcSocketAddr :=
  let high := UInt8.ofNat (value.port.toNat >>> 8)
  let low := UInt8.ofNat (value.port.toNat &&& 0xff)
  { saFamily := 2
    saData := match value.ip with
      | .v4 ip => #v[high, low, ip[0], ip[1], ip[2], ip[3], 0, 0, 0, 0, 0, 0, 0, 0]
      | .v6 ip => #v[high, low, ip[0], ip[1], ip[2], ip[3], ip[4], ip[5], ip[6], ip[7],
          ip[8], ip[9], ip[10], ip[11]] }

inductive IpAddress where
  | ipv4 (octets : Vector UInt8 4)
  | ipv6 (octets : Vector UInt8 16)
deriving DecidableEq, Repr

structure IpEndpoint where
  addr : IpAddress
  port : UInt16
deriving DecidableEq, Repr

structure IpListenEndpoint where
  addr : Option IpAddress
  port : UInt16
deriving DecidableEq, Repr

def IpAddress.asBytes : IpAddress → List UInt8
  | .ipv4 octets => octets.toList
  | .ipv6 octets => octets.toList

def fromCoreIpaddr : IpAddr → IpAddress
  | .v4 octets => .ipv4 octets
  | .v6 octets => .ipv6 octets

def intoCoreIpaddr : IpAddress → IpAddr
  | .ipv4 octets => .v4 octets
  | .ipv6 octets => .v6 octets

def fromCoreSockaddr (addr : SocketAddr) : IpEndpoint :=
  { addr := fromCoreIpaddr addr.ip, port := addr.port }

def intoCoreSockaddr (addr : IpEndpoint) : SocketAddr :=
  { ip := intoCoreIpaddr addr.addr, port := addr.port }

def isUnspecified (ip : IpAddress) : Bool := ip.asBytes == [0, 0, 0, 0]

def unspecifiedIp : IpAddress := .ipv4 #v[0, 0, 0, 0]

def unspecifiedEndpoint : IpEndpoint := { addr := unspecifiedIp, port := 0 }

end RootTaskDemo.Common
