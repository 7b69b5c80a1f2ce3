import RootTaskDemo.Common.Address
import RootTaskDemo.Common.Error
import RootTaskDemo.Lib.Words

namespace RootTaskDemo.Net

open Common Lib

/-! The words the net thread writes to the message registers of a reply. -/

/-- `err.code() as u64` -/
def errorWord (errno : AxErrno) (error : AxError) : UInt64 := ofSigned (errno.code error)

def handleAxresult (errno : AxErrno) : AxResult Unit → UInt64
  | .ok _ => 0
  | .error error => errorWord errno error

def countWord (errno : AxErrno) : AxResult UInt64 → UInt64
  | .ok count => count
  | .error error => errorWord errno error

def ipBits : IpAddr → Nat
  | .v4 octets => ofBigEndian octets.toList
  | .v6 octets => ofBigEndian octets.toList

/-- The address as the two words `addr_low` and `addr_high`. -/
def addrWords : IpAddr → UInt64 × UInt64
  | .v4 octets => (UInt64.ofNat (ipBits (.v4 octets)), 0)
  | .v6 octets =>
    let addr := ipBits (.v6 octets)
    (UInt64.ofNat addr, UInt64.ofNat (addr >>> 32))

def isIpv4 : IpAddr → Bool
  | .v4 _ => true
  | .v6 _ => false

def acceptWords (errno : AxErrno) : AxResult (UInt64 × SocketAddr) → List UInt64
  | .ok (newId, addr) =>
    [newId, if isIpv4 addr.ip then 1 else 0, UInt64.ofNat addr.port.toNat, (addrWords addr.ip).1,
      (addrWords addr.ip).2]
  | .error error => [errorWord errno error, 0, 0, 0, 0]

end RootTaskDemo.Net
