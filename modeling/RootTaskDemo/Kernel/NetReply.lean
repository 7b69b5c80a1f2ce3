import RootTaskDemo.Common.Address
import RootTaskDemo.Common.Error
import RootTaskDemo.Common.Message
import RootTaskDemo.Lib.Words

namespace RootTaskDemo.Kernel

open Common Lib

/-! The kernel thread's reading of the message registers of a reply. `none` is
the panic of `unwrap` on an error code that is no `AxError`. -/

def handleAxresult (errno : AxErrno) (val : UInt64) : Option (AxResult UInt64) :=
  let valI32 := asI32 val
  if valI32 = 0 then some (.ok val)
  else (errno.tryFrom valI32).map .error

/-- What `tcp::accept` makes of the registers. -/
def acceptResult (errno : AxErrno) (regs : MsgRegs) : Option (AxResult (Vector UInt64 5)) :=
  if asI64 (regs 0) < 0 then
    let errorCode := (asI32 (regs 0)).natAbs
    (errno.tryFrom errorCode).map .error
  else some (.ok #v[regs 0, regs 1, regs 2, regs 3, regs 4])

def parseIpaddr (isIpv4 : Bool) (addrLow addrHigh : UInt64) (port : UInt16) : SocketAddr :=
  if isIpv4 then
    let addr := (Vector.mk (toBigEndian 8 addrLow.toNat).toArray (by simp) : Vector UInt8 8)
    { ip := .v4 #v[addr[0], addr[1], addr[2], addr[3]], port }
  else
    let addr := addrHigh.toNat <<< 32 ||| addrLow.toNat
    { ip := .v6 (Vector.mk (toBigEndian 16 addr).toArray (by simp)), port }

/-- The new socket and its address, as `sys_accept` reads them. -/
def acceptedSocket (errno : AxErrno) (regs : MsgRegs) : Option (AxResult (UInt64 × SocketAddr)) :=
  (acceptResult errno regs).map fun result => result.map fun (ans : Vector UInt64 5) =>
    (ans[0], parseIpaddr (decide (ans[1] ≠ 0)) ans[3] ans[4] (UInt16.ofNat ans[2].toNat))

end RootTaskDemo.Kernel
