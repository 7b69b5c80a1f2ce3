import RootTaskDemo.Common.Address
import RootTaskDemo.Common.Error
import RootTaskDemo.Kernel.Task

namespace RootTaskDemo.Kernel

open Common Lib Thread

variable {ν β : Type} (platform : Platform)

/-! Access to the memory of a task, one page after the other through the page
seat. A callback gets the address in the seat, the offset from the start and the
number of bytes in the page; what it captures is passed along as `acc`. -/

abbrev Callback (ν β : Type) := Nat → Nat → Nat → β → KernelM ν β

def alignBits (address bits : Nat) : Nat := address / 2 ^ bits * 2 ^ bits

/-- A copy of the capability in the temporary slot, mapped at the page seat while `body` runs. -/
def withPage (cap : CPtr) (body : KernelM ν β) : KernelM ν β := do
  unwrapped (cnodeCopy tempSlot cap)
  let value ← withSeat platform tempSlot platform.pageSeat body
  cnodeDelete platform tempSlot
  return value

/-- The loop over the pages. Each round takes at least one byte, so `len` rounds are enough. -/
def processPages (task : Sel4Task) (addr : Nat) (f : Callback ν β) :
    Nat → Nat → Nat → β → KernelM ν (SysResult × β)
  | 0, _, bufAddr, acc => return (.ok ((bufAddr + 2 ^ 64 - addr) % 2 ^ 64), acc)
  | fuel + 1, len, bufAddr, acc =>
    if len = 0 then return (.ok ((bufAddr + 2 ^ 64 - addr) % 2 ^ 64), acc)
    else match task.mappedPage[alignBits bufAddr 12]? with
      | none => return (.error .efault, acc)
      | some cap => do
        let copyLen := min (pageSize - bufAddr % pageSize) len
        let acc ← withPage platform cap
          (f (platform.pageSeat + bufAddr % pageSize) ((bufAddr + 2 ^ 64 - addr) % 2 ^ 64) copyLen acc)
        processPages task addr f fuel (len - copyLen) ((bufAddr + copyLen) % 2 ^ 64) acc

def processItemList (size : Nat) (task : Sel4Task) (addr : Nat) (number : Option Nat)
    (f : Callback ν β) (init : β) :
    KernelM ν (SysResult × β) :=
  if number.isNone ∧ pageSize < size + addr % pageSize then return (.error .einval, init)
  else
    let len := size * number.getD 1 % 2 ^ 64
    processPages platform task addr f len len addr init

/-- The bytes of the item; the item starts out zeroed. -/
def readItem (size : Nat) (task : Sel4Task) (addr : Nat) : KernelM ν (Except Errno (List UInt8)) := do
  let result ← processItemList platform size task addr none
    (fun src _ _ _ => loadBytes platform src size) (List.replicate size 0)
  return result.1.map fun _ => result.2

/-- The count that `copy_nonoverlapping` is given is one of items, not of bytes. -/
def writeItem (size : Nat) (task : Sel4Task) (addr item : Nat) : KernelM ν SysResult := do
  let result ← processItemList platform size task addr none
    (fun dst _ copyLen _ => copyBytes platform item dst (copyLen * size)) ()
  return result.1

/-- Offset and count of the copy are given in items. -/
def readItemList (size : Nat) (task : Sel4Task) (addr : Nat) (num : Option Nat) (buf : Nat) :
    KernelM ν SysResult := do
  let result ← processItemList platform size task addr num
    (fun src offset copyLen _ => copyBytes platform src (buf + offset * size) (copyLen * size)) ()
  return result.1

/-- Written byte by byte whatever the items are. -/
def writeItemList (size : Nat) (task : Sel4Task) (addr : Nat) (num : Option Nat) (buf : Nat) :
    KernelM ν SysResult := do
  let result ← processItemList platform 1 task addr num
    (fun dst offset copyLen _ => copyBytes platform (buf + offset * size) dst (copyLen * size)) ()
  return result.1

end RootTaskDemo.Kernel
