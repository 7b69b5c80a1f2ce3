import RootTaskDemo.Kernel.Task

namespace RootTaskDemo.Kernel

open Lib Thread

variable {ν : Type} (platform : Platform)

/-! The loader that `sys_exec` shares with the root task. -/

/-- A segment of a program as the crate `object` presents it. -/
structure Segment where
  address : Nat
  size : Nat
  data : List UInt8
  flags : Nat

def granuleSize : Nat := 0x1000

def roundDown (n b : Nat) : Nat := n - n % b

def nextMultipleOf (n b : Nat) : Nat := (n + b - 1) / b * b

def coarsenFootprint (footprint : Nat × Nat) (granularity : Nat) : Nat × Nat :=
  (roundDown footprint.1 granularity, nextMultipleOf footprint.2 granularity)

/-- `none` is the panic of a program without segments. -/
def footprint (segments : List Segment) : Option (Nat × Nat) := do
  let min ← (segments.map Segment.address).min?
  let max ← (segments.map fun seg => seg.address + seg.size).max?
  return coarsenFootprint (min, max) granuleSize

def addRights (rights : CapRights) (flags : Nat) : CapRights :=
  { read := rights.read || flags &&& 4 ≠ 0
    write := rights.write || flags &&& 2 ≠ 0
    grant := rights.grant || flags &&& 1 ≠ 0 }

abbrev ImagePage := CPtr × CapRights

def allocatePages : Nat → KernelM ν (List ImagePage)
  | 0 => return []
  | count + 1 => do
    let page ← allocateAndRetype platform .granule
    let rest ← allocatePages count
    return (page, CapRights.all) :: rest

def slicePages (pages : List ImagePage) (start count : Nat) : KernelM ν (List ImagePage) :=
  if start + count ≤ pages.length then return (pages.drop start).take count else panicWith .outOfBounds

def copyData (freePageAddr : Nat) : List ImagePage → List UInt8 → Nat → KernelM ν Unit
  | [], _, _ => return ()
  | page :: rest, data, offsetIntoPage => do
    let dataLen := min (granuleSize - offsetIntoPage) data.length
    withSeat platform page.1 freePageAddr
      (storeBytes platform (freePageAddr + offsetIntoPage) (data.take dataLen))
    copyData freePageAddr rest (data.drop dataLen) 0

def loadSegment (footprint : Nat × Nat) (freePageAddr : Nat) (pages : List ImagePage) (seg : Segment) :
    KernelM ν (List ImagePage) := do
  let segmentFootprint := coarsenFootprint (seg.address, seg.address + seg.size) granuleSize
  let spanned := (segmentFootprint.2 - segmentFootprint.1) / granuleSize
  let dataFootprint := coarsenFootprint (seg.address, seg.address + seg.data.length) granuleSize
  let spannedByData := (dataFootprint.2 - dataFootprint.1) / granuleSize
  let offset := (segmentFootprint.1 - footprint.1) / granuleSize
  let _ ← slicePages pages offset spanned
  let pages := pages.mapIdx fun index page =>
    if offset ≤ index ∧ index < offset + spanned then (page.1, addRights page.2 seg.flags) else page
  let dataPages ← slicePages pages offset spannedByData
  copyData platform freePageAddr dataPages seg.data (seg.address % granuleSize)
  return pages

def loadImage (footprint : Nat × Nat) (freePageAddr : Nat) :
    List Segment → List ImagePage → KernelM ν (List ImagePage)
  | [], pages => return pages
  | seg :: rest, pages => do
    let pages ← loadSegment platform footprint freePageAddr pages seg
    loadImage footprint freePageAddr rest pages

def mapPages (vspace : CPtr) :
    Nat → List ImagePage → Std.TreeMap Nat CPtr → KernelM ν (Std.TreeMap Nat CPtr)
  | _, [], mappedPage => return mappedPage
  | addr, page :: rest, mappedPage => do
    unwrapped (frameMap platform page.1 vspace addr page.2)
    mapPages vspace (addr + granuleSize) rest (mappedPage.insert addr page.1)

def mapImage (mappedPage : Std.TreeMap Nat CPtr) (vspace : CPtr) (footprint : Nat × Nat)
    (segments : List Segment) (freePageAddr : Nat) : KernelM ν (Std.TreeMap Nat CPtr) := do
  let pages ← allocatePages platform ((footprint.2 - footprint.1) / granuleSize)
  let pages ← loadImage platform footprint freePageAddr segments pages
  mapPages platform vspace footprint.1 pages mappedPage

end RootTaskDemo.Kernel
