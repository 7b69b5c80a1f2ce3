import Mathlib.Algebra.Order.Ring.Int

namespace RootTaskDemo.Common

/-- The error kinds of the `axerrno` crate. -/
inductive AxError where
  | addrInUse
  | alreadyExists
  | badAddress
  | badState
  | connectionRefused
  | connectionReset
  | directoryNotEmpty
  | invalidData
  | invalidInput
  | io
  | isADirectory
  | noMemory
  | notADirectory
  | notConnected
  | notFound
  | permissionDenied
  | resourceBusy
  | storageFull
  | unexpectedEof
  | unsupported
  | wouldBlock
  | writeZero
deriving DecidableEq, Repr

abbrev AxResult (α : Type) := Except AxError α

/-- The numbering of the error kinds. The crate is not part of the repository;
both sides of the net IPC rely on these four facts about it. -/
structure AxErrno where
  code : AxError → Int
  tryFrom : Int → Option AxError
  code_pos : ∀ error, 0 < code error
  code_i32 : ∀ error, code error < 2 ^ 31
  tryFrom_code : ∀ error, tryFrom (code error) = some error
  code_tryFrom : ∀ value error, tryFrom value = some error → code error = value

def AxErrno.sequential : AxErrno where
  code error := error.ctorIdx + 1
  tryFrom value :=
    [.addrInUse, .alreadyExists, .badAddress, .badState, .connectionRefused, .connectionReset,
      .directoryNotEmpty, .invalidData, .invalidInput, .io, .isADirectory, .noMemory,
      .notADirectory, .notConnected, .notFound, .permissionDenied, .resourceBusy, .storageFull,
      .unexpectedEof, .unsupported, .wouldBlock, .writeZero].find?
      fun error => (error.ctorIdx : Int) + 1 == value
  code_pos error := by omega
  code_i32 error := by cases error <;> decide
  tryFrom_code error := by cases error <;> decide
  code_tryFrom value error found := by
    simpa using List.find?_some found

inductive Errno where
  | einval
  | efault
  | enomem
  | enosys
deriving DecidableEq, Repr

abbrev SysResult := Except Errno Nat

end RootTaskDemo.Common
