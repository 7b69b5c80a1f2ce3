import Mathlib.Algebra.Order.Ring.Int

namespace RootTaskDemo.Common

structure MessageInfo where
  label : Nat
  capsUnwrapped : Nat
  extraCaps : Nat
  length : Nat
deriving DecidableEq, Repr

/-- The message registers of an IPC buffer. -/
abbrev MsgRegs := Nat → UInt64

def MsgRegs.write (regs : MsgRegs) (words : List UInt64) : MsgRegs := fun index =>
  words[index]?.getD (regs index)

inductive CustomMessageLabel where
  | testCustomMessage
  | sysCall
  | exit
deriving DecidableEq, Repr

namespace CustomMessageLabel

def labelStart : Nat := 0x100

def tryFrom (message : MessageInfo) : Option CustomMessageLabel :=
  if message.label < labelStart then none
  else match message.label - labelStart with
    | 0x0 => some .testCustomMessage
    | 0x1 => some .sysCall
    | 0x2 => some .exit
    | _ => none

def toLabel : CustomMessageLabel → Nat
  | .testCustomMessage => labelStart + 0
  | .sysCall => labelStart + 1
  | .exit => labelStart + 2

theorem toLabel_range (label : CustomMessageLabel) :
    labelStart ≤ label.toLabel ∧ label.toLabel < labelStart + 0x10 := by
  cases label <;> exact ⟨Nat.le_add_right .., Nat.add_lt_add_left (by decide) _⟩

theorem tryFrom_eq_some {message : MessageInfo} {label : CustomMessageLabel} :
    tryFrom message = some label ↔ message.label = label.toLabel := by
  constructor
  · intro accepted
    unfold tryFrom at accepted
    split at accepted
    · cases accepted
    · split at accepted <;> cases accepted <;> simp only [toLabel] <;> omega
  · intro labelEq
    cases label <;> simp [tryFrom, labelEq, toLabel, labelStart]

end CustomMessageLabel

inductive RootMessageLabel where
  | registerIRQ (irqHandler irqNum : UInt64)
  | translateAddr (addr : UInt64)
  | registerIRQWithCap (irqNum : UInt64)
deriving DecidableEq, Repr

namespace RootMessageLabel

def labelStart : Nat := 0x200

def tryFrom (message : MessageInfo) (regs : MsgRegs) : Option RootMessageLabel :=
  if message.label < labelStart then none
  else match message.label - labelStart with
    | 0x0 => some (.registerIRQ (regs 0) (regs 1))
    | 0x1 => some (.translateAddr (regs 0))
    | 0x2 => some (.registerIRQWithCap (regs 0))
    | _ => none

def toLabel : RootMessageLabel → Nat
  | .registerIRQ _ _ => labelStart + 0
  | .translateAddr _ => labelStart + 1
  | .registerIRQWithCap _ => labelStart + 2

/-- The words written to the message registers; their number is the message length. -/
def words : RootMessageLabel → List UInt64
  | .registerIRQ irqHandler irqNum => [irqHandler, irqNum]
  | .translateAddr addr => [addr]
  | .registerIRQWithCap irqNum => [irqNum]

def build (request : RootMessageLabel) (regs : MsgRegs) : MessageInfo × MsgRegs :=
  ({ label := request.toLabel, capsUnwrapped := 0, extraCaps := 0, length := request.words.length },
    regs.write request.words)

theorem tryFrom_build (request : RootMessageLabel) (regs : MsgRegs) :
    tryFrom (request.build regs).1 (request.build regs).2 = some request := by
  cases request <;> simp [tryFrom, build, toLabel, labelStart, words, MsgRegs.write]

theorem toLabel_range (request : RootMessageLabel) :
    labelStart ≤ request.toLabel ∧ request.toLabel < labelStart + 0x10 := by
  cases request <;> exact ⟨Nat.le_add_right .., Nat.add_lt_add_left (by decide) _⟩

theorem toLabel_of_tryFrom {message : MessageInfo} {regs : MsgRegs} {request : RootMessageLabel}
    (accepted : tryFrom message regs = some request) : message.label = request.toLabel := by
  unfold tryFrom at accepted
  split at accepted
  · cases accepted
  · split at accepted <;> cases accepted <;> simp only [toLabel] <;> omega

end RootMessageLabel

inductive BlkMessageLabel where
  | ping
  | readBlock (index count : UInt64)
  | writeBlock (index count : UInt64)
  | numBlock
deriving DecidableEq, Repr

namespace BlkMessageLabel

def labelStart : Nat := 0x300

def tryFrom (message : MessageInfo) (regs : MsgRegs) : Option BlkMessageLabel :=
  if message.label < labelStart then none
  else match message.label - labelStart with
    | 0x0 => some .ping
    | 0x1 => some (.readBlock (regs 0) (regs 1))
    | 0x2 => some (.writeBlock (regs 0) (regs 1))
    | 0x3 => some .numBlock
    | _ => none

def toLabel : BlkMessageLabel → Nat
  | .ping => labelStart + 0
  | .readBlock _ _ => labelStart + 1
  | .writeBlock _ _ => labelStart + 2
  | .numBlock => labelStart + 3

def words : BlkMessageLabel → List UInt64
  | .ping => []
  | .readBlock index count => [index, count]
  | .writeBlock index count => [index, count]
  | .numBlock => []

def build (request : BlkMessageLabel) (regs : MsgRegs) : MessageInfo × MsgRegs :=
  ({ label := request.toLabel, capsUnwrapped := 0, extraCaps := 0, length := request.words.length },
    regs.write request.words)

theorem tryFrom_build (request : BlkMessageLabel) (regs : MsgRegs) :
    tryFrom (request.build regs).1 (request.build regs).2 = some request := by
  cases request <;> simp [tryFrom, build, toLabel, labelStart, words, MsgRegs.write]

theorem toLabel_range (request : BlkMessageLabel) :
    labelStart ≤ request.toLabel ∧ request.toLabel < labelStart + 0x10 := by
  cases request <;> exact ⟨Nat.le_add_right .., Nat.add_lt_add_left (by decide) _⟩

theorem toLabel_of_tryFrom {message : MessageInfo} {regs : MsgRegs} {request : BlkMessageLabel}
    (accepted : tryFrom message regs = some request) : message.label = request.toLabel := by
  unfold tryFrom at accepted
  split at accepted
  · cases accepted
  · split at accepted <;> cases accepted <;> simp only [toLabel] <;> omega

end BlkMessageLabel

/-- The requests the kernel thread sends to the net thread, under the name the source gives them. -/
inductive NetRequsetabel where
  | new
  | isNonBlocking (id : UInt64)
  | setNonBlocking (id nonBlocking : UInt64)
  | bind (id localAddr : UInt64)
  | send (id buf bufLen : UInt64)
  | recv (id buf bufLen : UInt64)
  | recvTimeout (id buf bufLen deadlineTick : UInt64)
  | connect (id remoteAddr : UInt64)
  | listen (id : UInt64)
  | accept (id : UInt64)
  | shutdown (id : UInt64)
  | close (id : UInt64)
deriving DecidableEq, Repr

namespace NetRequsetabel

def labelStart : Nat := 0x400

def tryFrom (message : MessageInfo) (regs : MsgRegs) : Option NetRequsetabel :=
  if message.label < labelStart then none
  else match message.label - labelStart with
    | 0x0 => some .new
    | 0x1 => some (.isNonBlocking (regs 0))
    | 0x2 => some (.setNonBlocking (regs 0) (regs 1))
    | 0x3 => some (.bind (regs 0) (regs 1))
    | 0x4 => some (.send (regs 0) (regs 1) (regs 2))
    | 0x5 => some (.recv (regs 0) (regs 1) (regs 2))
    | 0x6 => some (.recvTimeout (regs 0) (regs 1) (regs 2) (regs 3))
    | 0x7 => some (.connect (regs 0) (regs 1))
    | 0x8 => some (.listen (regs 0))
    | 0x9 => some (.accept (regs 0))
    | 0xa => some (.shutdown (regs 0))
    | 0xb => some (.close (regs 0))
    | _ => none

def toLabel : NetRequsetabel → Nat
  | .new => labelStart + 0
  | .isNonBlocking _ => labelStart + 1
  | .setNonBlocking _ _ => labelStart + 2
  | .bind _ _ => labelStart + 3
  | .send _ _ _ => labelStart + 4
  | .recv _ _ _ => labelStart + 5
  | .recvTimeout _ _ _ _ => labelStart + 6
  | .connect _ _ => labelStart + 7
  | .listen _ => labelStart + 8
  | .accept _ => labelStart + 9
  | .shutdown _ => labelStart + 10
  | .close _ => labelStart + 11

/-- The words written to the message registers; their number is the message length. -/
def words : NetRequsetabel → List UInt64
  | .new => []
  | .isNonBlocking id => [id]
  | .setNonBlocking id nonBlocking => [id, nonBlocking]
  | .bind id localAddr => [id, localAddr]
  | .send id buf bufLen => [id, buf, bufLen]
  | .recv id buf bufLen => [id, buf, bufLen]
  | .recvTimeout id buf bufLen deadlineTick => [id, buf, bufLen, deadlineTick]
  | .connect id remoteAddr => [id, remoteAddr]
  | .listen id => [id]
  | .accept id => [id]
  | .shutdown id => [id]
  | .close id => [id]

/-- A request that hands over a page is sent with one capability. -/
def extraCaps : NetRequsetabel → Nat
  | .bind _ _ | .send _ _ _ | .recv _ _ _ | .recvTimeout _ _ _ _ | .connect _ _ => 1
  | _ => 0

def build (request : NetRequsetabel) (regs : MsgRegs) : MessageInfo × MsgRegs :=
  ({ label := request.toLabel
     capsUnwrapped := 0
     extraCaps := request.extraCaps
     length := request.words.length }, regs.write request.words)

theorem tryFrom_build (request : NetRequsetabel) (regs : MsgRegs) :
    tryFrom (request.build regs).1 (request.build regs).2 = some request := by
  cases request <;> simp [tryFrom, build, toLabel, labelStart, words, MsgRegs.write]

theorem toLabel_range (request : NetRequsetabel) :
    labelStart ≤ request.toLabel ∧ request.toLabel < labelStart + 0x10 := by
  cases request <;> exact ⟨Nat.le_add_right .., Nat.add_lt_add_left (by decide) _⟩

theorem toLabel_of_tryFrom {message : MessageInfo} {regs : MsgRegs} {request : NetRequsetabel}
    (accepted : tryFrom message regs = some request) : message.label = request.toLabel := by
  unfold tryFrom at accepted
  split at accepted
  · cases accepted
  · split at accepted <;> cases accepted <;> simp only [toLabel] <;> omega

end NetRequsetabel

end RootTaskDemo.Common
