import RootTaskDemo.Common.Message

namespace RootTaskDemo.Common

/-! The four families of messages share one space of labels and one set of registers. -/

inductive Family where
  | custom
  | root
  | blk
  | net
deriving DecidableEq, Repr

inductive WireMessage where
  | custom (label : CustomMessageLabel)
  | root (request : RootMessageLabel)
  | blk (request : BlkMessageLabel)
  | net (request : NetRequsetabel)
deriving DecidableEq, Repr

namespace WireMessage

def family : WireMessage → Family
  | .custom _ => .custom
  | .root _ => .root
  | .blk _ => .blk
  | .net _ => .net

/-- A message with a custom label is put together by hand: the label is all that is fixed. -/
def build (message : WireMessage) (byHand : MessageInfo) (regs : MsgRegs) : MessageInfo × MsgRegs :=
  match message with
  | .custom label => ({ byHand with label := label.toLabel }, regs)
  | .root request => request.build regs
  | .blk request => request.build regs
  | .net request => request.build regs

end WireMessage

def Family.tryFrom (family : Family) (message : MessageInfo) (regs : MsgRegs) : Option WireMessage :=
  match family with
  | .custom => (CustomMessageLabel.tryFrom message).map .custom
  | .root => (RootMessageLabel.tryFrom message regs).map .root
  | .blk => (BlkMessageLabel.tryFrom message regs).map .blk
  | .net => (NetRequsetabel.tryFrom message regs).map .net

def Family.labelStart : Family → Nat
  | .custom => CustomMessageLabel.labelStart
  | .root => RootMessageLabel.labelStart
  | .blk => BlkMessageLabel.labelStart
  | .net => NetRequsetabel.labelStart

theorem WireMessage.label_build (message : WireMessage) (byHand : MessageInfo) (regs : MsgRegs) :
    message.family.labelStart ≤ (message.build byHand regs).1.label ∧
      (message.build byHand regs).1.label < message.family.labelStart + 0x10 := by
  cases message with
  | custom label => exact label.toLabel_range
  | root request => exact request.toLabel_range
  | blk request => exact request.toLabel_range
  | net request => exact request.toLabel_range

theorem Family.label_of_tryFrom {family : Family} {message : MessageInfo} {regs : MsgRegs}
    {decoded : WireMessage} (accepted : family.tryFrom message regs = some decoded) :
    family.labelStart ≤ message.label ∧ message.label < family.labelStart + 0x10 := by
  cases family with
  | custom =>
    obtain ⟨label, accepted, -⟩ := Option.map_eq_some_iff.mp accepted
    rw [CustomMessageLabel.tryFrom_eq_some.mp accepted]
    exact label.toLabel_range
  | root =>
    obtain ⟨request, accepted, -⟩ := Option.map_eq_some_iff.mp accepted
    rw [RootMessageLabel.toLabel_of_tryFrom accepted]
    exact request.toLabel_range
  | blk =>
    obtain ⟨request, accepted, -⟩ := Option.map_eq_some_iff.mp accepted
    rw [BlkMessageLabel.toLabel_of_tryFrom accepted]
    exact request.toLabel_range
  | net =>
    obtain ⟨request, accepted, -⟩ := Option.map_eq_some_iff.mp accepted
    rw [NetRequsetabel.toLabel_of_tryFrom accepted]
    exact request.toLabel_range

theorem Family.eq_of_label {family family' : Family} {label : Nat}
    (first : family.labelStart ≤ label ∧ label < family.labelStart + 0x10)
    (second : family'.labelStart ≤ label ∧ label < family'.labelStart + 0x10) : family = family' := by
  have apart : family ≠ family' → family.labelStart + 0x10 ≤ family'.labelStart ∨
      family'.labelStart + 0x10 ≤ family.labelStart := by
    cases family <;> cases family' <;> decide
  by_contra different
  have := apart different
  omega

theorem WireMessage.tryFrom_build (message : WireMessage) (byHand : MessageInfo) (regs : MsgRegs) :
    message.family.tryFrom (message.build byHand regs).1 (message.build byHand regs).2 = some message := by
  cases message with
  | custom label =>
    exact Option.map_eq_some_iff.mpr ⟨label, CustomMessageLabel.tryFrom_eq_some.mpr rfl, rfl⟩
  | root request => exact Option.map_eq_some_iff.mpr ⟨request, request.tryFrom_build regs, rfl⟩
  | blk request => exact Option.map_eq_some_iff.mpr ⟨request, request.tryFrom_build regs, rfl⟩
  | net request => exact Option.map_eq_some_iff.mpr ⟨request, request.tryFrom_build regs, rfl⟩

def faultLabels : Nat := 8

/-- A message is decoded to itself by its own family, rejected by the others, and never
taken for a fault. -/
theorem wire_format_unambiguous (message : WireMessage) (byHand : MessageInfo) (regs : MsgRegs) :
    (∀ family : Family, family.tryFrom (message.build byHand regs).1 (message.build byHand regs).2 =
      if family = message.family then some message else none) ∧
    faultLabels ≤ (message.build byHand regs).1.label := by
  have own := message.label_build byHand regs
  refine ⟨fun family => ?_, ?_⟩
  · split
    · rename_i same
      rw [same]
      exact message.tryFrom_build byHand regs
    · rename_i different
      cases decoded : family.tryFrom (message.build byHand regs).1 (message.build byHand regs).2 with
      | none => rfl
      | some other => exact absurd (Family.eq_of_label (Family.label_of_tryFrom decoded) own) different
  · have above : ∀ family : Family, faultLabels ≤ family.labelStart := by
      intro family
      cases family <;> decide
    exact (above _).trans own.1

/-- What the registers hold after the messages of a history, each of which overwrites the
words it has. -/
def MsgRegs.after (regs : MsgRegs) (history : List (List UInt64)) : MsgRegs :=
  history.foldl MsgRegs.write regs

/-- The decoder finds in the words of a message all that it makes of them, whatever was
received before. -/
def Forgets {α : Type} (message : MessageInfo) (decode : MsgRegs → α) : Prop :=
  ∀ words : List UInt64, words.length = message.length →
    ∀ (regs : MsgRegs) (history history' : List (List UInt64)),
    decode ((regs.after history).write words) = decode ((regs.after history').write words)

def ReadsExactly {α : Type} (count : Nat) (decode : MsgRegs → α) : Prop :=
  ∀ regs regs', decode regs = decode regs' ↔ ∀ index < count, regs index = regs' index

theorem MsgRegs.write_of_lt (regs regs' : MsgRegs) {words : List UInt64} {index : Nat}
    (inside : index < words.length) :
    regs.write words index = regs'.write words index := by
  simp [MsgRegs.write, List.getElem?_eq_getElem inside]

theorem MsgRegs.write_of_le (regs : MsgRegs) {words : List UInt64} {index : Nat}
    (outside : words.length ≤ index) :
    regs.write words index = regs index := by
  simp [MsgRegs.write, List.getElem?_eq_none outside]

theorem ReadsExactly.forgets_iff {α : Type} {count : Nat} {decode : MsgRegs → α}
    (reads : ReadsExactly count decode) (message : MessageInfo) :
    Forgets message decode ↔ count ≤ message.length := by
  constructor
  · intro forgets
    by_contra short
    -- two histories of one message each, which differ in the first word that is missing
    let earlier (word : UInt64) : List (List UInt64) := [List.replicate count word]
    have found : ∀ word, (MsgRegs.after (fun _ => 0) (earlier word)) message.length = word := by
      intro word
      simp [earlier, MsgRegs.after, MsgRegs.write, Nat.not_le.mp short]
    have stale := (reads _ _).mp (forgets (List.replicate message.length 0) (List.length_replicate ..)
      (fun _ => 0) (earlier 0) (earlier 1)) message.length (Nat.not_le.mp short)
    rw [MsgRegs.write_of_le _ (by simp), MsgRegs.write_of_le _ (by simp), found, found] at stale
    exact absurd stale (by decide)
  · intro long words length regs history history'
    exact (reads _ _).mpr fun index inside => MsgRegs.write_of_lt _ _ (length ▸ inside.trans_le long)

theorem forall_lt {holds : Nat → Prop} :
    ((∀ index < 0, holds index) ↔ True) ∧ ((∀ index < 1, holds index) ↔ holds 0) ∧
    ((∀ index < 2, holds index) ↔ holds 0 ∧ holds 1) ∧
      ((∀ index < 3, holds index) ↔ holds 0 ∧ holds 1 ∧ holds 2) ∧
    ((∀ index < 4, holds index) ↔ holds 0 ∧ holds 1 ∧ holds 2 ∧ holds 3) := by
  simp only [Nat.forall_lt_succ_right, Nat.not_lt_zero, false_imp_iff, implies_true, true_and,
    and_assoc, and_self]

def RootMessageLabel.registers (label : Nat) : Nat :=
  if label < labelStart then 0
  else match label - labelStart with
    | 0x0 => 2
    | 0x1 => 1
    | 0x2 => 1
    | _ => 0

theorem RootMessageLabel.readsExactly (message : MessageInfo) :
    ReadsExactly (registers message.label) (tryFrom message) := by
  intro regs regs'
  unfold registers tryFrom
  by_cases low : message.label < labelStart
  · simp [low]
  · simp only [low, if_false]
    generalize message.label - labelStart = index
    rcases index with _ | _ | _ | index <;>
      simp only [Option.some.injEq, registerIRQ.injEq, translateAddr.injEq, registerIRQWithCap.injEq, forall_lt]

def BlkMessageLabel.registers (label : Nat) : Nat :=
  if label < labelStart then 0
  else match label - labelStart with
    | 0x1 => 2
    | 0x2 => 2
    | _ => 0

theorem BlkMessageLabel.readsExactly (message : MessageInfo) :
    ReadsExactly (registers message.label) (tryFrom message) := by
  intro regs regs'
  unfold registers tryFrom
  by_cases low : message.label < labelStart
  · simp [low]
  · simp only [low, if_false]
    generalize message.label - labelStart = index
    rcases index with _ | _ | _ | _ | index <;>
      simp only [Option.some.injEq, readBlock.injEq, writeBlock.injEq, forall_lt]

def NetRequsetabel.registers (label : Nat) : Nat :=
  if label < labelStart then 0
  else match label - labelStart with
    | 0x1 => 1
    | 0x2 => 2
    | 0x3 => 2
    | 0x4 => 3
    | 0x5 => 3
    | 0x6 => 4
    | 0x7 => 2
    | 0x8 => 1
    | 0x9 => 1
    | 0xa => 1
    | 0xb => 1
    | _ => 0

theorem NetRequsetabel.readsExactly (message : MessageInfo) :
    ReadsExactly (registers message.label) (tryFrom message) := by
  intro regs regs'
  unfold registers tryFrom
  by_cases low : message.label < labelStart
  · simp [low]
  · simp only [low, if_false]
    generalize message.label - labelStart = index
    rcases index with _ | _ | _ | _ | _ | _ | _ | _ | _ | _ | _ | _ | index <;>
      simp only [Option.some.injEq, isNonBlocking.injEq, setNonBlocking.injEq, bind.injEq,
        send.injEq, recv.injEq, recvTimeout.injEq, connect.injEq, listen.injEq, accept.injEq,
        shutdown.injEq, close.injEq, forall_lt]

/-- What is decoded depends on the message alone exactly if it has the words that its
label calls for. -/
theorem decoding_forgets_iff (message : MessageInfo) :
    (Forgets message (RootMessageLabel.tryFrom message) ↔ RootMessageLabel.registers message.label ≤
      message.length) ∧
    (Forgets message (BlkMessageLabel.tryFrom message) ↔ BlkMessageLabel.registers message.label ≤
      message.length) ∧
    (Forgets message (NetRequsetabel.tryFrom message) ↔ NetRequsetabel.registers message.label ≤
      message.length) :=
  ⟨(RootMessageLabel.readsExactly message).forgets_iff message,
    (BlkMessageLabel.readsExactly message).forgets_iff message,
    (NetRequsetabel.readsExactly message).forgets_iff message⟩

/-- A message without words that has the label of a request for one socket is taken for
a request for the socket of the message before. -/
theorem decoding_remembers :
    ¬ Forgets ⟨NetRequsetabel.labelStart + 8, 0, 0, 0⟩
      (NetRequsetabel.tryFrom ⟨NetRequsetabel.labelStart + 8, 0, 0, 0⟩) ∧
    NetRequsetabel.tryFrom ⟨NetRequsetabel.labelStart + 8, 0, 0, 0⟩
      ((MsgRegs.after (fun _ => 0) [[7]]).write []) = some (.listen 7) ∧
    NetRequsetabel.tryFrom ⟨NetRequsetabel.labelStart + 8, 0, 0, 0⟩
      ((MsgRegs.after (fun _ => 0) [[9]]).write []) = some (.listen 9) := by
  refine ⟨fun forgets => ?_, by decide, by decide⟩
  exact absurd (forgets [] rfl (fun _ => 0) [[7]] [[9]]) (by decide)

end RootTaskDemo.Common
