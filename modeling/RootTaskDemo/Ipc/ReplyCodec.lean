import RootTaskDemo.Kernel.NetReply
import RootTaskDemo.Net.Reply

namespace RootTaskDemo.Ipc

open Common Lib

/-! What survives the way from the net thread's reply to the kernel thread's
reading of it. -/

theorem handleAxresult_errorWord (errno : AxErrno) (error : AxError) :
    Kernel.handleAxresult errno (Net.errorWord errno error) = some (.error error) := by
  have positive := errno.code_pos error
  have code : asI32 (Net.errorWord errno error) = errno.code error :=
    asI32_ofSigned (Int.le_of_lt positive) (errno.code_i32 error)
  have nonzero : errno.code error ≠ 0 := by omega
  simp only [Kernel.handleAxresult, code, if_neg nonzero, errno.tryFrom_code, Option.map_some]

/-- A count shares its register with the error codes, and only the zero of its
low half is read as a count. -/
theorem count_reply_decodes_iff (errno : AxErrno) (result : AxResult UInt64) :
    Kernel.handleAxresult errno (Net.countWord errno result) = some result ↔
      ∀ count, result = .ok count → count.toNat % 2 ^ 32 = 0 := by
  cases result with
  | error error =>
      simp only [Net.countWord, handleAxresult_errorWord, reduceCtorEq, false_implies, implies_true]
  | ok count =>
      simp only [Net.countWord, Kernel.handleAxresult, asI32_eq_zero, Except.ok.injEq, forall_eq']
      split
      · rename_i zero
        simp only [zero]
      · rename_i nonzero
        simp only [nonzero, iff_false]
        cases errno.tryFrom (asI32 count) <;> simp

/-- Five bytes sent are reported as the fifth error, and a whole page brings
the kernel thread down. -/
theorem count_reply_lost :
    Kernel.handleAxresult .sequential (Net.countWord .sequential (.ok 5)) =
        some (.error .connectionRefused) ∧
      Kernel.handleAxresult .sequential (Net.countWord .sequential (.ok 4096)) = none := by
  decide

theorem ofBigEndian_toList_lt {width : Nat} (octets : Vector UInt8 width) :
    ofBigEndian octets.toList < 256 ^ width := by
  simpa only [Vector.length_toList] using ofBigEndian_lt octets.toList

theorem parseIpaddr_v4 (octets : Vector UInt8 4) (addrHigh : UInt64) (port : UInt16) :
    Kernel.parseIpaddr true (UInt64.ofNat (ofBigEndian octets.toList)) addrHigh port =
      { ip := .v4 (Vector.replicate 4 0), port } := by
  have small := ofBigEndian_toList_lt octets
  have word : (UInt64.ofNat (ofBigEndian octets.toList)).toNat = ofBigEndian octets.toList := by
    rw [UInt64.toNat_ofNat']
    exact Nat.mod_eq_of_lt (by omega)
  have digit : ∀ place, 4 ≤ place → UInt8.ofNat (ofBigEndian octets.toList / 256 ^ place) = 0 := by
    intro place high
    have larger : 256 ^ 4 ≤ 256 ^ place := Nat.pow_le_pow_right (by decide) high
    rw [Nat.div_eq_of_lt (by omega)]
    rfl
  simp only [Kernel.parseIpaddr, if_true, word]
  -- the upper four digits of the word, written out
  change SocketAddr.mk (.v4 #v[UInt8.ofNat (ofBigEndian octets.toList / 256 ^ 7),
    UInt8.ofNat (ofBigEndian octets.toList / 256 ^ 6), UInt8.ofNat (ofBigEndian octets.toList / 256 ^ 5),
    UInt8.ofNat (ofBigEndian octets.toList / 256 ^ 4)]) port = _
  rw [digit 7 (by decide), digit 6 (by decide), digit 5 (by decide), digit 4 (by decide)]
  rfl

/-- The two words overlap in thirty-two bits and leave out the topmost thirty-two. -/
theorem join_addr_words (bits : Nat) :
    (UInt64.ofNat (bits >>> 32)).toNat <<< 32 ||| (UInt64.ofNat bits).toNat = bits % 2 ^ 96 := by
  simp only [UInt64.toNat_ofNat']
  apply Nat.eq_of_testBit_eq
  intro index
  simp only [Nat.testBit_or, Nat.testBit_shiftLeft, Nat.testBit_mod_two_pow, Nat.testBit_shiftRight]
  by_cases low : index < 64
  · by_cases lower : 32 ≤ index
    · have position : 32 + (index - 32) = index := by omega
      have inside : index < 96 := by omega
      simp [low, lower, position, inside]
    · have inside : index < 96 := by omega
      simp [low, lower, inside]
  · by_cases inside : index < 96
    · have position : 32 + (index - 32) = index := by omega
      have shifted : index - 32 < 64 := by omega
      have lower : 32 ≤ index := by omega
      simp [low, inside, position, shifted, lower]
    · have shifted : ¬ index - 32 < 64 := by omega
      simp [low, inside, shifted]

theorem parseIpaddr_v6 (octets : Vector UInt8 16) (port : UInt16) :
    Kernel.parseIpaddr false (Net.addrWords (.v6 octets)).1 (Net.addrWords (.v6 octets)).2 port =
      { ip := .v6 octets, port } ↔ ofBigEndian octets.toList < 2 ^ 96 := by
  have small := ofBigEndian_toList_lt octets
  have bytes : toBigEndian 16 (ofBigEndian octets.toList) = octets.toList := by
    simpa only [Vector.length_toList] using toBigEndian_ofBigEndian octets.toList
  simp only [Kernel.parseIpaddr, Net.addrWords, Net.ipBits, Bool.false_eq_true, if_false,
    join_addr_words, SocketAddr.mk.injEq, IpAddr.v6.injEq, and_true]
  rw [← Vector.toList_inj]
  simp only [Vector.toList_mk]
  nth_rewrite 2 [← bytes]
  rw [toBigEndian_inj (by omega) small]
  omega

def IpSurvives : IpAddr → Prop
  | .v4 octets => octets = Vector.replicate 4 0
  | .v6 octets => ofBigEndian octets.toList < 2 ^ 96

def AcceptSurvives : AxResult (UInt64 × SocketAddr) → Prop
  | .ok accepted => accepted.1.toNat < 2 ^ 63 ∧ IpSurvives accepted.2.ip
  | .error _ => False

theorem acceptedSocket_of_id (errno : AxErrno) (regs : MsgRegs) (newId : UInt64) (addr : SocketAddr)
    (small : newId.toNat < 2 ^ 63) :
    Kernel.acceptedSocket errno (regs.write (Net.acceptWords errno (.ok (newId, addr)))) =
      some (.ok (newId, Kernel.parseIpaddr (Net.isIpv4 addr.ip) (Net.addrWords addr.ip).1
        (Net.addrWords addr.ip).2 addr.port)) := by
  have nonneg : ¬ asI64 newId < 0 := by
    rw [asI64_neg]
    omega
  have word : regs.write (Net.acceptWords errno (.ok (newId, addr))) 0 = newId := rfl
  have flag : decide ((if Net.isIpv4 addr.ip then (1 : UInt64) else 0) ≠ 0) = Net.isIpv4 addr.ip := by
    cases Net.isIpv4 addr.ip <;> rfl
  have port : UInt16.ofNat (UInt64.ofNat addr.port.toNat).toNat = addr.port := by simp
  rw [Kernel.acceptedSocket, Kernel.acceptResult, word, if_neg nonneg]
  change some (Except.ok (newId, Kernel.parseIpaddr
    (decide ((if Net.isIpv4 addr.ip then (1 : UInt64) else 0) ≠ 0)) _ _
    (UInt16.ofNat (UInt64.ofNat addr.port.toNat).toNat))) = _
  rw [flag, port]
  rfl

/-- An error is a positive number, which the kernel thread takes for the id of a socket. -/
theorem acceptedSocket_of_error (errno : AxErrno) (regs : MsgRegs) (error : AxError) :
    ∃ socket, Kernel.acceptedSocket errno (regs.write (Net.acceptWords errno (.error error))) =
      some (.ok socket) := by
  have positive := errno.code_pos error
  have small := errno.code_i32 error
  have nonneg : ¬ asI64 (Net.errorWord errno error) < 0 := by
    rw [asI64_neg, Net.errorWord, toNat_ofSigned (by omega) small]
    omega
  have word : regs.write (Net.acceptWords errno (.error error)) 0 = Net.errorWord errno error := rfl
  rw [Kernel.acceptedSocket, Kernel.acceptResult, word, if_neg nonneg]
  exact ⟨_, rfl⟩

theorem acceptedSocket_of_large_id (errno : AxErrno) (regs : MsgRegs) (newId : UInt64)
    (addr : SocketAddr) (large : 2 ^ 63 ≤ newId.toNat) :
    ∀ socket, Kernel.acceptedSocket errno (regs.write (Net.acceptWords errno (.ok (newId, addr)))) ≠
      some (.ok socket) := by
  intro socket
  have negative : asI64 newId < 0 := (asI64_neg newId).mpr large
  have word : regs.write (Net.acceptWords errno (.ok (newId, addr))) 0 = newId := rfl
  rw [Kernel.acceptedSocket, Kernel.acceptResult, word, if_pos negative]
  cases errno.tryFrom (asI32 newId).natAbs <;> simp [Except.map]

theorem accept_reply_decodes_iff (errno : AxErrno) (regs : MsgRegs)
    (result : AxResult (UInt64 × SocketAddr)) :
    Kernel.acceptedSocket errno (regs.write (Net.acceptWords errno result)) = some result ↔
      AcceptSurvives result := by
  cases result with
  | error error =>
      obtain ⟨socket, decoded⟩ := acceptedSocket_of_error errno regs error
      simp [decoded, AcceptSurvives]
  | ok accepted =>
      obtain ⟨newId, ip, port⟩ := accepted
      by_cases small : newId.toNat < 2 ^ 63
      · rw [acceptedSocket_of_id errno regs newId _ small]
        simp only [AcceptSurvives, small, true_and, Option.some.injEq, Except.ok.injEq, Prod.mk.injEq]
        cases ip with
        | v4 octets =>
            simp only [Net.isIpv4, Net.addrWords, Net.ipBits, parseIpaddr_v4, SocketAddr.mk.injEq,
              IpAddr.v4.injEq, and_true, IpSurvives]
            exact eq_comm
        | v6 octets => exact parseIpaddr_v6 octets port
      · have lost := acceptedSocket_of_large_id errno regs newId ⟨ip, port⟩ (by omega)
        simp only [lost, AcceptSurvives, small, false_and]

/-- A socket accepted on 127.0.0.1 is reported at 0.0.0.0, and an accept that
would block is reported as a new socket. -/
theorem accept_reply_lost :
    Kernel.acceptedSocket .sequential (MsgRegs.write (fun _ => 0)
        (Net.acceptWords .sequential (.ok (1, ⟨.v4 #v[127, 0, 0, 1], 6379⟩)))) =
          some (.ok (1, ⟨.v4 (Vector.replicate 4 0), 6379⟩)) ∧
      Kernel.acceptedSocket .sequential (MsgRegs.write (fun _ => 0)
        (Net.acceptWords .sequential (.error .wouldBlock))) =
          some (.ok (21, ⟨.v6 (Vector.replicate 16 0), 0⟩)) := by
  decide

end RootTaskDemo.Ipc
