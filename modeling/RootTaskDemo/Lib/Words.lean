import Mathlib.Data.Nat.Bitwise
import Mathlib.Algebra.Order.Ring.Int

namespace RootTaskDemo.Lib

/-! Machine words: conversions between widths and signs, and big-endian bytes. -/

def asI32 (word : UInt64) : Int := (BitVec.ofNat 32 word.toNat).toInt

def asI64 (word : UInt64) : Int := word.toBitVec.toInt

/-- `value as u64` for a signed value: the sign is extended. -/
def ofSigned (value : Int) : UInt64 := UInt64.ofNat (value % 2 ^ 64).toNat

theorem asI32_eq_zero (word : UInt64) : asI32 word = 0 ↔ word.toNat % 2 ^ 32 = 0 := by
  have zero : (BitVec.ofNat 32 word.toNat).toInt = (0#32).toInt ↔ BitVec.ofNat 32 word.toNat = 0#32 :=
    BitVec.toInt_inj
  rw [asI32]
  rw [show (0 : Int) = (0#32).toInt from rfl, zero, ← BitVec.toNat_inj]
  simp

theorem toNat_ofSigned {value : Int} (nonneg : 0 ≤ value) (small : value < 2 ^ 31) :
    (ofSigned value).toNat = value.toNat := by
  have reduced : value % 2 ^ 64 = value := Int.emod_eq_of_lt nonneg (by omega)
  rw [ofSigned, reduced, UInt64.toNat_ofNat']
  exact Nat.mod_eq_of_lt (by omega)

theorem asI32_ofSigned {value : Int} (nonneg : 0 ≤ value) (small : value < 2 ^ 31) :
    asI32 (ofSigned value) = value := by
  have bits := toNat_ofSigned nonneg small
  have fits : value.toNat < 2 ^ 31 := by omega
  have word : (BitVec.ofNat 32 value.toNat).toNat = value.toNat := by
    rw [BitVec.toNat_ofNat]
    exact Nat.mod_eq_of_lt (by omega)
  rw [asI32, bits, BitVec.toInt_eq_toNat_cond, word, if_pos (by omega)]
  omega

theorem asI64_neg (word : UInt64) : asI64 word < 0 ↔ 2 ^ 63 ≤ word.toNat := by
  have bound := word.toNat_lt
  rw [asI64, BitVec.toInt_eq_toNat_cond]
  simp only [UInt64.toNat_toBitVec]
  split <;> omega

def ofBigEndian : List UInt8 → Nat
  | [] => 0
  | byte :: rest => byte.toNat * 256 ^ rest.length + ofBigEndian rest

/-- The low `width` bytes of a value, the most significant first. -/
def toBigEndian : (width value : Nat) → List UInt8
  | 0, _ => []
  | width + 1, value => UInt8.ofNat (value / 256 ^ width) :: toBigEndian width value

@[simp] theorem length_toBigEndian (width value : Nat) : (toBigEndian width value).length = width := by
  induction width with
  | zero => rfl
  | succ width ih => simp [toBigEndian, ih]

theorem ofBigEndian_lt (bytes : List UInt8) : ofBigEndian bytes < 256 ^ bytes.length := by
  induction bytes with
  | nil => simp [ofBigEndian]
  | cons byte rest ih =>
    have digit := byte.toNat_lt
    have scaled : byte.toNat * 256 ^ rest.length ≤ 255 * 256 ^ rest.length :=
      Nat.mul_le_mul_right _ (by omega)
    simp only [ofBigEndian, List.length_cons, Nat.pow_succ]
    omega

theorem toBigEndian_add_mul (width value high : Nat) :
    toBigEndian width (high * 256 ^ width + value) = toBigEndian width value := by
  induction width generalizing high with
  | zero => rfl
  | succ width ih =>
    have shifted : high * 256 ^ (width + 1) + value = (high * 256) * 256 ^ width + value := by
      rw [Nat.pow_succ, Nat.mul_assoc, Nat.mul_comm 256]
    have quotient : (high * 256 ^ (width + 1) + value) / 256 ^ width =
        high * 256 + value / 256 ^ width := by
      rw [shifted, Nat.add_comm, Nat.add_mul_div_right _ _ (Nat.pow_pos (by decide)), Nat.add_comm]
    have digit : UInt8.ofNat (high * 256 + value / 256 ^ width) = UInt8.ofNat (value / 256 ^ width) := by
      apply UInt8.toNat_inj.mp
      simp
    rw [toBigEndian, toBigEndian, quotient, digit, shifted, ih]

theorem toBigEndian_ofBigEndian (bytes : List UInt8) :
    toBigEndian bytes.length (ofBigEndian bytes) = bytes := by
  induction bytes with
  | nil => rfl
  | cons byte rest ih =>
    have small := ofBigEndian_lt rest
    have quotient : (byte.toNat * 256 ^ rest.length + ofBigEndian rest) / 256 ^ rest.length = byte.toNat := by
      rw [Nat.add_comm, Nat.add_mul_div_right _ _ (Nat.pow_pos (by decide)), Nat.div_eq_of_lt small,
        Nat.zero_add]
    rw [List.length_cons, toBigEndian, ofBigEndian, quotient, toBigEndian_add_mul, ih]
    simp

theorem ofBigEndian_toBigEndian (width value : Nat) :
    ofBigEndian (toBigEndian width value) = value % 256 ^ width := by
  induction width with
  | zero => simp [toBigEndian, ofBigEndian, Nat.mod_one]
  | succ width ih =>
    have split : value % 256 ^ (width + 1) = value % 256 ^ width + 256 ^ width * (value / 256 ^ width % 256) := by
      rw [Nat.pow_succ, Nat.mod_mul]
    rw [toBigEndian, ofBigEndian, length_toBigEndian, ih, UInt8.toNat_ofNat', split]
    rw [Nat.mul_comm, Nat.add_comm]

theorem toBigEndian_inj {width value value' : Nat} (small : value < 256 ^ width)
    (small' : value' < 256 ^ width) :
    toBigEndian width value = toBigEndian width value' ↔ value = value' := by
  constructor
  · intro same
    have values := congrArg ofBigEndian same
    rwa [ofBigEndian_toBigEndian, ofBigEndian_toBigEndian, Nat.mod_eq_of_lt small,
      Nat.mod_eq_of_lt small'] at values
  · intro same
    rw [same]

end RootTaskDemo.Lib
