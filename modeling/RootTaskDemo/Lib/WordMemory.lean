import RootTaskDemo.Lib.Memory
import RootTaskDemo.Lib.Words

namespace RootTaskDemo.Lib

/-! Words of eight bytes in memory, the least significant byte first. -/

def wordBytes (word : UInt64) : List UInt8 := (toBigEndian 8 word.toNat).reverse

@[simp] theorem length_wordBytes (word : UInt64) : (wordBytes word).length = 8 := by
  simp [wordBytes]

theorem getElem?_flatMap_of_length {α β : Type} {size : Nat} {pieces : α → List β}
    (length : ∀ value, (pieces value).length = size) (values : List α) (index : Nat) {offset : Nat}
    (inside : offset < size) :
    (values.flatMap pieces)[size * index + offset]? = values[index]?.bind fun value =>
      (pieces value)[offset]? := by
  induction values generalizing index with
  | nil => simp
  | cons value rest ih =>
    rw [List.flatMap_cons]
    cases index with
    | zero =>
      rw [Nat.mul_zero, Nat.zero_add, List.getElem?_append_left (by rw [length]; exact inside)]
      rfl
    | succ index =>
      have behind : (pieces value).length ≤ size * (index + 1) + offset := by
        rw [length, Nat.mul_succ]
        omega
      have shifted : size * (index + 1) + offset - (pieces value).length = size * index + offset := by
        rw [length, Nat.mul_succ]
        omega
      rw [List.getElem?_append_right behind, shifted, ih, List.getElem?_cons_succ]

namespace Memory

def wordAt (memory : Memory) (address : Nat) : UInt64 :=
  UInt64.ofNat (ofBigEndian (memory.load address 8).reverse)

def storeWords (memory : Memory) (address : Nat) (words : List UInt64) : Memory :=
  memory.store address (words.flatMap wordBytes)

variable {memory : Memory} {address location : Nat} {words : List UInt64}

theorem wordAt_of_load {word : UInt64} (loaded : memory.load address 8 = wordBytes word) :
    memory.wordAt address = word := by
  have small : word.toNat < 256 ^ 8 := word.toNat_lt
  rw [wordAt, loaded, wordBytes, List.reverse_reverse, ofBigEndian_toBigEndian,
    Nat.mod_eq_of_lt small, UInt64.ofNat_toNat]

theorem wordAt_storeWords {index : Nat} {word : UInt64} (found : words[index]? = some word) :
    (memory.storeWords address words).wordAt (address + 8 * index) = word := by
  refine wordAt_of_load (List.ext_getElem? fun byte => ?_)
  by_cases inside : byte < 8
  · obtain ⟨digit, digitEq⟩ : ∃ digit, (wordBytes word)[byte]? = some digit :=
      ⟨_, List.getElem?_eq_getElem (by simpa using inside)⟩
    rw [getElem?_load inside, Nat.add_assoc, digitEq]
    refine congrArg some (store_inside ?_)
    rw [getElem?_flatMap_of_length length_wordBytes words index inside, found, Option.bind_some, digitEq]
  · rw [List.getElem?_eq_none (by simpa using inside), List.getElem?_eq_none (by simpa using inside)]

end Memory

end RootTaskDemo.Lib
