import Mathlib.Data.List.Pairwise
import Mathlib.Logic.Function.Basic
import RootTaskDemo.Lib.Regions

namespace RootTaskDemo.Lib

/-! Byte-addressed memory, read and written in ranges. -/

abbrev Memory := Nat → UInt8

namespace Memory

def load (memory : Memory) (address count : Nat) : List UInt8 :=
  (List.range count).map fun offset => memory (address + offset)

def store (memory : Memory) (address : Nat) (bytes : List UInt8) : Memory := fun location =>
  if address ≤ location then bytes[location - address]?.getD (memory location)
  else memory location

variable {memory memory' : Memory} {address count location : Nat} {bytes : List UInt8} {index : Nat}

@[simp] theorem length_load : (memory.load address count).length = count := by
  simp [load]

theorem getElem?_load (inside : index < count) :
    (memory.load address count)[index]? = some (memory (address + index)) := by
  simp [load, inside]

theorem load_append (first second : Nat) :
    memory.load address (first + second) =
      memory.load address first ++ memory.load (address + first) second := by
  simp [load, List.range_add, Nat.add_assoc, Function.comp_def]

theorem store_outside (outside : location < address ∨ address + bytes.length ≤ location) :
    memory.store address bytes location = memory location := by
  unfold store
  split
  · rw [List.getElem?_eq_none (by omega), Option.getD_none]
  · rfl

theorem store_inside {byte : UInt8} (found : bytes[index]? = some byte) :
    memory.store address bytes (address + index) = byte := by
  simp [store, found]

@[simp] theorem store_nil : memory.store address [] = memory := by
  funext location
  simp [store]

theorem store_cons (byte : UInt8) :
    memory.store address (byte :: bytes) = Memory.store (Function.update memory address byte)
      (address + 1) bytes := by
  funext location
  rcases Nat.lt_trichotomy location address with before | here | after
  · rw [store_outside (Or.inl before), store_outside (Or.inl (by omega)), Function.update_of_ne (by omega)]
  · subst here
    rw [store_outside (Or.inl (Nat.lt_succ_self _)), Function.update_self]
    simp [store]
  · obtain ⟨index, rfl⟩ : ∃ index, location = address + 1 + index := ⟨location - (address + 1), by omega⟩
    have shifted : address + 1 + index - address = index + 1 := by omega
    have same : address + 1 + index - (address + 1) = index := by omega
    have different : address + 1 + index ≠ address := by omega
    simp only [store, shifted, same, List.getElem?_cons_succ, Function.update_of_ne different]
    rw [if_pos (by omega), if_pos (by omega)]

theorem store_append (bytes' : List UInt8) :
    (memory.store address bytes).store (address + bytes.length) bytes' =
      memory.store address (bytes ++ bytes') := by
  induction bytes generalizing memory address with
  | nil => simp
  | cons byte rest ih =>
    rw [store_cons, List.cons_append, store_cons, ← ih, List.length_cons,
      show address + (rest.length + 1) = address + 1 + rest.length by omega]

theorem store_store : (memory.store address bytes).store address bytes = memory.store address bytes := by
  funext location
  by_cases inside : address ≤ location ∧ location < address + bytes.length
  · obtain ⟨index, rfl⟩ : ∃ index, location = address + index := ⟨location - address, by omega⟩
    have found : bytes[index]? = some bytes[index] := List.getElem?_eq_getElem (by omega)
    rw [store_inside found, store_inside found]
  · rw [store_outside (by omega)]

theorem load_store : (memory.store address bytes).load address bytes.length = bytes := by
  apply List.ext_getElem? fun index => ?_
  by_cases inside : index < bytes.length
  · rw [getElem?_load inside, List.getElem?_eq_getElem inside]
    exact congrArg some (store_inside (List.getElem?_eq_getElem inside))
  · rw [List.getElem?_eq_none (by simpa using inside), List.getElem?_eq_none (by omega)]

theorem store_load {source : Nat} (inside : index < count) :
    memory'.store address (memory.load source count) (address + index) = memory (source + index) :=
  store_inside (getElem?_load inside)

theorem load_store_take (short : count ≤ bytes.length) :
    (memory.store address bytes).load address count = bytes.take count := by
  have whole : (memory.store address bytes).load address bytes.length = bytes := load_store
  obtain ⟨rest, restEq⟩ : ∃ rest, bytes.length = count + rest := ⟨bytes.length - count, by omega⟩
  rw [restEq, load_append] at whole
  rw [← whole, List.take_append_of_le_length (Nat.le_of_eq length_load.symm), List.take_of_length_le]
  · exact congrArg (fun bytes => (memory.store address bytes).load address count) whole
  · exact Nat.le_of_eq length_load

theorem take_load {count' : Nat} (short : count ≤ count') :
    (memory.load address count').take count = memory.load address count := by
  obtain ⟨rest, rfl⟩ : ∃ rest, count' = count + rest := ⟨count' - count, by omega⟩
  rw [load_append, List.take_append_of_le_length (Nat.le_of_eq length_load.symm), List.take_of_length_le]
  exact Nat.le_of_eq length_load

def Covers (write : Nat × List UInt8) (location : Nat) : Prop :=
  write.1 ≤ location ∧ location < write.1 + write.2.length

def Apart (write write' : Nat × List UInt8) : Prop :=
  ∀ location, Covers write location → ¬ Covers write' location

def storeAll (memory : Memory) (writes : List (Nat × List UInt8)) : Memory :=
  writes.foldl (fun memory write => memory.store write.1 write.2) memory

variable {writes : List (Nat × List UInt8)}

theorem storeAll_outside (outside : ∀ write ∈ writes, ¬ Covers write location) :
    memory.storeAll writes location = memory location := by
  induction writes generalizing memory with
  | nil => rfl
  | cons write rest ih =>
    have here := outside write (List.mem_cons_self ..)
    rw [storeAll, List.foldl_cons, ← storeAll, ih fun other member =>
      outside other (List.mem_cons_of_mem _ member)]
    apply store_outside
    unfold Covers at here
    omega

theorem storeAll_inside (apart : writes.Pairwise Apart) {write : Nat × List UInt8}
    (member : write ∈ writes) {byte : UInt8} (found : write.2[index]? = some byte) :
    memory.storeAll writes (write.1 + index) = byte := by
  induction writes generalizing memory with
  | nil => cases member
  | cons first rest ih =>
    obtain ⟨later, apart⟩ := List.pairwise_cons.mp apart
    rw [storeAll, List.foldl_cons, ← storeAll]
    cases member with
    | head =>
      have inside : index < write.2.length := (List.getElem?_eq_some_iff.mp found).1
      rw [storeAll_outside fun other member => later other member _ ⟨by omega, by omega⟩]
      exact store_inside found
    | tail _ member => exact ih apart member

section Segments

variable {ι : Type} {segments : List ι} {region : ι → Region} {data : ι → List UInt8}

theorem storeAll_segments (short : ∀ segment ∈ segments, (data segment).length ≤ (region segment).length)
    (apart : segments.Pairwise fun segment segment' => (region segment).Disjoint (region segment'))
    {segment : ι} (member : segment ∈ segments) (inside : index < (region segment).length) :
    storeAll (fun _ => 0) (segments.map fun segment => ((region segment).start, data segment))
      ((region segment).start + index) =
      (data segment)[index]?.getD 0 := by
  have within : ∀ other ∈ segments, ∀ location, Covers ((region other).start, data other) location →
      (region other).Contains location := by
    intro other otherMember location covers
    have otherShort := short other otherMember
    simp only [Covers] at covers
    exact ⟨covers.1, by unfold Region.stop; omega⟩
  by_cases covered : index < (data segment).length
  · have writesApart : (segments.map fun segment => ((region segment).start, data segment)).Pairwise Apart :=
      List.pairwise_map.mpr (apart.imp_of_mem fun one other disjoint location here there =>
        disjoint location (within _ one _ here) (within _ other _ there))
    have found : (data segment)[index]? = some (data segment)[index] := List.getElem?_eq_getElem covered
    rw [found, Option.getD_some]
    exact storeAll_inside writesApart (List.mem_map_of_mem member) found
  · rw [List.getElem?_eq_none (by omega), Option.getD_none]
    refine storeAll_outside fun write written here => ?_
    obtain ⟨other, otherMember, rfl⟩ := List.mem_map.mp written
    by_cases same : other = segment
    · simp only [same, Covers] at here
      omega
    · have symm : Std.Symm fun segment segment' => (region segment).Disjoint (region segment') :=
        ⟨fun _ _ disjoint => disjoint.symm⟩
      refine apart.forall member otherMember (Ne.symm same) _ ⟨Nat.le_add_right .., ?_⟩ (within other otherMember _ here)
      unfold Region.stop
      omega

end Segments

def Descends (bottom : Nat) : Nat → List (Nat × List UInt8) → Prop
  | top, [] => bottom ≤ top
  | top, write :: rest => write.1 + write.2.length ≤ top ∧ Descends bottom write.1 rest

namespace Descends

variable {bottom top : Nat}

theorem within (descends : Descends bottom top writes) :
    bottom ≤ top ∧ ∀ write ∈ writes, bottom ≤ write.1 ∧ write.1 + write.2.length ≤ top := by
  induction writes generalizing top with
  | nil => exact ⟨descends, by simp⟩
  | cons first rest ih =>
    obtain ⟨below, descends⟩ := descends
    obtain ⟨ordered, inside⟩ := ih descends
    refine ⟨by omega, fun write member => ?_⟩
    cases member with
    | head => exact ⟨ordered, below⟩
    | tail _ member =>
      have later := inside write member
      omega

theorem apart (descends : Descends bottom top writes) : writes.Pairwise Apart := by
  induction writes generalizing top with
  | nil => exact List.Pairwise.nil
  | cons first rest ih =>
    obtain ⟨below, descends⟩ := descends
    refine List.pairwise_cons.mpr ⟨fun write member location here there => ?_, ih descends⟩
    have later := (within descends).2 write member
    simp only [Covers] at here there
    omega

theorem append {middle : Nat} {writes' : List (Nat × List UInt8)} (first : Descends middle top writes)
    (second : Descends bottom middle writes') : Descends bottom top (writes ++ writes') := by
  induction writes generalizing top with
  | nil =>
    have ordered : middle ≤ top := first
    cases writes' with
    | nil => exact Nat.le_trans second ordered
    | cons write rest => exact ⟨Nat.le_trans second.1 ordered, second.2⟩
  | cons write rest ih => exact ⟨first.1, ih first.2⟩

end Descends

/-- A page holds what a larger memory has from an address on. -/
def Agrees (page memory : Memory) (base size : Nat) : Prop :=
  ∀ offset < size, page offset = memory (base + offset)

variable {page : Memory} {base size : Nat}

theorem Agrees.store (agrees : Agrees page memory base size) (above : base ≤ address) :
    Agrees (page.store (address - base) bytes) (memory.store address bytes) base size := by
  intro offset inside
  by_cases before : address ≤ base + offset
  · have index : base + offset - address = offset - (address - base) := by omega
    rw [Memory.store, Memory.store, if_pos (by omega), if_pos before, index, agrees offset inside]
  · rw [Memory.store, Memory.store, if_neg (by omega), if_neg before, agrees offset inside]

theorem Agrees.elsewhere (agrees : Agrees page memory base size)
    (outside : ∀ location, base ≤ location → location < base + size → ¬ Covers (address, bytes) location) :
    Agrees page (memory.store address bytes) base size := by
  intro offset inside
  have here := outside (base + offset) (by omega) (by omega)
  rw [agrees offset inside]
  refine (store_outside ?_).symm
  simp only [Covers] at here
  omega

end Memory

end RootTaskDemo.Lib
