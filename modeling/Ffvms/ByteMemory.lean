/-
Byte memory in several regions, written and read in runs of bytes.  A read gives
back the last run written at the same place, and does not see a run written
elsewhere.  A list of stores says what a piece of code writes and where; if none of
them leaves its region, nothing behind a region changes.
-/

import Mathlib.Data.List.GetD
import Mathlib.Data.List.Range

namespace Ffvms

abbrev ByteMemory (Region : Type*) : Type _ := Region → Nat → UInt8

namespace ByteMemory

variable {Region : Type*} [DecidableEq Region]

def write (memory : ByteMemory Region) (region : Region) (start : Nat) (bytes : List UInt8) :
    ByteMemory Region :=
  fun other offset =>
    if other = region ∧ start ≤ offset ∧ offset < start + bytes.length then
      bytes.getD (offset - start) 0
    else memory other offset

def read (memory : ByteMemory Region) (region : Region) (start count : Nat) : List UInt8 :=
  (List.range count).map (fun index => memory region (start + index))

theorem write_nil (memory : ByteMemory Region) (region : Region) (start : Nat) :
    memory.write region start [] = memory := by
  funext other offset
  apply if_neg
  rintro ⟨_, above, below⟩
  rw [List.length_nil] at below
  omega

theorem write_append (memory : ByteMemory Region) (region : Region) (start : Nat)
    (first second : List UInt8) :
    (memory.write region start first).write region (start + first.length) second =
      memory.write region start (first ++ second) := by
  funext other offset
  unfold write
  rw [List.length_append]
  by_cases same : other = region
  · by_cases inFirst : start ≤ offset ∧ offset < start + first.length
    · rw [if_neg (by omega), if_pos ⟨same, inFirst⟩, if_pos ⟨same, by omega, by omega⟩,
        List.getD_append _ _ _ _ (by omega)]
    · by_cases inSecond : start + first.length ≤ offset ∧
          offset < start + first.length + second.length
      · rw [if_pos ⟨same, inSecond⟩, if_pos ⟨same, by omega, by omega⟩,
          List.getD_append_right _ _ _ _ (by omega)]
        congr 1
        omega
      · rw [if_neg (fun both => inSecond both.2), if_neg (fun both => inFirst both.2),
          if_neg (by omega)]
  · rw [if_neg (fun both => same both.1), if_neg (fun both => same both.1),
      if_neg (fun both => same both.1)]

theorem read_write_self (memory : ByteMemory Region) (region : Region) (start : Nat)
    (bytes : List UInt8) :
    (memory.write region start bytes).read region start bytes.length = bytes := by
  apply List.ext_getElem
  · rw [read, List.length_map, List.length_range]
  · intro index inRead inBytes
    have within : region = region ∧ start ≤ start + index ∧
        start + index < start + bytes.length := ⟨rfl, by omega, by omega⟩
    have stored : memory.write region start bytes region (start + index) = bytes[index] := by
      unfold write
      rw [if_pos within, Nat.add_sub_cancel_left, List.getD_eq_getElem _ _ inBytes]
    simp only [read, List.getElem_map, List.getElem_range]
    exact stored

theorem read_write_disjoint (memory : ByteMemory Region) {region other : Region}
    {start otherStart count : Nat} {bytes : List UInt8}
    (apart : other ≠ region ∨ otherStart + count ≤ start ∨ start + bytes.length ≤ otherStart) :
    (memory.write region start bytes).read other otherStart count =
      memory.read other otherStart count := by
  apply List.map_congr_left
  intro index member
  have bound := List.mem_range.mp member
  have outside : ¬(other = region ∧ start ≤ otherStart + index ∧
      otherStart + index < start + bytes.length) := by
    rintro ⟨same, above, below⟩
    rcases apart with different | before | after
    · exact different same
    · omega
    · omega
  exact if_neg outside

/-! ### Stores -/

structure Store (Region : Type*) where
  region : Region
  start : Nat
  bytes : List UInt8

def Store.Within (size : Region → Int) (store : Store Region) : Prop :=
  (store.start + store.bytes.length : Int) ≤ size store.region

instance (size : Region → Int) (store : Store Region) : Decidable (store.Within size) :=
  inferInstanceAs (Decidable (_ ≤ _))

def storeAll (memory : ByteMemory Region) : List (Store Region) → ByteMemory Region
  | [] => memory
  | store :: rest => storeAll (memory.write store.region store.start store.bytes) rest

theorem storeAll_append (memory : ByteMemory Region) (first second : List (Store Region)) :
    memory.storeAll (first ++ second) = (memory.storeAll first).storeAll second := by
  induction first generalizing memory with
  | nil => rfl
  | cons store rest ih => exact ih _

theorem storeAll_outside {size : Region → Int} {stores : List (Store Region)}
    (within : ∀ store ∈ stores, store.Within size) (memory : ByteMemory Region) {region : Region}
    {offset : Nat} (outside : size region ≤ offset) :
    memory.storeAll stores region offset = memory region offset := by
  induction stores generalizing memory with
  | nil => rfl
  | cons store rest ih =>
      rw [storeAll, ih (fun other member => within other (List.mem_cons_of_mem store member))]
      apply if_neg
      rintro ⟨rfl, _, below⟩
      have inside : (store.start + store.bytes.length : Int) ≤ size store.region :=
        within store List.mem_cons_self
      omega

end ByteMemory

end Ffvms
