/-
Objects behind counted pointers, as `std::shared_ptr` and `std::weak_ptr` hold
them.  An object lives as long as its strong count is positive; a weak pointer
is a bare address, and locking it succeeds exactly while the object lives.
Addresses are never handed out twice, so a weak pointer cannot come to name
another object.
-/

import Mathlib.Data.Nat.Basic
import Ffvms.OrderedMap

namespace Ffvms

structure SharedCell (Object : Type*) where
  strong : Nat
  object : Object

structure SharedHeap (Object : Type*) where
  cells : OrderedMap (fun address : Nat => address) (SharedCell Object)
  next : Nat
  owned : ∀ address cell, cells.find? address = some cell → 0 < cell.strong
  below : ∀ address cell, cells.find? address = some cell → address < next

namespace SharedHeap

variable {Object : Type*}

def empty : SharedHeap Object :=
  { cells := OrderedMap.empty
    next := 0
    owned := fun _ _ found => nomatch found
    below := fun _ _ found => nomatch found }

def cell? (heap : SharedHeap Object) (address : Nat) : Option (SharedCell Object) :=
  heap.cells.find? address

def get? (heap : SharedHeap Object) (address : Nat) : Option Object :=
  (heap.cell? address).map SharedCell.object

def makeShared (heap : SharedHeap Object) (object : Object) : SharedHeap Object × Nat :=
  ({ cells := heap.cells.insert heap.next ⟨1, object⟩
     next := heap.next + 1
     owned := by
       intro address cell found
       rw [OrderedMap.find?_insert] at found
       split_ifs at found
       · rw [← Option.some.inj found]
         exact Nat.one_pos
       · exact heap.owned address cell found
     below := by
       intro address cell found
       rw [OrderedMap.find?_insert] at found
       split_ifs at found with new
       · omega
       · exact Nat.lt_succ_of_lt (heap.below address cell found) },
    heap.next)

private def modifyCell (heap : SharedHeap Object) (address : Nat)
    (change : SharedCell Object → SharedCell Object)
    (positive : ∀ cell, heap.cells.find? address = some cell → 0 < (change cell).strong) :
    SharedHeap Object :=
  { cells := heap.cells.modify address change
    next := heap.next
    owned := by
      intro other cell found
      rw [OrderedMap.find?_modify] at found
      split_ifs at found with same
      · obtain ⟨former, located, rfl⟩ := Option.map_eq_some_iff.mp found
        exact positive former (same ▸ located)
      · exact heap.owned other cell found
    below := by
      intro other cell found
      rw [OrderedMap.find?_modify] at found
      split_ifs at found with same
      · obtain ⟨former, located, _changed⟩ := Option.map_eq_some_iff.mp found
        exact heap.below other former located
      · exact heap.below other cell found }

def share (heap : SharedHeap Object) (address : Nat) : SharedHeap Object :=
  heap.modifyCell address (fun cell => { cell with strong := cell.strong + 1 })
    (fun _ _ => Nat.succ_pos _)

def update (heap : SharedHeap Object) (address : Nat) (object : Object) : SharedHeap Object :=
  heap.modifyCell address (fun cell => { cell with object := object })
    (fun cell found => heap.owned address cell found)

/-- `std::weak_ptr::lock`: a strong pointer, if the object still lives. -/
def lock (heap : SharedHeap Object) (address : Nat) : Option (SharedHeap Object × Object) :=
  (heap.get? address).map (fun object => (heap.share address, object))

def release (heap : SharedHeap Object) (address : Nat) : SharedHeap Object :=
  match located : heap.cells.find? address with
  | none => heap
  | some cell =>
      if shared : 1 < cell.strong then
        heap.modifyCell address (fun cell => { cell with strong := cell.strong - 1 }) (by
          intro found lookup
          have same := Option.some.inj (located.symm.trans lookup)
          rw [← same]
          exact Nat.sub_pos_of_lt shared)
      else
        { cells := heap.cells.erase address
          next := heap.next
          owned := by
            intro other found lookup
            rw [OrderedMap.find?_erase] at lookup
            split_ifs at lookup
            exact heap.owned other found lookup
          below := by
            intro other found lookup
            rw [OrderedMap.find?_erase] at lookup
            split_ifs at lookup
            exact heap.below other found lookup }

/-! ### Cells after an operation -/

theorem lt_next_of_cell? {heap : SharedHeap Object} {address : Nat} {cell : SharedCell Object}
    (found : heap.cell? address = some cell) : address < heap.next :=
  heap.below address cell found

theorem cell?_makeShared (heap : SharedHeap Object) (object : Object) (address : Nat) :
    (heap.makeShared object).1.cell? address =
      if address = heap.next then some ⟨1, object⟩ else heap.cell? address :=
  OrderedMap.find?_insert heap.cells heap.next address ⟨1, object⟩

theorem cell?_share (heap : SharedHeap Object) (address other : Nat) :
    (heap.share address).cell? other =
      if other = address then
        (heap.cell? other).map (fun cell => { cell with strong := cell.strong + 1 })
      else heap.cell? other :=
  OrderedMap.find?_modify heap.cells address other _

theorem cell?_update (heap : SharedHeap Object) (address other : Nat) (object : Object) :
    (heap.update address object).cell? other =
      if other = address then
        (heap.cell? other).map (fun cell => { cell with object := object })
      else heap.cell? other :=
  OrderedMap.find?_modify heap.cells address other _

theorem cell?_release (heap : SharedHeap Object) (address other : Nat) :
    (heap.release address).cell? other =
      if other = address then
        (heap.cell? other).bind (fun cell =>
          if 1 < cell.strong then some { cell with strong := cell.strong - 1 } else none)
      else heap.cell? other := by
  unfold release
  split
  · rename_i absent
    split_ifs with same
    · rw [same]
      change heap.cells.find? address = (heap.cells.find? address).bind _
      rw [absent]
      rfl
    · rfl
  · rename_i cell located
    by_cases same : other = address
    · subst other
      have here : heap.cell? address = some cell := located
      rw [if_pos rfl, here, Option.bind_some]
      split_ifs with shared
      · change (heap.cells.modify address _).find? address = _
        rw [OrderedMap.find?_modify, if_pos rfl, located]
        rfl
      · exact OrderedMap.find?_erase_self heap.cells address
    · rw [if_neg same]
      split_ifs
      · change (heap.cells.modify address _).find? other = _
        rw [OrderedMap.find?_modify, if_neg same]
        rfl
      · change (heap.cells.erase address).find? other = _
        rw [OrderedMap.find?_erase, if_neg same]
        rfl

@[simp] theorem next_makeShared (heap : SharedHeap Object) (object : Object) :
    (heap.makeShared object).1.next = heap.next + 1 := rfl

@[simp] theorem next_share (heap : SharedHeap Object) (address : Nat) :
    (heap.share address).next = heap.next := rfl

@[simp] theorem next_update (heap : SharedHeap Object) (address : Nat) (object : Object) :
    (heap.update address object).next = heap.next := rfl

@[simp] theorem next_release (heap : SharedHeap Object) (address : Nat) :
    (heap.release address).next = heap.next := by
  unfold release
  split
  · rfl
  · split_ifs
    · rfl
    · rfl

/-! ### Pointers that live for one block -/

theorem release_after_share {cell? : Option (SharedCell Object)} (change : Object → Object)
    (owned : ∀ cell ∈ cell?, 0 < cell.strong) :
    (cell?.map (fun cell => (⟨cell.strong + 1, change cell.object⟩ : SharedCell Object))).bind
        (fun cell =>
          if 1 < cell.strong then some { cell with strong := cell.strong - 1 } else none) =
      cell?.map (fun cell => { cell with object := change cell.object }) := by
  cases cell? with
  | none => rfl
  | some cell =>
      have shared : 1 < cell.strong + 1 := Nat.lt_add_of_pos_left (owned cell rfl)
      simp only [Option.map_some, Option.bind_some, if_pos shared, Nat.add_sub_cancel]

theorem cell?_release_share (heap : SharedHeap Object) (address other : Nat) :
    ((heap.share address).release address).cell? other = heap.cell? other := by
  rw [cell?_release, cell?_share]
  split_ifs with same
  · exact (release_after_share id (heap.owned other)).trans Option.map_id'
  · rfl

/-- Between lock and release only the assignment is seen. -/
theorem cell?_release_update_share (heap : SharedHeap Object) (address other : Nat)
    (object : Object) :
    (((heap.share address).update address object).release address).cell? other =
      (heap.update address object).cell? other := by
  rw [cell?_release, cell?_update, cell?_update, cell?_share]
  split_ifs with same
  · rw [Option.map_map]
    exact release_after_share (fun _ => object) (heap.owned other)
  · rfl

theorem cell?_release_last {heap : SharedHeap Object} {address : Nat} {object : Object}
    (last : heap.cell? address = some ⟨1, object⟩) (other : Nat) :
    (heap.release address).cell? other = if other = address then none else heap.cell? other := by
  rw [cell?_release]
  split_ifs with same
  · rw [same, last]
    rfl
  · rfl

end SharedHeap

end Ffvms
