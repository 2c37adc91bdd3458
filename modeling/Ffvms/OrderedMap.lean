/-
An ordered map whose keys are compared through a rank, as `std::map` does with
a user supplied `operator<`.  Two keys of one rank name the same entry, and the
key stored is the one that created the entry.  The entry list is strictly
sorted by construction, so that iteration meets the keys in rank order and no
rank twice.
-/

import Mathlib.Order.Lattice
import Mathlib.Data.List.Pairwise

namespace Ffvms

structure OrderedMap {Key Rank : Type*} [LinearOrder Rank] (rank : Key → Rank)
    (Value : Type*) where
  entries : List (Key × Value)
  sorted : entries.Pairwise (fun first second => rank first.1 < rank second.1)

namespace OrderedMap

variable {Key Rank Value : Type*} [LinearOrder Rank] {rank : Key → Rank}

def empty : OrderedMap rank Value := ⟨[], List.Pairwise.nil⟩

def find? (map : OrderedMap rank Value) (key : Key) : Option Value :=
  (map.entries.find? (fun entry => rank entry.1 = rank key)).map Prod.snd

/-- Insertion at the place of the rank.  An entry of the same rank keeps its
key and takes the new value. -/
def insertEntry (rank : Key → Rank) (key : Key) (value : Value) :
    List (Key × Value) → List (Key × Value)
  | [] => [(key, value)]
  | (other, kept) :: rest =>
      if rank key < rank other then (key, value) :: (other, kept) :: rest
      else if rank key = rank other then (other, value) :: rest
      else (other, kept) :: insertEntry rank key value rest

private theorem rank_of_mem_insertEntry {key : Key} {value : Value} {entry : Key × Value}
    {entries : List (Key × Value)} (member : entry ∈ insertEntry rank key value entries) :
    rank entry.1 = rank key ∨ ∃ old ∈ entries, rank old.1 = rank entry.1 := by
  induction entries with
  | nil =>
      rw [insertEntry, List.mem_singleton] at member
      exact Or.inl (by rw [member])
  | cons head rest ih =>
      rw [insertEntry] at member
      split at member
      · rcases List.mem_cons.mp member with atKey | older
        · exact Or.inl (by rw [atKey])
        · exact Or.inr ⟨entry, older, rfl⟩
      · split at member
        · rename_i same
          rcases List.mem_cons.mp member with atKey | older
          · exact Or.inl (by rw [atKey, same])
          · exact Or.inr ⟨entry, List.mem_cons_of_mem _ older, rfl⟩
        · rcases List.mem_cons.mp member with atHead | later
          · exact Or.inr ⟨head, List.mem_cons_self, by rw [atHead]⟩
          · rcases ih later with atKey | ⟨old, within, same⟩
            · exact Or.inl atKey
            · exact Or.inr ⟨old, List.mem_cons_of_mem _ within, same⟩

private theorem insertEntry_sorted (key : Key) (value : Value) {entries : List (Key × Value)}
    (sorted : entries.Pairwise (fun first second => rank first.1 < rank second.1)) :
    (insertEntry rank key value entries).Pairwise
      (fun first second => rank first.1 < rank second.1) := by
  induction entries with
  | nil => exact List.pairwise_singleton _ _
  | cons head rest ih =>
      obtain ⟨below, tail⟩ := List.pairwise_cons.mp sorted
      rw [insertEntry]
      split
      · rename_i before
        refine List.pairwise_cons.mpr ⟨?_, sorted⟩
        intro entry member
        rcases List.mem_cons.mp member with atHead | later
        · rw [atHead]
          exact before
        · exact lt_trans before (below entry later)
      · rename_i notBefore
        split
        · exact List.pairwise_cons.mpr ⟨below, tail⟩
        · rename_i different
          refine List.pairwise_cons.mpr ⟨?_, ih tail⟩
          intro entry member
          have after : rank head.1 < rank key :=
            lt_of_le_of_ne (not_lt.mp notBefore) (fun same => different same.symm)
          rcases rank_of_mem_insertEntry member with atKey | ⟨old, within, same⟩
          · rw [atKey]
            exact after
          · rw [← same]
            exact below old within

def insert (map : OrderedMap rank Value) (key : Key) (value : Value) : OrderedMap rank Value :=
  ⟨insertEntry rank key value map.entries, insertEntry_sorted key value map.sorted⟩

def erase (map : OrderedMap rank Value) (key : Key) : OrderedMap rank Value :=
  ⟨map.entries.filter (fun entry => rank entry.1 ≠ rank key), map.sorted.filter _⟩

/-- Rewrite the values in place, as assignment through an iterator does. -/
def mapValues (map : OrderedMap rank Value) (change : Key → Value → Value) :
    OrderedMap rank Value :=
  ⟨map.entries.map (fun entry => (entry.1, change entry.1 entry.2)),
    List.pairwise_map.mpr map.sorted⟩

def modify (map : OrderedMap rank Value) (key : Key) (change : Value → Value) :
    OrderedMap rank Value :=
  map.mapValues (fun other value => if rank other = rank key then change value else value)

/-! ### Lookup -/

theorem entry_eq_of_rank_eq (map : OrderedMap rank Value) {first second : Key × Value}
    (inFirst : first ∈ map.entries) (inSecond : second ∈ map.entries)
    (same : rank first.1 = rank second.1) : first = second := by
  by_contra different
  have symmetric : Std.Symm (fun left right : Key × Value => rank left.1 ≠ rank right.1) :=
    ⟨fun _ _ apart equal => apart equal.symm⟩
  have distinct : map.entries.Pairwise (fun left right => rank left.1 ≠ rank right.1) :=
    map.sorted.imp (fun before => ne_of_lt before)
  exact distinct.forall inFirst inSecond different same

theorem find?_congr (map : OrderedMap rank Value) {first second : Key}
    (same : rank first = rank second) : map.find? first = map.find? second := by
  unfold find?
  rw [same]

theorem find?_eq_some_iff {map : OrderedMap rank Value} {key : Key} {value : Value} :
    map.find? key = some value ↔
      ∃ stored, rank stored = rank key ∧ (stored, value) ∈ map.entries := by
  constructor
  · intro found
    obtain ⟨entry, located, rfl⟩ := Option.map_eq_some_iff.mp found
    have sameRank := List.find?_some located
    exact ⟨entry.1, by simpa using sameRank, List.mem_of_find?_eq_some located⟩
  · rintro ⟨stored, sameRank, member⟩
    -- The first entry of the rank is the only one, because the list is strictly sorted.
    cases located : map.entries.find? (fun entry => rank entry.1 = rank key) with
    | none =>
        have absent := List.find?_eq_none.mp located _ member
        exact absurd (decide_eq_true sameRank) absent
    | some entry =>
        have entryRank : rank entry.1 = rank key := by simpa using List.find?_some located
        have same := map.entry_eq_of_rank_eq (List.mem_of_find?_eq_some located) member
          (entryRank.trans sameRank.symm)
        unfold find?
        rw [located, same]
        rfl

theorem find?_eq_none_iff {map : OrderedMap rank Value} {key : Key} :
    map.find? key = none ↔ ∀ entry ∈ map.entries, rank entry.1 ≠ rank key := by
  unfold find?
  rw [Option.map_eq_none_iff, List.find?_eq_none]
  simp only [decide_eq_true_eq, ne_eq]

theorem find?_of_mem {map : OrderedMap rank Value} {key : Key} {value : Value}
    (member : (key, value) ∈ map.entries) : map.find? key = some value :=
  find?_eq_some_iff.mpr ⟨key, rfl, member⟩

private theorem find?_insertEntry (key other : Key) (value : Value)
    (entries : List (Key × Value)) :
    ((insertEntry rank key value entries).find? (fun entry => rank entry.1 = rank other)).map
        Prod.snd =
      if rank other = rank key then some value
      else (entries.find? (fun entry => rank entry.1 = rank other)).map Prod.snd := by
  induction entries with
  | nil =>
      by_cases same : rank other = rank key
      · simp [insertEntry, same]
      · simp [insertEntry, same, Ne.symm same]
  | cons head rest ih =>
      rw [insertEntry]
      by_cases same : rank other = rank key
      · rw [if_pos same]
        rw [if_pos same] at ih
        split
        · simp [same]
        · split
          · rename_i equal
            simp [same, equal]
          · rename_i different
            rw [List.find?_cons_of_neg (by simpa [same] using Ne.symm different)]
            exact ih
      · rw [if_neg same]
        rw [if_neg same] at ih
        split
        · rw [List.find?_cons_of_neg (by simpa using Ne.symm same)]
        · split
          · rename_i equal
            have apart : rank head.1 ≠ rank other := fun hit => same (hit.symm.trans equal.symm)
            rw [List.find?_cons_of_neg (by simpa using apart),
              List.find?_cons_of_neg (by simpa using apart)]
          · by_cases hit : rank head.1 = rank other
            · rw [List.find?_cons_of_pos (by simpa using hit),
                List.find?_cons_of_pos (by simpa using hit)]
            · rw [List.find?_cons_of_neg (by simpa using hit),
                List.find?_cons_of_neg (by simpa using hit)]
              exact ih

theorem find?_insert (map : OrderedMap rank Value) (key other : Key) (value : Value) :
    (map.insert key value).find? other =
      if rank other = rank key then some value else map.find? other :=
  find?_insertEntry key other value map.entries

theorem find?_insert_self (map : OrderedMap rank Value) (key : Key) (value : Value) :
    (map.insert key value).find? key = some value := by
  rw [find?_insert, if_pos rfl]

theorem find?_erase (map : OrderedMap rank Value) (key other : Key) :
    (map.erase key).find? other =
      if rank other = rank key then none else map.find? other := by
  by_cases same : rank other = rank key
  · rw [if_pos same, find?_eq_none_iff]
    intro entry member hit
    have kept := (List.mem_filter.mp member).2
    simp only [ne_eq, decide_not, Bool.not_eq_eq_eq_not, Bool.not_true, decide_eq_false_iff_not]
      at kept
    exact kept (hit.trans same)
  · rw [if_neg same]
    unfold find? erase
    rw [List.find?_filter]
    congr 2
    funext entry
    by_cases hit : rank entry.1 = rank other
    · simp [hit, same]
    · simp [hit]

theorem find?_erase_self (map : OrderedMap rank Value) (key : Key) :
    (map.erase key).find? key = none := by
  rw [find?_erase, if_pos rfl]

/-- The change is told the stored key, which may differ from the key asked for. -/
theorem find?_mapValues_const (map : OrderedMap rank Value) (change : Value → Value) (key : Key) :
    (map.mapValues (fun _ => change)).find? key = (map.find? key).map change := by
  unfold find? mapValues
  rw [List.find?_map, Option.map_map, Option.map_map]
  rfl

theorem modify_id (map : OrderedMap rank Value) (key : Key) : map.modify key id = map := by
  cases map
  simp [modify, mapValues]

theorem find?_modify (map : OrderedMap rank Value) (key other : Key) (change : Value → Value) :
    (map.modify key change).find? other =
      if rank other = rank key then (map.find? other).map change else map.find? other := by
  unfold find? modify mapValues
  rw [List.find?_map, Option.map_map]
  cases located : map.entries.find? (fun entry => rank entry.1 = rank other) with
  | none =>
      have composed : List.find? ((fun entry => decide (rank entry.1 = rank other)) ∘
          fun entry => (entry.1, if rank entry.1 = rank key then change entry.2 else entry.2))
          map.entries = none := located
      rw [composed]
      simp
  | some entry =>
      have composed : List.find? ((fun entry => decide (rank entry.1 = rank other)) ∘
          fun entry => (entry.1, if rank entry.1 = rank key then change entry.2 else entry.2))
          map.entries = some entry := located
      have hit : rank entry.1 = rank other := by simpa using List.find?_some located
      rw [composed]
      by_cases same : rank other = rank key
      · simp [hit, same]
      · simp [hit, same]

/-! ### Entries -/

theorem forall_entries_iff {map : OrderedMap rank Value} (property : Value → Prop) :
    (∀ entry ∈ map.entries, property entry.2) ↔
      ∀ key value, map.find? key = some value → property value := by
  constructor
  · intro all key value found
    obtain ⟨stored, _sameRank, member⟩ := find?_eq_some_iff.mp found
    exact all _ member
  · intro all entry member
    exact all entry.1 entry.2 (find?_of_mem member)

theorem mem_values_iff {map : OrderedMap rank Value} {value : Value} :
    value ∈ map.entries.map Prod.snd ↔ ∃ key, map.find? key = some value := by
  constructor
  · intro member
    obtain ⟨⟨key, found⟩, inside, rfl⟩ := List.mem_map.mp member
    exact ⟨key, find?_of_mem inside⟩
  · rintro ⟨key, located⟩
    obtain ⟨stored, _, member⟩ := find?_eq_some_iff.mp located
    exact List.mem_map_of_mem member

theorem eq_of_entries {first second : OrderedMap rank Value}
    (same : first.entries = second.entries) : first = second := by
  obtain ⟨entries, sorted⟩ := first
  cases same
  rfl

theorem mapValues_congr {map : OrderedMap rank Value} {first second : Key → Value → Value}
    (same : ∀ entry ∈ map.entries, first entry.1 entry.2 = second entry.1 entry.2) :
    map.mapValues first = map.mapValues second := by
  refine eq_of_entries (List.map_congr_left ?_)
  intro entry member
  rw [same entry member]

theorem erase_mapValues (map : OrderedMap rank Value) (key : Key)
    (change : Key → Value → Value) :
    (map.mapValues change).erase key = (map.erase key).mapValues change :=
  eq_of_entries List.filter_map

theorem erase_modify (map : OrderedMap rank Value) (key : Key) (change : Value → Value) :
    (map.modify key change).erase key = map.erase key := by
  rw [modify, erase_mapValues]
  refine eq_of_entries ?_
  refine (List.map_congr_left (g := id) ?_).trans (List.map_id _)
  intro entry member
  have other : rank entry.1 ≠ rank key := by simpa using (List.mem_filter.mp member).2
  simp only [if_neg other, id]

end OrderedMap

end Ffvms
