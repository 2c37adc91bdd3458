/-
The first occurrence of a pattern in a text, and where it is in texts that are put
together from parts.

Two kinds of pattern are looked at.  A word closed by a separator occurs in a text
of separated segments only where a segment ends with the word.  A marker whose first
symbol does not come again in it cannot overlap itself, so the first occurrence in a
text followed by the marker is there or inside the text.
-/

import Mathlib.Data.List.Infix

namespace Ffvms

variable {Symbol : Type*} [DecidableEq Symbol]

def firstOccurrence (pattern : List Symbol) : List Symbol → Option Nat
  | [] => if pattern = [] then some 0 else none
  | head :: rest =>
      if pattern <+: head :: rest then some 0
      else (firstOccurrence pattern rest).map (· + 1)

theorem firstOccurrence_eq_none_iff {pattern text : List Symbol} :
    firstOccurrence pattern text = none ↔ ¬pattern <:+: text := by
  induction text with
  | nil =>
      unfold firstOccurrence
      by_cases empty : pattern = []
      · simp [empty]
      · simp [empty]
  | cons head rest ih =>
      unfold firstOccurrence
      rw [List.infix_cons_iff, not_or, ← ih]
      by_cases here : pattern <+: head :: rest
      · simp [here]
      · simp [here]

def afterFirst (pattern text : List Symbol) : Option (List Symbol) :=
  (firstOccurrence pattern text).map fun found => text.drop (found + pattern.length)

theorem afterFirst_eq_none_iff {pattern text : List Symbol} :
    afterFirst pattern text = none ↔ ¬pattern <:+: text := by
  rw [afterFirst, Option.map_eq_none_iff, firstOccurrence_eq_none_iff]

section Segments

variable {separator : Symbol} {word segment rest : List Symbol}

omit [DecidableEq Symbol] in
theorem closed_prefix_iff (inWord : separator ∉ word) (inSegment : separator ∉ segment) :
    word ++ [separator] <+: segment ++ separator :: rest ↔ word = segment := by
  induction word generalizing segment with
  | nil =>
      cases segment with
      | nil => simp
      | cons head tail =>
          have different : separator ≠ head := fun same => inSegment (same ▸ List.mem_cons_self)
          simp [different]
  | cons symbol symbols ih =>
      have different : symbol ≠ separator := fun same => inWord (same ▸ List.mem_cons_self)
      cases segment with
      | nil => simp [different]
      | cons head tail =>
          rw [List.cons_append, List.cons_append, List.cons_prefix_cons, List.cons.injEq]
          apply and_congr_right
          intro _
          apply ih
          · exact fun member => inWord (List.mem_cons_of_mem symbol member)
          · exact fun member => inSegment (List.mem_cons_of_mem head member)

/-- The first segment is searched at its end only; then the search goes on behind its
separator. -/
theorem firstOccurrence_segment (inWord : separator ∉ word) (inSegment : separator ∉ segment) :
    firstOccurrence (word ++ [separator]) (segment ++ separator :: rest) =
      if word <:+ segment then some (segment.length - word.length)
      else (firstOccurrence (word ++ [separator]) rest).map (· + (segment.length + 1)) := by
  induction segment with
  | nil =>
      have here : word ++ [separator] <+: separator :: rest ↔ word = [] :=
        closed_prefix_iff inWord List.not_mem_nil
      rw [List.nil_append, firstOccurrence]
      by_cases empty : word = []
      · rw [if_pos (here.mpr empty), if_pos (List.suffix_nil.mpr empty), empty]
        rfl
      · rw [if_neg (fun found => empty (here.mp found)),
          if_neg (fun found => empty (List.suffix_nil.mp found))]
        rfl
  | cons head tail ih =>
      have inTail : separator ∉ tail := fun member => inSegment (List.mem_cons_of_mem head member)
      have here : word ++ [separator] <+: head :: (tail ++ separator :: rest) ↔
          word = head :: tail := closed_prefix_iff inWord inSegment
      rw [List.cons_append, firstOccurrence, ih inTail]
      by_cases whole : word = head :: tail
      · rw [if_pos (here.mpr whole), whole, if_pos (List.suffix_refl _), Nat.sub_self]
      · rw [if_neg (fun found => whole (here.mp found))]
        have suffix : word <:+ head :: tail ↔ word <:+ tail := by
          rw [List.suffix_cons_iff]
          exact or_iff_right whole
        by_cases ends : word <:+ tail
        · have shorter := ends.length_le
          rw [if_pos ends, if_pos (suffix.mpr ends), Option.map_some, List.length_cons]
          congr 1
          omega
        · rw [if_neg ends, if_neg (fun found => ends (suffix.mp found)), Option.map_map]
          congr 1

theorem afterFirst_segment (inWord : separator ∉ word) (inSegment : separator ∉ segment) :
    afterFirst (word ++ [separator]) (segment ++ separator :: rest) =
      if word <:+ segment then some rest else afterFirst (word ++ [separator]) rest := by
  have behind (more : Nat) : (segment ++ separator :: rest).drop (segment.length + 1 + more) =
      rest.drop more := by
    rw [List.append_cons, List.drop_append, List.drop_eq_nil_of_le (by simp)]
    simp
  unfold afterFirst
  rw [firstOccurrence_segment inWord inSegment]
  by_cases ends : word <:+ segment
  · have shorter := ends.length_le
    have position : segment.length - word.length + (word ++ [separator]).length =
        segment.length + 1 + 0 := by
      rw [List.length_append, List.length_singleton]
      omega
    rw [if_pos ends, if_pos ends, Option.map_some, position, behind]
    rfl
  · rw [if_neg ends, if_neg ends, Option.map_map]
    congr 1
    funext found
    have position : found + (segment.length + 1) + (word ++ [separator]).length =
        segment.length + 1 + (found + (word ++ [separator]).length) := by omega
    rw [Function.comp_apply, position, behind]

end Segments

theorem firstOccurrence_marker {mark : Symbol} {tail text rest : List Symbol}
    (inTail : mark ∉ tail) (absent : ¬mark :: tail <:+: text) :
    firstOccurrence (mark :: tail) (text ++ (mark :: tail ++ rest)) = some text.length := by
  induction text with
  | nil =>
      rw [List.nil_append, List.cons_append, firstOccurrence, ← List.cons_append,
        if_pos (List.prefix_append _ _)]
      rfl
  | cons head others ih =>
      rw [List.infix_cons_iff, not_or] at absent
      have later : ¬mark :: tail <+: head :: (others ++ (mark :: tail ++ rest)) := by
        intro found
        have start : head :: others <+: head :: (others ++ (mark :: tail ++ rest)) :=
          List.prefix_append (head :: others) _
        rcases List.prefix_or_prefix_of_prefix found start with inside | ⟨back, across⟩
        · exact absent.1 inside
        · -- An occurrence across the end has the mark a second time.
          have onward : back <+: mark :: tail ++ rest := by
            apply (List.prefix_append_right_inj (head :: others)).mp
            rw [across]
            exact found
          cases back with
          | nil =>
              rw [List.append_nil] at across
              exact absent.1 (across ▸ List.prefix_refl _)
          | cons symbol symbols =>
              have again : symbol = mark := (List.cons_prefix_cons.mp onward).1
              have tailEq : others ++ symbol :: symbols = tail := (List.cons.inj across).2
              apply inTail
              rw [← tailEq, again]
              exact List.mem_append_right others List.mem_cons_self
      rw [List.cons_append, firstOccurrence, if_neg later, ih absent.2]
      rfl

end Ffvms
