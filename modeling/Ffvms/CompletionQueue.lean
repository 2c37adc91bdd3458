/-
The account of a completion queue.

An operation is begun on a queue under a tag and is outstanding until the queue completes it.
The tag is then ready, with a flag that says whether the operation took place, until the
queue hands it to its owner.  When and in which order a queue does so is its own affair, and
the account is kept of whatever it does.  A queue keeps its contract if it completes what is
outstanding, hands out what is ready, and tells its owner that nothing more will come only
when it has been closed and all that was begun has been handed out.
-/

import Mathlib.Data.List.Basic

namespace Ffvms

structure CompletionQueue (Tag : Type*) where
  outstanding : List Tag
  ready : List (Tag × Bool)
  closed : Bool
  deriving DecidableEq

namespace CompletionQueue

variable {Tag : Type*}

def empty : CompletionQueue Tag :=
  { outstanding := [], ready := [], closed := false }

def tags (queue : CompletionQueue Tag) : List Tag :=
  queue.outstanding ++ queue.ready.map Prod.fst

def enqueue (queue : CompletionQueue Tag) (tag : Tag) : CompletionQueue Tag :=
  { queue with outstanding := tag :: queue.outstanding }

def complete [DecidableEq Tag] (queue : CompletionQueue Tag) (tag : Tag) (ok : Bool) :
    CompletionQueue Tag :=
  { queue with
    outstanding := queue.outstanding.erase tag
    ready := queue.ready ++ [(tag, ok)] }

def handOut [DecidableEq Tag] (queue : CompletionQueue Tag) (entry : Tag × Bool) :
    CompletionQueue Tag :=
  { queue with ready := queue.ready.erase entry }

def close (queue : CompletionQueue Tag) : CompletionQueue Tag :=
  { queue with closed := true }

def drained (queue : CompletionQueue Tag) : Bool :=
  queue.closed && queue.outstanding.isEmpty && queue.ready.isEmpty

/-- What a queue that keeps its contract answers: a tag that is ready, or that nothing more
will come. -/
def MayAnswer (queue : CompletionQueue Tag) : Option (Tag × Bool) → Prop
  | some entry => entry ∈ queue.ready
  | none => queue.drained = true

instance [DecidableEq Tag] (queue : CompletionQueue Tag) :
    (answer : Option (Tag × Bool)) → Decidable (queue.MayAnswer answer)
  | some entry => inferInstanceAs (Decidable (entry ∈ queue.ready))
  | none => inferInstanceAs (Decidable (queue.drained = true))

@[simp] theorem tags_empty : (empty : CompletionQueue Tag).tags = [] := rfl

@[simp] theorem tags_enqueue (queue : CompletionQueue Tag) (tag : Tag) :
    (queue.enqueue tag).tags = tag :: queue.tags := rfl

@[simp] theorem tags_close (queue : CompletionQueue Tag) : queue.close.tags = queue.tags := rfl

theorem mem_tags_of_outstanding {queue : CompletionQueue Tag} {tag : Tag}
    (begun : tag ∈ queue.outstanding) : tag ∈ queue.tags :=
  List.mem_append_left _ begun

theorem mem_tags_of_ready {queue : CompletionQueue Tag} {tag : Tag} {ok : Bool}
    (completed : (tag, ok) ∈ queue.ready) : tag ∈ queue.tags :=
  List.mem_append_right _ (List.mem_map_of_mem completed)

theorem tags_complete [DecidableEq Tag] {queue : CompletionQueue Tag} {tag : Tag}
    (begun : tag ∈ queue.outstanding) (ok : Bool) :
    (queue.complete tag ok).tags.Perm queue.tags := by
  have moved : (queue.outstanding.erase tag ++ [tag]).Perm queue.outstanding :=
    List.perm_append_comm.trans (List.perm_cons_erase begun).symm
  have swapped : (queue.ready.map Prod.fst ++ [tag]).Perm ([tag] ++ queue.ready.map Prod.fst) :=
    List.perm_append_comm
  simp only [tags, complete, List.map_append, List.map_cons, List.map_nil]
  refine (swapped.append_left _).trans ?_
  rw [← List.append_assoc]
  exact moved.append_right _

theorem tags_handOut [DecidableEq Tag] {queue : CompletionQueue Tag} {entry : Tag × Bool}
    (ready : entry ∈ queue.ready) : queue.tags.Perm (entry.1 :: (queue.handOut entry).tags) := by
  have moved : (queue.ready.map Prod.fst).Perm
      (entry.1 :: (queue.ready.erase entry).map Prod.fst) :=
    (List.perm_cons_erase ready).map Prod.fst
  exact (moved.append_left queue.outstanding).trans List.perm_middle

theorem drained_iff (queue : CompletionQueue Tag) :
    queue.drained = true ↔ queue.closed = true ∧ queue.tags = [] := by
  simp [drained, tags, and_assoc]

end CompletionQueue

end Ffvms
