/-
Threads that run programs of stages under shared and exclusive locks.

A stage takes at most one lock, runs its body with the lock held and goes on to a
stage nested in its own, to one after the lock has gone out of scope, or returns,
whereby every lock of the thread goes out of scope, the newest first.  A request
is queued before it is granted.  The grant needs that no holder conflicts with it
and may overtake the queue; an implementation that makes a request wait behind
the queue takes some of the runs only.
-/

import Mathlib.Data.Fintype.Basic
import Mathlib.Data.Set.Basic
import Mathlib.Logic.Function.Basic
import Ffvms.LabelledRun

namespace Ffvms

inductive LockMode where
  | shared
  | exclusive
  deriving DecidableEq, Repr

namespace LockMode

def Conflicts (first second : LockMode) : Prop := ¬(first = .shared ∧ second = .shared)

instance (first second : LockMode) : Decidable (first.Conflicts second) :=
  inferInstanceAs (Decidable (¬_))

theorem Conflicts.symm {first second : LockMode} (conflict : first.Conflicts second) :
    second.Conflicts first :=
  fun both => conflict ⟨both.2, both.1⟩

theorem conflicts_exclusive (mode : LockMode) : mode.Conflicts .exclusive := nofun

theorem eq_exclusive_of_conflicts {mode : LockMode} (conflict : mode.Conflicts .shared) :
    mode = .exclusive := by
  cases mode with
  | shared => exact absurd ⟨rfl, rfl⟩ conflict
  | exclusive => rfl

end LockMode

inductive StageExit (Stage : Type) where
  | nest (next : Stage)
  | leave (next : Stage)
  | finish

def StageExit.next? {Stage : Type} : StageExit Stage → Option Stage
  | .nest next | .leave next => some next
  | .finish => none

structure LockProgram (Data Call Stage Lock : Type) where
  lock? : Stage → Option (Lock × LockMode)
  enter : Data → Call → Option (Data × Stage)
  body : Data → Stage → Data × StageExit Stage

/-- Where a thread is: before the lock of the stage, with it, or after the body,
when locks go out of scope. -/
inductive Point (Stage : Type) where
  | idle
  | entering (stage : Stage)
  | inside (stage : Stage)
  | leaving (stage next : Stage)
  | returning (stage : Stage)

namespace Point

variable {Stage : Type}

def pending? : Point Stage → Option Stage
  | .entering stage | .inside stage | .leaving _ stage => some stage
  | .idle | .returning _ => none

def current? : Point Stage → Option Stage
  | .entering stage | .inside stage | .leaving _ stage | .returning stage => some stage
  | .idle => none

def follow (stage : Stage) : StageExit Stage → Point Stage
  | .nest next => .entering next
  | .leave next => .leaving stage next
  | .finish => .returning stage

theorem pending?_follow (stage : Stage) (way : StageExit Stage) :
    (follow stage way).pending? = way.next? := by
  cases way <;> rfl

end Point

/-- The locks that a thread holds are listed with the newest first. -/
structure ThreadState (Thread Data Stage Lock : Type) where
  data : Data
  points : Thread → Point Stage
  held : Thread → List (Lock × LockMode)
  queues : Lock → List Thread

inductive ThreadStep (Thread Call : Type) where
  | start (thread : Thread) (call : Call)
  | request (thread : Thread)
  | acquire (thread : Thread)
  | run (thread : Thread)
  | release (thread : Thread)

namespace ThreadState

variable {Thread Data Call Stage Lock : Type}

def initial (data : Data) : ThreadState Thread Data Stage Lock :=
  { data := data
    points := fun _ => .idle
    held := fun _ => []
    queues := fun _ => [] }

def Free (state : ThreadState Thread Data Stage Lock) (lock : Lock) (mode : LockMode) : Prop :=
  ∀ thread, ∀ taken ∈ state.held thread, taken.1 = lock → ¬taken.2.Conflicts mode

instance [Fintype Thread] [DecidableEq Lock] (state : ThreadState Thread Data Stage Lock)
    (lock : Lock) (mode : LockMode) : Decidable (state.Free lock mode) :=
  inferInstanceAs (Decidable (∀ thread, ∀ taken ∈ state.held thread, taken.1 = lock → _))

def Waits (program : LockProgram Data Call Stage Lock)
    (state : ThreadState Thread Data Stage Lock) (thread : Thread) (lock : Lock)
    (mode : LockMode) : Prop :=
  thread ∈ state.queues lock ∧
    ∃ stage, state.points thread = .entering stage ∧ program.lock? stage = some (lock, mode)

def asks? (program : LockProgram Data Call Stage Lock) : Point Stage → Option (Lock × LockMode)
  | .entering stage => program.lock? stage
  | _ => none

theorem waits_iff {program : LockProgram Data Call Stage Lock}
    {state : ThreadState Thread Data Stage Lock} {thread : Thread} {lock : Lock}
    {mode : LockMode} : state.Waits program thread lock mode ↔
      thread ∈ state.queues lock ∧ asks? program (state.points thread) = some (lock, mode) := by
  refine and_congr_right (fun _ => ?_)
  constructor
  · rintro ⟨stage, place, wants⟩
    rw [place]
    exact wants
  · intro asks
    cases place : state.points thread with
    | entering stage =>
        rw [place] at asks
        exact ⟨stage, rfl, asks⟩
    | idle | inside | leaving | returning =>
        rw [place] at asks
        cases asks

instance [DecidableEq Thread] [DecidableEq Lock] (program : LockProgram Data Call Stage Lock)
    (state : ThreadState Thread Data Stage Lock) (thread : Thread) (lock : Lock)
    (mode : LockMode) : Decidable (state.Waits program thread lock mode) :=
  decidable_of_iff _ waits_iff.symm

/-- The first thread waits for a lock that the second one holds, or has asked for
earlier, in a mode that conflicts. -/
def BlockedBy (program : LockProgram Data Call Stage Lock)
    (state : ThreadState Thread Data Stage Lock) (thread other : Thread) : Prop :=
  ∃ lock mode, state.Waits program thread lock mode ∧
    ((∃ taken, (lock, taken) ∈ state.held other ∧ taken.Conflicts mode) ∨
      ∃ asked, state.Waits program other lock asked ∧ asked.Conflicts mode ∧
        [other, thread].Sublist (state.queues lock))

def Deadlocked (program : LockProgram Data Call Stage Lock)
    (state : ThreadState Thread Data Stage Lock) (threads : Set Thread) : Prop :=
  threads.Nonempty ∧ ∀ thread ∈ threads, ∃ other ∈ threads, state.BlockedBy program thread other

end ThreadState

namespace LockProgram

open ThreadState

variable {Thread Data Call Stage Lock : Type} [Fintype Thread] [DecidableEq Thread]
  [DecidableEq Lock]

def setPoint (state : ThreadState Thread Data Stage Lock) (thread : Thread)
    (point : Point Stage) : ThreadState Thread Data Stage Lock :=
  { state with points := Function.update state.points thread point }

def perform (program : LockProgram Data Call Stage Lock)
    (state : ThreadState Thread Data Stage Lock) :
    ThreadStep Thread Call → ThreadState Thread Data Stage Lock
  | .start thread call =>
      match state.points thread, program.enter state.data call with
      | .idle, some (data, stage) =>
          { setPoint state thread (.entering stage) with data := data }
      | _, _ => state
  | .request thread =>
      match state.points thread with
      | .entering stage =>
          match program.lock? stage with
          | some (lock, _) =>
              if thread ∈ state.queues lock then state
              else
                { state with
                  queues := Function.update state.queues lock (state.queues lock ++ [thread]) }
          | none => state
      | _ => state
  | .acquire thread =>
      match state.points thread with
      | .entering stage =>
          match program.lock? stage with
          | none => setPoint state thread (.inside stage)
          | some (lock, mode) =>
              if thread ∈ state.queues lock ∧ state.Free lock mode then
                { setPoint state thread (.inside stage) with
                  held := Function.update state.held thread ((lock, mode) :: state.held thread)
                  queues := Function.update state.queues lock
                    ((state.queues lock).erase thread) }
              else state
      | _ => state
  | .run thread =>
      match state.points thread with
      | .inside stage =>
          let result := program.body state.data stage
          { setPoint state thread (.follow stage result.2) with data := result.1 }
      | _ => state
  | .release thread =>
      let rest := (state.held thread).tail
      match state.points thread with
      | .leaving _ next =>
          { setPoint state thread (.entering next) with
            held := Function.update state.held thread rest }
      | .returning stage =>
          { setPoint state thread (if rest = [] then .idle else .returning stage) with
            held := Function.update state.held thread rest }
      | _ => state

def machine (program : LockProgram Data Call Stage Lock) :
    LabelledMachine (ThreadState Thread Data Stage Lock) (ThreadStep Thread Call) Unit :=
  { next := program.perform
    emit := fun _ _ => [] }

/-! ### What a step does -/

inductive StepEffect (program : LockProgram Data Call Stage Lock)
    (state : ThreadState Thread Data Stage Lock) :
    ThreadStep Thread Call → ThreadState Thread Data Stage Lock → Prop
  | none (step : ThreadStep Thread Call) : StepEffect program state step state
  | start (thread : Thread) (call : Call) (data : Data) (stage : Stage)
      (idle : state.points thread = .idle)
      (enters : program.enter state.data call = some (data, stage)) :
      StepEffect program state (.start thread call)
        { setPoint state thread (.entering stage) with data := data }
  | request (thread : Thread) (stage : Stage) (lock : Lock) (mode : LockMode)
      (place : state.points thread = .entering stage)
      (wants : program.lock? stage = some (lock, mode)) (new : thread ∉ state.queues lock) :
      StepEffect program state (.request thread)
        { state with queues := Function.update state.queues lock (state.queues lock ++ [thread]) }
  | pass (thread : Thread) (stage : Stage) (place : state.points thread = .entering stage)
      (wants : program.lock? stage = Option.none) :
      StepEffect program state (.acquire thread) (setPoint state thread (.inside stage))
  | acquire (thread : Thread) (stage : Stage) (lock : Lock) (mode : LockMode)
      (place : state.points thread = .entering stage)
      (wants : program.lock? stage = some (lock, mode)) (queued : thread ∈ state.queues lock)
      (free : state.Free lock mode) :
      StepEffect program state (.acquire thread)
        { setPoint state thread (.inside stage) with
          held := Function.update state.held thread ((lock, mode) :: state.held thread)
          queues := Function.update state.queues lock ((state.queues lock).erase thread) }
  | run (thread : Thread) (stage : Stage) (place : state.points thread = .inside stage) :
      StepEffect program state (.run thread)
        { setPoint state thread (.follow stage (program.body state.data stage).2) with
          data := (program.body state.data stage).1 }
  | leave (thread : Thread) (stage next : Stage)
      (place : state.points thread = .leaving stage next) :
      StepEffect program state (.release thread)
        { setPoint state thread (.entering next) with
          held := Function.update state.held thread (state.held thread).tail }
  | unwind (thread : Thread) (stage : Stage) (place : state.points thread = .returning stage) :
      StepEffect program state (.release thread)
        { setPoint state thread
            (if (state.held thread).tail = [] then .idle else .returning stage) with
          held := Function.update state.held thread (state.held thread).tail }

theorem perform_effect (program : LockProgram Data Call Stage Lock)
    (state : ThreadState Thread Data Stage Lock) (step : ThreadStep Thread Call) :
    StepEffect program state step (program.perform state step) := by
  cases step with
  | start thread call =>
      simp only [perform]
      split
      next data stage idle enters => exact .start thread call data stage idle enters
      next => exact .none _
  | request thread =>
      simp only [perform]
      split
      next stage place =>
        split
        next lock mode wants =>
          split_ifs with queued
          · exact .none _
          · exact .request thread stage lock mode place wants queued
        next => exact .none _
      next => exact .none _
  | acquire thread =>
      simp only [perform]
      split
      next stage place =>
        split
        next wants => exact .pass thread stage place wants
        next lock mode wants =>
          split_ifs with granted
          · exact .acquire thread stage lock mode place wants granted.1 granted.2
          · exact .none _
      next => exact .none _
  | run thread =>
      simp only [perform]
      split
      next stage place => exact .run thread stage place
      next => exact .none _
  | release thread =>
      simp only [perform]
      split
      next stage next place => exact .leave thread stage next place
      next stage place => exact .unwind thread stage place
      next => exact .none _

/-! ### Mutual exclusion -/

section Invariants

variable {program : LockProgram Data Call Stage Lock} {state : ThreadState Thread Data Stage Lock}
  {step : ThreadStep Thread Call}

def Exclusive (state : ThreadState Thread Data Stage Lock) : Prop :=
  ∀ thread other, thread ≠ other → ∀ lock mode taken, (lock, mode) ∈ state.held thread →
    (lock, taken) ∈ state.held other → ¬mode.Conflicts taken

omit [Fintype Thread] [DecidableEq Thread] [DecidableEq Lock] in
theorem Exclusive.of_subset {later : ThreadState Thread Data Stage Lock}
    (exclusive : Exclusive state) (fewer : ∀ thread, later.held thread ⊆ state.held thread) :
    Exclusive later := by
  intro thread other different lock mode taken first second
  exact exclusive thread other different lock mode taken (fewer thread first)
    (fewer other second)

omit [Fintype Thread] [DecidableEq Lock] in
theorem release_subset (state : ThreadState Thread Data Stage Lock) (thread other : Thread) :
    Function.update state.held thread (state.held thread).tail other ⊆ state.held other := by
  rw [Function.update_apply]
  split_ifs with here
  · rw [here]
    exact List.tail_subset _
  · exact List.Subset.refl _

theorem exclusive_step (exclusive : Exclusive state) :
    Exclusive (program.perform state step) := by
  have effect := perform_effect program state step
  generalize program.perform state step = later at effect
  cases effect with
  | none | start | request | pass | run => exact exclusive
  | leave thread stage next place => exact exclusive.of_subset (release_subset state thread)
  | unwind thread stage place => exact exclusive.of_subset (release_subset state thread)
  | acquire thread stage lock mode place wants queued free =>
      intro first second different held mine taken inFirst inSecond
      simp only [Function.update_apply] at inFirst inSecond
      split_ifs at inFirst with firstHere
      · split_ifs at inSecond with secondHere
        · exact absurd (firstHere.trans secondHere.symm) different
        · rcases List.mem_cons.mp inFirst with new | old
          · cases new
            intro conflict
            exact free second _ inSecond rfl conflict.symm
          · exact exclusive first second different held mine taken (firstHere ▸ old) inSecond
      · split_ifs at inSecond with secondHere
        · rcases List.mem_cons.mp inSecond with new | old
          · cases new
            exact free first _ inFirst rfl
          · exact exclusive first second different held mine taken inFirst (secondHere ▸ old)
        · exact exclusive first second different held mine taken inFirst inSecond

/-! ### Queues -/

def Queued (program : LockProgram Data Call Stage Lock)
    (state : ThreadState Thread Data Stage Lock) : Prop :=
  ∀ lock, (state.queues lock).Nodup ∧
    ∀ thread ∈ state.queues lock, ∃ mode, state.Waits program thread lock mode

omit [Fintype Thread] [DecidableEq Thread] [DecidableEq Lock] in
theorem Queued.notMem (queued : Queued program state) {thread : Thread}
    (elsewhere : ∀ stage, state.points thread ≠ .entering stage) (lock : Lock) :
    thread ∉ state.queues lock := by
  intro member
  obtain ⟨_, _, stage, place, _⟩ := (queued lock).2 thread member
  exact elsewhere stage place

/-- A step of a thread that is in no queue after it.  Nothing changes for the
others. -/
structure Moves (state later : ThreadState Thread Data Stage Lock) (mover : Thread) : Prop where
  fewer : ∀ lock, (later.queues lock).Sublist (state.queues lock)
  gone : ∀ lock, mover ∉ later.queues lock
  points : ∀ other, other ≠ mover → later.points other = state.points other
  held : ∀ other, other ≠ mover → later.held other = state.held other

omit [Fintype Thread] [DecidableEq Thread] [DecidableEq Lock] in
theorem Moves.waits {later : ThreadState Thread Data Stage Lock} {mover : Thread}
    (moves : Moves state later mover) {thread : Thread} {lock : Lock} {mode : LockMode}
    (member : thread ∈ later.queues lock) :
    later.Waits program thread lock mode ↔ state.Waits program thread lock mode := by
  have different : thread ≠ mover := by
    rintro rfl
    exact moves.gone lock member
  unfold Waits
  rw [moves.points thread different]
  exact and_congr_left (fun _ => ⟨fun _ => (moves.fewer lock).subset member, fun _ => member⟩)

/-- A step does nothing, or adds one thread to the end of one queue, or moves a
thread that no queue has afterwards. -/
theorem queues_step (queued : Queued program state) :
    program.perform state step = state ∨
      (∃ thread stage lock mode, step = .request thread ∧ state.points thread = .entering stage ∧
        program.lock? stage = some (lock, mode) ∧ thread ∉ state.queues lock ∧
        program.perform state step =
          { state with
            queues := Function.update state.queues lock (state.queues lock ++ [thread]) }) ∨
      ∃ mover, Moves state (program.perform state step) mover := by
  have effect := perform_effect program state step
  generalize program.perform state step = later at effect
  -- A thread that was in no queue moves, and the queues stay as they are.
  have outside {mover : Thread} {later : ThreadState Thread Data Stage Lock}
      (elsewhere : ∀ stage, state.points mover ≠ .entering stage)
      (same : later.queues = state.queues)
      (points : ∀ other, other ≠ mover → later.points other = state.points other)
      (held : ∀ other, other ≠ mover → later.held other = state.held other) :
      ∃ mover, Moves state later mover := by
    refine ⟨mover, ?_, ?_, points, held⟩
    · intro lock
      rw [same]
    · rw [same]
      exact queued.notMem elsewhere
  cases effect with
  | none => exact Or.inl rfl
  | request thread stage lock mode place wants new =>
      exact Or.inr (Or.inl ⟨thread, stage, lock, mode, rfl, place, wants, new, rfl⟩)
  | start thread call data stage idle enters =>
      refine Or.inr (Or.inr (outside (fun stage place => nomatch idle.symm.trans place) rfl ?_ ?_))
      · exact fun other different => Function.update_of_ne different _ _
      · exact fun other _ => rfl
  | run thread stage place =>
      refine Or.inr (Or.inr (outside (fun stage other => nomatch place.symm.trans other) rfl ?_ ?_))
      · exact fun other different => Function.update_of_ne different _ _
      · exact fun other _ => rfl
  | leave thread stage next place =>
      refine Or.inr (Or.inr (outside (fun stage other => nomatch place.symm.trans other) rfl ?_ ?_))
      · exact fun other different => Function.update_of_ne different _ _
      · exact fun other different => Function.update_of_ne different _ _
  | unwind thread stage place =>
      refine Or.inr (Or.inr (outside (fun stage other => nomatch place.symm.trans other) rfl ?_ ?_))
      · exact fun other different => Function.update_of_ne different _ _
      · exact fun other different => Function.update_of_ne different _ _
  | pass thread stage place wants =>
      refine Or.inr (Or.inr ⟨thread, fun _ => List.Sublist.refl _, ?_, ?_, fun other _ => rfl⟩)
      · intro lock member
        obtain ⟨mode, _, other, entering, wantsLock⟩ := (queued lock).2 thread member
        cases place.symm.trans entering
        cases wants.symm.trans wantsLock
      · exact fun other different => Function.update_of_ne different _ _
  | acquire thread stage lock mode place wants member free =>
      refine Or.inr (Or.inr ⟨thread, ?_, ?_, ?_, ?_⟩)
      · intro other
        simp only [Function.update_apply]
        split_ifs with here
        · rw [here]
          exact List.erase_sublist
        · exact List.Sublist.refl _
      · intro other
        simp only [Function.update_apply]
        split_ifs with here
        · rw [(queued lock).1.mem_erase_iff]
          exact fun left => left.1 rfl
        · intro inOther
          obtain ⟨_, _, stage', entering, wantsOther⟩ := (queued other).2 thread inOther
          cases place.symm.trans entering
          cases wants.symm.trans wantsOther
          exact here rfl
      · exact fun other different => Function.update_of_ne different _ _
      · exact fun other different => Function.update_of_ne different _ _

theorem queued_step (queued : Queued program state) :
    Queued program (program.perform state step) := by
  rcases (queues_step queued : program.perform state step = state ∨ _ ∨ _) with
    same | ⟨thread, stage, lock, mode, _, place, wants, new, same⟩ | ⟨mover, moves⟩
  · rw [same]
    exact queued
  · rw [same]
    have waits {other : Lock} {waiting : Thread} {asked : LockMode}
        (before : state.Waits program waiting other asked) : Waits program
          { state with
            queues := Function.update state.queues lock (state.queues lock ++ [thread]) }
          waiting other asked := by
      refine ⟨?_, before.2⟩
      simp only [Function.update_apply]
      split_ifs with here
      · exact List.mem_append_left _ (here ▸ before.1)
      · exact before.1
    intro other
    by_cases here : other = lock
    · subst here
      simp only [Function.update_self]
      refine ⟨List.Nodup.append (queued other).1 (List.nodup_singleton _)
        (List.disjoint_singleton.mpr new), ?_⟩
      intro waiting member
      rcases List.mem_append.mp member with old | last
      · obtain ⟨asked, before⟩ := (queued other).2 waiting old
        exact ⟨asked, waits before⟩
      · cases List.mem_singleton.mp last
        refine ⟨mode, ?_, stage, place, wants⟩
        simp only [Function.update_self]
        exact member
    · simp only [Function.update_of_ne here]
      refine ⟨(queued other).1, ?_⟩
      intro waiting member
      obtain ⟨asked, before⟩ := (queued other).2 waiting member
      exact ⟨asked, waits before⟩
  · intro lock
    refine ⟨(queued lock).1.sublist (moves.fewer lock), ?_⟩
    intro other member
    obtain ⟨mode, waits⟩ := (queued lock).2 other ((moves.fewer lock).subset member)
    exact ⟨mode, (moves.waits member).mpr waits⟩

/-! ### Scopes -/

/-- The locks that are held where a stage begins.  They follow from the program: a
call begins with none, a nested stage with one more, and the stage after a scope
with those before it. -/
structure Scopes (program : LockProgram Data Call Stage Lock) where
  outer : Stage → List (Lock × LockMode)
  outer_enter : ∀ {data later : Data} {call : Call} {stage : Stage},
    program.enter data call = some (later, stage) → outer stage = []
  outer_nest : ∀ {data : Data} {stage next : Stage}, (program.body data stage).2 = .nest next →
    outer next = (program.lock? stage).toList ++ outer stage
  outer_leave : ∀ {data : Data} {stage next : Stage}, (program.body data stage).2 = .leave next →
    outer next = outer stage ∧ (program.lock? stage).isSome

namespace Scopes

variable (scopes : Scopes program)

def inner (stage : Stage) : List (Lock × LockMode) :=
  (program.lock? stage).toList ++ scopes.outer stage

def Fits (held : List (Lock × LockMode)) : Point Stage → Prop
  | .idle => held = []
  | .entering stage => held = scopes.outer stage
  | .inside stage => held = scopes.inner stage
  | .leaving stage next => held = scopes.inner stage ∧ held.tail = scopes.outer next
  | .returning stage => held <:+ scopes.inner stage

omit [Fintype Thread] [DecidableEq Thread] [DecidableEq Lock] in
theorem outer_subset {thread : Thread} {stage : Stage}
    (fits : scopes.Fits (state.held thread) (state.points thread))
    (comes : (state.points thread).pending? = some stage) :
    scopes.outer stage ⊆ state.held thread := by
  cases place : state.points thread with
  | idle | returning =>
      rw [place] at comes
      cases comes
  | entering other =>
      rw [place] at comes fits
      cases comes
      exact (fits : state.held thread = _) ▸ List.Subset.refl _
  | inside other =>
      rw [place] at comes fits
      cases comes
      rw [(fits : state.held thread = _)]
      exact List.subset_append_right _ _
  | leaving other next =>
      rw [place] at comes fits
      cases comes
      rw [← fits.2]
      exact List.tail_subset _

theorem fits_step (fits : ∀ thread, scopes.Fits (state.held thread) (state.points thread))
    (thread : Thread) : scopes.Fits ((program.perform state step).held thread)
      ((program.perform state step).points thread) := by
  have effect := perform_effect program state step
  generalize program.perform state step = later at effect
  have before := fits thread
  cases effect with
  | none | request => exact before
  | start mover call data stage idle enters =>
      simp only [setPoint, Function.update_apply]
      split_ifs with here
      · rw [here, idle] at before
        rw [here]
        exact before.trans (scopes.outer_enter enters).symm
      · exact before
  | pass mover stage place wants =>
      simp only [setPoint, Function.update_apply]
      split_ifs with here
      · rw [here, place] at before
        rw [here]
        change state.held mover = scopes.inner stage
        rw [inner, wants]
        exact before
      · exact before
  | acquire mover stage lock mode place wants queued free =>
      simp only [setPoint, Function.update_apply]
      split_ifs with here
      · rw [here, place] at before
        change (lock, mode) :: state.held mover = scopes.inner stage
        rw [inner, wants, before]
        rfl
      · exact before
  | run mover stage place =>
      simp only [setPoint, Function.update_apply]
      split_ifs with here
      · rw [here, place] at before
        rw [here]
        cases way : (program.body state.data stage).2 with
        | nest next => exact before.trans (scopes.outer_nest way).symm
        | leave next =>
            obtain ⟨same, locked⟩ := scopes.outer_leave way
            refine ⟨before, ?_⟩
            obtain ⟨taken, wants⟩ := Option.isSome_iff_exists.mp locked
            rw [before, inner, wants, same]
            rfl
        | finish => exact before ▸ List.suffix_refl _
      · exact before
  | leave mover stage next place =>
      simp only [setPoint, Function.update_apply]
      split_ifs with here
      · rw [here, place] at before
        exact before.2
      · exact before
  | unwind mover stage place =>
      simp only [setPoint, Function.update_apply]
      split_ifs with here empty
      · exact empty
      · rw [here, place] at before
        exact (List.tail_suffix _).trans before
      · exact before

end Scopes

/-! ### Stages to come -/

def Somewhere (pending : Thread → Option Stage) (property : Stage → Prop) : Prop :=
  ∃ thread stage, pending thread = some stage ∧ property stage

omit [Fintype Thread] in
theorem Somewhere.of_update {pending : Thread → Option Stage} {property : Stage → Prop}
    {thread : Thread} {next : Option Stage}
    (later : Somewhere (Function.update pending thread next) property) :
    (∃ stage, next = some stage ∧ property stage) ∨
      ∃ other stage, other ≠ thread ∧ pending other = some stage ∧ property stage := by
  obtain ⟨other, stage, comes, holds⟩ := later
  rw [Function.update_apply] at comes
  split_ifs at comes with here
  · exact Or.inl ⟨stage, comes, holds⟩
  · exact Or.inr ⟨other, stage, here, comes, holds⟩

omit [Fintype Thread] in
/-- The property stays somewhere, unless it was before the moving thread only. -/
theorem Somewhere.update {pending : Thread → Option Stage} {property : Stage → Prop}
    {thread : Thread} {next : Option Stage} (before : Somewhere pending property)
    (passes : ∀ stage, pending thread = some stage → property stage →
      ∃ later, next = some later ∧ property later) :
    Somewhere (Function.update pending thread next) property := by
  obtain ⟨other, stage, comes, holds⟩ := before
  by_cases here : other = thread
  · obtain ⟨later, nextEq, still⟩ := passes stage (here ▸ comes) holds
    exact ⟨thread, later, (Function.update_self _ _ _).trans nextEq, still⟩
  · exact ⟨other, stage, (Function.update_of_ne here _ _).trans comes, holds⟩

omit [Fintype Thread] [DecidableEq Lock] in
theorem current?_update {thread mover : Thread} {point : Point Stage}
    (same : point.current? = (state.points mover).current?) :
    (Function.update state.points mover point thread).current? =
      (state.points thread).current? := by
  rw [Function.update_apply]
  split_ifs with here
  · rw [same, here]
  · rfl

/-- What a step does to the data and to the stages to come: one that neither starts a call
nor runs a body leaves them alone. -/
inductive PendingEffect (program : LockProgram Data Call Stage Lock)
    (state : ThreadState Thread Data Stage Lock) :
    ThreadStep Thread Call → Data → (Thread → Option Stage) → Prop
  | none (step : ThreadStep Thread Call)
      (outside : ∀ thread stage, step = .run thread → state.points thread ≠ .inside stage) :
      PendingEffect program state step state.data (fun thread => (state.points thread).pending?)
  | start (thread : Thread) (call : Call) (data : Data) (stage : Stage)
      (idle : state.points thread = .idle)
      (enters : program.enter state.data call = some (data, stage)) :
      PendingEffect program state (.start thread call) data
        (Function.update (fun thread => (state.points thread).pending?) thread (some stage))
  | run (thread : Thread) (stage : Stage) (place : state.points thread = .inside stage) :
      PendingEffect program state (.run thread) (program.body state.data stage).1
        (Function.update (fun thread => (state.points thread).pending?) thread
          (program.body state.data stage).2.next?)

theorem pending_effect (program : LockProgram Data Call Stage Lock)
    (state : ThreadState Thread Data Stage Lock) (step : ThreadStep Thread Call) :
    PendingEffect program state step (program.perform state step).data
      (fun thread => ((program.perform state step).points thread).pending?) := by
  have effect := perform_effect program state step
  generalize performed : program.perform state step = later at effect
  have moved (mover : Thread) (point : Point Stage) :
      (fun thread => (Function.update state.points mover point thread).pending?) =
        Function.update (fun thread => (state.points thread).pending?) mover point.pending? := by
    funext thread
    simp only [Function.update_apply]
    split_ifs <;> rfl
  have stays {step : ThreadStep Thread Call} {mover : Thread} {point : Point Stage}
      (outside : ∀ thread, step ≠ .run thread)
      (same : point.pending? = (state.points mover).pending?) :
      PendingEffect program state step state.data
        (fun thread => (Function.update state.points mover point thread).pending?) := by
    rw [moved, same, Function.update_eq_self]
    exact .none step (fun thread _ own => absurd own (outside thread))
  cases effect with
  | none =>
      refine .none step ?_
      rintro thread stage rfl place
      -- The point of the thread would have changed.
      have points := congrArg (fun reached => reached.points thread) performed
      simp only [perform, place, setPoint, Function.update_self] at points
      cases exit : (program.body state.data stage).2 <;> rw [exit] at points <;> cases points
  | request thread stage lock mode place wants new =>
      exact .none _ (by simp)
  | start thread call data stage idle enters =>
      change PendingEffect _ _ _ data
        (fun other => (Function.update state.points thread _ other).pending?)
      rw [moved]
      exact .start thread call data stage idle enters
  | run thread stage place =>
      change PendingEffect _ _ _ _
        (fun other => (Function.update state.points thread _ other).pending?)
      rw [moved, Point.pending?_follow]
      exact .run thread stage place
  | pass thread stage place wants => exact stays (by simp) (by rw [place]; rfl)
  | acquire thread stage lock mode place wants queued free =>
      exact stays (by simp) (by rw [place]; rfl)
  | leave thread stage next place => exact stays (by simp) (by rw [place]; rfl)
  | unwind thread stage place =>
      refine stays (by simp) ?_
      rw [place]
      split_ifs <;> rfl

/-- A step that neither starts a call nor runs a body leaves the data and the
stages to come alone. -/
theorem pending_step (inv : Data → (Thread → Option Stage) → Prop)
    (holds : inv state.data (fun thread => (state.points thread).pending?))
    (starts : ∀ thread call data stage, state.points thread = .idle →
      program.enter state.data call = some (data, stage) →
      inv data (Function.update (fun thread => (state.points thread).pending?) thread (some stage)))
    (runs : ∀ thread stage, state.points thread = .inside stage →
      inv (program.body state.data stage).1
        (Function.update (fun thread => (state.points thread).pending?) thread
          (program.body state.data stage).2.next?)) :
    inv (program.perform state step).data
      (fun thread => ((program.perform state step).points thread).pending?) := by
  have effect := pending_effect program state step
  generalize (program.perform state step).data = later,
    (fun thread => ((program.perform state step).points thread).pending?) = pending at effect ⊢
  cases effect with
  | none => exact holds
  | start thread call _ stage idle enters => exact starts thread call later stage idle enters
  | run thread stage place => exact runs thread stage place

/-! ### The states of a run -/

namespace Scopes

/-- What the locks are like in every state of a run. -/
structure Orderly (scopes : Scopes program) (state : ThreadState Thread Data Stage Lock) :
    Prop where
  exclusive : Exclusive state
  queued : Queued program state
  fits : ∀ thread, scopes.Fits (state.held thread) (state.points thread)

omit [Fintype Thread] [DecidableEq Thread] [DecidableEq Lock] in
theorem orderly_initial (scopes : Scopes program) (data : Data) :
    scopes.Orderly (ThreadState.initial data : ThreadState Thread Data Stage Lock) :=
  { exclusive := fun _ _ _ _ _ _ member => nomatch member
    queued := fun _ => ⟨List.nodup_nil, fun _ member => nomatch member⟩
    fits := fun _ => rfl }

theorem Orderly.perform {scopes : Scopes program} (orderly : scopes.Orderly state)
    (step : ThreadStep Thread Call) : scopes.Orderly (program.perform state step) :=
  { exclusive := exclusive_step orderly.exclusive
    queued := queued_step orderly.queued
    fits := scopes.fits_step orderly.fits }

/-- The locks of a thread in the body of the stage keep the others out of the stages that
begin under a conflicting lock. -/
def Apart (scopes : Scopes program) (pending : Thread → Option Stage) (thread : Thread)
    (stage : Stage) : Prop :=
  ∀ other begun, other ≠ thread → pending other = some begun → ∀ lock mode taken,
    (lock, mode) ∈ scopes.inner stage → (lock, taken) ∈ scopes.outer begun →
      ¬mode.Conflicts taken

omit [Fintype Thread] [DecidableEq Thread] [DecidableEq Lock] in
theorem Orderly.apart {scopes : Scopes program} {thread : Thread} {stage : Stage}
    (orderly : scopes.Orderly state) (place : state.points thread = .inside stage) :
    scopes.Apart (fun thread => (state.points thread).pending?) thread stage := by
  intro other begun different comes lock mode taken mine theirs
  have held := orderly.fits thread
  rw [place] at held
  refine orderly.exclusive thread other different.symm lock mode taken ?_ ?_
  · rw [(held : state.held thread = _)]
    exact mine
  · exact scopes.outer_subset (orderly.fits other) comes theirs

end Scopes

/-! ### Deadlock -/

omit [Fintype Thread] [DecidableEq Thread] [DecidableEq Lock] in
/-- Of the threads of a set that are in a queue, the first one is blocked by a
holder. -/
private theorem exists_first {threads : Set Thread} {queue : List Thread}
    (blocked : Thread → Prop) (nodup : queue.Nodup)
    (step : ∀ thread ∈ queue, thread ∈ threads →
      blocked thread ∨ ∃ other ∈ threads, [other, thread].Sublist queue)
    {thread : Thread} (member : thread ∈ queue) (within : thread ∈ threads) :
    ∃ first ∈ queue, first ∈ threads ∧ blocked first := by
  induction queue with
  | nil => cases member
  | cons head rest ih =>
      obtain ⟨notIn, restNodup⟩ := List.nodup_cons.mp nodup
      by_cases inside : head ∈ threads
      · rcases step head List.mem_cons_self inside with direct | ⟨other, _, behind⟩
        · exact ⟨head, List.mem_cons_self, inside, direct⟩
        · -- Nobody is ahead of the head.
          exfalso
          rcases List.sublist_cons_iff.mp behind with later | ⟨_, pair, later⟩
          · exact notIn (later.subset (List.mem_cons_of_mem _ List.mem_cons_self))
          · cases pair
            exact notIn (later.subset List.mem_cons_self)
      · have inRest : thread ∈ rest :=
          (List.mem_cons.mp member).resolve_left (fun same => inside (same ▸ within))
        obtain ⟨first, inQueue, found⟩ := ih restNodup (by
          intro waiting waitingMember waitingWithin
          rcases step waiting (List.mem_cons_of_mem _ waitingMember) waitingWithin with
            direct | ⟨other, otherWithin, behind⟩
          · exact Or.inl direct
          · refine Or.inr ⟨other, otherWithin, ?_⟩
            rcases List.sublist_cons_iff.mp behind with later | ⟨_, pair, _⟩
            · exact later
            · cases pair
              exact absurd otherWithin inside) inRest
        exact ⟨first, List.mem_cons_of_mem _ inQueue, found⟩

end Invariants

end LockProgram

namespace ThreadState

variable {Thread Data Call Stage Lock : Type} {program : LockProgram Data Call Stage Lock}
  {state : ThreadState Thread Data Stage Lock}

theorem Waits.unique {thread : Thread} {lock other : Lock} {mode taken : LockMode}
    (waits : state.Waits program thread lock mode)
    (again : state.Waits program thread other taken) : other = lock ∧ taken = mode := by
  obtain ⟨_, stage, place, wants⟩ := waits
  obtain ⟨_, stage', place', wants'⟩ := again
  cases place.symm.trans place'
  cases wants.symm.trans wants'
  exact ⟨rfl, rfl⟩

/-- If a thread of the set waits for a lock, then one of the set that waits for it
is blocked by a holder in the set. -/
theorem Deadlocked.exists_holder {threads : Set Thread} {thread : Thread} {lock : Lock}
    {mode : LockMode} (deadlocked : state.Deadlocked program threads)
    (queued : LockProgram.Queued program state) (within : thread ∈ threads)
    (waits : state.Waits program thread lock mode) :
    ∃ waiter ∈ threads, ∃ holder ∈ threads, ∃ asked taken,
      state.Waits program waiter lock asked ∧ (lock, taken) ∈ state.held holder ∧
        taken.Conflicts asked := by
  obtain ⟨nodup, waiting⟩ := queued lock
  obtain ⟨first, _, firstWithin, holder, holderWithin, asked, taken, found⟩ :=
    LockProgram.exists_first (fun waiter => ∃ holder ∈ threads, ∃ asked taken,
      state.Waits program waiter lock asked ∧ (lock, taken) ∈ state.held holder ∧
        taken.Conflicts asked) nodup (by
      intro waiter member waiterWithin
      obtain ⟨asked, waiterWaits⟩ := waiting waiter member
      obtain ⟨other, otherWithin, lock', mode', again, blocks⟩ := deadlocked.2 waiter waiterWithin
      obtain ⟨rfl, rfl⟩ := waiterWaits.unique again
      rcases blocks with ⟨taken, held, conflict⟩ | ⟨_, _, _, ahead⟩
      · exact Or.inl ⟨other, otherWithin, mode', taken, waiterWaits, held, conflict⟩
      · exact Or.inr ⟨other, otherWithin, ahead⟩) waits.1 within
  exact ⟨first, firstWithin, holder, holderWithin, asked, taken, found⟩

/-- If a thread that waits with a lock waits for one of a lower rank, apart from some
locks, then a deadlock is one about these locks. -/
theorem Deadlocked.exists_waits {threads : Set Thread} (rank : Lock → Nat) (apart : Lock → Prop)
    (deadlocked : state.Deadlocked program threads) (queued : LockProgram.Queued program state)
    (falls : ∀ thread lock taken other mode, (lock, taken) ∈ state.held thread →
      state.Waits program thread other mode → apart lock ∨ rank other < rank lock) :
    ∃ thread ∈ threads, ∃ lock mode, apart lock ∧ state.Waits program thread lock mode := by
  have descend (bound : Nat) : ∀ thread ∈ threads, ∀ lock mode,
      state.Waits program thread lock mode → rank lock < bound →
      ∃ thread ∈ threads, ∃ lock mode, apart lock ∧ state.Waits program thread lock mode := by
    induction bound with
    | zero =>
        intro thread within lock mode waits below
        omega
    | succ bound ih =>
        intro thread within lock mode waits below
        obtain ⟨waiter, waiterWithin, holder, holderWithin, asked, taken, waiterWaits, held, _⟩ :=
          deadlocked.exists_holder queued within waits
        -- The holder is of the set as well, so it waits in its turn.
        obtain ⟨_, _, other, mode', holderWaits, _⟩ := deadlocked.2 holder holderWithin
        rcases falls holder lock taken other mode' held holderWaits with out | lower
        · exact ⟨waiter, waiterWithin, lock, asked, out, waiterWaits⟩
        · exact ih holder holderWithin other mode' holderWaits (by omega)
  obtain ⟨thread, within⟩ := deadlocked.1
  obtain ⟨_, _, lock, mode, waits, _⟩ := deadlocked.2 thread within
  exact descend (rank lock + 1) thread within lock mode waits (Nat.lt_succ_self _)

end ThreadState

namespace LockProgram.Scopes

variable {Thread Data Call Stage Lock : Type} {program : LockProgram Data Call Stage Lock}
  {scopes : Scopes program} {state : ThreadState Thread Data Stage Lock} {thread : Thread}
  {lock : Lock} {mode : LockMode}

theorem Orderly.stage_of_waits (orderly : scopes.Orderly state)
    (waits : state.Waits program thread lock mode) :
    ∃ stage, state.points thread = .entering stage ∧ program.lock? stage = some (lock, mode) ∧
      state.held thread = scopes.outer stage := by
  obtain ⟨_, stage, place, wants⟩ := waits
  have fits := orderly.fits thread
  rw [place] at fits
  exact ⟨stage, place, wants, fits⟩

theorem Orderly.stage_of_deadlocked {threads : Set Thread} (orderly : scopes.Orderly state)
    (deadlocked : state.Deadlocked program threads) (within : thread ∈ threads) :
    ∃ stage lock mode, state.points thread = .entering stage ∧
      program.lock? stage = some (lock, mode) ∧ state.Waits program thread lock mode ∧
        state.held thread = scopes.outer stage := by
  obtain ⟨_, _, lock, mode, waits, _⟩ := deadlocked.2 thread within
  obtain ⟨stage, place, wants, outer⟩ := orderly.stage_of_waits waits
  exact ⟨stage, lock, mode, place, wants, waits, outer⟩

theorem Orderly.exists_holder {threads : Set Thread} (orderly : scopes.Orderly state)
    (deadlocked : state.Deadlocked program threads) (within : thread ∈ threads)
    (waits : state.Waits program thread lock mode) :
    ∃ holder ∈ threads, ∃ taken, (lock, taken) ∈ state.held holder := by
  obtain ⟨_, _, holder, holderWithin, _, taken, _, held, _⟩ :=
    deadlocked.exists_holder orderly.queued within waits
  exact ⟨holder, holderWithin, taken, held⟩

theorem Orderly.held_of_idle (orderly : scopes.Orderly state)
    (idle : state.points thread = .idle) : state.held thread = [] := by
  have fits := orderly.fits thread
  rw [idle] at fits
  exact fits

theorem Orderly.busy_of_blocks {other : Thread} (orderly : scopes.Orderly state)
    (blocks : state.BlockedBy program other thread) : state.points thread ≠ .idle := by
  intro idle
  obtain ⟨_, _, _, ⟨_, held, _⟩ | ⟨_, ⟨_, _, place, _⟩, _⟩⟩ := blocks
  · rw [orderly.held_of_idle idle] at held
    cases held
  · cases idle.symm.trans place

end LockProgram.Scopes

namespace ThreadState

variable {Thread Data Call Stage Lock : Type} {program : LockProgram Data Call Stage Lock}
  {state : ThreadState Thread Data Stage Lock}

/-! ### Threads that can move -/

/-- The threads that a thread waits for, directly or through others, are deadlocked unless
one of them is not blocked. -/
theorem exists_unblocked {thread : Thread}
    (safe : ∀ threads, state.Deadlocked program threads → thread ∉ threads) :
    ∃ other, Relation.ReflTransGen (state.BlockedBy program) thread other ∧
      ∀ third, ¬state.BlockedBy program other third := by
  by_contra all
  simp only [not_exists, not_and, not_forall, not_not] at all
  refine safe { other | Relation.ReflTransGen (state.BlockedBy program) thread other }
    ⟨⟨thread, .refl⟩, ?_⟩ .refl
  intro other reached
  obtain ⟨third, blocked⟩ := all other reached
  exact ⟨third, reached.tail blocked, blocked⟩

section Moving

variable [Fintype Thread] [DecidableEq Thread] [DecidableEq Lock] {thread : Thread}

def CanMove (program : LockProgram Data Call Stage Lock)
    (state : ThreadState Thread Data Stage Lock) (thread : Thread) : Prop :=
  ∃ step ∈ [ThreadStep.request thread, .acquire thread, .run thread, .release thread],
    program.perform state step ≠ state

theorem canMove_of_points (step : ThreadStep Thread Call)
    (own : step ∈ [ThreadStep.request thread, .acquire thread, .run thread, .release thread])
    (moves : (program.perform state step).points thread ≠ state.points thread) :
    state.CanMove program thread := by
  refine ⟨step, own, fun same => moves ?_⟩
  rw [same]

theorem canMove_of_unblocked (free : ∀ third, ¬state.BlockedBy program thread third)
    (busy : state.points thread ≠ .idle) : state.CanMove program thread := by
  cases place : state.points thread with
  | idle => exact absurd place busy
  | entering stage =>
      cases wants : program.lock? stage with
      | none =>
          refine canMove_of_points (.acquire thread) (by simp) ?_
          simp [LockProgram.perform, place, wants, LockProgram.setPoint]
      | some wanted =>
          obtain ⟨lock, mode⟩ := wanted
          by_cases queued : thread ∈ state.queues lock
          · -- Nobody holds the lock in a conflicting mode.
            have granted : state.Free lock mode := by
              rintro holder ⟨held, taken⟩ member rfl conflict
              exact free holder ⟨held, mode, ⟨queued, stage, place, wants⟩,
                Or.inl ⟨taken, member, conflict⟩⟩
            refine canMove_of_points (.acquire thread) (by simp) ?_
            simp [LockProgram.perform, place, wants, LockProgram.setPoint, queued, granted]
          · refine ⟨.request thread, by simp, fun same => queued ?_⟩
            rw [← same]
            simp [LockProgram.perform, place, wants, queued]
  | inside stage =>
      refine canMove_of_points (.run thread) (by simp) ?_
      cases way : (program.body state.data stage).2 <;>
        simp [LockProgram.perform, place, LockProgram.setPoint, way, Point.follow]
  | leaving stage next =>
      refine canMove_of_points (.release thread) (by simp) ?_
      simp [LockProgram.perform, place, LockProgram.setPoint]
  | returning stage =>
      by_cases empty : (state.held thread).tail = []
      · refine canMove_of_points (.release thread) (by simp) ?_
        simp [LockProgram.perform, place, LockProgram.setPoint, empty]
      · refine ⟨.release thread, by simp, fun same => empty ?_⟩
        have fewer := congrArg (fun later => (later.held thread).length) same
        simp only [LockProgram.perform, place, Function.update_self, List.length_tail] at fewer
        exact List.eq_nil_of_length_eq_zero (by rw [List.length_tail]; omega)

end Moving

end ThreadState

end Ffvms
