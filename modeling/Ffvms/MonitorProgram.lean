/-
Threads that share data under one mutex with one condition variable.

A section runs its body with the mutex held.  The body either finds that it has to
wait, whereupon the thread gives up the mutex and joins the wait set in one step, or
it changes the data and leaves.  A thread that has been woken, by a notification or
without one, asks for the mutex again and runs the section from its start, where it
tests what it waits for.  Notifications are steps of their own and need no mutex.

Seen from outside, a section is one step: the mutex and the wait set delay it but do
not change what it does.
-/

import Mathlib.Data.List.Basic
import Mathlib.Data.List.Nodup
import Mathlib.Logic.Function.Basic
import Ffvms.LabelledRun

namespace Ffvms

/-- What the body of a section does.  A body that waits has only read the data. -/
inductive SectionResult (Data Stage Event : Type) where
  | wait
  | leave (data : Data) (next : Option Stage) (events : List Event)

/-- What a thread does at a stage.  Where no stage follows, its call returns. -/
inductive MonitorAction (Thread Data Stage Event : Type) where
  | lock (body : Data → SectionResult Data Stage Event)
  | notifyOne (next : Option Stage)
  | notifyAll (next : Option Stage)
  | join (other : Thread) (next : Option Stage)
  | outside (events : List Event) (next : Option Stage)

namespace MonitorAction

variable {Thread Data Stage Event : Type}

def next? : MonitorAction Thread Data Stage Event → Option Stage
  | .lock _ => none
  | .notifyOne next | .notifyAll next | .join _ next | .outside _ next => next

def events : MonitorAction Thread Data Stage Event → List Event
  | .outside events _ => events
  | .lock _ | .notifyOne _ | .notifyAll _ | .join _ _ => []

end MonitorAction

structure MonitorProgram (Thread Data Call Stage Event : Type) where
  enter : Data → Thread → Call → Option Stage
  action : Stage → MonitorAction Thread Data Stage Event

/-- Where a thread is.  It holds the mutex inside a section: before the body, after
a body that waits and after one that leaves. -/
inductive MonitorPoint (Stage : Type) where
  | idle
  | before (stage : Stage)
  | inside (stage : Stage)
  | suspending (stage : Stage)
  | blocked (stage : Stage)
  | leaving (next : Option Stage)

namespace MonitorPoint

variable {Stage : Type}

def resume : Option Stage → MonitorPoint Stage
  | none => .idle
  | some stage => .before stage

def stage? : MonitorPoint Stage → Option Stage
  | .idle => none
  | .before stage | .inside stage | .suspending stage | .blocked stage => some stage
  | .leaving next => next

def holds : MonitorPoint Stage → Bool
  | .inside _ | .suspending _ | .leaving _ => true
  | .idle | .before _ | .blocked _ => false

def isBlocked : MonitorPoint Stage → Bool
  | .blocked _ => true
  | .idle | .before _ | .inside _ | .suspending _ | .leaving _ => false

def awaken : MonitorPoint Stage → MonitorPoint Stage
  | .blocked stage => .before stage
  | point => point

@[simp] theorem stage?_resume (next : Option Stage) : (resume next).stage? = next := by
  cases next <;> rfl

@[simp] theorem holds_resume (next : Option Stage) : (resume next).holds = false := by
  cases next <;> rfl

@[simp] theorem isBlocked_resume (next : Option Stage) : (resume next).isBlocked = false := by
  cases next <;> rfl

@[simp] theorem stage?_awaken (point : MonitorPoint Stage) :
    point.awaken.stage? = point.stage? := by
  cases point <;> rfl

@[simp] theorem holds_awaken (point : MonitorPoint Stage) : point.awaken.holds = point.holds := by
  cases point <;> rfl

@[simp] theorem isBlocked_awaken (point : MonitorPoint Stage) :
    point.awaken.isBlocked = false := by
  cases point <;> rfl

theorem awaken_eq_self {point : MonitorPoint Stage} (awake : point.isBlocked = false) :
    point.awaken = point := by
  cases point with
  | blocked => cases awake
  | idle | before | inside | suspending | leaving => rfl

end MonitorPoint

/-- The wait set lists the threads that are blocked and not yet notified. -/
structure MonitorState (Thread Data Stage : Type) where
  data : Data
  holder : Option Thread
  points : Thread → MonitorPoint Stage
  waiting : List Thread

/-- A notification of one thread comes with the thread that is chosen, if one waits.
A wake-up without a notification is a step too. -/
inductive MonitorStep (Thread Call : Type) where
  | start (thread : Thread) (call : Call)
  | acquire (thread : Thread)
  | run (thread : Thread)
  | release (thread : Thread)
  | notify (thread chosen : Thread)
  | proceed (thread : Thread)
  | wake (thread : Thread)

def MonitorStep.isStart {Thread Call : Type} : MonitorStep Thread Call → Bool
  | .start _ _ => true
  | .acquire _ | .run _ | .release _ | .notify _ _ | .proceed _ | .wake _ => false

namespace MonitorState

variable {Thread Data Stage : Type} [DecidableEq Thread]

def initial (data : Data) (first : Thread → Option Stage) : MonitorState Thread Data Stage :=
  { data := data
    holder := none
    points := fun thread => .resume (first thread)
    waiting := [] }

def setPoint (state : MonitorState Thread Data Stage) (thread : Thread)
    (point : MonitorPoint Stage) : MonitorState Thread Data Stage :=
  { state with points := Function.update state.points thread point }

def wake (state : MonitorState Thread Data Stage) (thread : Thread) :
    MonitorState Thread Data Stage :=
  { state with
    points := Function.update state.points thread (state.points thread).awaken
    waiting := state.waiting.erase thread }

def wakeAll (state : MonitorState Thread Data Stage) : MonitorState Thread Data Stage :=
  { state with
    points := fun thread => (state.points thread).awaken
    waiting := [] }

theorem setPoint_self (state : MonitorState Thread Data Stage) (thread : Thread)
    (point : MonitorPoint Stage) : (state.setPoint thread point).points thread = point := by
  simp only [setPoint, Function.update_self]

theorem setPoint_of_ne (state : MonitorState Thread Data Stage) {thread other : Thread}
    (point : MonitorPoint Stage) (different : other ≠ thread) :
    (state.setPoint thread point).points other = state.points other := by
  simp only [setPoint, Function.update_of_ne different]

theorem wake_points {state : MonitorState Thread Data Stage} {thread : Thread}
    (awake : (state.points thread).isBlocked = false) (chosen : Thread) :
    (state.wake chosen).points thread = state.points thread := by
  simp only [wake, Function.update_apply]
  split_ifs with here
  · rw [← here, MonitorPoint.awaken_eq_self awake]
  · rfl

theorem wake_before {state : MonitorState Thread Data Stage} {thread : Thread} {stage : Stage}
    (place : state.points thread = .before stage) (chosen : Thread) :
    (state.wake chosen).points thread = .before stage := by
  simp only [wake, Function.update_apply]
  split_ifs with here
  · rw [← here, place]
    rfl
  · exact place

omit [DecidableEq Thread] in
theorem wakeAll_before {state : MonitorState Thread Data Stage} {thread : Thread} {stage : Stage}
    (place : state.points thread = .before stage) :
    state.wakeAll.points thread = .before stage := by
  simp only [wakeAll, place]
  rfl

end MonitorState

namespace MonitorProgram

open MonitorState

variable {Thread Data Call Stage Event : Type} [DecidableEq Thread]

def perform (program : MonitorProgram Thread Data Call Stage Event)
    (state : MonitorState Thread Data Stage) :
    MonitorStep Thread Call → MonitorState Thread Data Stage
  | .start thread call =>
      match state.points thread, program.enter state.data thread call with
      | .idle, some stage => state.setPoint thread (.before stage)
      | _, _ => state
  | .acquire thread =>
      match state.points thread with
      | .before stage =>
          match program.action stage, state.holder with
          | .lock _, none => { state.setPoint thread (.inside stage) with holder := some thread }
          | _, _ => state
      | _ => state
  | .run thread =>
      match state.points thread with
      | .inside stage =>
          match program.action stage with
          | .lock body =>
              match body state.data with
              | .wait => state.setPoint thread (.suspending stage)
              | .leave data next _ => { state.setPoint thread (.leaving next) with data := data }
          | _ => state
      | _ => state
  | .release thread =>
      match state.points thread with
      | .suspending stage =>
          { state.setPoint thread (.blocked stage) with
            holder := none
            waiting := state.waiting ++ [thread] }
      | .leaving next => { state.setPoint thread (.resume next) with holder := none }
      | _ => state
  | .notify thread chosen =>
      match state.points thread with
      | .before stage =>
          match program.action stage with
          | .notifyOne next =>
              if state.waiting = [] then state.setPoint thread (.resume next)
              else if chosen ∈ state.waiting then
                (state.wake chosen).setPoint thread (.resume next)
              else state
          | .notifyAll next => state.wakeAll.setPoint thread (.resume next)
          | _ => state
      | _ => state
  | .proceed thread =>
      match state.points thread with
      | .before stage =>
          match program.action stage with
          | .join other next =>
              match state.points other with
              | .idle => state.setPoint thread (.resume next)
              | _ => state
          | .outside _ next => state.setPoint thread (.resume next)
          | _ => state
      | _ => state
  | .wake thread =>
      match state.points thread with
      | .blocked _ => state.wake thread
      | _ => state

def report (program : MonitorProgram Thread Data Call Stage Event)
    (state : MonitorState Thread Data Stage) : MonitorStep Thread Call → List (Thread × Event)
  | .run thread =>
      match state.points thread with
      | .inside stage =>
          match program.action stage with
          | .lock body =>
              match body state.data with
              | .wait => []
              | .leave _ _ events => events.map (Prod.mk thread)
          | _ => []
      | _ => []
  | .proceed thread =>
      match state.points thread with
      | .before stage =>
          match program.action stage with
          | .outside events _ => events.map (Prod.mk thread)
          | _ => []
      | _ => []
  | _ => []

def machine (program : MonitorProgram Thread Data Call Stage Event) :
    LabelledMachine (MonitorState Thread Data Stage) (MonitorStep Thread Call)
      (Thread × Event) :=
  { next := program.perform
    emit := program.report }

/-! ### What a step does -/

inductive Effect (program : MonitorProgram Thread Data Call Stage Event)
    (state : MonitorState Thread Data Stage) :
    MonitorState Thread Data Stage → List (Thread × Event) → Prop
  | none : Effect program state state []
  | start (thread : Thread) (call : Call) (stage : Stage) (place : state.points thread = .idle)
      (enters : program.enter state.data thread call = some stage) :
      Effect program state (state.setPoint thread (.before stage)) []
  | acquire (thread : Thread) (stage : Stage) (body : Data → SectionResult Data Stage Event)
      (place : state.points thread = .before stage) (acts : program.action stage = .lock body)
      (free : state.holder = Option.none) :
      Effect program state { state.setPoint thread (.inside stage) with holder := some thread } []
  | suspend (thread : Thread) (stage : Stage) (body : Data → SectionResult Data Stage Event)
      (place : state.points thread = .inside stage) (acts : program.action stage = .lock body)
      (result : body state.data = .wait) :
      Effect program state (state.setPoint thread (.suspending stage)) []
  | leave (thread : Thread) (stage : Stage) (body : Data → SectionResult Data Stage Event)
      (data : Data) (next : Option Stage) (events : List Event)
      (place : state.points thread = .inside stage) (acts : program.action stage = .lock body)
      (result : body state.data = .leave data next events) :
      Effect program state { state.setPoint thread (.leaving next) with data := data }
        (events.map (Prod.mk thread))
  | block (thread : Thread) (stage : Stage) (place : state.points thread = .suspending stage) :
      Effect program state
        { state.setPoint thread (.blocked stage) with
          holder := Option.none
          waiting := state.waiting ++ [thread] } []
  | release (thread : Thread) (next : Option Stage) (place : state.points thread = .leaving next) :
      Effect program state
        { state.setPoint thread (.resume next) with holder := Option.none } []
  | notifyNone (thread : Thread) (stage : Stage) (next : Option Stage)
      (place : state.points thread = .before stage) (acts : program.action stage = .notifyOne next)
      (nobody : state.waiting = []) :
      Effect program state (state.setPoint thread (.resume next)) []
  | notifyOne (thread chosen : Thread) (stage : Stage) (next : Option Stage)
      (place : state.points thread = .before stage) (acts : program.action stage = .notifyOne next)
      (waits : chosen ∈ state.waiting) :
      Effect program state ((state.wake chosen).setPoint thread (.resume next)) []
  | notifyAll (thread : Thread) (stage : Stage) (next : Option Stage)
      (place : state.points thread = .before stage)
      (acts : program.action stage = .notifyAll next) :
      Effect program state (state.wakeAll.setPoint thread (.resume next)) []
  | join (thread other : Thread) (stage : Stage) (next : Option Stage)
      (place : state.points thread = .before stage)
      (acts : program.action stage = .join other next) (ended : state.points other = .idle) :
      Effect program state (state.setPoint thread (.resume next)) []
  | outside (thread : Thread) (stage : Stage) (events : List Event) (next : Option Stage)
      (place : state.points thread = .before stage)
      (acts : program.action stage = .outside events next) :
      Effect program state (state.setPoint thread (.resume next)) (events.map (Prod.mk thread))
  | wake (thread : Thread) (stage : Stage) (place : state.points thread = .blocked stage) :
      Effect program state (state.wake thread) []

theorem perform_effect (program : MonitorProgram Thread Data Call Stage Event)
    (state : MonitorState Thread Data Stage) (step : MonitorStep Thread Call) :
    Effect program state (program.perform state step) (program.report state step) := by
  cases step with
  | start thread call =>
      simp only [perform, report]
      split
      next stage place enters => exact .start thread call stage place enters
      next => exact .none
  | acquire thread =>
      simp only [perform, report]
      split
      next stage place =>
        split
        next body acts free => exact .acquire thread stage body place acts free
        next => exact .none
      next => exact .none
  | run thread =>
      cases place : state.points thread with
      | inside stage =>
          cases acts : program.action stage with
          | lock body =>
              cases result : body state.data with
              | wait =>
                  simp only [perform, report, place, acts, result]
                  exact .suspend thread stage body place acts result
              | leave data next events =>
                  simp only [perform, report, place, acts, result]
                  exact .leave thread stage body data next events place acts result
          | notifyOne | notifyAll | join | outside =>
              simp only [perform, report, place, acts]
              exact .none
      | idle | before | suspending | blocked | leaving =>
          simp only [perform, report, place]
          exact .none
  | release thread =>
      simp only [perform, report]
      split
      next stage place => exact .block thread stage place
      next next place => exact .release thread next place
      next => exact .none
  | notify thread chosen =>
      simp only [perform, report]
      split
      next stage place =>
        split
        next next acts =>
          split_ifs with nobody waits
          · exact .notifyNone thread stage next place acts nobody
          · exact .notifyOne thread chosen stage next place acts waits
          · exact .none
        next next acts => exact .notifyAll thread stage next place acts
        next => exact .none
      next => exact .none
  | proceed thread =>
      cases place : state.points thread with
      | before stage =>
          cases acts : program.action stage with
          | join other next =>
              simp only [perform, report, place, acts]
              split
              next ended => exact .join thread other stage next place acts ended
              next => exact .none
          | outside events next =>
              simp only [perform, report, place, acts]
              exact .outside thread stage events next place acts
          | lock | notifyOne | notifyAll =>
              simp only [perform, report, place, acts]
              exact .none
      | idle | inside | suspending | blocked | leaving =>
          simp only [perform, report, place]
          exact .none
  | wake thread =>
      simp only [perform, report]
      split
      next stage place => exact .wake thread stage place
      next => exact .none

/-! ### The mutex and the wait set -/

section Invariants

variable {program : MonitorProgram Thread Data Call Stage Event}
  {state : MonitorState Thread Data Stage} {step : MonitorStep Thread Call}

/-- Only the holder of the mutex is inside a section, and the wait set lists exactly
the blocked threads, each once. -/
structure Coherent (state : MonitorState Thread Data Stage) : Prop where
  exclusive : ∀ thread, (state.points thread).holds = true → state.holder = some thread
  listed : ∀ thread, thread ∈ state.waiting ↔ (state.points thread).isBlocked = true
  distinct : state.waiting.Nodup

namespace Coherent

omit [DecidableEq Thread] in
theorem eq_of_holds (coherent : Coherent state) {thread other : Thread}
    (first : (state.points thread).holds = true) (second : (state.points other).holds = true) :
    other = thread :=
  Option.some.inj ((coherent.exclusive other second).symm.trans (coherent.exclusive thread first))

theorem setPoint (coherent : Coherent state) {thread : Thread} {point : MonitorPoint Stage}
    (awake : (state.points thread).isBlocked = false) (stays : point.isBlocked = false)
    (held : point.holds = true → state.holder = some thread) :
    Coherent (state.setPoint thread point) := by
  refine ⟨?_, ?_, coherent.distinct⟩
  · intro other
    simp only [MonitorState.setPoint, Function.update_apply]
    split_ifs with here
    · rw [here]
      exact held
    · exact coherent.exclusive other
  · intro other
    simp only [MonitorState.setPoint, Function.update_apply, coherent.listed other]
    split_ifs with here
    · rw [here, awake, stays]
    · exact Iff.rfl

theorem wake (coherent : Coherent state) (thread : Thread) : Coherent (state.wake thread) := by
  refine ⟨?_, ?_, coherent.distinct.erase thread⟩
  · intro other
    simp only [MonitorState.wake, Function.update_apply]
    split_ifs with here
    · rw [MonitorPoint.holds_awaken, here]
      exact coherent.exclusive thread
    · exact coherent.exclusive other
  · intro other
    simp only [MonitorState.wake, Function.update_apply, coherent.distinct.mem_erase_iff]
    split_ifs with here
    · rw [MonitorPoint.isBlocked_awaken]
      exact iff_of_false (fun both => both.1 here) Bool.false_ne_true
    · exact (and_iff_right here).trans (coherent.listed other)

omit [DecidableEq Thread] in
theorem wakeAll (coherent : Coherent state) : Coherent state.wakeAll := by
  refine ⟨?_, ?_, List.nodup_nil⟩
  · intro other
    simp only [MonitorState.wakeAll, MonitorPoint.holds_awaken]
    exact coherent.exclusive other
  · intro other
    simp only [MonitorState.wakeAll, MonitorPoint.isBlocked_awaken]
    exact iff_of_false List.not_mem_nil Bool.false_ne_true

theorem acquire (coherent : Coherent state) {thread : Thread} {stage : Stage}
    (place : state.points thread = .before stage) (free : state.holder = none) :
    Coherent { state.setPoint thread (.inside stage) with holder := some thread } := by
  refine ⟨?_, ?_, coherent.distinct⟩
  · intro other
    simp only [MonitorState.setPoint, Function.update_apply]
    split_ifs with here
    · rw [here]
      exact fun _ => rfl
    · intro holds
      exact nomatch free.symm.trans (coherent.exclusive other holds)
  · intro other
    simp only [MonitorState.setPoint, Function.update_apply, coherent.listed other]
    split_ifs with here
    · rw [here, place]
      exact Iff.rfl
    · exact Iff.rfl

theorem block (coherent : Coherent state) {thread : Thread} {stage : Stage}
    (place : state.points thread = .suspending stage) :
    Coherent
      { state.setPoint thread (.blocked stage) with
        holder := none
        waiting := state.waiting ++ [thread] } := by
  have holds : (state.points thread).holds = true := by rw [place]; rfl
  have new : thread ∉ state.waiting := by
    rw [coherent.listed thread, place]
    exact Bool.false_ne_true
  refine ⟨?_, ?_, coherent.distinct.append (List.nodup_singleton _)
    (List.disjoint_singleton.mpr new)⟩
  · intro other
    simp only [MonitorState.setPoint, Function.update_apply]
    split_ifs with here
    · exact fun impossible => nomatch impossible
    · exact fun second => absurd (coherent.eq_of_holds holds second) here
  · intro other
    simp only [MonitorState.setPoint, Function.update_apply, List.mem_append,
      List.mem_singleton, coherent.listed other]
    split_ifs with here
    · exact iff_of_true (Or.inr here) rfl
    · exact or_iff_left here

theorem release (coherent : Coherent state) {thread : Thread} {next : Option Stage}
    (place : state.points thread = .leaving next) :
    Coherent { state.setPoint thread (.resume next) with holder := none } := by
  have holds : (state.points thread).holds = true := by rw [place]; rfl
  refine ⟨?_, ?_, coherent.distinct⟩
  · intro other
    simp only [MonitorState.setPoint, Function.update_apply]
    split_ifs with here
    · rw [MonitorPoint.holds_resume]
      exact fun impossible => nomatch impossible
    · exact fun second => absurd (coherent.eq_of_holds holds second) here
  · intro other
    simp only [MonitorState.setPoint, Function.update_apply, coherent.listed other]
    split_ifs with here
    · rw [here, place, MonitorPoint.isBlocked_resume]
      exact Iff.rfl
    · exact Iff.rfl

theorem resume (coherent : Coherent state) {thread : Thread} {stage : Stage} {next : Option Stage}
    (place : state.points thread = .before stage) :
    Coherent (state.setPoint thread (.resume next)) := by
  refine coherent.setPoint (by rw [place]; rfl) (MonitorPoint.isBlocked_resume next) ?_
  rw [MonitorPoint.holds_resume]
  exact fun impossible => nomatch impossible

end Coherent

theorem coherent_step (coherent : Coherent state) :
    Coherent (program.perform state step) := by
  have effect := perform_effect program state step
  generalize program.perform state step = later, program.report state step = outputs at effect
  cases effect with
  | none => exact coherent
  | start thread call stage place enters =>
      exact coherent.setPoint (by rw [place]; rfl) rfl (fun impossible => nomatch impossible)
  | acquire thread stage body place acts free => exact coherent.acquire place free
  | suspend thread stage body place acts result =>
      have holder := coherent.exclusive thread (by rw [place]; rfl)
      exact coherent.setPoint (by rw [place]; rfl) rfl (fun _ => holder)
  | leave thread stage body data next events place acts result =>
      have holder := coherent.exclusive thread (by rw [place]; rfl)
      have moved : Coherent (state.setPoint thread (.leaving next)) :=
        coherent.setPoint (by rw [place]; rfl) rfl (fun _ => holder)
      exact ⟨moved.exclusive, moved.listed, moved.distinct⟩
  | block thread stage place => exact coherent.block place
  | release thread next place => exact coherent.release place
  | notifyNone thread stage next place acts nobody => exact coherent.resume place
  | notifyOne thread chosen stage next place acts waits =>
      exact (coherent.wake chosen).resume (wake_before place chosen)
  | notifyAll thread stage next place acts =>
      exact coherent.wakeAll.resume (wakeAll_before place)
  | join thread other stage next place acts ended => exact coherent.resume place
  | outside thread stage events next place acts => exact coherent.resume place
  | wake thread stage place => exact coherent.wake thread

/-! ### Sections as single steps -/

structure StageState (Thread Data Stage : Type) where
  data : Data
  stages : Thread → Option Stage

def stageState (state : MonitorState Thread Data Stage) : StageState Thread Data Stage :=
  { data := state.data
    stages := fun thread => (state.points thread).stage? }

theorem stageState_setPoint (state : MonitorState Thread Data Stage) (thread : Thread)
    (point : MonitorPoint Stage) :
    stageState (state.setPoint thread point) =
      { stageState state with
        stages := Function.update (stageState state).stages thread point.stage? } := by
  simp only [stageState, MonitorState.setPoint, StageState.mk.injEq, true_and]
  funext other
  simp only [Function.update_apply]
  split_ifs <;> rfl

theorem stageState_keep {thread : Thread} (point : MonitorPoint Stage)
    (same : point.stage? = (state.points thread).stage?) :
    stageState (state.setPoint thread point) = stageState state := by
  rw [stageState_setPoint, same]
  have unchanged := Function.update_eq_self thread (stageState state).stages
  exact congrArg (StageState.mk state.data) unchanged

theorem stageState_wake (state : MonitorState Thread Data Stage) (thread : Thread) :
    stageState (state.wake thread) = stageState state :=
  stageState_keep _ (MonitorPoint.stage?_awaken (state.points thread))

omit [DecidableEq Thread] in
theorem stageState_wakeAll (state : MonitorState Thread Data Stage) :
    stageState state.wakeAll = stageState state := by
  simp only [stageState, wakeAll, MonitorPoint.stage?_awaken]

/-- What is seen of a step: a call begins, a section or another action is done, or
nothing. -/
inductive StageMove (program : MonitorProgram Thread Data Call Stage Event)
    (state : StageState Thread Data Stage) :
    StageState Thread Data Stage → List (Thread × Event) → Prop
  | stay : StageMove program state state []
  | enter (thread : Thread) (call : Call) (stage : Stage) (place : state.stages thread = none)
      (enters : program.enter state.data thread call = some stage) :
      StageMove program state
        { state with stages := Function.update state.stages thread (some stage) } []
  | body (thread : Thread) (stage : Stage) (body : Data → SectionResult Data Stage Event)
      (data : Data) (next : Option Stage) (events : List Event)
      (place : state.stages thread = some stage) (acts : program.action stage = .lock body)
      (result : body state.data = .leave data next events) :
      StageMove program state
        { data := data
          stages := Function.update state.stages thread next } (events.map (Prod.mk thread))
  | act (thread : Thread) (stage : Stage) (place : state.stages thread = some stage)
      (acts : ∀ body, program.action stage ≠ .lock body) :
      StageMove program state
        { state with
          stages := Function.update state.stages thread (program.action stage).next? }
        ((program.action stage).events.map (Prod.mk thread))

theorem stageMove_resume {thread : Thread} {stage : Stage}
    {action : MonitorAction Thread Data Stage Event} (place : state.points thread = .before stage)
    (acts : program.action stage = action) (other : ∀ body, action ≠ .lock body) :
    StageMove program (stageState state)
      (stageState (state.setPoint thread (.resume action.next?)))
      (action.events.map (Prod.mk thread)) := by
  rw [stageState_setPoint, MonitorPoint.stage?_resume, ← acts]
  refine .act thread stage ?_ (acts ▸ other)
  simp only [stageState, place]
  rfl

theorem stageMove_step (program : MonitorProgram Thread Data Call Stage Event)
    (state : MonitorState Thread Data Stage) (step : MonitorStep Thread Call) :
    StageMove program (stageState state) (stageState (program.perform state step))
      (program.report state step) := by
  have effect := perform_effect program state step
  generalize program.perform state step = later, program.report state step = outputs at effect
  -- The mutex moves, and the thread stays at its stage.
  have unseen {later : MonitorState Thread Data Stage}
      (same : stageState later = stageState state) :
      StageMove program (stageState state) (stageState later) [] := by
    rw [same]
    exact .stay
  cases effect with
  | none => exact .stay
  | start thread call stage place enters =>
      rw [stageState_setPoint]
      refine .enter thread call stage ?_ enters
      simp only [stageState, place]
      rfl
  | acquire thread stage body place acts free =>
      exact unseen (stageState_keep (.inside stage) (by rw [place]; rfl))
  | suspend thread stage body place acts result =>
      exact unseen (stageState_keep (.suspending stage) (by rw [place]; rfl))
  | leave thread stage body data next events place acts result =>
      have moved : stageState { state.setPoint thread (.leaving next) with data := data } =
          { data := data
            stages := Function.update (stageState state).stages thread next } := by
        have seen := stageState_setPoint state thread (.leaving next)
        exact congrArg (fun seen : StageState Thread Data Stage => { seen with data := data }) seen
      rw [moved]
      refine .body thread stage body data next events ?_ acts result
      simp only [stageState, place]
      rfl
  | block thread stage place =>
      exact unseen (stageState_keep (.blocked stage) (by rw [place]; rfl))
  | release thread next place =>
      exact unseen (stageState_keep (.resume next)
        (by rw [place]; exact MonitorPoint.stage?_resume next))
  | notifyNone thread stage next place acts nobody => exact stageMove_resume place acts nofun
  | notifyOne thread chosen stage next place acts waits =>
      have moved := stageMove_resume (wake_before place chosen) acts nofun
      rwa [stageState_wake] at moved
  | notifyAll thread stage next place acts =>
      have moved := stageMove_resume (wakeAll_before place) acts nofun
      rwa [stageState_wakeAll] at moved
  | join thread other stage next place acts ended => exact stageMove_resume place acts nofun
  | outside thread stage events next place acts => exact stageMove_resume place acts nofun
  | wake thread stage place => exact unseen (stageState_wake state thread)

theorem stageMove_internal (program : MonitorProgram Thread Data Call Stage Event)
    (state : MonitorState Thread Data Stage) {step : MonitorStep Thread Call}
    (internal : step.isStart = false) :
    StageMove { program with enter := fun _ _ (_ : Call) => none } (stageState state)
      (stageState (program.perform state step)) (program.report state step) := by
  have move := stageMove_step { program with enter := fun _ _ (_ : Call) => none } state step
  cases step with
  | start => cases internal
  | acquire | run | release | notify | proceed | wake => exact move

theorem idle_internal (program : MonitorProgram Thread Data Call Stage Event)
    {state : MonitorState Thread Data Stage} {step : MonitorStep Thread Call} {thread : Thread}
    (internal : step.isStart = false) (idle : state.points thread = .idle) :
    (program.perform state step).points thread = .idle := by
  have effect := perform_effect { program with enter := fun _ _ (_ : Call) => none } state step
  have same : perform { program with enter := fun _ _ (_ : Call) => none } state step =
      program.perform state step := by
    cases step with
    | start => cases internal
    | acquire | run | release | notify | proceed | wake => rfl
  rw [same] at effect
  generalize program.perform state step = later, report _ state step = outputs at effect
  -- The thread that moves is not the idle one.
  have other {mover : Thread} {place : MonitorPoint Stage} (point : MonitorPoint Stage)
      (here : state.points mover = place) (begun : place ≠ .idle) :
      (state.setPoint mover point).points thread = .idle := by
    rw [setPoint_of_ne state point (by rintro rfl; exact begun (here.symm.trans idle))]
    exact idle
  have awake : (state.points thread).isBlocked = false := by rw [idle]; rfl
  cases effect with
  | none => exact idle
  | start mover call stage place enters => cases enters
  | acquire mover stage body place acts free => exact other _ place (by simp)
  | suspend mover stage body place acts result => exact other _ place (by simp)
  | leave mover stage body data next events place acts result => exact other _ place (by simp)
  | block mover stage place => exact other _ place (by simp)
  | release mover next place => exact other _ place (by simp)
  | notifyNone mover stage next place acts nobody => exact other _ place (by simp)
  | notifyOne mover chosen stage next place acts waits =>
      have different : thread ≠ mover := by
        rintro rfl
        cases place.symm.trans idle
      rw [setPoint_of_ne _ _ different, wake_points awake]
      exact idle
  | notifyAll mover stage next place acts =>
      have different : thread ≠ mover := by
        rintro rfl
        cases place.symm.trans idle
      rw [setPoint_of_ne _ _ different]
      simp only [wakeAll, idle]
      rfl
  | join mover ended stage next place acts gone => exact other _ place (by simp)
  | outside mover stage events next place acts => exact other _ place (by simp)
  | wake mover stage place =>
      rw [wake_points awake]
      exact idle

theorem stage_invariant
    (inv : StageState Thread Data Stage → List (Thread × Event) → Prop)
    (keep : ∀ before after events outputs, StageMove program before after events →
      inv before outputs → inv after (outputs ++ events))
    {outputs : List (Thread × Event)} (start : inv (stageState state) outputs)
    (steps : List (MonitorStep Thread Call)) :
    inv (stageState (program.machine.run state steps))
      (outputs ++ program.machine.trace state steps) := by
  refine LabelledMachine.trace_invariant
    (fun (state : MonitorState Thread Data Stage) outputs => inv (stageState state) outputs)
    ?_ start steps
  intro state outputs step holds
  exact keep _ _ _ outputs (stageMove_step program state step) holds

end Invariants

end MonitorProgram

end Ffvms
