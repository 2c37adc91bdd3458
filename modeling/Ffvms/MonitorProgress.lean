/-
Which threads can move, for threads that share data under one mutex.

A thread that is not blocked, and does not join another one, moves on by itself or
waits for the mutex; and then the holder of the mutex moves.
-/

import Ffvms.MonitorProgram

namespace Ffvms

/-- The thread that takes the step.  That a call begins, or a thread wakes up without a
notification, is up to the environment. -/
def MonitorStep.mover? {Thread Call : Type} : MonitorStep Thread Call → Option Thread
  | .start _ _ | .wake _ => none
  | .acquire thread | .run thread | .release thread | .notify thread _ | .proceed thread =>
      some thread

def MonitorPoint.section? {Stage : Type} : MonitorPoint Stage → Option Stage
  | .inside stage | .suspending stage | .blocked stage => some stage
  | .idle | .before _ | .leaving _ => none

theorem MonitorPoint.section?_resume {Stage : Type} (next : Option Stage) :
    (resume next).section? = none := by
  cases next <;> rfl

namespace MonitorProgram

open MonitorState

variable {Thread Data Call Stage Event : Type} [DecidableEq Thread]
  {program : MonitorProgram Thread Data Call Stage Event}
  {state : MonitorState Thread Data Stage} {step : MonitorStep Thread Call}

/-- The holder of the mutex is inside a section, and what a thread is in is a section. -/
structure Grounded (program : MonitorProgram Thread Data Call Stage Event)
    (state : MonitorState Thread Data Stage) : Prop where
  held : ∀ thread, state.holder = some thread → (state.points thread).holds = true
  entered : ∀ thread stage, (state.points thread).section? = some stage →
    ∃ body, program.action stage = .lock body

namespace Grounded

theorem setPoint (grounded : Grounded program state) {thread : Thread}
    {point : MonitorPoint Stage} (stays : (state.points thread).holds = point.holds)
    (within : ∀ stage, point.section? = some stage → (state.points thread).section? = some stage) :
    Grounded program (state.setPoint thread point) := by
  refine ⟨?_, ?_⟩
  · intro other holder
    simp only [MonitorState.setPoint, Function.update_apply]
    split_ifs with here
    · rw [← stays, ← here]
      exact grounded.held other holder
    · exact grounded.held other holder
  · intro other stage
    simp only [MonitorState.setPoint, Function.update_apply]
    split_ifs with here
    · exact fun inside => grounded.entered thread stage (within stage inside)
    · exact grounded.entered other stage

omit [DecidableEq Thread] in
theorem of_awaken (grounded : Grounded program state) {later : MonitorState Thread Data Stage}
    (holder : later.holder = state.holder)
    (points : ∀ thread, later.points thread = state.points thread ∨
      later.points thread = (state.points thread).awaken) : Grounded program later := by
  refine ⟨?_, ?_⟩
  · intro thread owns
    have holds := grounded.held thread (holder ▸ owns)
    rcases points thread with same | woken
    · rwa [same]
    · rwa [woken, MonitorPoint.holds_awaken]
  · intro thread stage inside
    refine grounded.entered thread stage ?_
    rcases points thread with same | woken
    · exact same ▸ inside
    · rw [woken] at inside
      cases place : state.points thread with
      | blocked =>
          rw [place] at inside
          cases inside
      | idle | before | inside | suspending | leaving =>
          rw [place] at inside
          exact inside

theorem wake (grounded : Grounded program state) (chosen : Thread) :
    Grounded program (state.wake chosen) := by
  refine grounded.of_awaken rfl ?_
  intro thread
  simp only [MonitorState.wake, Function.update_apply]
  split_ifs with here
  · rw [here]
    exact Or.inr rfl
  · exact Or.inl rfl

theorem giveBack (grounded : Grounded program state) {thread : Thread}
    {point : MonitorPoint Stage} {waiting : List Thread}
    (within : ∀ stage, point.section? = some stage → (state.points thread).section? = some stage) :
    Grounded program
      { state.setPoint thread point with
        holder := none
        waiting := waiting } := by
  refine ⟨fun _ owns => (by cases owns), ?_⟩
  intro other stage
  simp only [MonitorState.setPoint, Function.update_apply]
  split_ifs with here
  · exact fun inside => grounded.entered thread stage (within stage inside)
  · exact grounded.entered other stage

theorem resume (grounded : Grounded program state) {thread : Thread} {stage : Stage}
    {next : Option Stage} (place : state.points thread = .before stage) :
    Grounded program (state.setPoint thread (.resume next)) := by
  refine grounded.setPoint ?_ ?_
  · rw [place, MonitorPoint.holds_resume]
    rfl
  · intro stage inside
    cases (MonitorPoint.section?_resume next).symm.trans inside

end Grounded

theorem grounded_step (grounded : Grounded program state) :
    Grounded program (program.perform state step) := by
  have effect := perform_effect program state step
  generalize program.perform state step = later, program.report state step = outputs at effect
  cases effect with
  | none => exact grounded
  | start thread call stage place enters =>
      refine grounded.setPoint (by rw [place]; rfl) ?_
      intro stage inside
      cases inside
  | acquire thread stage body place acts free =>
      refine ⟨?_, ?_⟩
      · intro other owns
        cases owns
        simp only [MonitorState.setPoint, Function.update_self]
        rfl
      · intro other entered
        simp only [MonitorState.setPoint, Function.update_apply]
        split_ifs with here
        · intro same
          cases same
          exact ⟨body, acts⟩
        · exact grounded.entered other entered
  | suspend thread stage body place acts result =>
      refine grounded.setPoint (by rw [place]; rfl) ?_
      intro stage inside
      rw [place]
      exact inside
  | leave thread stage body data next events place acts result =>
      have moved : Grounded program (state.setPoint thread (.leaving next)) := by
        refine grounded.setPoint (by rw [place]; rfl) ?_
        intro stage inside
        cases inside
      exact ⟨moved.held, moved.entered⟩
  | block thread stage place =>
      refine grounded.giveBack ?_
      intro stage inside
      rw [place]
      exact inside
  | release thread next place =>
      refine grounded.giveBack ?_
      intro stage inside
      cases (MonitorPoint.section?_resume next).symm.trans inside
  | notifyNone thread stage next place acts nobody => exact grounded.resume place
  | notifyOne thread chosen stage next place acts waits =>
      exact (grounded.wake chosen).resume (wake_before place chosen)
  | notifyAll thread stage next place acts =>
      have woken : Grounded program state.wakeAll :=
        grounded.of_awaken rfl (fun _ => Or.inr rfl)
      exact woken.resume (wakeAll_before place)
  | join thread other stage next place acts ended => exact grounded.resume place
  | outside thread stage events next place acts => exact grounded.resume place
  | wake thread stage place => exact grounded.wake thread

omit [DecidableEq Thread] in
theorem initial_grounded (data : Data) (first : Thread → Option Stage) :
    Grounded program (initial data first) := by
  refine ⟨fun _ owns => (by cases owns), ?_⟩
  intro thread stage inside
  cases (MonitorPoint.section?_resume (first thread)).symm.trans inside

/-! ### Threads that can move -/

def CanMove (program : MonitorProgram Thread Data Call Stage Event)
    (state : MonitorState Thread Data Stage) (thread : Thread) : Prop :=
  ∃ step : MonitorStep Thread Call, step.mover? = some thread ∧ program.perform state step ≠ state

theorem canMove_of_points {thread : Thread} (step : MonitorStep Thread Call)
    (own : step.mover? = some thread)
    (moved : (program.perform state step).points thread ≠ state.points thread) :
    CanMove program state thread :=
  ⟨step, own, fun same => moved (by rw [same])⟩

theorem holder_canMove (grounded : Grounded program state) {thread : Thread}
    (holder : state.holder = some thread) : CanMove program state thread := by
  have holds := grounded.held thread holder
  cases place : state.points thread with
  | idle | before | blocked =>
      rw [place] at holds
      cases holds
  | inside stage =>
      obtain ⟨body, acts⟩ := grounded.entered thread stage (by rw [place]; rfl)
      refine canMove_of_points (.run thread) rfl ?_
      cases result : body state.data with
      | wait =>
          simp only [perform, place, acts, result, setPoint_self]
          intro same
          cases same
      | leave data next events =>
          simp only [perform, place, acts, result, MonitorState.setPoint, Function.update_self]
          intro same
          cases same
  | suspending stage =>
      refine canMove_of_points (.release thread) rfl ?_
      simp only [perform, place, MonitorState.setPoint, Function.update_self]
      intro same
      cases same
  | leaving next =>
      refine canMove_of_points (.release thread) rfl ?_
      simp only [perform, place, MonitorState.setPoint, Function.update_self]
      cases next <;> intro same <;> cases same

theorem section_progress (grounded : Grounded program state) {thread : Thread} {stage : Stage}
    {body : Data → SectionResult Data Stage Event} (place : state.points thread = .before stage)
    (acts : program.action stage = .lock body) :
    ∃ mover, (mover = thread ∨ state.holder = some mover) ∧ CanMove program state mover := by
  cases holder : state.holder with
  | some other => exact ⟨other, Or.inr rfl, holder_canMove grounded holder⟩
  | none =>
      refine ⟨thread, Or.inl rfl, canMove_of_points (.acquire thread) rfl ?_⟩
      simp only [perform, place, acts, holder, MonitorState.setPoint, Function.update_self]
      intro same
      cases same

theorem outside_canMove {thread : Thread} {stage : Stage} {events : List Event}
    {next : Option Stage} (place : state.points thread = .before stage)
    (acts : program.action stage = .outside events next) (further : next ≠ some stage) :
    CanMove program state thread := by
  refine canMove_of_points (.proceed thread) rfl ?_
  simp only [perform, place, acts, setPoint_self]
  cases next with
  | none =>
      intro same
      cases same
  | some later =>
      intro same
      cases same
      exact further rfl

theorem join_canMove {thread other : Thread} {stage : Stage} {next : Option Stage}
    (place : state.points thread = .before stage) (acts : program.action stage = .join other next)
    (ended : state.points other = .idle) (further : next ≠ some stage) :
    CanMove program state thread := by
  refine canMove_of_points (.proceed thread) rfl ?_
  simp only [perform, place, acts, ended, setPoint_self]
  cases next with
  | none =>
      intro same
      cases same
  | some later =>
      intro same
      cases same
      exact further rfl

end MonitorProgram

end Ffvms
