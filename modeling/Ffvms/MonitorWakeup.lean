/-
No wake-up is lost, for threads that share data under one mutex with one condition
variable.

A thread goes into the wait set only if it has found the data not ready, and it holds
the mutex from the test until it is blocked.  So if every section that makes the data
ready goes on to a notification, then at any time ready data has a thread that is about to
notify, or a waiter that is not blocked and will test the data again.
-/

import Ffvms.MonitorProgram

namespace Ffvms

namespace MonitorPoint

variable {Stage : Type}

/-- The thread has tested what it waits for and is on its way into the wait set, or
in it. -/
def waits : MonitorPoint Stage → Bool
  | .suspending _ | .blocked _ => true
  | .idle | .before _ | .inside _ | .leaving _ => false

def Announces (signal : Stage → Prop) (point : MonitorPoint Stage) : Prop :=
  ∃ stage, signal stage ∧ (point = .before stage ∨ point = .leaving (some stage))

@[simp] theorem waits_resume (next : Option Stage) : (resume next).waits = false := by
  cases next <;> rfl

theorem waits_of_awaken {point : MonitorPoint Stage} (waits : point.awaken.waits = true) :
    point.waits = true := by
  cases point with
  | suspending | blocked => rfl
  | idle | before | inside | leaving => exact waits

theorem eq_suspending_of_awaken {point : MonitorPoint Stage} {stage : Stage}
    (place : point.awaken = .suspending stage) : point = .suspending stage := by
  cases point with
  | blocked => cases place
  | idle | before | inside | suspending | leaving => exact place

theorem waits_of_isBlocked {point : MonitorPoint Stage} (blocked : point.isBlocked = true) :
    point.waits = true := by
  cases point with
  | blocked | suspending => rfl
  | idle | before | inside | leaving => cases blocked

theorem isBlocked_of_not_waits {point : MonitorPoint Stage} (calm : point.waits = false) :
    point.isBlocked = false := by
  cases point with
  | blocked => cases calm
  | idle | before | inside | suspending | leaving => rfl

theorem Announces.awaken {signal : Stage → Prop} {point : MonitorPoint Stage}
    (announces : point.Announces signal) : point.awaken.Announces signal := by
  obtain ⟨stage, signals, rfl | rfl⟩ := announces
  · exact ⟨stage, signals, Or.inl rfl⟩
  · exact ⟨stage, signals, Or.inr rfl⟩

theorem Announces.resume {signal : Stage → Prop} {next : Option Stage}
    (announces : (leaving next).Announces signal) : (resume next).Announces signal := by
  obtain ⟨stage, signals, impossible | same⟩ := announces
  · cases impossible
  · cases same
    exact ⟨stage, signals, Or.inl rfl⟩

theorem announces_before {signal : Stage → Prop} {stage : Stage}
    (announces : (before stage).Announces signal) : signal stage := by
  obtain ⟨_, signals, same | impossible⟩ := announces
  · cases same
    exact signals
  · cases impossible

theorem not_announces_idle {signal : Stage → Prop} :
    ¬(idle : MonitorPoint Stage).Announces signal := by
  rintro ⟨_, _, impossible | impossible⟩ <;> cases impossible

theorem not_announces_inside {signal : Stage → Prop} {stage : Stage} :
    ¬(inside stage).Announces signal := by
  rintro ⟨_, _, impossible | impossible⟩ <;> cases impossible

end MonitorPoint

namespace MonitorProgram

open MonitorState

variable {Thread Data Call Stage Event : Type} [DecidableEq Thread]
  {program : MonitorProgram Thread Data Call Stage Event}
  {state : MonitorState Thread Data Stage} {step : MonitorStep Thread Call}

/-! ### Roles -/

/-- The stages of each thread: those its calls begin with and those that come after
them, in a section or by another action. -/
structure Roles (program : MonitorProgram Thread Data Call Stage Event)
    (role : Thread → Stage → Prop) : Prop where
  enter : ∀ {data thread call stage}, program.enter data thread call = some stage →
    role thread stage
  body : ∀ {thread stage body data later next events}, role thread stage →
    program.action stage = .lock body → body data = .leave later (some next) events →
      role thread next
  action : ∀ {thread stage next}, role thread stage →
    (program.action stage).next? = some next → role thread next

def InRole (role : Thread → Stage → Prop) (state : StageState Thread Data Stage) : Prop :=
  ∀ thread stage, state.stages thread = some stage → role thread stage

theorem InRole.update {role : Thread → Stage → Prop} {state : StageState Thread Data Stage}
    (inRole : InRole role state) {mover : Thread} {next : Option Stage} {data : Data}
    (fits : ∀ stage, next = some stage → role mover stage) :
    InRole role { data := data, stages := Function.update state.stages mover next } := by
  intro thread stage
  simp only [Function.update_apply]
  split_ifs with here
  · rw [here]
    exact fits stage
  · exact inRole thread stage

theorem Roles.inRole_move {role : Thread → Stage → Prop} (roles : program.Roles role)
    {before after : StageState Thread Data Stage} {events : List (Thread × Event)}
    (move : StageMove program before after events) (inRole : InRole role before) :
    InRole role after := by
  cases move with
  | stay => exact inRole
  | enter thread call stage place enters =>
      refine inRole.update ?_
      rintro entered ⟨⟩
      exact roles.enter enters
  | body thread stage body data next events place acts result =>
      refine inRole.update ?_
      rintro following rfl
      exact roles.body (inRole thread stage place) acts result
  | act thread stage place acts =>
      refine inRole.update ?_
      exact fun following next => roles.action (inRole thread stage place) next

/-! ### No wake-up is lost -/

/-- What the threads have to agree on: a section waits only where the data is not
ready, only waiters wait, and a section that makes the data ready goes on to a stage
that notifies. -/
structure WakeProtocol (program : MonitorProgram Thread Data Call Stage Event)
    (role : Thread → Stage → Prop) (ready : Data → Prop) (waiter : Thread → Prop)
    (signal : Stage → Prop) : Prop where
  roles : program.Roles role
  tested : ∀ {stage body data}, program.action stage = .lock body → body data = .wait →
    ¬ready data
  waits : ∀ {thread stage body data}, role thread stage → program.action stage = .lock body →
    body data = .wait → waiter thread
  announced : ∀ {stage body data later next events}, program.action stage = .lock body →
    body data = .leave later next events → ready later →
      ready data ∨ ∃ stage, next = some stage ∧ signal stage
  notifies : ∀ {stage}, signal stage →
    ∃ next, program.action stage = .notifyOne next ∨ program.action stage = .notifyAll next

/-- If the data is ready then a thread is about to notify, or a waiter is not blocked. -/
structure Wakeful (ready : Data → Prop) (waiter : Thread → Prop) (signal : Stage → Prop)
    (state : MonitorState Thread Data Stage) : Prop where
  waits : ∀ thread, (state.points thread).waits = true → waiter thread
  tested : ∀ thread stage, state.points thread = .suspending stage → ¬ready state.data
  awake : ready state.data →
    (∃ thread, (state.points thread).Announces signal) ∨
      ∃ thread, waiter thread ∧ (state.points thread).isBlocked = false

namespace Wakeful

variable {ready : Data → Prop} {waiter : Thread → Prop} {signal : Stage → Prop}

/-- A thread moves and does not wait.  If it was about to notify then it still is, or
a waiter has been woken. -/
theorem setPoint (wakeful : Wakeful ready waiter signal state) {thread : Thread}
    {point : MonitorPoint Stage} (calm : point.waits = false)
    (kept : (state.points thread).Announces signal → point.Announces signal ∨
      ∃ other, waiter other ∧ (state.points other).isBlocked = false) :
    Wakeful ready waiter signal (state.setPoint thread point) := by
  have stillAwake {other : Thread} (awake : (state.points other).isBlocked = false) :
      ((state.setPoint thread point).points other).isBlocked = false := by
    simp only [MonitorState.setPoint, Function.update_apply]
    split_ifs with here
    · exact MonitorPoint.isBlocked_of_not_waits calm
    · exact awake
  refine ⟨?_, ?_, ?_⟩
  · intro other
    simp only [MonitorState.setPoint, Function.update_apply]
    split_ifs with here
    · rw [calm]
      exact fun impossible => absurd impossible Bool.false_ne_true
    · exact wakeful.waits other
  · intro other stage
    simp only [MonitorState.setPoint, Function.update_apply]
    split_ifs with here
    · rintro rfl
      cases calm
    · exact wakeful.tested other stage
  · intro holds
    rcases wakeful.awake holds with ⟨other, announces⟩ | ⟨other, waits, awake⟩
    · by_cases here : other = thread
      · subst here
        rcases kept announces with still | ⟨woken, waits, awake⟩
        · exact Or.inl ⟨other, by rwa [setPoint_self]⟩
        · exact Or.inr ⟨woken, waits, stillAwake awake⟩
      · exact Or.inl ⟨other, by rwa [setPoint_of_ne state point here]⟩
    · exact Or.inr ⟨other, waits, stillAwake awake⟩

omit [DecidableEq Thread] in
theorem of_awaken (wakeful : Wakeful ready waiter signal state)
    {later : MonitorState Thread Data Stage} (data : later.data = state.data)
    (points : ∀ thread, later.points thread = state.points thread ∨
      later.points thread = (state.points thread).awaken) :
    Wakeful ready waiter signal later := by
  refine ⟨?_, ?_, ?_⟩
  · intro thread waits
    rcases points thread with same | woken
    · exact wakeful.waits thread (same ▸ waits)
    · rw [woken] at waits
      exact wakeful.waits thread (MonitorPoint.waits_of_awaken waits)
  · intro thread stage place
    rw [data]
    rcases points thread with same | woken
    · exact wakeful.tested thread stage (same ▸ place)
    · rw [woken] at place
      exact wakeful.tested thread stage (MonitorPoint.eq_suspending_of_awaken place)
  · intro holds
    rw [data] at holds
    rcases wakeful.awake holds with ⟨thread, announces⟩ | ⟨thread, waits, awake⟩
    · refine Or.inl ⟨thread, ?_⟩
      rcases points thread with same | woken
      · rwa [same]
      · rw [woken]
        exact announces.awaken
    · refine Or.inr ⟨thread, waits, ?_⟩
      rcases points thread with same | woken
      · rwa [same]
      · rw [woken, MonitorPoint.isBlocked_awaken]

theorem wake (wakeful : Wakeful ready waiter signal state) (chosen : Thread) :
    Wakeful ready waiter signal (state.wake chosen) := by
  refine wakeful.of_awaken rfl ?_
  intro thread
  simp only [MonitorState.wake, Function.update_apply]
  split_ifs with here
  · rw [here]
    exact Or.inr rfl
  · exact Or.inl rfl

/-- A thread that finds the data not ready goes into the wait set, where the test
still holds: it has the mutex until it is blocked. -/
theorem not_ready (wakeful : Wakeful ready waiter signal state) {thread : Thread}
    {point : MonitorPoint Stage} (unready : ¬ready state.data) (waits : waiter thread) :
    Wakeful ready waiter signal (state.setPoint thread point) := by
  refine ⟨?_, fun _ _ _ => unready, fun holds => absurd holds unready⟩
  intro other
  simp only [MonitorState.setPoint, Function.update_apply]
  split_ifs with here
  · rw [here]
    exact fun _ => waits
  · exact wakeful.waits other

theorem leave (wakeful : Wakeful ready waiter signal state) (coherent : Coherent state)
    {thread : Thread} {stage : Stage} {data : Data} {next : Option Stage}
    (place : state.points thread = .inside stage)
    (announced : ready data → ready state.data ∨ ∃ stage, next = some stage ∧ signal stage) :
    Wakeful ready waiter signal { state.setPoint thread (.leaving next) with data := data } := by
  have moved : Wakeful ready waiter signal (state.setPoint thread (.leaving next)) := by
    refine wakeful.setPoint rfl ?_
    rw [place]
    exact fun announces => absurd announces MonitorPoint.not_announces_inside
  refine ⟨moved.waits, ?_, ?_⟩
  · -- Another thread that has tested the old data would hold the mutex as well.
    intro other suspended
    simp only [MonitorState.setPoint, Function.update_apply]
    split_ifs with here
    · intro impossible
      cases impossible
    · intro waits
      have first : (state.points thread).holds = true := by rw [place]; rfl
      have second : (state.points other).holds = true := by rw [waits]; rfl
      exact absurd (coherent.eq_of_holds first second) here
  · intro holds
    rcases announced holds with before | ⟨stage, rfl, signals⟩
    · exact moved.awake before
    · exact Or.inl ⟨thread, stage, signals, Or.inr (setPoint_self state thread _)⟩

end Wakeful

omit [DecidableEq Thread] in
theorem WakeProtocol.not_announces {role : Thread → Stage → Prop} {ready : Data → Prop}
    {waiter : Thread → Prop} {signal : Stage → Prop}
    (protocol : program.WakeProtocol role ready waiter signal) {stage : Stage}
    (other : ∀ next, program.action stage ≠ .notifyOne next ∧
      program.action stage ≠ .notifyAll next) :
    ¬(MonitorPoint.before stage).Announces signal := by
  intro announces
  obtain ⟨next, one | all⟩ := protocol.notifies (MonitorPoint.announces_before announces)
  · exact (other next).1 one
  · exact (other next).2 all

theorem wakeful_step {role : Thread → Stage → Prop} {ready : Data → Prop}
    {waiter : Thread → Prop} {signal : Stage → Prop}
    (protocol : program.WakeProtocol role ready waiter signal) (someone : ∃ thread, waiter thread)
    (coherent : Coherent state) (inRole : InRole role (stageState state))
    (wakeful : Wakeful ready waiter signal state) :
    Wakeful ready waiter signal (program.perform state step) := by
  have effect := perform_effect program state step
  generalize program.perform state step = later, program.report state step = outputs at effect
  -- A thread that was not about to notify goes on.
  have goesOn {thread : Thread} {point : MonitorPoint Stage} (calm : point.waits = false)
      (quiet : ¬(state.points thread).Announces signal) :
      Wakeful ready waiter signal (state.setPoint thread point) :=
    wakeful.setPoint calm (fun announces => absurd announces quiet)
  cases effect with
  | none => exact wakeful
  | start thread call stage place enters =>
      exact goesOn rfl (place ▸ MonitorPoint.not_announces_idle)
  | acquire thread stage body place acts free =>
      have quiet : ¬(state.points thread).Announces signal := by
        rw [place]
        exact protocol.not_announces (by simp [acts])
      exact (goesOn rfl quiet).of_awaken rfl (fun _ => Or.inl rfl)
  | suspend thread stage body place acts result =>
      have here : (stageState state).stages thread = some stage := by
        simp only [stageState, place]
        rfl
      exact wakeful.not_ready (protocol.tested acts result)
        (protocol.waits (inRole thread stage here) acts result)
  | leave thread stage body data next events place acts result =>
      exact wakeful.leave coherent place (protocol.announced acts result)
  | block thread stage place =>
      have moved : Wakeful ready waiter signal (state.setPoint thread (.blocked stage)) :=
        wakeful.not_ready (wakeful.tested thread stage place)
          (wakeful.waits thread (by rw [place]; rfl))
      exact moved.of_awaken rfl (fun _ => Or.inl rfl)
  | release thread next place =>
      have moved : Wakeful ready waiter signal (state.setPoint thread (.resume next)) := by
        refine wakeful.setPoint (MonitorPoint.waits_resume next) ?_
        rw [place]
        exact fun announces => Or.inl announces.resume
      exact moved.of_awaken rfl (fun _ => Or.inl rfl)
  | notifyNone thread stage next place acts nobody =>
      obtain ⟨anyone, waits⟩ := someone
      refine wakeful.setPoint (MonitorPoint.waits_resume next) ?_
      refine fun _ => Or.inr ⟨anyone, waits, Bool.eq_false_iff.mpr ?_⟩
      rw [Ne, ← coherent.listed anyone, nobody]
      exact List.not_mem_nil
  | notifyOne thread chosen stage next place acts waits =>
      have blocked := (coherent.listed chosen).mp waits
      refine (wakeful.wake chosen).setPoint (MonitorPoint.waits_resume next) ?_
      refine fun _ => Or.inr ⟨chosen, wakeful.waits chosen ?_, ?_⟩
      · exact MonitorPoint.waits_of_isBlocked blocked
      · simp only [MonitorState.wake, Function.update_self, MonitorPoint.isBlocked_awaken]
  | notifyAll thread stage next place acts =>
      obtain ⟨anyone, waits⟩ := someone
      have woken : Wakeful ready waiter signal state.wakeAll :=
        wakeful.of_awaken rfl (fun _ => Or.inr rfl)
      refine woken.setPoint (MonitorPoint.waits_resume next) ?_
      exact fun _ => Or.inr ⟨anyone, waits, MonitorPoint.isBlocked_awaken _⟩
  | join thread other stage next place acts ended =>
      refine goesOn (MonitorPoint.waits_resume next) ?_
      rw [place]
      exact protocol.not_announces (by simp [acts])
  | outside thread stage events next place acts =>
      refine goesOn (MonitorPoint.waits_resume next) ?_
      rw [place]
      exact protocol.not_announces (by simp [acts])
  | wake thread stage place => exact wakeful.wake thread

/-! ### Runs -/

section Runs

variable {data : Data} {first : Thread → Option Stage}

omit [DecidableEq Thread] in
theorem initial_coherent (data : Data) (first : Thread → Option Stage) :
    Coherent (initial data first) := by
  refine ⟨?_, ?_, List.nodup_nil⟩
  · intro thread
    simp only [initial, MonitorPoint.holds_resume]
    exact fun impossible => absurd impossible Bool.false_ne_true
  · intro thread
    simp only [initial, MonitorPoint.isBlocked_resume]
    exact iff_of_false List.not_mem_nil Bool.false_ne_true

omit [DecidableEq Thread] in
theorem initial_inRole {role : Thread → Stage → Prop}
    (begins : ∀ thread stage, first thread = some stage → role thread stage) :
    InRole role (stageState (initial data first)) := by
  intro thread stage
  simp only [stageState, initial, MonitorPoint.stage?_resume]
  exact begins thread stage

omit [DecidableEq Thread] in
theorem initial_wakeful {ready : Data → Prop} {waiter : Thread → Prop} {signal : Stage → Prop}
    (someone : ∃ thread, waiter thread) :
    Wakeful ready waiter signal (initial data first) := by
  have calm (thread : Thread) : ((initial data first).points thread).waits = false :=
    MonitorPoint.waits_resume (first thread)
  obtain ⟨anyone, waits⟩ := someone
  refine ⟨?_, ?_, fun _ => Or.inr ⟨anyone, waits, MonitorPoint.isBlocked_resume _⟩⟩
  · intro thread waits
    exact absurd ((calm thread).symm.trans waits) Bool.false_ne_true
  · intro thread stage suspended
    have waits := calm thread
    rw [suspended] at waits
    cases waits

/-- In every state that a run reaches, ready data has a thread about to notify or a
waiter that is not blocked. -/
theorem no_lost_wakeup (data : Data) {role : Thread → Stage → Prop} {ready : Data → Prop}
    {waiter : Thread → Prop} {signal : Stage → Prop}
    (protocol : program.WakeProtocol role ready waiter signal) (someone : ∃ thread, waiter thread)
    (begins : ∀ thread stage, first thread = some stage → role thread stage)
    (steps : List (MonitorStep Thread Call)) :
    InRole role (stageState (program.machine.run (initial data first) steps)) ∧
      Wakeful ready waiter signal (program.machine.run (initial data first) steps) := by
  have keep (state : MonitorState Thread Data Stage) (step : MonitorStep Thread Call)
      (holds : Coherent state ∧ InRole role (stageState state) ∧
        Wakeful ready waiter signal state) :
      Coherent (program.machine.next state step) ∧
        InRole role (stageState (program.machine.next state step)) ∧
        Wakeful ready waiter signal (program.machine.next state step) := by
    obtain ⟨coherent, inRole, wakeful⟩ := holds
    exact ⟨coherent_step coherent,
      protocol.roles.inRole_move (stageMove_step program state step) inRole,
      wakeful_step protocol someone coherent inRole wakeful⟩
  have start : Coherent (initial data first) ∧ InRole role (stageState (initial data first)) ∧
      Wakeful ready waiter signal (initial data first) :=
    ⟨initial_coherent data first, initial_inRole begins, initial_wakeful someone⟩
  exact (LabelledMachine.run_invariant (fun state : MonitorState Thread Data Stage =>
    Coherent state ∧ InRole role (stageState state) ∧ Wakeful ready waiter signal state)
    keep start steps).2

end Runs

end MonitorProgram

end Ffvms
