/-
The thread pool (`common/thread_pool/include/thread_pool.h`): its workers, `submit`
and the destructor, as a program of threads under `mMutex` and `mCv`.

All accesses to `mTasks` and `mStop` are in sections of `mMutex`.  The workers wait on
`mCv`, and a notification comes after the section of a `submit` and of the destructor,
without the mutex.  The number of submitting threads is arbitrary.  A task that submits
to the pool it runs on is covered: its worker stays at the task while another name
submits.
-/

import Ffvms.MonitorWakeup

namespace Ffvms.Concrete

inductive PoolThread (capacity : Nat) (Submitter : Type) where
  | worker (index : Fin capacity)
  | submitter (name : Submitter)
  | destroyer
  deriving DecidableEq

structure PoolData (Task : Type) where
  tasks : List Task
  stop : Bool
  deriving DecidableEq, Repr

/-- A `submit` comes with whether `emplace` gets the memory for the task. -/
inductive PoolCall (Task : Type) where
  | submit (task : Task) (stored : Bool)
  | destroy

inductive PoolStage (Task : Type) where
  | take
  | call (task : Task)
  | work (task : Task)
  | push (task : Task) (stored : Bool)
  | notifyOne
  | setStop
  | notifyAll
  | join (index : Nat)
  deriving DecidableEq, Repr

inductive SubmitError where
  | runtimeError (what : String)
  | badAlloc
  deriving DecidableEq, Repr

inductive PoolEvent (Task : Type) where
  | pushed (task : Task)
  | threw (task : Task) (error : SubmitError)
  | taken (task : Task)
  | started (task : Task)
  | finished (task : Task)
  deriving DecidableEq, Repr

namespace PoolEvent

variable {Task : Type}

def pushed? : PoolEvent Task → Option Task
  | .pushed task => some task
  | _ => none

def taken? : PoolEvent Task → Option Task
  | .taken task => some task
  | _ => none

def started? : PoolEvent Task → Option Task
  | .started task => some task
  | _ => none

def finished? : PoolEvent Task → Option Task
  | .finished task => some task
  | _ => none

def isWork : PoolEvent Task → Bool
  | .taken _ | .started _ | .finished _ => true
  | .pushed _ | .threw _ _ => false

theorem taken?_eq_none (event : PoolEvent Task) (other : event.isWork = false) :
    event.taken? = none := by
  cases event with
  | pushed | threw | started | finished => rfl
  | taken => cases other

theorem finished?_eq_none (event : PoolEvent Task) (other : event.isWork = false) :
    event.finished? = none := by
  cases event with
  | pushed | threw | taken | started => rfl
  | finished => cases other

end PoolEvent

def PoolStage.inHand {Task : Type} : Option (PoolStage Task) → List Task
  | some (.call task) | some (.work task) => [task]
  | _ => []

namespace ThreadPool

variable {capacity : Nat} {Task Submitter : Type}

def ready (data : PoolData Task) : Bool := data.stop || !data.tasks.isEmpty

def take (data : PoolData Task) : SectionResult (PoolData Task) (PoolStage Task) (PoolEvent Task) :=
  if ready data = false then .wait
  else if data.stop then .leave data none []
  else
    match data.tasks with
    | [] => .wait -- never so: the predicate holds and the pool is not stopped
    | task :: rest => .leave { data with tasks := rest } (some (.call task)) [.taken task]

def push (task : Task) (stored : Bool) (data : PoolData Task) :
    SectionResult (PoolData Task) (PoolStage Task) (PoolEvent Task) :=
  if data.stop then
    .leave data none [.threw task (.runtimeError "submit to stopped ThreadPool")]
  else if stored = false then .leave data none [.threw task .badAlloc]
  else .leave { data with tasks := data.tasks ++ [task] } (some .notifyOne) [.pushed task]

def setStop (data : PoolData Task) :
    SectionResult (PoolData Task) (PoolStage Task) (PoolEvent Task) :=
  .leave { data with stop := true } (some .notifyAll) []

def action : PoolStage Task →
    MonitorAction (PoolThread capacity Submitter) (PoolData Task) (PoolStage Task)
      (PoolEvent Task)
  | .take => .lock take
  | .call task => .outside [.started task] (some (.work task))
  | .work task => .outside [.finished task] (some .take)
  | .push task stored => .lock (push task stored)
  | .notifyOne => .notifyOne none
  | .setStop => .lock setStop
  | .notifyAll => .notifyAll (some (.join 0))
  | .join index =>
      if bound : index < capacity then .join (.worker ⟨index, bound⟩) (some (.join (index + 1)))
      else .outside [] none

def enter (data : PoolData Task) :
    PoolThread capacity Submitter → PoolCall Task → Option (PoolStage Task)
  | .submitter _, .submit task stored => some (.push task stored)
  | .destroyer, .destroy => if data.stop then none else some .setStop
  | _, _ => none

def program (capacity : Nat) (Task Submitter : Type) :
    MonitorProgram (PoolThread capacity Submitter) (PoolData Task) (PoolCall Task)
      (PoolStage Task) (PoolEvent Task) :=
  { enter := enter
    action := action }

abbrev PoolState (capacity : Nat) (Task Submitter : Type) :=
  MonitorState (PoolThread capacity Submitter) (PoolData Task) (PoolStage Task)

def first : PoolThread capacity Submitter → Option (PoolStage Task)
  | .worker _ => some .take
  | .submitter _ | .destroyer => none

def start (capacity : Nat) (Task Submitter : Type) :
    MonitorState (PoolThread capacity Submitter) (PoolData Task) (PoolStage Task) :=
  .initial { tasks := [], stop := false } first

/-! ### What the sections do -/

section Sections

variable {data later : PoolData Task} {stage : PoolStage Task} {next : Option (PoolStage Task)}
  {events : List (PoolEvent Task)}

inductive Outcome (data : PoolData Task) :
    PoolStage Task → SectionResult (PoolData Task) (PoolStage Task) (PoolEvent Task) → Prop
  | waits (running : data.stop = false) (empty : data.tasks = []) : Outcome data .take .wait
  | ends (stopped : data.stop = true) : Outcome data .take (.leave data none [])
  | takes (task : Task) (rest : List Task) (running : data.stop = false)
      (front : data.tasks = task :: rest) :
      Outcome data .take
        (.leave { data with tasks := rest } (some (.call task)) [.taken task])
  | throws (task : Task) (stored : Bool) (error : SubmitError) :
      Outcome data (.push task stored) (.leave data none [.threw task error])
  | pushes (task : Task) (running : data.stop = false) :
      Outcome data (.push task true)
        (.leave { data with tasks := data.tasks ++ [task] } (some .notifyOne) [.pushed task])
  | stops : Outcome data .setStop (.leave { data with stop := true } (some .notifyAll) [])

theorem take_outcome (data : PoolData Task) : Outcome data .take (take data) := by
  obtain ⟨tasks, stop⟩ := data
  cases stop with
  | true => exact .ends rfl
  | false =>
      cases tasks with
      | nil => exact .waits rfl rfl
      | cons task rest => exact .takes task rest rfl rfl

theorem push_outcome (task : Task) (stored : Bool) (data : PoolData Task) :
    Outcome data (.push task stored) (push task stored data) := by
  obtain ⟨tasks, stop⟩ := data
  cases stop with
  | true => exact .throws task stored _
  | false =>
      cases stored with
      | false => exact .throws task false .badAlloc
      | true => exact .pushes task rfl

theorem outcome_of_action
    {body : PoolData Task → SectionResult (PoolData Task) (PoolStage Task) (PoolEvent Task)}
    {result : SectionResult (PoolData Task) (PoolStage Task) (PoolEvent Task)}
    (acts : (program capacity Task Submitter).action stage = .lock body)
    (runs : body data = result) : Outcome data stage result := by
  rw [← runs]
  cases stage with
  | take =>
      cases acts
      exact take_outcome data
  | push task stored =>
      cases acts
      exact push_outcome task stored data
  | setStop =>
      cases acts
      exact .stops
  | call | work | notifyOne | notifyAll => cases acts
  | join index =>
      simp only [program, action] at acts
      split at acts <;> cases acts

namespace Outcome

theorem queue (outcome : Outcome data stage (.leave later next events)) :
    events.filterMap PoolEvent.taken? ++ later.tasks =
      data.tasks ++ events.filterMap PoolEvent.pushed? := by
  cases outcome with
  | takes task rest running front =>
      rw [front]
      exact (List.append_nil (task :: rest)).symm
  | pushes task running => rfl
  | ends | throws | stops => exact (List.append_nil data.tasks).symm

/-- A stopped pool stays stopped, and nothing is taken from it. -/
theorem stopped (outcome : Outcome data stage (.leave later next events))
    (stopped : data.stop = true) :
    later.stop = true ∧ events.filterMap PoolEvent.taken? = [] := by
  cases outcome with
  | takes task rest running front =>
      rw [running] at stopped
      cases stopped
  | ends | throws | pushes => exact ⟨stopped, rfl⟩
  | stops => exact ⟨rfl, rfl⟩

theorem threw (outcome : Outcome data stage (.leave later next events)) {task : Task}
    {error : SubmitError} (threw : .threw task error ∈ events) : later = data := by
  cases outcome with
  | throws => rfl
  | takes | pushes => cases List.mem_singleton.mp threw
  | ends | stops => cases threw

end Outcome

end Sections

theorem action_events (stage : PoolStage Task) :
    ((program capacity Task Submitter).action stage).events.filterMap PoolEvent.pushed? = [] ∧
      ((program capacity Task Submitter).action stage).events.filterMap PoolEvent.taken? = [] := by
  cases stage with
  | join index =>
      simp only [program, action]
      split <;> exact ⟨rfl, rfl⟩
  | take | call | work | push | notifyOne | setStop | notifyAll => exact ⟨rfl, rfl⟩

/-- What a worker at the stage has still to do with the tasks that it has taken, which
it starts and finishes one after the other. -/
def InHand (taken started finished : List Task) : Option (PoolStage Task) → Prop
  | some (.call task) => taken = started ++ [task] ∧ started = finished
  | some (.work task) => taken = started ∧ started = finished ++ [task]
  | _ => taken = started ∧ started = finished

theorem InHand.started_of_taken {taken started finished : List Task}
    {stage : Option (PoolStage Task)} (inHand : InHand taken started finished stage) :
    started <+: taken := by
  cases stage with
  | none => exact inHand.1 ▸ List.prefix_refl started
  | some stage =>
      cases stage with
      | call task =>
          rw [inHand.1]
          exact List.prefix_append started [task]
      | take | work | push | notifyOne | setStop | notifyAll | join =>
          exact inHand.1 ▸ List.prefix_refl started

theorem InHand.taken_eq {taken started finished : List Task}
    {stage : Option (PoolStage Task)} (inHand : InHand taken started finished stage) :
    taken = finished ++ PoolStage.inHand stage := by
  cases stage with
  | none => exact (inHand.1.trans inHand.2).trans (List.append_nil finished).symm
  | some stage =>
      cases stage with
      | call task => exact inHand.1.trans (congrArg (· ++ [task]) inHand.2)
      | work task => exact inHand.1.trans inHand.2
      | take | push | notifyOne | setStop | notifyAll | join =>
          exact (inHand.1.trans inHand.2).trans (List.append_nil finished).symm

theorem InHand.leave {taken started finished : List Task} {data later : PoolData Task}
    {stage : PoolStage Task} {next : Option (PoolStage Task)} {events : List (PoolEvent Task)}
    (inHand : InHand taken started finished (some stage))
    (outcome : Outcome data stage (.leave later next events)) :
    InHand (taken ++ events.filterMap PoolEvent.taken?)
      (started ++ events.filterMap PoolEvent.started?)
      (finished ++ events.filterMap PoolEvent.finished?) next := by
  obtain ⟨rfl, rfl⟩ : taken = started ∧ started = finished := by
    cases outcome <;> exact inHand
  cases outcome with
  | takes task rest running front => exact ⟨by simp [PoolEvent.taken?, PoolEvent.started?], rfl⟩
  | ends | throws | pushes | stops => exact ⟨rfl, rfl⟩

theorem InHand.act {taken started finished : List Task} {stage : PoolStage Task}
    (inHand : InHand taken started finished (some stage))
    (acts : ∀ body, (program capacity Task Submitter).action stage ≠ .lock body) :
    InHand
      (taken ++ ((program capacity Task Submitter).action stage).events.filterMap
        PoolEvent.taken?)
      (started ++ ((program capacity Task Submitter).action stage).events.filterMap
        PoolEvent.started?)
      (finished ++ ((program capacity Task Submitter).action stage).events.filterMap
        PoolEvent.finished?)
      ((program capacity Task Submitter).action stage).next? := by
  cases stage with
  | take => exact absurd rfl (acts take)
  | push task stored => exact absurd rfl (acts (push task stored))
  | setStop => exact absurd rfl (acts setStop)
  | call task =>
      obtain ⟨rfl, rfl⟩ := inHand
      exact ⟨List.append_nil _, congrArg (· ++ [task]) (List.append_nil started).symm⟩
  | work task =>
      obtain ⟨rfl, rfl⟩ := inHand
      exact ⟨rfl, List.append_nil _⟩
  | notifyOne | notifyAll =>
      obtain ⟨rfl, rfl⟩ := inHand
      exact ⟨rfl, rfl⟩
  | join index =>
      obtain ⟨rfl, rfl⟩ := inHand
      simp only [program, action]
      split <;> exact ⟨rfl, rfl⟩

/-! ### Histories -/

section Histories

variable [DecidableEq Submitter]

abbrev Stages (capacity : Nat) (Task Submitter : Type) :=
  MonitorProgram.StageState (PoolThread capacity Submitter) (PoolData Task) (PoolStage Task)

def tasksOf (kind : PoolEvent Task → Option Task)
    (events : List (PoolThread capacity Submitter × PoolEvent Task)) : List Task :=
  events.filterMap (fun event => kind event.2)

def tasksBy (kind : PoolEvent Task → Option Task) (thread : PoolThread capacity Submitter)
    (events : List (PoolThread capacity Submitter × PoolEvent Task)) : List Task :=
  events.filterMap (fun event => if event.1 = thread then kind event.2 else none)

variable {kind : PoolEvent Task → Option Task} {before after : Stages capacity Task Submitter}
  {outputs events : List (PoolThread capacity Submitter × PoolEvent Task)}

omit [DecidableEq Submitter] in
theorem tasksOf_append (thread : PoolThread capacity Submitter) (events : List (PoolEvent Task)) :
    tasksOf kind (outputs ++ events.map (Prod.mk thread)) =
      tasksOf kind outputs ++ events.filterMap kind := by
  rw [tasksOf, List.filterMap_append, List.filterMap_map]
  rfl

theorem tasksBy_append (thread : PoolThread capacity Submitter) (events : List (PoolEvent Task)) :
    tasksBy kind thread (outputs ++ events.map (Prod.mk thread)) =
      tasksBy kind thread outputs ++ events.filterMap kind := by
  rw [tasksBy, List.filterMap_append, List.filterMap_map]
  simp only [Function.comp_def, if_true]
  rfl

theorem tasksBy_append_of_ne {thread other : PoolThread capacity Submitter}
    (different : thread ≠ other) (events : List (PoolEvent Task)) :
    tasksBy kind other (outputs ++ events.map (Prod.mk thread)) = tasksBy kind other outputs := by
  rw [tasksBy, List.filterMap_append, List.filterMap_map]
  simp only [Function.comp_def, if_neg different, List.filterMap_none, List.append_nil]
  rfl

def Ordered (state : Stages capacity Task Submitter)
    (outputs : List (PoolThread capacity Submitter × PoolEvent Task)) : Prop :=
  tasksOf PoolEvent.taken? outputs ++ state.data.tasks = tasksOf PoolEvent.pushed? outputs

theorem ordered_move (move : (program capacity Task Submitter).StageMove before after events)
    (ordered : Ordered before outputs) : Ordered after (outputs ++ events) := by
  unfold Ordered at ordered ⊢
  cases move with
  | stay | enter =>
      rw [List.append_nil]
      exact ordered
  | act thread stage place acts =>
      rw [tasksOf_append, tasksOf_append, (action_events stage).1, (action_events stage).2,
        List.append_nil, List.append_nil]
      exact ordered
  | body thread stage body data next events place acts result =>
      have queue := (outcome_of_action acts result).queue
      rw [tasksOf_append, tasksOf_append, ← ordered, List.append_assoc, List.append_assoc, queue]

def Stopped (state : Stages capacity Task Submitter)
    (outputs : List (PoolThread capacity Submitter × PoolEvent Task)) : Prop :=
  state.data.stop = true ∧ tasksOf PoolEvent.taken? outputs = []

theorem stopped_move (move : (program capacity Task Submitter).StageMove before after events)
    (stopped : Stopped before outputs) : Stopped after (outputs ++ events) := by
  unfold Stopped at stopped ⊢
  cases move with
  | stay | enter =>
      rw [List.append_nil]
      exact stopped
  | act thread stage place acts =>
      rw [tasksOf_append, (action_events stage).2, List.append_nil]
      exact stopped
  | body thread stage body data next events place acts result =>
      obtain ⟨still, nothing⟩ := (outcome_of_action acts result).stopped stopped.1
      rw [tasksOf_append, stopped.2, nothing]
      exact ⟨still, rfl⟩

theorem threw_move (move : (program capacity Task Submitter).StageMove before after events)
    {thread : PoolThread capacity Submitter} {task : Task} {error : SubmitError}
    (threw : (thread, PoolEvent.threw task error) ∈ events) : after.data = before.data := by
  cases move with
  | stay | enter | act => rfl
  | body thread stage body data next events place acts result =>
      obtain ⟨event, member, same⟩ := List.mem_map.mp threw
      cases same
      exact (outcome_of_action acts result).threw member

def Serves (state : Stages capacity Task Submitter)
    (outputs : List (PoolThread capacity Submitter × PoolEvent Task)) : Prop :=
  ∀ index, InHand (tasksBy PoolEvent.taken? (.worker index) outputs)
    (tasksBy PoolEvent.started? (.worker index) outputs)
    (tasksBy PoolEvent.finished? (.worker index) outputs) (state.stages (.worker index))

theorem serves_move (move : (program capacity Task Submitter).StageMove before after events)
    (serves : Serves before outputs) : Serves after (outputs ++ events) := by
  intro index
  have inHand := serves index
  cases move with
  | stay =>
      rw [List.append_nil]
      exact inHand
  | enter thread call stage place enters =>
      have different : PoolThread.worker index ≠ thread := by
        rintro rfl
        cases call <;> cases enters
      rw [List.append_nil]
      simp only [Function.update_of_ne different]
      exact inHand
  | act thread stage place acts =>
      by_cases here : PoolThread.worker index = thread
      · subst here
        rw [place] at inHand
        simp only [Function.update_self, tasksBy_append]
        exact inHand.act acts
      · simp only [Function.update_of_ne here, tasksBy_append_of_ne (Ne.symm here)]
        exact inHand
  | body thread stage body data next events place acts result =>
      by_cases here : PoolThread.worker index = thread
      · subst here
        rw [place] at inHand
        simp only [Function.update_self, tasksBy_append]
        exact inHand.leave (outcome_of_action acts result)
      · simp only [Function.update_of_ne here, tasksBy_append_of_ne (Ne.symm here)]
        exact inHand

end Histories

/-! ### Wake-ups -/

def plays : PoolThread capacity Submitter → PoolStage Task → Prop
  | .worker _, .take | .worker _, .call _ | .worker _, .work _ => True
  | .submitter _, .push _ _ | .submitter _, .notifyOne => True
  | .destroyer, .setStop | .destroyer, .notifyAll | .destroyer, .join _ => True
  | _, _ => False

theorem plays_roles : (program capacity Task Submitter).Roles plays := by
  refine ⟨?_, ?_, ?_⟩
  · intro data thread call stage enters
    cases thread with
    | worker index => cases call <;> cases enters
    | submitter name =>
        cases call with
        | submit task stored =>
            cases enters
            trivial
        | destroy => cases enters
    | destroyer =>
        cases call with
        | submit task stored => cases enters
        | destroy =>
            simp only [program, enter] at enters
            split_ifs at enters
            cases enters
            trivial
  · intro thread stage body data later next events role acts result
    have outcome := outcome_of_action acts result
    cases outcome with
    | takes | pushes | stops => cases thread <;> exact role
  · intro thread stage next role acts
    cases stage with
    | join index =>
        simp only [program, action] at acts
        split at acts
        · cases acts
          cases thread <;> exact role
        · cases acts
    | call | work | notifyAll =>
        cases acts
        cases thread <;> exact role
    | take | push | setStop | notifyOne => cases acts

theorem first_plays (thread : PoolThread capacity Submitter) (stage : PoolStage Task)
    (begins : first thread = some stage) : plays thread stage := by
  cases thread with
  | worker index =>
      cases begins
      trivial
  | submitter | destroyer => cases begins

def HasWork (data : PoolData Task) : Prop := data.stop = false ∧ data.tasks ≠ []

theorem wakeProtocol : (program capacity Task Submitter).WakeProtocol plays HasWork
    (fun thread => ∃ index, thread = .worker index) (fun stage => stage = .notifyOne) := by
  refine ⟨plays_roles, ?_, ?_, ?_, ?_⟩
  · intro stage body data acts result work
    have outcome := outcome_of_action acts result
    cases outcome with
    | waits running empty => exact work.2 empty
  · intro thread stage body data role acts result
    have outcome := outcome_of_action acts result
    cases outcome with
    | waits running empty =>
        cases thread with
        | worker index => exact ⟨index, rfl⟩
        | submitter | destroyer => cases role
  · intro stage body data later next events acts result work
    have outcome := outcome_of_action acts result
    cases outcome with
    | takes task rest running front =>
        refine Or.inl ⟨running, ?_⟩
        rw [front]
        exact List.cons_ne_nil task rest
    | pushes task running => exact Or.inr ⟨.notifyOne, rfl, rfl⟩
    | ends | throws => exact Or.inl work
    | stops => cases work.1
  · rintro stage rfl
    exact ⟨none, Or.inl rfl⟩

/-! ### Runs -/

section Runs

variable [DecidableEq Submitter]

abbrev Step (capacity : Nat) (Task Submitter : Type) :=
  MonitorStep (PoolThread capacity Submitter) (PoolCall Task)

def after (steps : List (Step capacity Task Submitter)) :
    MonitorState (PoolThread capacity Submitter) (PoolData Task) (PoolStage Task) :=
  (program capacity Task Submitter).machine.run (start capacity Task Submitter) steps

def history (steps : List (Step capacity Task Submitter)) :
    List (PoolThread capacity Submitter × PoolEvent Task) :=
  (program capacity Task Submitter).machine.trace (start capacity Task Submitter) steps

def Notifies (pool : MonitorState (PoolThread capacity Submitter) (PoolData Task) (PoolStage Task))
    (name : Submitter) : Prop :=
  (pool.points (.submitter name)).stage? = some .notifyOne

theorem invariant_after
    (inv : Stages capacity Task Submitter →
      List (PoolThread capacity Submitter × PoolEvent Task) → Prop)
    (keep : ∀ before after events outputs,
      (program capacity Task Submitter).StageMove before after events →
        inv before outputs → inv after (outputs ++ events))
    (fresh : inv (MonitorProgram.stageState (start capacity Task Submitter)) [])
    (steps : List (Step capacity Task Submitter)) :
    inv (MonitorProgram.stageState (after steps)) (history steps) := by
  have reached := MonitorProgram.stage_invariant inv keep fresh steps
  rwa [List.nil_append] at reached

theorem ordered_after (steps : List (Step capacity Task Submitter)) :
    Ordered (MonitorProgram.stageState (after steps)) (history steps) :=
  invariant_after Ordered (fun _ _ _ _ move ordered => ordered_move move ordered) rfl steps

theorem serves_after (steps : List (Step capacity Task Submitter)) :
    Serves (MonitorProgram.stageState (after steps)) (history steps) :=
  invariant_after Serves (fun _ _ _ _ move serves => serves_move move serves)
    (fun _ => ⟨rfl, rfl⟩) steps

theorem awake_after (positive : 0 < capacity) (steps : List (Step capacity Task Submitter))
    (work : HasWork (after steps).data) :
    (∃ name, Notifies (after steps) name) ∨
      ∃ index, ((after steps).points (.worker index)).isBlocked = false := by
  obtain ⟨inRole, wakeful⟩ := MonitorProgram.no_lost_wakeup { tasks := [], stop := false }
    wakeProtocol ⟨PoolThread.worker ⟨0, positive⟩, _, rfl⟩ first_plays steps
  rcases wakeful.awake work with ⟨thread, _, rfl, place⟩ | ⟨_, ⟨index, rfl⟩, awake⟩
  · have here : ((after steps).points thread).stage? = some .notifyOne := by
      rcases place with place | place <;> exact congrArg MonitorPoint.stage? place
    have role : plays thread .notifyOne := inRole thread .notifyOne here
    cases thread with
    | submitter name => exact Or.inl ⟨name, here⟩
    | worker | destroyer => cases role
  · exact Or.inr ⟨index, awake⟩

/-- No task and no wake-up is lost. -/
theorem no_task_no_wakeup_lost (positive : 0 < capacity)
    (steps : List (Step capacity Task Submitter)) :
    (tasksOf PoolEvent.taken? (history steps) ++ (after steps).data.tasks =
        tasksOf PoolEvent.pushed? (history steps) ∧
      ∀ index, tasksBy PoolEvent.started? (.worker index) (history steps) <+:
        tasksBy PoolEvent.taken? (.worker index) (history steps)) ∧
    ¬((after steps).data.stop = false ∧ (after steps).data.tasks ≠ [] ∧
      (∀ name, ¬Notifies (after steps) name) ∧
      ∀ index, ((after steps).points (.worker index)).isBlocked = true) ∧
    ((after steps).data.stop = true → ∀ later : List (Step capacity Task Submitter),
      tasksOf PoolEvent.taken?
        ((program capacity Task Submitter).machine.trace (after steps) later) = []) ∧
    ∀ (step : Step capacity Task Submitter) thread task error,
      (thread, PoolEvent.threw task error) ∈ (program capacity Task Submitter).machine.emit
        (after steps) step →
      ((program capacity Task Submitter).machine.next (after steps) step).data.tasks =
        (after steps).data.tasks := by
  refine ⟨⟨ordered_after steps, ?_⟩, ?_, ?_, ?_⟩
  · intro index
    exact (serves_after steps index).started_of_taken
  · rintro ⟨running, tasks, silent, blocked⟩
    rcases awake_after positive steps ⟨running, tasks⟩ with ⟨name, notifies⟩ | ⟨index, awake⟩
    · exact silent name notifies
    · exact nomatch (blocked index).symm.trans awake
  · intro stopped later
    have reached := MonitorProgram.stage_invariant Stopped
      (fun _ _ _ _ move stopped => stopped_move move stopped)
      (⟨stopped, rfl⟩ : Stopped (MonitorProgram.stageState (after steps)) []) later
    exact reached.2
  · intro step thread task error threw
    exact congrArg PoolData.tasks
      (threw_move (MonitorProgram.stageMove_step _ (after steps) step) threw)

/-- A worker that is blocked is woken by a submit and takes the task.  The pool is then
destroyed, and a second submit throws. -/
def oneTask : List (Step 1 Nat Unit) :=
  [.acquire (.worker 0), .run (.worker 0), .release (.worker 0),
    .start (.submitter ()) (.submit 7 true), .acquire (.submitter ()), .run (.submitter ()),
    .release (.submitter ()), .notify (.submitter ()) (.worker 0),
    .acquire (.worker 0), .run (.worker 0), .release (.worker 0), .proceed (.worker 0),
    .start .destroyer .destroy, .acquire .destroyer, .run .destroyer, .release .destroyer,
    .start (.submitter ()) (.submit 8 true), .acquire (.submitter ()), .run (.submitter ())]

theorem no_task_no_wakeup_lost_one_task :
    history oneTask =
      [(.submitter (), .pushed 7), (.worker 0, .taken 7), (.worker 0, .started 7),
        (.submitter (), .threw 8 (.runtimeError "submit to stopped ThreadPool"))] ∧
    (after oneTask).data.stop = true ∧
    tasksOf PoolEvent.taken? (history oneTask) ++ (after oneTask).data.tasks =
      tasksOf PoolEvent.pushed? (history oneTask) ∧
    ∀ later : List (Step 1 Nat Unit), tasksOf PoolEvent.taken?
      ((program 1 Nat Unit).machine.trace (after oneTask) later) = [] := by
  have stopped : (after oneTask).data.stop = true := by decide
  obtain ⟨⟨ordered, _⟩, _, ended, _⟩ := no_task_no_wakeup_lost Nat.one_pos oneTask
  exact ⟨by decide, stopped, ordered, ended stopped⟩

/-! ### One worker -/

def Employs (state : Stages capacity Task Submitter)
    (outputs : List (PoolThread capacity Submitter × PoolEvent Task)) : Prop :=
  MonitorProgram.InRole plays state ∧
    ∀ output ∈ outputs, output.2.isWork = true → ∃ index, output.1 = .worker index

omit [DecidableEq Submitter] in
theorem worker_of_outcome {thread : PoolThread capacity Submitter} {stage : PoolStage Task}
    {data later : PoolData Task} {next : Option (PoolStage Task)} {events : List (PoolEvent Task)}
    (role : plays thread stage) (outcome : Outcome data stage (.leave later next events))
    {event : PoolEvent Task} (member : event ∈ events) (work : event.isWork = true) :
    ∃ index, thread = .worker index := by
  cases outcome with
  | takes task rest running front =>
      cases thread with
      | worker index => exact ⟨index, rfl⟩
      | submitter | destroyer => cases role
  | throws | pushes =>
      cases List.mem_singleton.mp member
      cases work
  | ends | stops => cases member

omit [DecidableEq Submitter] in
theorem worker_of_action {thread : PoolThread capacity Submitter} {stage : PoolStage Task}
    (role : plays thread stage) {event : PoolEvent Task}
    (member : event ∈ ((program capacity Task Submitter).action stage).events) :
    ∃ index, thread = .worker index := by
  cases stage with
  | call | work =>
      cases thread with
      | worker index => exact ⟨index, rfl⟩
      | submitter | destroyer => cases role
  | join index =>
      simp only [program, action] at member
      split at member <;> cases member
  | take | push | notifyOne | setStop | notifyAll => cases member

theorem employs_move {before after : Stages capacity Task Submitter}
    {outputs events : List (PoolThread capacity Submitter × PoolEvent Task)}
    (move : (program capacity Task Submitter).StageMove before after events)
    (employs : Employs before outputs) : Employs after (outputs ++ events) := by
  obtain ⟨inRole, workers⟩ := employs
  refine ⟨plays_roles.inRole_move move inRole, List.forall_mem_append.mpr ⟨workers, ?_⟩⟩
  cases move with
  | stay | enter => exact fun _ member => absurd member List.not_mem_nil
  | act thread stage place acts =>
      intro output member work
      obtain ⟨event, here, rfl⟩ := List.mem_map.mp member
      exact worker_of_action (inRole thread stage place) here
  | body thread stage body data next events place acts result =>
      intro output member work
      obtain ⟨event, here, rfl⟩ := List.mem_map.mp member
      exact worker_of_outcome (inRole thread stage place) (outcome_of_action acts result) here work

theorem employs_after (steps : List (Step capacity Task Submitter)) :
    Employs (MonitorProgram.stageState (after steps)) (history steps) := by
  refine invariant_after Employs (fun _ _ _ _ move employs => employs_move move employs)
    ⟨MonitorProgram.initial_inRole first_plays, ?_⟩ steps
  exact fun _ member => absurd member List.not_mem_nil

abbrev soleWorker : PoolThread 1 Submitter := .worker 0

theorem tasksOf_eq_tasksBy (kind : PoolEvent Task → Option Task)
    (work : ∀ event, event.isWork = false → kind event = none)
    (steps : List (Step 1 Task Submitter)) :
    tasksOf kind (history steps) = tasksBy kind (.worker 0) (history steps) := by
  apply List.filterMap_congr
  intro output member
  cases works : output.2.isWork with
  | true =>
      obtain ⟨index, thread⟩ := (employs_after steps).2 output member works
      rw [thread, Subsingleton.elim index 0, if_pos rfl]
  | false => rw [work output.2 works, ite_self]

/-- A pool of one thread is a queue with at most one task in hand: the tasks are
finished in the order in which they were pushed. -/
theorem one_worker_in_order (steps : List (Step 1 Task Submitter)) :
    tasksOf PoolEvent.finished? (history steps) ++
      PoolStage.inHand ((after steps).points (.worker 0)).stage? ++ (after steps).data.tasks =
        tasksOf PoolEvent.pushed? (history steps) := by
  have finished := tasksOf_eq_tasksBy PoolEvent.finished? PoolEvent.finished?_eq_none steps
  have taken := tasksOf_eq_tasksBy PoolEvent.taken? PoolEvent.taken?_eq_none steps
  have inHand := (serves_after steps 0).taken_eq
  rw [← taken, ← finished] at inHand
  rw [← (ordered_after steps : _ = _), inHand]
  rfl

end Runs

end ThreadPool

end Ffvms.Concrete
