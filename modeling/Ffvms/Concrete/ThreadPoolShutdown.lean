/-
The destructor of the thread pool.

It sets `mStop`, notifies all and joins the workers in turn.  A worker that goes to wait
has seen `mStop` false and holds the mutex until it is in the wait set, so the
notification finds it there; and after the notification no worker waits again.  What
is left to a worker then is a fixed number of steps, as long as the task that it has in
hand returns.
-/

import Ffvms.MonitorProgress
import Ffvms.Concrete.ThreadPool

namespace Ffvms.Concrete

namespace ThreadPool

open MonitorProgram

variable {capacity : Nat} {Task Submitter : Type}

variable {pool : PoolState capacity Task Submitter}

def Notified (pool : PoolState capacity Task Submitter) : Prop :=
  pool.data.stop = true ∧ (pool.points .destroyer).stage? ≠ some .notifyAll

def Destroyed (pool : PoolState capacity Task Submitter) : Prop :=
  pool.data.stop = true ∧ (pool.points .destroyer).stage? = none

def Joined (pool : PoolState capacity Task Submitter) : Option (PoolStage Task) → Prop
  | none => pool.data.stop = true → ∀ worker, pool.points (.worker worker) = .idle
  | some .setStop => pool.data.stop = false
  | some .notifyAll => pool.data.stop = true
  | some (.join index) => pool.data.stop = true ∧
      ∀ worker : Fin capacity, worker.val < index → pool.points (.worker worker) = .idle
  | some _ => True

structure Winding (pool : PoolState capacity Task Submitter) : Prop where
  tested : pool.data.stop = true → ∀ thread stage, pool.points thread ≠ .suspending stage
  woken : Notified pool → ∀ thread, (pool.points thread).isBlocked = false
  joined : Joined pool (pool.points .destroyer).stage?

theorem Joined.mono {later : PoolState capacity Task Submitter} {stage : Option (PoolStage Task)}
    (joined : Joined pool stage) (stop : later.data.stop = pool.data.stop)
    (ended : ∀ worker, pool.points (.worker worker) = .idle →
      later.points (.worker worker) = .idle) : Joined later stage := by
  cases stage with
  | none =>
      rw [Joined, stop]
      exact fun stopped worker => ended worker (joined stopped worker)
  | some stage =>
      cases stage with
      | setStop => exact stop.trans joined
      | notifyAll => exact stop.trans joined
      | join index =>
          exact ⟨stop.trans joined.1, fun worker below => ended worker (joined.2 worker below)⟩
      | take | call | work | push | notifyOne => trivial

theorem Winding.congr {later : PoolState capacity Task Submitter} (winding : Winding pool)
    (stop : later.data.stop = pool.data.stop) (points : later.points = pool.points) :
    Winding later := by
  refine ⟨?_, ?_, ?_⟩
  · rw [stop, points]
    exact winding.tested
  · rw [Notified, stop, points]
    exact winding.woken
  · rw [points]
    refine winding.joined.mono stop ?_
    intro worker ended
    rw [points]
    exact ended

/-! ### Which stage does what -/

section Actions

variable {stage : PoolStage Task} {next : Option (PoolStage Task)}

theorem action_notifyOne
    (acts : (program capacity Task Submitter).action stage = .notifyOne next) :
    stage = .notifyOne ∧ next = none := by
  cases stage with
  | notifyOne =>
      cases acts
      exact ⟨rfl, rfl⟩
  | join index =>
      simp only [program, action] at acts
      split at acts <;> cases acts
  | take | call | work | push | setStop | notifyAll => cases acts

theorem action_notifyAll
    (acts : (program capacity Task Submitter).action stage = .notifyAll next) :
    stage = .notifyAll ∧ next = some (.join 0) := by
  cases stage with
  | notifyAll =>
      cases acts
      exact ⟨rfl, rfl⟩
  | join index =>
      simp only [program, action] at acts
      split at acts <;> cases acts
  | take | call | work | push | setStop | notifyOne => cases acts

theorem action_join {other : PoolThread capacity Submitter}
    (acts : (program capacity Task Submitter).action stage = .join other next) :
    ∃ worker : Fin capacity, stage = .join worker ∧ other = .worker worker ∧
      next = some (.join (worker + 1)) := by
  cases stage with
  | join index =>
      simp only [program, action] at acts
      split at acts
      next bound =>
        cases acts
        exact ⟨⟨index, bound⟩, rfl, rfl, rfl⟩
      next => cases acts
  | take | call | work | push | setStop | notifyOne | notifyAll => cases acts

theorem action_outside {events : List (PoolEvent Task)}
    (acts : (program capacity Task Submitter).action stage = .outside events next) :
    (∃ task, stage = .call task ∧ events = [.started task] ∧ next = some (.work task)) ∨
      (∃ task, stage = .work task ∧ events = [.finished task] ∧ next = some .take) ∨
      ∃ index, stage = .join index ∧ capacity ≤ index ∧ events = [] ∧ next = none := by
  cases stage with
  | call task =>
      cases acts
      exact Or.inl ⟨task, rfl, rfl, rfl⟩
  | work task =>
      cases acts
      exact Or.inr (Or.inl ⟨task, rfl, rfl, rfl⟩)
  | join index =>
      simp only [program, action] at acts
      split at acts
      next => cases acts
      next beyond =>
        cases acts
        exact Or.inr (Or.inr ⟨index, rfl, Nat.le_of_not_lt beyond, rfl, rfl⟩)
  | take | push | setStop | notifyOne | notifyAll => cases acts

end Actions

/-! ### One step -/

section Steps

variable [DecidableEq Submitter] {thread : PoolThread capacity Submitter}
  {point : MonitorPoint (PoolStage Task)}

theorem joined_setPoint (winding : Winding pool)
    (same : thread = .destroyer → point.stage? = (pool.points thread).stage?)
    (begun : ∀ worker, thread = .worker worker → pool.points thread ≠ .idle) :
    Joined (pool.setPoint thread point)
      ((pool.setPoint thread point).points .destroyer).stage? := by
  have destroyer : ((pool.setPoint thread point).points .destroyer).stage? =
      (pool.points .destroyer).stage? := by
    by_cases here : thread = .destroyer
    · subst here
      rw [MonitorState.setPoint_self]
      exact same rfl
    · rw [MonitorState.setPoint_of_ne pool point (Ne.symm here)]
  rw [destroyer]
  refine winding.joined.mono rfl ?_
  intro worker ended
  have different : PoolThread.worker worker ≠ thread := by
    rintro rfl
    exact begun worker rfl ended
  rw [MonitorState.setPoint_of_ne pool point different]
  exact ended

theorem Winding.setPoint (winding : Winding pool)
    (same : thread = .destroyer → point.stage? = (pool.points thread).stage?)
    (begun : ∀ worker, thread = .worker worker → pool.points thread ≠ .idle)
    (calm : point.waits = false) : Winding (pool.setPoint thread point) := by
  refine ⟨?_, ?_, joined_setPoint winding same begun⟩
  · intro stopped moved stage
    simp only [MonitorState.setPoint, Function.update_apply]
    split_ifs with here
    · rintro rfl
      cases calm
    · exact winding.tested stopped moved stage
  · rintro ⟨stopped, past⟩ moved
    have before : Notified pool := by
      refine ⟨stopped, ?_⟩
      by_cases here : thread = .destroyer
      · subst here
        rw [MonitorState.setPoint_self] at past
        exact same rfl ▸ past
      · rwa [MonitorState.setPoint_of_ne pool point (Ne.symm here)] at past
    simp only [MonitorState.setPoint, Function.update_apply]
    split_ifs with here
    · exact MonitorPoint.isBlocked_of_not_waits calm
    · exact winding.woken before moved

theorem Winding.running (winding : Winding pool) (runs : pool.data.stop = false)
    (same : point.stage? = (pool.points thread).stage?) (begun : pool.points thread ≠ .idle) :
    Winding (pool.setPoint thread point) := by
  refine ⟨?_, ?_, joined_setPoint winding (fun _ => same) (fun _ _ => begun)⟩
  · intro stopped
    cases runs.symm.trans stopped
  · rintro ⟨stopped, _⟩
    cases runs.symm.trans stopped

omit [DecidableEq Submitter] in
theorem Winding.of_awaken {later : PoolState capacity Task Submitter} (winding : Winding pool)
    (data : later.data = pool.data)
    (points : ∀ thread, later.points thread = pool.points thread ∨
      later.points thread = (pool.points thread).awaken) : Winding later := by
  have stages (moved : PoolThread capacity Submitter) :
      (later.points moved).stage? = (pool.points moved).stage? := by
    rcases points moved with same | woken
    · rw [same]
    · rw [woken, MonitorPoint.stage?_awaken]
  refine ⟨?_, ?_, ?_⟩
  · intro stopped moved stage waits
    rw [data] at stopped
    refine winding.tested stopped moved stage ?_
    rcases points moved with same | woken
    · exact same ▸ waits
    · rw [woken] at waits
      exact MonitorPoint.eq_suspending_of_awaken waits
  · rintro ⟨stopped, past⟩ moved
    rw [data] at stopped
    rw [stages] at past
    rcases points moved with same | woken
    · rw [same]
      exact winding.woken ⟨stopped, past⟩ moved
    · rw [woken, MonitorPoint.isBlocked_awaken]
  · rw [stages]
    refine winding.joined.mono (by rw [data]) ?_
    intro worker ended
    rcases points (.worker worker) with same | woken
    · rw [same]
      exact ended
    · rw [woken, ended]
      rfl

theorem Winding.wake (winding : Winding pool) (chosen : PoolThread capacity Submitter) :
    Winding (pool.wake chosen) := by
  refine winding.of_awaken rfl ?_
  intro moved
  simp only [MonitorState.wake, Function.update_apply]
  split_ifs with here
  · rw [here]
    exact Or.inr rfl
  · exact Or.inl rfl

omit [DecidableEq Submitter] in
theorem ne_destroyer (inRole : InRole plays (stageState pool)) {stage : PoolStage Task}
    (here : (pool.points thread).stage? = some stage)
    (other : ¬plays (PoolThread.destroyer : PoolThread capacity Submitter) stage) :
    thread ≠ .destroyer := by
  rintro rfl
  exact other (inRole .destroyer stage here)

theorem winding_stops (coherent : Coherent pool)
    {data : PoolData Task} (place : pool.points .destroyer = .inside .setStop)
    (stopped : data.stop = true) :
    Winding { pool.setPoint .destroyer (.leaving (some .notifyAll)) with data := data } := by
  have moved : ((pool.setPoint .destroyer (.leaving (some .notifyAll))).points
      .destroyer).stage? = some .notifyAll := by
    rw [MonitorState.setPoint_self]
    rfl
  refine ⟨?_, fun notified => absurd moved notified.2, ?_⟩
  · -- Whoever is about to wait would hold the mutex too.
    intro _ other stage
    simp only [MonitorState.setPoint, Function.update_apply]
    split_ifs with here
    · intro impossible
      cases impossible
    · intro waits
      have first : (pool.points .destroyer).holds = true := by rw [place]; rfl
      have second : (pool.points other).holds = true := by rw [waits]; rfl
      exact absurd (coherent.eq_of_holds first second) here
  · change Joined _ ((pool.setPoint .destroyer (.leaving (some .notifyAll))).points
      .destroyer).stage?
    rw [moved]
    exact stopped

theorem winding_leave (winding : Winding pool) (coherent : Coherent pool)
    (inRole : InRole plays (stageState pool)) {stage : PoolStage Task} {data : PoolData Task}
    {next : Option (PoolStage Task)} {events : List (PoolEvent Task)}
    (place : pool.points thread = .inside stage)
    (outcome : Outcome pool.data stage (.leave data next events)) :
    Winding { pool.setPoint thread (.leaving next) with data := data } := by
  have here : (pool.points thread).stage? = some stage := by rw [place]; rfl
  -- The sections of the others leave `mStop` alone.
  have others (different : thread ≠ .destroyer) (stop : data.stop = pool.data.stop) :
      Winding { pool.setPoint thread (.leaving next) with data := data } := by
    have moved : Winding (pool.setPoint thread (.leaving next)) :=
      winding.setPoint (fun own => absurd own different) (fun _ _ => by rw [place]; simp) rfl
    exact moved.congr stop rfl
  cases outcome with
  | ends | takes | throws | pushes =>
      exact others (ne_destroyer inRole here id) rfl
  | stops =>
      cases thread with
      | destroyer => exact winding_stops coherent place rfl
      | worker | submitter => exact (inRole _ _ here).elim

theorem winding_notifyAll (winding : Winding pool) (stopped : pool.data.stop = true) :
    Winding (pool.wakeAll.setPoint .destroyer (.resume (some (.join 0)))) := by
  refine ⟨?_, ?_, ?_⟩
  · intro _ other stage
    simp only [MonitorState.setPoint, MonitorState.wakeAll, Function.update_apply]
    split_ifs with here
    · intro impossible
      cases impossible
    · exact fun waits =>
        winding.tested stopped other stage (MonitorPoint.eq_suspending_of_awaken waits)
  · intro _ other
    simp only [MonitorState.setPoint, MonitorState.wakeAll, Function.update_apply]
    split_ifs with here
    · rfl
    · exact MonitorPoint.isBlocked_awaken _
  · rw [MonitorState.setPoint_self]
    exact ⟨stopped, fun worker below => absurd below (Nat.not_lt_zero _)⟩

theorem winding_joins (winding : Winding pool) {next : Option (PoolStage Task)}
    (past : (pool.points .destroyer).stage? ≠ some .notifyAll) (joined : Joined pool next) :
    Winding (pool.setPoint .destroyer (.resume next)) := by
  refine ⟨?_, ?_, ?_⟩
  · intro stopped other stage
    simp only [MonitorState.setPoint, Function.update_apply]
    split_ifs with here
    · cases next <;> intro impossible <;> cases impossible
    · exact winding.tested stopped other stage
  · rintro ⟨stopped, _⟩ other
    simp only [MonitorState.setPoint, Function.update_apply]
    split_ifs with here
    · exact MonitorPoint.isBlocked_resume next
    · exact winding.woken ⟨stopped, past⟩ other
  · rw [MonitorState.setPoint_self, MonitorPoint.stage?_resume]
    refine joined.mono rfl ?_
    intro worker ended
    rw [MonitorState.setPoint_of_ne pool _ (by simp)]
    exact ended

theorem winding_step {step : Step capacity Task Submitter} (winding : Winding pool)
    (coherent : Coherent pool) (inRole : InRole plays (stageState pool)) :
    Winding ((program capacity Task Submitter).perform pool step) := by
  have effect := perform_effect (program capacity Task Submitter) pool step
  generalize (program capacity Task Submitter).perform pool step = later,
    (program capacity Task Submitter).report pool step = outputs at effect
  have stageAt {thread : PoolThread capacity Submitter} {stage : PoolStage Task}
      (place : pool.points thread = .before stage) :
      (pool.points thread).stage? = some stage := by rw [place]; rfl
  have begun {thread : PoolThread capacity Submitter} {stage : PoolStage Task}
      (place : pool.points thread = .before stage) : pool.points thread ≠ .idle := by
    rw [place]
    simp
  cases effect with
  | none => exact winding
  | start thread call stage place enters =>
      cases thread with
      | worker index => cases call <;> cases enters
      | submitter name =>
          exact winding.setPoint (fun own => by cases own) (fun _ own => by cases own) rfl
      | destroyer =>
          cases call with
          | submit task stored => cases enters
          | destroy =>
              simp only [program, enter] at enters
              split_ifs at enters with stopped
              cases enters
              have runs : pool.data.stop = false := Bool.eq_false_iff.mpr stopped
              refine ⟨?_, ?_, ?_⟩
              · intro impossible
                exact absurd impossible stopped
              · intro impossible
                exact absurd impossible.1 stopped
              · rw [MonitorState.setPoint_self]
                exact runs
  | acquire thread stage body place acts free =>
      have moved : Winding (pool.setPoint thread (.inside stage)) :=
        winding.setPoint (fun _ => by rw [place]; rfl) (fun _ _ => begun place) rfl
      exact moved.congr rfl rfl
  | suspend thread stage body place acts result =>
      have outcome := outcome_of_action acts result
      cases outcome with
      | waits runs empty =>
          exact winding.running runs (by rw [place]; rfl) (by rw [place]; simp)
  | leave thread stage body data next events place acts result =>
      exact winding_leave winding coherent inRole place (outcome_of_action acts result)
  | block thread stage place =>
      have runs : pool.data.stop = false := by
        refine Bool.eq_false_iff.mpr (fun stopped => ?_)
        exact winding.tested stopped thread stage place
      have moved : Winding (pool.setPoint thread (.blocked stage)) :=
        winding.running runs (by rw [place]; rfl) (by rw [place]; simp)
      exact moved.congr rfl rfl
  | release thread next place =>
      have moved : Winding (pool.setPoint thread (.resume next)) :=
        winding.setPoint (fun _ => by rw [place, MonitorPoint.stage?_resume]; rfl)
          (fun _ _ => by rw [place]; simp) (MonitorPoint.waits_resume next)
      exact moved.congr rfl rfl
  | notifyNone thread stage next place acts nobody =>
      have different : thread ≠ .destroyer := by
        obtain ⟨rfl, _⟩ := action_notifyOne acts
        exact ne_destroyer inRole (stageAt place) id
      exact winding.setPoint (fun own => absurd own different) (fun _ _ => begun place)
        (MonitorPoint.waits_resume next)
  | notifyOne thread chosen stage next place acts waits =>
      have different : thread ≠ .destroyer := by
        obtain ⟨rfl, _⟩ := action_notifyOne acts
        exact ne_destroyer inRole (stageAt place) id
      refine (winding.wake chosen).setPoint (fun own => absurd own different) (fun _ _ => ?_)
        (MonitorPoint.waits_resume next)
      rw [MonitorState.wake_before place chosen]
      simp
  | notifyAll thread stage next place acts =>
      obtain ⟨rfl, rfl⟩ := action_notifyAll acts
      cases thread with
      | destroyer =>
          have stopped : Joined pool (some .notifyAll) := stageAt place ▸ winding.joined
          exact winding_notifyAll winding stopped
      | worker | submitter => exact (inRole _ _ (stageAt place)).elim
  | join thread other stage next place acts ended =>
      obtain ⟨worker, rfl, rfl, rfl⟩ := action_join acts
      cases thread with
      | destroyer =>
          have joined : Joined pool (some (.join worker)) := stageAt place ▸ winding.joined
          refine winding_joins winding (by rw [stageAt place]; simp) ?_
          refine ⟨joined.1, fun other below => ?_⟩
          rcases Nat.lt_succ_iff_lt_or_eq.mp below with earlier | last
          · exact joined.2 other earlier
          · rw [Fin.ext last]
            exact ended
      | worker | submitter => exact (inRole _ _ (stageAt place)).elim
  | outside thread stage events next place acts =>
      rcases action_outside acts with ⟨task, rfl, _, rfl⟩ | ⟨task, rfl, _, rfl⟩ |
        ⟨index, rfl, beyond, _, rfl⟩
      · exact winding.setPoint
          (fun own => absurd own (ne_destroyer inRole (stageAt place) id)) (fun _ _ => begun place)
          rfl
      · exact winding.setPoint
          (fun own => absurd own (ne_destroyer inRole (stageAt place) id)) (fun _ _ => begun place)
          rfl
      · cases thread with
        | destroyer =>
            have joined : Joined pool (some (.join index)) := stageAt place ▸ winding.joined
            refine winding_joins winding (by rw [stageAt place]; simp) ?_
            intro _ worker
            exact joined.2 worker (Nat.lt_of_lt_of_le worker.isLt beyond)
        | worker | submitter => exact (inRole _ _ (stageAt place)).elim
  | wake thread stage place => exact winding.wake thread

end Steps

/-! ### What is left to a worker -/

/-- How many moves a worker at the stage has before it ends, once the pool is stopped. -/
def movesFrom : PoolStage Task → Nat
  | .call _ => 5
  | .work _ => 4
  | .take => 3
  | .push _ _ | .notifyOne | .setStop | .notifyAll | .join _ => 0

def remaining : MonitorPoint (PoolStage Task) → Nat
  | .before stage => movesFrom stage
  | .inside _ => 2
  | .leaving none => 1
  | .leaving (some stage) => movesFrom stage + 1
  | .idle | .suspending _ | .blocked _ => 0

section Runs

variable [DecidableEq Submitter]

/-- After the notification a step leaves a worker where it is, or brings it nearer to its
end. -/
theorem remaining_step {step : Step capacity Task Submitter} (winding : Winding pool)
    (inRole : InRole plays (stageState pool)) (notified : Notified pool) (index : Fin capacity) :
    ((program capacity Task Submitter).perform pool step).points (.worker index) =
        pool.points (.worker index) ∨
      remaining (((program capacity Task Submitter).perform pool step).points (.worker index)) <
        remaining (pool.points (.worker index)) := by
  have effect := perform_effect (program capacity Task Submitter) pool step
  generalize (program capacity Task Submitter).perform pool step = later,
    (program capacity Task Submitter).report pool step = outputs at effect
  have awake := winding.woken notified
  have role {stage : PoolStage Task} (here : (pool.points (.worker index)).stage? = some stage) :
      plays (PoolThread.worker index : PoolThread capacity Submitter) stage :=
    inRole (.worker index) stage here
  -- Another thread moves.
  have other {thread : PoolThread capacity Submitter} (point : MonitorPoint (PoolStage Task))
      (different : PoolThread.worker index ≠ thread) :
      (pool.setPoint thread point).points (.worker index) = pool.points (.worker index) :=
    MonitorState.setPoint_of_ne pool point different
  cases effect with
  | none => exact Or.inl rfl
  | start thread call stage place enters =>
      refine Or.inl (other _ ?_)
      rintro rfl
      cases call <;> cases enters
  | acquire thread stage body place acts free =>
      by_cases here : PoolThread.worker index = thread
      · subst here
        right
        simp only [MonitorState.setPoint, Function.update_self]
        have plays := role (by rw [place]; rfl)
        rw [place]
        cases stage with
        | take => exact Nat.lt_succ_self 2
        | call | work => cases acts
        | push | notifyOne | setStop | notifyAll | join => cases plays
      · exact Or.inl (other _ here)
  | suspend thread stage body place acts result =>
      have outcome := outcome_of_action acts result
      cases outcome with
      | waits runs empty => cases runs.symm.trans notified.1
  | leave thread stage body data next events place acts result =>
      by_cases here : PoolThread.worker index = thread
      · subst here
        right
        simp only [MonitorState.setPoint, Function.update_self]
        have plays := role (by rw [place]; rfl)
        rw [place]
        have outcome := outcome_of_action acts result
        cases outcome with
        | ends stopped => exact Nat.lt_succ_self 1
        | takes task rest runs front => cases runs.symm.trans notified.1
        | throws | pushes | stops => cases plays
      · exact Or.inl (other _ here)
  | block thread stage place => exact absurd place (winding.tested notified.1 thread stage)
  | release thread next place =>
      by_cases here : PoolThread.worker index = thread
      · subst here
        right
        simp only [MonitorState.setPoint, Function.update_self]
        rw [place]
        cases next with
        | none => exact Nat.one_pos
        | some stage => exact Nat.lt_succ_self (movesFrom stage)
      · exact Or.inl (other _ here)
  | notifyNone thread stage next place acts nobody =>
      obtain ⟨rfl, rfl⟩ := action_notifyOne acts
      refine Or.inl (other _ ?_)
      rintro rfl
      exact role (by rw [place]; rfl)
  | notifyOne thread chosen stage next place acts waits =>
      obtain ⟨rfl, rfl⟩ := action_notifyOne acts
      have different : PoolThread.worker index ≠ thread := by
        rintro rfl
        exact role (by rw [place]; rfl)
      rw [MonitorState.setPoint_of_ne _ _ different]
      exact Or.inl (MonitorState.wake_points (awake (.worker index)) chosen)
  | notifyAll thread stage next place acts =>
      obtain ⟨rfl, rfl⟩ := action_notifyAll acts
      have different : PoolThread.worker index ≠ thread := by
        rintro rfl
        exact role (by rw [place]; rfl)
      rw [MonitorState.setPoint_of_ne _ _ different]
      exact Or.inl (MonitorPoint.awaken_eq_self (awake (.worker index)))
  | join thread joined stage next place acts ended =>
      obtain ⟨worker, rfl, rfl, rfl⟩ := action_join acts
      refine Or.inl (other _ ?_)
      rintro rfl
      exact role (by rw [place]; rfl)
  | outside thread stage events next place acts =>
      by_cases here : PoolThread.worker index = thread
      · subst here
        right
        rw [MonitorState.setPoint_self, place]
        rcases action_outside acts with ⟨task, rfl, _, rfl⟩ | ⟨task, rfl, _, rfl⟩ |
          ⟨number, rfl, beyond, _, rfl⟩
        · exact Nat.lt_succ_self 4
        · exact Nat.lt_succ_self 3
        · cases role (by rw [place]; rfl)
      · exact Or.inl (other _ here)
  | wake thread stage place =>
      exact Or.inl (MonitorState.wake_points (awake (.worker index)) thread)

/-! ### Runs -/

theorem wound_after (steps : List (Step capacity Task Submitter)) :
    Coherent (after steps) ∧ InRole plays (stageState (after steps)) ∧ Winding (after steps) ∧
      Grounded (program capacity Task Submitter) (after steps) := by
  refine LabelledMachine.run_invariant (fun pool : PoolState capacity Task Submitter =>
    Coherent pool ∧ InRole plays (stageState pool) ∧ Winding pool ∧
      Grounded (program capacity Task Submitter) pool) ?_ ?_ steps
  · rintro pool step ⟨coherent, inRole, winding, grounded⟩
    exact ⟨coherent_step coherent,
      plays_roles.inRole_move (stageMove_step (program capacity Task Submitter) pool step) inRole,
      winding_step winding coherent inRole, grounded_step grounded⟩
  · refine ⟨initial_coherent _ _, initial_inRole first_plays, ?_, initial_grounded _ _⟩
    refine ⟨fun impossible => ?_, fun impossible => ?_, fun impossible => ?_⟩
    · cases impossible
    · cases impossible.1
    · cases impossible

/-- The thread has a step to take that is not the end of a task: when a task returns is up to
the task. -/
def CanMoveOn (pool : PoolState capacity Task Submitter)
    (thread : PoolThread capacity Submitter) : Prop :=
  (∀ task, pool.points thread ≠ .before (.work task)) ∧
    CanMove (program capacity Task Submitter) pool thread

theorem canMoveOn_holder {thread : PoolThread capacity Submitter}
    (grounded : Grounded (program capacity Task Submitter) pool)
    (holder : pool.holder = some thread) : CanMoveOn pool thread := by
  refine ⟨fun task place => ?_, holder_canMove grounded holder⟩
  have holds := grounded.held thread holder
  rw [place] at holds
  cases holds

/-- A worker that the destructor waits for is inside a task, or it or the holder of the mutex
can move. -/
theorem join_progress (coherent : Coherent pool) (inRole : InRole plays (stageState pool))
    (winding : Winding pool) (grounded : Grounded (program capacity Task Submitter) pool)
    (notified : Notified pool) {worker : Fin capacity}
    (place : pool.points .destroyer = .before (.join worker)) :
    (∃ task, pool.points (.worker worker) = .before (.work task)) ∨
      ∃ mover, (mover = .destroyer ∨ mover = .worker worker ∨ pool.holder = some mover) ∧
        CanMoveOn pool mover := by
  -- Inside a section the worker is the holder.
  have inside (holds : (pool.points (.worker worker)).holds = true) :
      ∃ mover, (mover = .destroyer ∨ mover = .worker worker ∨ pool.holder = some mover) ∧
        CanMoveOn pool mover :=
    ⟨.worker worker, Or.inr (Or.inl rfl),
      canMoveOn_holder grounded (coherent.exclusive (.worker worker) holds)⟩
  cases at' : pool.points (.worker worker) with
  | idle =>
      have acts : (program capacity Task Submitter).action (.join worker) =
          .join (.worker worker) (some (.join (worker + 1))) := dif_pos worker.isLt
      refine Or.inr ⟨.destroyer, Or.inl rfl, ?_, join_canMove place acts at' (by simp)⟩
      intro task working
      cases place.symm.trans working
  | inside | suspending | leaving => exact Or.inr (inside (by rw [at']; rfl))
  | blocked stage =>
      have awake := winding.woken notified (.worker worker)
      rw [at'] at awake
      cases awake
  | before stage =>
      have role : plays (PoolThread.worker worker : PoolThread capacity Submitter) stage :=
        inRole (.worker worker) stage (by simp only [stageState, at']; rfl)
      cases stage with
      | take =>
          right
          obtain ⟨mover, rfl | holder, moves⟩ := section_progress grounded at' rfl
          · refine ⟨.worker worker, Or.inr (Or.inl rfl), ?_, moves⟩
            intro task working
            cases at'.symm.trans working
          · exact ⟨mover, Or.inr (Or.inr holder), canMoveOn_holder grounded holder⟩
      | call task =>
          refine Or.inr ⟨.worker worker, Or.inr (Or.inl rfl), ?_, outside_canMove at' rfl (by simp)⟩
          intro task working
          cases at'.symm.trans working
      | work task => exact Or.inl ⟨task, rfl⟩
      | push | notifyOne | setStop | notifyAll | join => cases role

/-- Once it has notified, the destructor hangs on a worker only if a task does not return:
none waits for a task or will, each has a bounded number of moves left, and while a worker has
not ended it is inside a task, or there is a move of the worker, of the destructor or of the
thread that has the mutex. -/
theorem destructor_waits_for_tasks (steps : List (Step capacity Task Submitter))
    (notified : Notified (after steps)) :
    (∀ index, ((after steps).points (.worker index)).waits = false) ∧
    (∀ (step : Step capacity Task Submitter) index,
      ((program capacity Task Submitter).machine.next (after steps) step).points (.worker index) =
          (after steps).points (.worker index) ∨
        remaining (((program capacity Task Submitter).machine.next (after steps) step).points
            (.worker index)) < remaining ((after steps).points (.worker index))) ∧
    ∀ worker : Fin capacity, (after steps).points .destroyer = .before (.join worker) →
      (∃ task, (after steps).points (.worker worker) = .before (.work task)) ∨
        ∃ mover, (mover = .destroyer ∨ mover = .worker worker ∨
            (after steps).holder = some mover) ∧ CanMoveOn (after steps) mover := by
  obtain ⟨coherent, inRole, winding, grounded⟩ := wound_after steps
  refine ⟨?_, ?_, ?_⟩
  · intro index
    have awake := winding.woken notified (.worker index)
    have tested := winding.tested notified.1 (.worker index)
    cases place : (after steps).points (.worker index) with
    | suspending stage => exact absurd place (tested stage)
    | blocked stage =>
        rw [place] at awake
        cases awake
    | idle | before | inside | leaving => rfl
  · exact fun step index => remaining_step winding inRole notified index
  · exact fun worker place => join_progress coherent inRole winding grounded notified place

/-- One worker is blocked and the other one at a task when the pool is destroyed. -/
def stopping : List (Step 2 Nat Unit) :=
  [.start (.submitter ()) (.submit 7 true), .acquire (.submitter ()), .run (.submitter ()),
    .release (.submitter ()), .notify (.submitter ()) (.worker 0),
    .acquire (.worker 1), .run (.worker 1), .release (.worker 1), .proceed (.worker 1),
    .acquire (.worker 0), .run (.worker 0), .release (.worker 0),
    .start .destroyer .destroy, .acquire .destroyer, .run .destroyer, .release .destroyer,
    .notify .destroyer (.worker 0)]

theorem destructor_waits_for_tasks_two_workers :
    history stopping =
        [(.submitter (), .pushed 7), (.worker 1, .taken 7), (.worker 1, .started 7)] ∧
    Notified (after stopping) ∧
    ((∃ task, (after stopping).points (.worker 0) = .before (.work task)) ∨
      ∃ mover, (mover = .destroyer ∨ mover = .worker 0 ∨ (after stopping).holder = some mover) ∧
        CanMoveOn (after stopping) mover) := by
  have notified : Notified (after stopping) := ⟨by decide, by decide⟩
  exact ⟨by decide, notified, (destructor_waits_for_tasks stopping notified).2.2 0 rfl⟩

def AtRest (state : Stages capacity Task Submitter)
    (outputs : List (PoolThread capacity Submitter × PoolEvent Task)) : Prop :=
  InRole plays state ∧ (∀ index, state.stages (.worker index) = none) ∧
    ∀ output ∈ outputs, output.2.isWork = false

theorem atRest_move {before after : Stages capacity Task Submitter}
    {outputs events : List (PoolThread capacity Submitter × PoolEvent Task)}
    (move : (program capacity Task Submitter).StageMove before after events)
    (atRest : AtRest before outputs) : AtRest after (outputs ++ events) := by
  obtain ⟨inRole, ended, idle⟩ := atRest
  have different {thread : PoolThread capacity Submitter} {stage : PoolStage Task}
      (place : before.stages thread = some stage) (index : Fin capacity) :
      PoolThread.worker index ≠ thread := by
    rintro rfl
    cases (ended index).symm.trans place
  refine ⟨plays_roles.inRole_move move inRole, ?_, List.forall_mem_append.mpr ⟨idle, ?_⟩⟩
  · intro index
    cases move with
    | stay => exact ended index
    | enter thread call stage place enters =>
        have other : PoolThread.worker index ≠ thread := by
          rintro rfl
          cases call <;> cases enters
        simp only [Function.update_of_ne other]
        exact ended index
    | body thread stage body data next events place acts result =>
        simp only [Function.update_of_ne (different place index)]
        exact ended index
    | act thread stage place acts =>
        simp only [Function.update_of_ne (different place index)]
        exact ended index
  · cases move with
    | stay | enter => exact fun _ member => absurd member List.not_mem_nil
    | body thread stage body data next events place acts result =>
        intro output member
        obtain ⟨event, here, rfl⟩ := List.mem_map.mp member
        refine Bool.eq_false_iff.mpr (fun work => ?_)
        obtain ⟨index, rfl⟩ := worker_of_outcome (inRole thread stage place)
          (outcome_of_action acts result) here work
        exact different place index rfl
    | act thread stage place acts =>
        intro output member
        obtain ⟨event, here, rfl⟩ := List.mem_map.mp member
        obtain ⟨index, rfl⟩ := worker_of_action (inRole thread stage place) here
        exact absurd rfl (different place index)

/-- When the destructor has returned, every worker has ended and has finished all that it
took, and no task is taken, started or finished any more. -/
theorem destroyed_pool_at_rest (steps : List (Step capacity Task Submitter))
    (destroyed : Destroyed (after steps)) :
    (∀ index, (after steps).points (.worker index) = .idle ∧
      tasksBy PoolEvent.finished? (.worker index) (history steps) =
        tasksBy PoolEvent.taken? (.worker index) (history steps)) ∧
    ∀ later : List (Step capacity Task Submitter),
      ∀ output ∈ (program capacity Task Submitter).machine.trace (after steps) later,
        output.2.isWork = false := by
  obtain ⟨_, inRole, winding, _⟩ := wound_after steps
  have joined : Joined (after steps) none := destroyed.2 ▸ winding.joined
  have ended := joined destroyed.1
  refine ⟨?_, ?_⟩
  · intro index
    have inHand := (serves_after steps index).taken_eq
    rw [show (stageState (after steps)).stages (.worker index) = none by
      simp only [stageState, ended index]; rfl] at inHand
    exact ⟨ended index, (inHand.trans (List.append_nil _)).symm⟩
  · intro later
    have start : AtRest (stageState (after steps)) [] := by
      refine ⟨inRole, ?_, fun _ member => absurd member List.not_mem_nil⟩
      intro index
      simp only [stageState, ended index]
      rfl
    exact (stage_invariant AtRest (fun _ _ _ _ move atRest => atRest_move move atRest)
      start later).2.2

def stopped : List (Step 2 Nat Unit) :=
  stopping ++
    [.acquire (.worker 0), .run (.worker 0), .release (.worker 0), .proceed .destroyer,
      .proceed (.worker 1), .acquire (.worker 1), .run (.worker 1), .release (.worker 1),
      .proceed .destroyer, .proceed .destroyer]

theorem destroyed_pool_at_rest_two_workers :
    Destroyed (after stopped) ∧ tasksBy PoolEvent.finished? (.worker 1) (history stopped) = [7] ∧
    ∀ later, ∀ output ∈ (program 2 Nat Unit).machine.trace (after stopped) later,
      output.2.isWork = false := by
  have destroyed : Destroyed (after stopped) := ⟨by decide, by decide⟩
  exact ⟨destroyed, by decide, (destroyed_pool_at_rest stopped destroyed).2⟩

end Runs

end ThreadPool

end Ffvms.Concrete
