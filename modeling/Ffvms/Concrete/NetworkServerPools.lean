/-
The receive loops with the thread pools they really submit to.

`mpUdpWorkerThreads` are thread pools of one thread.  A loop that submits is inside
`submit` until it has notified, so it takes the mutex of the pool, pushes its task and
wakes the worker, in steps between which everybody else may move.  Seen without the
mutexes and the wait sets this is the server with plain queues: a push is the submission,
the section in which a worker takes a task its start, and the end of the task its
execution.
-/

import Ffvms.LabelledSimulation
import Ffvms.Concrete.NetworkServerWorkers
import Ffvms.Concrete.ThreadPoolShutdown

namespace Ffvms.Concrete

/-- Where an event loop is; `submitting` until `submit` has returned. -/
inductive PooledLoop where
  | idle
  | holding (slot : ReceiveSlot)
  | received (task : UdpTask)
  | submitting (task : UdpTask)
  deriving DecidableEq

def PooledLoop.task? : PooledLoop → Option UdpTask
  | .idle | .holding _ => none
  | .received task | .submitting task => some task

/-- The loops are the submitting threads of every pool. -/
structure PooledServer (pool : WorkerPool) (Loop : Type) where
  buffers : ReceiveBuffers
  loops : Loop → PooledLoop
  pools : Fin pool.size → ThreadPool.PoolState 1 UdpTask Loop

namespace ThreadPool

open MonitorProgram

variable {Task Submitter : Type} [DecidableEq Submitter]

/-- What the threads of a pool with one worker do, as long as the pool is not destroyed
and there is memory. -/
inductive Activity (before : Stages 1 Task Submitter) :
    Stages 1 Task Submitter → List (PoolThread 1 Submitter × PoolEvent Task) → Prop
  | still : Activity before before []
  | takes (task : Task) (rest : List Task) (place : before.stages (.worker 0) = some .take)
      (front : before.data.tasks = task :: rest) :
      Activity before
        { data := { before.data with tasks := rest }
          stages := Function.update before.stages (.worker 0) (some (.call task)) }
        [(.worker 0, .taken task)]
  | starts (task : Task) (place : before.stages (.worker 0) = some (.call task)) :
      Activity before
        { before with stages := Function.update before.stages (.worker 0) (some (.work task)) }
        [(.worker 0, .started task)]
  | finishes (task : Task) (place : before.stages (.worker 0) = some (.work task)) :
      Activity before
        { before with stages := Function.update before.stages (.worker 0) (some .take) }
        [(.worker 0, .finished task)]
  | pushes (name : Submitter) (task : Task)
      (place : before.stages (.submitter name) = some (.push task true)) :
      Activity before
        { data := { before.data with tasks := before.data.tasks ++ [task] }
          stages := Function.update before.stages (.submitter name) (some .notifyOne) }
        [(.submitter name, .pushed task)]
  | notifies (name : Submitter) (place : before.stages (.submitter name) = some .notifyOne) :
      Activity before
        { before with stages := Function.update before.stages (.submitter name) none } []

omit [DecidableEq Submitter] in
theorem push_running {data : PoolData Task} (running : data.stop = false) (task : Task) :
    push task true data =
      .leave { data with tasks := data.tasks ++ [task] } (some .notifyOne) [.pushed task] := by
  simp only [push, running, Bool.false_eq_true, if_false, Bool.true_eq_false]

theorem activity_internal {pool : PoolState 1 Task Submitter} {step : Step 1 Task Submitter}
    (internal : step.isStart = false) (inRole : InRole plays (stageState pool))
    (running : pool.data.stop = false) (undestroyed : pool.points .destroyer = .idle)
    (stored : ∀ name task memory,
      (pool.points (.submitter name)).stage? = some (.push task memory) → memory = true) :
    Activity (stageState pool) (stageState ((program 1 Task Submitter).perform pool step))
      ((program 1 Task Submitter).report pool step) := by
  have move := stageMove_internal (program 1 Task Submitter) pool internal
  generalize stageState ((program 1 Task Submitter).perform pool step) = after,
    (program 1 Task Submitter).report pool step = events at move
  have alive {stage : PoolStage Task} (place : (stageState pool).stages .destroyer = some stage) :
      False := by
    simp only [stageState, undestroyed] at place
    cases place
  cases move with
  | stay => exact .still
  | enter thread call stage place enters => cases enters
  | body thread stage body data next events place acts result =>
      have outcome := outcome_of_action acts result
      have role := inRole thread stage place
      cases outcome with
      | ends stopped => cases running.symm.trans stopped
      | takes task rest runs front =>
          cases thread with
          | worker index =>
              obtain rfl : index = 0 := Subsingleton.elim index 0
              exact .takes task rest place front
          | submitter | destroyer => cases role
      | pushes task runs =>
          cases thread with
          | submitter name => exact .pushes name task place
          | worker | destroyer => cases role
      | stops =>
          cases thread with
          | destroyer => exact (alive place).elim
          | worker | submitter => cases role
      | throws task memory error =>
          cases thread with
          | submitter name =>
              obtain rfl := stored name task memory place
              cases acts
              have pushed := result.symm.trans (push_running running task)
              injection pushed with _ next
              cases next
          | worker | destroyer => cases role
  | act thread stage place acts =>
      have role := inRole thread stage place
      cases thread with
      | worker index =>
          obtain rfl : index = 0 := Subsingleton.elim index 0
          cases stage with
          | take => exact absurd rfl (acts take)
          | call task => exact .starts task place
          | work task => exact .finishes task place
          | push | notifyOne | setStop | notifyAll | join => cases role
      | submitter name =>
          cases stage with
          | push task memory => exact absurd rfl (acts (push task memory))
          | notifyOne => exact .notifies name place
          | take | call | work | setStop | notifyAll | join => cases role
      | destroyer => exact (alive place).elim

end ThreadPool

namespace PooledServer

open MonitorProgram

variable {pool : WorkerPool} {Loop : Type} [DecidableEq Loop]

def start (buffers : ReceiveBuffers) : PooledServer pool Loop :=
  { buffers := buffers
    loops := fun _ => .idle
    pools := fun _ => ThreadPool.start 1 UdpTask Loop }

/-- The steps of a pool are those of its threads; a call begins by `submit` only. -/
inductive Step (pool : WorkerPool) (Loop : Type) where
  | takeSlot (loop : Loop)
  | receive (loop : Loop) (datagram : Datagram)
  | receiveNothing (loop : Loop)
  | submit (loop : Loop)
  | returned (loop : Loop)
  | inPool (worker : Fin pool.size) (step : ThreadPool.Step 1 UdpTask Loop)

def setLoop (server : PooledServer pool Loop) (loop : Loop) (state : PooledLoop) :
    PooledServer pool Loop :=
  { server with loops := Function.update server.loops loop state }

def stepPool (server : PooledServer pool Loop) (worker : Fin pool.size)
    (step : ThreadPool.Step 1 UdpTask Loop) : PooledServer pool Loop :=
  { server with
    pools := Function.update server.pools worker
      ((ThreadPool.program 1 UdpTask Loop).perform (server.pools worker) step) }

def poolOf (server : PooledServer pool Loop) (task : UdpTask) :
    ThreadPool.PoolState 1 UdpTask Loop :=
  server.pools (pool.workerOf task.peer)

/-- A step that a loop or a thread is not ready for does nothing.  There is memory for
every task: where there is none, the exception ends the process. -/
def perform (server : PooledServer pool Loop) : Step pool Loop → PooledServer pool Loop
  | .takeSlot loop =>
      match server.loops loop with
      | .idle =>
          { server.setLoop loop (.holding server.buffers.slot) with
            buffers := server.buffers.take [] }
      | .holding _ | .received _ | .submitting _ => server
  | .receive loop datagram =>
      match server.loops loop with
      | .holding slot =>
          { server.setLoop loop (.received ⟨slot, datagram.received.length, datagram.peer⟩) with
            buffers := server.buffers.store slot datagram.received }
      | .idle | .received _ | .submitting _ => server
  | .receiveNothing loop =>
      match server.loops loop with
      | .holding _ => server.setLoop loop .idle
      | .idle | .received _ | .submitting _ => server
  | .submit loop =>
      match server.loops loop with
      | .received task =>
          (server.setLoop loop (.submitting task)).stepPool (pool.workerOf task.peer)
            (.start (.submitter loop) (.submit task true))
      | .idle | .holding _ | .submitting _ => server
  | .returned loop =>
      match server.loops loop with
      | .submitting task =>
          match (server.poolOf task).points (.submitter loop) with
          | .idle => server.setLoop loop .idle
          | _ => server
      | .idle | .holding _ | .received _ => server
  | .inPool worker step => if step.isStart then server else server.stepPool worker step

/-- The handler is called when the worker is at the end of the task. -/
def handled (registered : Finset String) (buffers : ReceiveBuffers)
    (event : PoolThread 1 Loop × PoolEvent UdpTask) : List Traffic :=
  match event.2 with
  | .finished task => (ThreadedServer.runTask registered buffers task).map .delivered
  | _ => []

def traffic (registered : Finset String) (server : PooledServer pool Loop) :
    Step pool Loop → List Traffic
  | .receive loop datagram =>
      match server.loops loop with
      | .holding _ => [.received datagram]
      | .idle | .received _ | .submitting _ => []
  | .inPool worker step =>
      if step.isStart then []
      else ((ThreadPool.program 1 UdpTask Loop).report (server.pools worker) step).flatMap
        (handled registered server.buffers)
  | _ => []

def machine (registered : Finset String) :
    LabelledMachine (PooledServer pool Loop) (Step pool Loop) Traffic :=
  { next := perform
    emit := traffic registered }

/-! ### The server without the mutexes -/

/-- The task has been submitted once it is pushed. -/
def seen (stage : Option (PoolStage UdpTask)) : PooledLoop → LoopState
  | .idle => .idle
  | .holding slot => .holding slot
  | .received task => .received task
  | .submitting task =>
      match stage with
      | some (.push _ _) => .received task
      | _ => .idle

def stageOf (server : PooledServer pool Loop) (loop : Loop) : Option (PoolStage UdpTask) :=
  match server.loops loop with
  | .submitting task => ((server.poolOf task).points (.submitter loop)).stage?
  | _ => none

def view (server : PooledServer pool Loop) : DispatchServer pool Loop :=
  { buffers := server.buffers
    loops := fun loop => seen (server.stageOf loop) (server.loops loop)
    queues := fun worker => (server.pools worker).data.tasks
    running := fun worker =>
      (PoolStage.inHand ((server.pools worker).points ThreadPool.soleWorker).stage?).head? }

omit [DecidableEq Loop] in
theorem eq_view {server : PooledServer pool Loop} {shown : DispatchServer pool Loop}
    (buffers : shown.buffers = server.buffers)
    (loops : ∀ loop, shown.loops loop = seen (server.stageOf loop) (server.loops loop))
    (queues : ∀ worker, shown.queues worker = (server.pools worker).data.tasks)
    (running : ∀ worker, shown.running worker =
      (PoolStage.inHand ((server.pools worker).points (.worker 0)).stage?).head?) :
    shown = server.view := by
  obtain ⟨shownBuffers, shownLoops, shownQueues, shownRunning⟩ := shown
  obtain rfl : shownLoops = _ := funext loops
  obtain rfl : shownQueues = _ := funext queues
  obtain rfl : shownRunning = _ := funext running
  cases buffers
  rfl

/-- The pools are in states that they can reach without being destroyed.  A loop is in a
pool only while it submits to it, and then before the push or after it. -/
structure Orderly (server : PooledServer pool Loop) : Prop where
  reached : ∀ worker, ∃ steps, server.pools worker = ThreadPool.after steps
  running : ∀ worker, (server.pools worker).data.stop = false
  undestroyed : ∀ worker, (server.pools worker).points .destroyer = .idle
  outside : ∀ worker loop,
    (∀ task, server.loops loop = .submitting task → pool.workerOf task.peer ≠ worker) →
      (server.pools worker).points (.submitter loop) = .idle
  submits : ∀ loop task, server.loops loop = .submitting task →
    ∀ stage, ((server.poolOf task).points (.submitter loop)).stage? = some stage →
      stage = .push task true ∨ stage = .notifyOne

section Steps

variable {server : PooledServer pool Loop}

theorem orderly_start (buffers : ReceiveBuffers) :
    Orderly (start buffers : PooledServer pool Loop) :=
  { reached := fun _ => ⟨[], rfl⟩
    running := fun _ => rfl
    undestroyed := fun _ => rfl
    outside := fun _ _ _ => rfl
    submits := fun _ _ impossible => (by cases impossible) }

theorem Orderly.setLoop (orderly : Orderly server) {loop : Loop} {state : PooledLoop}
    (before : ∀ task, server.loops loop = .submitting task →
      (server.poolOf task).points (.submitter loop) = .idle)
    (after : ∀ task, state ≠ .submitting task) : Orderly (server.setLoop loop state) := by
  refine
    { reached := orderly.reached
      running := orderly.running
      undestroyed := orderly.undestroyed
      outside := ?_
      submits := ?_ }
  · intro worker other away
    by_cases here : other = loop
    · subst here
      -- It was away, or it has returned.
      by_cases submitting : ∃ task, server.loops other = .submitting task ∧
          pool.workerOf task.peer = worker
      · obtain ⟨task, submits, rfl⟩ := submitting
        exact before task submits
      · exact orderly.outside worker other
          (fun task submits same => submitting ⟨task, submits, same⟩)
    · refine orderly.outside worker other (fun task submits => away task ?_)
      exact (Function.update_of_ne here _ _).trans submits
  · intro other task submits
    have here : other ≠ loop := by
      rintro rfl
      exact after task ((Function.update_self _ _ _).symm.trans submits)
    exact orderly.submits other task ((Function.update_of_ne here _ _).symm.trans submits)

theorem Orderly.inRole (orderly : Orderly server) (worker : Fin pool.size) :
    InRole ThreadPool.plays (stageState (server.pools worker)) := by
  obtain ⟨steps, reached⟩ := orderly.reached worker
  rw [reached]
  exact (ThreadPool.employs_after steps).1

theorem Orderly.submitting (orderly : Orderly server) {worker : Fin pool.size} {loop : Loop}
    {stage : PoolStage UdpTask}
    (place : ((server.pools worker).points (.submitter loop)).stage? = some stage) :
    ∃ task, server.loops loop = .submitting task ∧ pool.workerOf task.peer = worker ∧
      (stage = .push task true ∨ stage = .notifyOne) := by
  by_cases submits : ∃ task, server.loops loop = .submitting task ∧
      pool.workerOf task.peer = worker
  · obtain ⟨task, here, rfl⟩ := submits
    exact ⟨task, here, rfl, orderly.submits loop task here stage place⟩
  · have idle := orderly.outside worker loop
      (fun task here same => submits ⟨task, here, same⟩)
    rw [idle] at place
    cases place

theorem Orderly.activity (orderly : Orderly server) (worker : Fin pool.size)
    {step : ThreadPool.Step 1 UdpTask Loop} (internal : step.isStart = false) :
    ThreadPool.Activity (stageState (server.pools worker))
      (stageState ((ThreadPool.program 1 UdpTask Loop).perform (server.pools worker) step))
      ((ThreadPool.program 1 UdpTask Loop).report (server.pools worker) step) := by
  refine ThreadPool.activity_internal internal (orderly.inRole worker) (orderly.running worker)
    (orderly.undestroyed worker) ?_
  intro loop task memory place
  obtain ⟨_, _, _, same | same⟩ := orderly.submitting place <;> cases same
  rfl

theorem stageState_stepPool (server : PooledServer pool Loop) (worker other : Fin pool.size)
    (step : ThreadPool.Step 1 UdpTask Loop) :
    stageState ((server.stepPool worker step).pools other) =
      if other = worker then
        stageState ((ThreadPool.program 1 UdpTask Loop).perform (server.pools worker) step)
      else stageState (server.pools other) := by
  simp only [stepPool, Function.update_apply]
  split_ifs <;> rfl

/-- What an activity does to `mStop`, and to the stage of a loop that is not idle. -/
theorem activity_keeps {before after : ThreadPool.Stages 1 UdpTask Loop}
    {events : List (PoolThread 1 Loop × PoolEvent UdpTask)}
    (activity : ThreadPool.Activity before after events) :
    after.data.stop = before.data.stop ∧ ∀ loop stage,
      after.stages (.submitter loop) = some stage →
        before.stages (.submitter loop) = some stage ∨ stage = .notifyOne := by
  cases activity with
  | still => exact ⟨rfl, fun _ _ place => Or.inl place⟩
  | takes | starts | finishes =>
      refine ⟨rfl, fun loop stage place => Or.inl ?_⟩
      have other : PoolThread.submitter loop ≠ .worker (0 : Fin 1) := by simp
      simp only [Function.update_of_ne other] at place
      exact place
  | pushes name task here =>
      refine ⟨rfl, fun loop stage place => ?_⟩
      simp only [Function.update_apply] at place
      split_ifs at place with same
      · cases place
        exact Or.inr rfl
      · exact Or.inl place
  | notifies name here =>
      refine ⟨rfl, fun loop stage place => ?_⟩
      simp only [Function.update_apply] at place
      split_ifs at place with same
      exact Or.inl place

theorem Orderly.stepPool (orderly : Orderly server) (worker : Fin pool.size)
    {step : ThreadPool.Step 1 UdpTask Loop} (internal : step.isStart = false) :
    Orderly (server.stepPool worker step) := by
  obtain ⟨stop, stages⟩ := activity_keeps (orderly.activity worker internal)
  -- A thread that is in no call stays so.
  have idle {other : Fin pool.size} {thread : PoolThread 1 Loop}
      (before : (server.pools other).points thread = .idle) :
      ((server.stepPool worker step).pools other).points thread = .idle := by
    simp only [PooledServer.stepPool, Function.update_apply]
    split_ifs with here
    · subst here
      exact idle_internal _ internal before
    · exact before
  refine
    { reached := ?_
      running := ?_
      undestroyed := fun other => idle (orderly.undestroyed other)
      outside := fun other loop away => idle (orderly.outside other loop away)
      submits := ?_ }
  · intro other
    simp only [PooledServer.stepPool, Function.update_apply]
    split_ifs with here
    · obtain ⟨steps, reached⟩ := orderly.reached worker
      refine ⟨steps ++ [step], ?_⟩
      rw [ThreadPool.after, LabelledMachine.run_append, reached]
      rfl
    · exact orderly.reached other
  · intro other
    simp only [PooledServer.stepPool, Function.update_apply]
    split_ifs with here
    · exact stop.trans (orderly.running worker)
    · exact orderly.running other
  · intro loop task submits stage place
    have before := orderly.submits loop task submits
    simp only [poolOf, PooledServer.stepPool, Function.update_apply] at place
    split_ifs at place with here
    · rcases stages loop stage place with old | new
      · refine before stage ?_
        rw [poolOf, here]
        exact old
      · exact Or.inr new
    · exact before stage place

theorem orderly_submit (orderly : Orderly server) {loop : Loop} {task : UdpTask}
    (holds : server.loops loop = .received task) :
    Orderly (server.perform (.submit loop)) ∧
      (server.perform (.submit loop)).pools = Function.update server.pools
        (pool.workerOf task.peer)
        ((server.poolOf task).setPoint (.submitter loop) (.before (.push task true))) := by
  have idle (worker : Fin pool.size) : (server.pools worker).points (.submitter loop) = .idle :=
    orderly.outside worker loop (fun other submits => (by rw [holds] at submits; cases submits))
  have begun : (ThreadPool.program 1 UdpTask Loop).perform (server.poolOf task)
      (.start (.submitter loop) (.submit task true)) =
        (server.poolOf task).setPoint (.submitter loop) (.before (.push task true)) := by
    have place : (server.poolOf task).points (.submitter loop) = .idle := idle _
    simp only [MonitorProgram.perform, place]
    rfl
  have changed : (server.perform (.submit loop)).pools = Function.update server.pools
      (pool.workerOf task.peer)
      ((server.poolOf task).setPoint (.submitter loop) (.before (.push task true))) := by
    simp only [perform, holds, PooledServer.stepPool, PooledServer.setLoop]
    rw [← begun]
    rfl
  have moved : (server.perform (.submit loop)).loops =
      Function.update server.loops loop (.submitting task) := by
    simp only [perform, holds, PooledServer.stepPool, PooledServer.setLoop]
  refine ⟨?_, changed⟩
  refine
    { reached := ?_
      running := ?_
      undestroyed := ?_
      outside := ?_
      submits := ?_ }
  · intro worker
    rw [changed]
    simp only [Function.update_apply]
    split_ifs with here
    · obtain ⟨steps, reached⟩ := orderly.reached (pool.workerOf task.peer)
      refine ⟨steps ++ [.start (.submitter loop) (.submit task true)], ?_⟩
      rw [← begun, ThreadPool.after, LabelledMachine.run_append, poolOf, reached]
      rfl
    · exact orderly.reached worker
  · intro worker
    rw [changed]
    simp only [Function.update_apply]
    split_ifs with here
    · exact orderly.running (pool.workerOf task.peer)
    · exact orderly.running worker
  · intro worker
    rw [changed]
    simp only [Function.update_apply]
    split_ifs with here
    · rw [MonitorState.setPoint_of_ne _ _ (by simp)]
      exact orderly.undestroyed (pool.workerOf task.peer)
    · exact orderly.undestroyed worker
  · intro worker other away
    rw [changed]
    rw [moved] at away
    simp only [Function.update_apply] at away ⊢
    split_ifs with here
    · subst here
      by_cases same : other = loop
      · subst same
        exact absurd rfl (away task (if_pos rfl))
      · rw [MonitorState.setPoint_of_ne _ _ (by simpa using same)]
        rw [if_neg same] at away
        exact orderly.outside _ other away
    · split_ifs at away with same
      · subst same
        exact idle worker
      · exact orderly.outside worker other away
  · intro other submitted submits stage place
    rw [moved, Function.update_apply] at submits
    rw [poolOf, changed, Function.update_apply] at place
    split_ifs at submits with same
    · cases submits
      subst same
      rw [if_pos rfl, MonitorState.setPoint_self] at place
      cases place
      exact Or.inl rfl
    · refine orderly.submits other submitted submits stage ?_
      split_ifs at place with here
      · rw [MonitorState.setPoint_of_ne _ _ (by simpa using same), poolOf, ← here] at place
        exact place
      · exact place

/-! ### What is seen of a step -/

theorem view_setLoop (server : PooledServer pool Loop) (loop : Loop) (state : PooledLoop)
    (outside : ∀ task, state ≠ .submitting task) :
    (server.setLoop loop state).view = server.view.setLoop loop (seen none state) := by
  refine (eq_view rfl ?_ (fun _ => rfl) (fun _ => rfl)).symm
  intro other
  simp only [DispatchServer.setLoop, PooledServer.setLoop, stageOf, Function.update_apply]
  split_ifs with here
  · cases state with
    | submitting task => exact absurd rfl (outside task)
    | idle | holding | received => rfl
  · rfl

theorem view_takeSlot {loop : Loop} (idle : server.loops loop = .idle) :
    server.view.perform (.takeSlot loop) = (server.perform (.takeSlot loop)).view := by
  have shown : server.view.loops loop = .idle := by
    simp only [view, idle]
    rfl
  have moved := server.view_setLoop loop (.holding server.buffers.slot)
    (fun _ impossible => by cases impossible)
  simp only [DispatchServer.perform, shown, perform, idle]
  exact congrArg (fun shown : DispatchServer pool Loop =>
    { shown with buffers := server.buffers.take [] }) moved.symm

theorem view_receive {loop : Loop} {slot : ReceiveSlot} (datagram : Datagram)
    (holds : server.loops loop = .holding slot) :
    server.view.perform (.receive loop datagram) =
      (server.perform (.receive loop datagram)).view := by
  have shown : server.view.loops loop = .holding slot := by
    simp only [view, holds]
    rfl
  have moved := server.view_setLoop loop
    (.received ⟨slot, datagram.received.length, datagram.peer⟩)
    (fun _ impossible => by cases impossible)
  simp only [DispatchServer.perform, shown, perform, holds]
  exact congrArg (fun shown : DispatchServer pool Loop =>
    { shown with buffers := server.buffers.store slot datagram.received }) moved.symm

theorem view_receiveNothing {loop : Loop} {slot : ReceiveSlot}
    (holds : server.loops loop = .holding slot) :
    server.view.perform (.receiveNothing loop) = (server.perform (.receiveNothing loop)).view := by
  have shown : server.view.loops loop = .holding slot := by
    simp only [view, holds]
    rfl
  have moved := server.view_setLoop loop .idle (fun _ impossible => by cases impossible)
  simp only [DispatchServer.perform, shown, perform, holds]
  exact moved.symm

/-- Until the task is pushed, nothing is seen of `submit`. -/
theorem view_submit (orderly : Orderly server) {loop : Loop} {task : UdpTask}
    (holds : server.loops loop = .received task) :
    (server.perform (.submit loop)).view = server.view := by
  obtain ⟨_, changed⟩ := orderly_submit orderly holds
  have moved : (server.perform (.submit loop)).loops =
      Function.update server.loops loop (.submitting task) := by
    simp only [perform, holds, PooledServer.stepPool, PooledServer.setLoop]
  have buffers : (server.perform (.submit loop)).buffers = server.buffers := by
    simp only [perform, holds, PooledServer.stepPool, PooledServer.setLoop]
  refine (eq_view buffers.symm ?_ ?_ ?_).symm
  · intro other
    simp only [stageOf, moved, Function.update_apply]
    split_ifs with here
    · subst here
      simp only [poolOf, changed, Function.update_self, MonitorState.setPoint_self]
      simp only [view, holds]
      rfl
    · simp only [poolOf, changed, Function.update_apply, view, stageOf]
      cases server.loops other with
      | idle | holding | received => rfl
      | submitting pushed =>
          dsimp only
          split_ifs with same
          · rw [MonitorState.setPoint_of_ne _ _ (by simpa using here), same]
          · rfl
  · intro worker
    simp only [changed, Function.update_apply]
    split_ifs with here
    · rw [here]
      rfl
    · rfl
  · intro worker
    simp only [changed, Function.update_apply]
    split_ifs with here
    · rw [MonitorState.setPoint_of_ne _ _ (by simp), here]
      rfl
    · rfl

def stageWith (server : PooledServer pool Loop) (worker : Fin pool.size)
    (after : ThreadPool.Stages 1 UdpTask Loop) (loop : Loop) : Option (PoolStage UdpTask) :=
  match server.loops loop with
  | .submitting task =>
      if pool.workerOf task.peer = worker then after.stages (.submitter loop)
      else ((server.poolOf task).points (.submitter loop)).stage?
  | _ => none

omit [DecidableEq Loop] in
theorem stageWith_eq {worker : Fin pool.size} {after : ThreadPool.Stages 1 UdpTask Loop}
    {loop : Loop} (same : after.stages (.submitter loop) =
      ((server.pools worker).points (.submitter loop)).stage?) :
    server.stageWith worker after loop = server.stageOf loop := by
  unfold stageWith stageOf
  cases server.loops loop with
  | idle | holding | received => rfl
  | submitting task =>
      dsimp only
      split_ifs with here
      · rw [same, poolOf, here]
      · rfl

theorem view_stepPool {worker : Fin pool.size} {step : ThreadPool.Step 1 UdpTask Loop}
    {after : ThreadPool.Stages 1 UdpTask Loop} {shown : DispatchServer pool Loop}
    (reached : stageState ((ThreadPool.program 1 UdpTask Loop).perform (server.pools worker) step) =
      after)
    (buffers : shown.buffers = server.buffers)
    (loops : ∀ loop, shown.loops loop =
      seen (server.stageWith worker after loop) (server.loops loop))
    (queues : shown.queues = Function.update server.view.queues worker after.data.tasks)
    (running : shown.running = Function.update server.view.running worker
      (PoolStage.inHand (after.stages (.worker 0))).head?) :
    shown = (server.stepPool worker step).view := by
  have stages (other : Fin pool.size) (thread : PoolThread 1 Loop) :
      (((server.stepPool worker step).pools other).points thread).stage? =
        if other = worker then after.stages thread
        else ((server.pools other).points thread).stage? := by
    have whole := stageState_stepPool server worker other step
    rw [reached] at whole
    have here := congrArg (fun state : ThreadPool.Stages 1 UdpTask Loop => state.stages thread) whole
    refine here.trans ?_
    split_ifs <;> rfl
  refine eq_view buffers ?_ ?_ ?_
  · intro loop
    rw [loops loop]
    simp only [stageWith, stageOf, PooledServer.stepPool]
    cases server.loops loop with
    | idle | holding | received => rfl
    | submitting task =>
        have here := stages (pool.workerOf task.peer) (.submitter loop)
        dsimp only
        rw [show (poolOf { server with pools := _ } task) =
          (server.stepPool worker step).pools (pool.workerOf task.peer) from rfl, here]
        rfl
  · intro other
    rw [queues]
    have whole := stageState_stepPool server worker other step
    rw [reached] at whole
    have here := congrArg (fun state : ThreadPool.Stages 1 UdpTask Loop => state.data.tasks) whole
    refine Eq.trans ?_ here.symm
    simp only [Function.update_apply]
    split_ifs <;> rfl
  · intro other
    rw [running, stages other (.worker 0)]
    simp only [Function.update_apply]
    split_ifs <;> rfl

def Guarded (allowed : DispatchServer pool Loop → DispatchServer.Step pool Loop → Prop)
    (server : PooledServer pool Loop) : Step pool Loop → Prop
  | .takeSlot loop => server.loops loop = .idle → allowed server.view (.takeSlot loop)
  | .receive loop datagram => allowed server.view (.receive loop datagram)
  | .receiveNothing _ | .submit _ | .returned _ | .inPool _ _ => True

instance [Fintype Loop] (socketOf : String → Loop) (server : PooledServer pool Loop) :
    (step : Step pool Loop) →
      Decidable (Guarded (DispatchServer.Sheltered socketOf) server step)
  | .takeSlot loop => inferInstanceAs (Decidable (server.loops loop = .idle →
      DispatchServer.Sheltered socketOf server.view (.takeSlot loop)))
  | .receive loop datagram => inferInstanceAs
      (Decidable (DispatchServer.Sheltered socketOf server.view (.receive loop datagram)))
  | .receiveNothing _ | .submit _ | .returned _ | .inPool _ _ => isTrue trivial

structure Spares (allowed : DispatchServer pool Loop → DispatchServer.Step pool Loop → Prop) :
    Prop where
  receiveNothing : ∀ shown loop, allowed shown (.receiveNothing loop)
  submit : ∀ shown loop, allowed shown (.submit loop)
  startTask : ∀ shown worker, allowed shown (.startTask worker)
  execute : ∀ shown worker, allowed shown (.execute worker)

def Shows (server : PooledServer pool Loop) (shown : DispatchServer pool Loop) : Prop :=
  Orderly server ∧ shown = server.view

theorem matched_inPool (registered : Finset String)
    {allowed : DispatchServer pool Loop → DispatchServer.Step pool Loop → Prop}
    (spares : Spares allowed) (orderly : Orderly server) (worker : Fin pool.size)
    {step : ThreadPool.Step 1 UdpTask Loop} (internal : step.isStart = false) :
    ∃ moves, Shows ((machine registered).next server (.inPool worker step))
        ((DispatchServer.machine registered).run server.view moves) ∧
      (DispatchServer.machine registered).trace server.view moves =
        (machine registered).emit server (.inPool worker step) ∧
      (DispatchServer.machine registered).Along allowed server.view moves := by
  have next : (machine registered).next server (.inPool worker step) =
      server.stepPool worker step := by
    simp only [machine, perform, internal, Bool.false_eq_true, if_false]
  have emit : (machine registered).emit server (.inPool worker step) =
      ((ThreadPool.program 1 UdpTask Loop).report (server.pools worker) step).flatMap
        (handled registered server.buffers) := by
    simp only [machine, traffic, internal, Bool.false_eq_true, if_false]
  have still : Orderly (server.stepPool worker step) := orderly.stepPool worker internal
  have activity := orderly.activity worker internal
  generalize reached : stageState
    ((ThreadPool.program 1 UdpTask Loop).perform (server.pools worker) step) = after at activity
  generalize events :
    (ThreadPool.program 1 UdpTask Loop).report (server.pools worker) step = outputs at activity emit
  have apart (loop : Loop) : PoolThread.submitter loop ≠ .worker (0 : Fin 1) := by simp
  -- A loop that is at the same stage is seen as before.
  have loopSame (loop : Loop) (same : after.stages (.submitter loop) =
      (stageState (server.pools worker)).stages (.submitter loop)) :
      server.view.loops loop = seen (server.stageWith worker after loop) (server.loops loop) := by
    rw [stageWith_eq same]
    rfl
  -- A step that changes nothing that is seen.
  have unseen (loops : ∀ loop, server.view.loops loop =
        seen (server.stageWith worker after loop) (server.loops loop))
      (tasks : after.data.tasks = server.view.queues worker)
      (hand : (PoolStage.inHand (after.stages (.worker 0))).head? = server.view.running worker)
      (silent : outputs.flatMap (handled registered server.buffers) = []) :
      ∃ moves, Shows ((machine registered).next server (.inPool worker step))
          ((DispatchServer.machine registered).run server.view moves) ∧
        (DispatchServer.machine registered).trace server.view moves =
          (machine registered).emit server (.inPool worker step) ∧
        (DispatchServer.machine registered).Along allowed server.view moves := by
    refine LabelledMachine.matched_by_none ?_ (emit.trans silent)
    rw [next]
    refine ⟨still, view_stepPool reached rfl loops ?_ ?_⟩
    · rw [tasks, Function.update_eq_self]
    · rw [hand, Function.update_eq_self]
  cases activity with
  | still => exact unseen (fun loop => loopSame loop rfl) rfl rfl rfl
  | starts task place =>
      refine unseen (fun loop => loopSame loop ?_) rfl ?_ rfl
      · simp only [Function.update_of_ne (apart loop)]
      · simp only [Function.update_self, view]
        rw [show ((server.pools worker).points (.worker 0)).stage? = _ from place]
        rfl
  | notifies loop place =>
      refine unseen ?_ rfl ?_ rfl
      · intro other
        by_cases here : other = loop
        · subst here
          obtain ⟨task, submits, rfl, _⟩ := orderly.submitting place
          simp only [view, stageOf, stageWith, submits, Function.update_self, if_true]
          rw [show ((server.poolOf task).points (.submitter other)).stage? = _ from place]
          rfl
        · refine loopSame other ?_
          simp only [Function.update_apply, PoolThread.submitter.injEq, if_neg here]
      · simp only [Function.update_of_ne (apart loop).symm]
        rfl
  | takes task rest place front =>
      have free : server.view.running worker = none := by
        simp only [view]
        rw [show ((server.pools worker).points (.worker 0)).stage? = _ from place]
        rfl
      refine LabelledMachine.matched_by_one (.startTask worker) ?_ (emit ▸ rfl)
        (spares.startTask _ _)
      rw [next]
      refine ⟨still, ?_⟩
      have queue : server.view.queues worker = task :: rest := front
      refine view_stepPool reached ?_ (fun loop => ?_) ?_ ?_
      all_goals simp only [DispatchServer.machine, DispatchServer.perform, free, queue]
      · rfl
      · refine loopSame loop ?_
        simp only [Function.update_of_ne (apart loop)]
      · simp only [Function.update_self]
        rfl
  | finishes task place =>
      have busy : server.view.running worker = some task := by
        simp only [view]
        rw [show ((server.pools worker).points (.worker 0)).stage? = _ from place]
        rfl
      refine LabelledMachine.matched_by_one (.execute worker) ?_ ?_ (spares.execute _ _)
      · rw [next]
        refine ⟨still, view_stepPool reached rfl (fun loop => loopSame loop ?_) ?_ ?_⟩
        · simp only [Function.update_of_ne (apart loop)]
        · exact (Function.update_eq_self worker server.view.queues).symm
        · simp only [DispatchServer.machine, DispatchServer.perform, DispatchServer.finish,
            Function.update_self]
          rfl
      · rw [emit]
        simp only [DispatchServer.machine, DispatchServer.traffic, busy, List.flatMap_cons,
          List.flatMap_nil, List.append_nil, handled]
        rfl
  | pushes loop task place =>
      obtain ⟨own, submits, rfl, same | impossible⟩ := orderly.submitting place
      · cases same
        have shown : server.view.loops loop = .received task := by
          simp only [view, stageOf, submits]
          rw [show ((server.poolOf task).points (.submitter loop)).stage? = _ from place]
          rfl
        refine LabelledMachine.matched_by_one (.submit loop) ?_ (emit ▸ rfl)
          (spares.submit _ _)
        rw [next]
        refine ⟨still, ?_⟩
        refine view_stepPool reached ?_ (fun other => ?_) ?_ ?_
        all_goals simp only [DispatchServer.machine, DispatchServer.perform, shown,
          DispatchServer.enqueue, DispatchServer.setLoop]
        · rfl
        · by_cases here : other = loop
          · subst here
            simp only [Function.update_self, stageWith, submits, if_true]
            rfl
          · rw [Function.update_of_ne here]
            refine loopSame other ?_
            simp only [Function.update_apply, PoolThread.submitter.injEq, if_neg here]
        · rfl
        · simp only [Function.update_of_ne (apart loop).symm]
          exact (Function.update_eq_self _ server.view.running).symm
      · cases impossible

theorem simulates (registered : Finset String)
    {allowed : DispatchServer pool Loop → DispatchServer.Step pool Loop → Prop}
    (spares : Spares allowed) :
    (machine registered : LabelledMachine (PooledServer pool Loop) _ _).Simulates
      (DispatchServer.machine registered) Shows (Guarded allowed) allowed := by
  rintro server shown step ⟨orderly, rfl⟩ guarded
  have never (loop : Loop) {state : PooledLoop} (holds : server.loops loop = state)
      (outside : ∀ task, state ≠ .submitting task) (task : UdpTask)
      (submits : server.loops loop = .submitting task) :
      (server.poolOf task).points (.submitter loop) = .idle :=
    absurd (holds.symm.trans submits) (outside task)
  -- A step that nobody is ready for.
  have nothing (same : server.perform step = server) (silent : server.traffic registered step = []) :
      ∃ moves, Shows ((machine registered).next server step)
          ((DispatchServer.machine registered).run server.view moves) ∧
        (DispatchServer.machine registered).trace server.view moves =
          (machine registered).emit server step ∧
        (DispatchServer.machine registered).Along allowed server.view moves := by
    refine LabelledMachine.matched_by_none ?_ silent
    change Shows (server.perform step) server.view
    rw [same]
    exact ⟨orderly, rfl⟩
  cases step with
  | takeSlot loop =>
      cases holds : server.loops loop with
      | idle =>
          refine LabelledMachine.matched_by_one (.takeSlot loop) ⟨?_, view_takeSlot holds⟩ rfl
            (guarded holds)
          have moved : Orderly (server.setLoop loop (.holding server.buffers.slot)) :=
            orderly.setLoop (never loop holds (by simp)) (by simp)
          simp only [machine, perform, holds]
          exact ⟨moved.reached, moved.running, moved.undestroyed, moved.outside, moved.submits⟩
      | holding | received | submitting => exact nothing (by simp only [perform, holds]) rfl
  | receive loop datagram =>
      cases holds : server.loops loop with
      | holding slot =>
          refine LabelledMachine.matched_by_one (.receive loop datagram)
            ⟨?_, view_receive datagram holds⟩ ?_ guarded
          · have moved : Orderly (server.setLoop loop
                (.received ⟨slot, datagram.received.length, datagram.peer⟩)) :=
              orderly.setLoop (never loop holds (by simp)) (by simp)
            simp only [machine, perform, holds]
            exact ⟨moved.reached, moved.running, moved.undestroyed, moved.outside, moved.submits⟩
          · simp only [machine, traffic, DispatchServer.machine, DispatchServer.traffic, view, holds]
            rfl
      | idle | received | submitting =>
          exact nothing (by simp only [perform, holds]) (by simp only [traffic, holds])
  | receiveNothing loop =>
      cases holds : server.loops loop with
      | holding slot =>
          refine LabelledMachine.matched_by_one (.receiveNothing loop)
            ⟨?_, view_receiveNothing holds⟩ rfl (spares.receiveNothing _ _)
          simp only [machine, perform, holds]
          exact orderly.setLoop (never loop holds (by simp)) (by simp)
      | idle | received | submitting => exact nothing (by simp only [perform, holds]) rfl
  | submit loop =>
      cases holds : server.loops loop with
      | received task =>
          refine LabelledMachine.matched_by_none ?_ rfl
          exact ⟨(orderly_submit orderly holds).1, (view_submit orderly holds).symm⟩
      | idle | holding | submitting => exact nothing (by simp only [perform, holds]) rfl
  | returned loop =>
      cases holds : server.loops loop with
      | submitting task =>
          cases place : (server.poolOf task).points (.submitter loop) with
          | idle =>
              refine LabelledMachine.matched_by_none ?_ rfl
              simp only [machine, perform, holds, place]
              refine ⟨orderly.setLoop ?_ (by simp), ?_⟩
              · intro other submits
                cases holds.symm.trans submits
                exact place
              · rw [view_setLoop server loop .idle (by simp)]
                have shown : server.view.loops loop = .idle := by
                  simp only [view, stageOf, holds, place]
                  rfl
                exact congrArg (fun loops => { server.view with loops := loops })
                  (shown ▸ Function.update_eq_self loop server.view.loops).symm
          | before | inside | suspending | blocked | leaving =>
              exact nothing (by simp only [perform, holds, place]) rfl
      | idle | holding | received => exact nothing (by simp only [perform, holds]) rfl
  | inPool worker step =>
      cases starts : step.isStart with
      | true =>
          exact nothing (by simp only [perform, starts, if_true])
            (by simp only [traffic, starts, if_true])
      | false => exact matched_inPool registered spares orderly worker starts

end Steps

/-! ### Runs -/

theorem shows_start (buffers : ReceiveBuffers) :
    Shows (start buffers : PooledServer pool Loop) (DispatchServer.start buffers) :=
  ⟨orderly_start buffers, rfl⟩

/-- Every run of the loops and the pools has the traffic of a run of the server with plain
queues, and ends where that run ends, seen without the mutexes. -/
theorem pools_refine_queues (registered : Finset String) (buffers : ReceiveBuffers)
    (steps : List (Step pool Loop)) :
    ∃ moves, (DispatchServer.machine registered).run (DispatchServer.start buffers) moves =
        ((machine registered).run (start buffers) steps).view ∧
      (DispatchServer.machine registered).trace (DispatchServer.start buffers) moves =
        (machine registered).trace (start buffers) steps := by
  have spares : Spares (fun _ _ => True :
      DispatchServer pool Loop → DispatchServer.Step pool Loop → Prop) :=
    ⟨fun _ _ => trivial, fun _ _ => trivial, fun _ _ => trivial, fun _ _ => trivial⟩
  have along : (machine registered).Along (Guarded fun _ _ => True)
      (start buffers : PooledServer pool Loop) steps := by
    refine LabelledMachine.Along.of_steps (fun before step _ _ => ?_)
    cases step with
    | takeSlot => exact fun _ => trivial
    | receive | receiveNothing | submit | returned | inPool => trivial
  obtain ⟨moves, reached, traffic, _⟩ := (simulates registered spares).run (shows_start buffers)
    along
  exact ⟨moves, reached.2, traffic⟩

/-- No loop has a datagram in hand, and every worker is in the wait set of its pool. -/
def AtRest (server : PooledServer pool Loop) : Prop :=
  (∀ loop, (server.loops loop).task? = none) ∧
    ∀ worker, ((server.pools worker).points ThreadPool.soleWorker).isBlocked = true

instance [Fintype Loop] (server : PooledServer pool Loop) : Decidable server.AtRest :=
  inferInstanceAs (Decidable ((∀ _, _ = _) ∧ ∀ _, _ = _))

theorem quiet_of_atRest {server : PooledServer pool Loop} (orderly : Orderly server)
    (rests : server.AtRest) : server.view.Quiet := by
  intro worker
  obtain ⟨away, blocked⟩ := rests
  obtain ⟨steps, reached⟩ := orderly.reached worker
  obtain ⟨_, inRole, _, grounded⟩ := ThreadPool.wound_after steps
  have waits := blocked worker
  rw [reached] at waits
  refine ⟨?_, ?_⟩
  · simp only [view, reached]
    cases place : (ThreadPool.after steps).points (.worker 0) with
    | blocked stage =>
        obtain ⟨body, acts⟩ := grounded.entered (.worker 0) stage (by rw [place]; rfl)
        have role : ThreadPool.plays (PoolThread.worker 0 : PoolThread 1 Loop) stage :=
          inRole (.worker 0) stage (by simp only [stageState, place]; rfl)
        cases stage with
        | take => rfl
        | call | work => cases acts
        | push | notifyOne | setStop | notifyAll | join => cases role
    | idle | before | inside | suspending | leaving =>
        rw [place] at waits
        cases waits
  · by_contra tasks
    have work : ThreadPool.HasWork (ThreadPool.after steps).data := by
      refine ⟨?_, ?_⟩
      · rw [← reached]
        exact orderly.running worker
      · rw [← reached]
        exact tasks
    rcases ThreadPool.awake_after Nat.one_pos steps work with ⟨loop, notifies⟩ | ⟨index, awake⟩
    · -- Only a loop that submits notifies.
      rw [← reached] at notifies
      obtain ⟨task, submits, _⟩ := orderly.submitting notifies
      have free := away loop
      rw [submits] at free
      cases free
    · rw [Subsingleton.elim index 0, waits] at awake
      cases awake

/-- With the real pools, the handler of a registered peer is called with a prefix of the
datagrams received from that peer, each once and in order, and nobody else is called; when
all workers wait and no loop has a datagram in hand, nothing is outstanding. -/
theorem pools_deliver_in_order (registered : Finset String) (socketOf : String → Loop)
    (buffers : ReceiveBuffers) (steps : List (Step pool Loop))
    (sheltered : (machine registered).Along (Guarded (DispatchServer.Sheltered socketOf))
      (start buffers) steps) :
    let server := (machine registered).run (start buffers) steps
    let traffic := (machine registered).trace (start buffers) steps
    (∀ peer ∈ registered,
      deliveredTo peer (deliveries traffic) <+: sentBy peer (receipts traffic)) ∧
    (∀ peer ∉ registered, deliveredTo peer (deliveries traffic) = []) ∧
    (server.AtRest → ∀ peer ∈ registered,
      deliveredTo peer (deliveries traffic) = sentBy peer (receipts traffic)) := by
  intro server traffic
  have spares : Spares (DispatchServer.Sheltered socketOf : DispatchServer pool Loop → _) :=
    ⟨fun _ _ => trivial, fun _ _ => trivial, fun _ _ => trivial, fun _ _ => trivial⟩
  obtain ⟨moves, reached, same, allowed⟩ := (simulates registered spares).run
    (shows_start buffers) sheltered
  have accounted := DispatchServer.accounted_run buffers allowed
  rw [same, reached.2] at accounted
  refine ⟨?_, accounted.silent, ?_⟩
  · intro peer known
    rw [accounted.conserved peer known]
    exact List.prefix_append _ _
  · intro rests peer known
    have whole := accounted.conserved peer known
    have inHand : server.view.inHand socketOf peer = [] := by
      refine DispatchServer.inHand_eq_nil ?_
      have free := rests.1 (socketOf peer)
      simp only [view]
      cases holds : server.loops (socketOf peer) with
      | idle | holding => rfl
      | received | submitting =>
          rw [holds] at free
          cases free
    rw [DispatchServer.backlog_of_quiet (quiet_of_atRest reached.1 rests), inHand] at whole
    rw [whole]
    exact (List.append_nil _).symm

/-- A worker waits, one datagram comes in and is submitted, and the worker is woken,
handles it and waits again. -/
theorem pools_deliver_one_datagram :
    let registered : Finset String := {"10.0.0.1:5060"}
    let pool : WorkerPool := ⟨1, by decide, String.length⟩
    let buffers : ReceiveBuffers := ⟨20971520, false, 0, fun _ _ => 0, by decide⟩
    let waits : List (Step pool Unit) :=
      [.inPool 0 (.acquire (.worker 0)), .inPool 0 (.run (.worker 0)),
        .inPool 0 (.release (.worker 0))]
    let steps : List (Step pool Unit) :=
      waits ++
        [.takeSlot (), .receive () ⟨"10.0.0.1:5060", [1]⟩, .submit (),
          .inPool 0 (.acquire (.submitter ())), .inPool 0 (.run (.submitter ())),
          .inPool 0 (.release (.submitter ())), .inPool 0 (.notify (.submitter ()) (.worker 0)),
          .returned (), .inPool 0 (.acquire (.worker 0)), .inPool 0 (.run (.worker 0)),
          .inPool 0 (.release (.worker 0)), .inPool 0 (.proceed (.worker 0)),
          .inPool 0 (.proceed (.worker 0))] ++ waits
    let traffic := (machine registered).trace (start buffers) steps
    deliveredTo "10.0.0.1:5060" (deliveries traffic) = [[1]] ∧
      deliveredTo "10.0.0.1:5060" (deliveries traffic) =
        sentBy "10.0.0.1:5060" (receipts traffic) := by
  intro registered pool buffers waits steps traffic
  refine ⟨by decide, ?_⟩
  have sheltered : (machine registered).Along (Guarded (DispatchServer.Sheltered fun _ => ()))
      (start buffers) steps := by decide
  have rests : ((machine registered).run (start buffers) steps).AtRest := by decide
  exact (pools_deliver_in_order registered _ buffers steps sheltered).2.2 rests _ (by decide)

end PooledServer

end Ffvms.Concrete
