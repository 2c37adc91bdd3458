/-
Inline and threaded dispatch of the datagrams of one readable event.

The inline callback hands over what comes before the first datagram of an unknown
sender.  With workers every payload of a registered peer is delivered, handled by
the one worker of the peer or still pending, in this order; the invariant says
that the three together are what the peer has sent.  So the two agree if and only
if nothing of a registered sender comes after an unknown one.
-/

import Ffvms.Concrete.NetworkServer

namespace Ffvms.Concrete

/-! ### The inline callback -/

/-- The callback stops at the first datagram of an unknown sender. -/
theorem inline_deliveries (registered : Finset String) (buffers : ReceiveBuffers)
    (queue : List Datagram) :
    (inlineCallback registered buffers queue).deliveries =
      (queue.takeWhile (fun datagram => datagram.peer ∈ registered)).map
        (fun datagram => ⟨datagram.peer, datagram.received⟩) := by
  induction queue generalizing buffers with
  | nil => rfl
  | cons datagram rest ih =>
      rw [inlineCallback, List.takeWhile_cons]
      by_cases known : datagram.peer ∈ registered
      · simp only [known, if_true, decide_true, List.map_cons, ih,
          ReceiveBuffers.contents_take_slot]
      · simp only [known, if_false, decide_false, List.map_nil, Bool.false_eq_true]

theorem deliveredTo_append (peer : String) (first second : List Delivery) :
    deliveredTo peer (first ++ second) = deliveredTo peer first ++ deliveredTo peer second := by
  unfold deliveredTo
  rw [List.filter_append, List.map_append]

theorem deliveredTo_map (peer : String) (queue : List Datagram) :
    deliveredTo peer (queue.map (fun datagram => ⟨datagram.peer, datagram.received⟩)) =
      sentBy peer queue := by
  unfold deliveredTo sentBy
  rw [List.filter_map, List.map_map]
  rfl

/-! ### The workers -/

namespace ThreadedServer

variable {pool : WorkerPool}

def outstanding (server : ThreadedServer pool) (peer : String) : List (List UInt8) :=
  ((server.tasks (pool.workerOf peer)).filter (fun task => task.peer = peer)).map
    (fun task => server.buffers.contents task.slot task.len)

/-- The tasks are with the worker of their peer, their slots are not written
again, and no payload of a registered peer has been lost or reordered. -/
structure Conserves (registered : Finset String) (queue : List Datagram)
    (delivered : List Delivery) (server : ThreadedServer pool) : Prop where
  placed : ∀ worker, ∀ task ∈ server.tasks worker, pool.workerOf task.peer = worker
  sized : ∀ worker, ∀ task ∈ server.tasks worker,
    task.len ≤ slotSize ∧ slotSize ∣ task.slot.position
  unwritten : ∀ worker, ∀ task ∈ server.tasks worker,
    task.slot ∉ server.buffers.slots server.pending.length
  distinct : (server.buffers.slots server.pending.length).Nodup
  conserved : ∀ peer ∈ registered, deliveredTo peer delivered ++ server.outstanding peer ++
    sentBy peer server.pending = sentBy peer queue

section Conserves

variable {registered : Finset String} {queue : List Datagram} {delivered : List Delivery}
  {server : ThreadedServer pool}

theorem conserves_start {buffers : ReceiveBuffers}
    (fits : (buffers.slots queue.length).Nodup) :
    Conserves registered queue [] (start pool buffers queue) :=
  { placed := fun _ _ member => absurd member List.not_mem_nil
    sized := fun _ _ member => absurd member List.not_mem_nil
    unwritten := fun _ _ member => absurd member List.not_mem_nil
    distinct := fits
    conserved := fun _ _ => rfl }

theorem mem_tasks_receive {datagram : Datagram} {rest : List Datagram}
    (pending : server.pending = datagram :: rest) {worker : Fin pool.size} {task : UdpTask} :
    task ∈ server.receive.tasks worker ↔ task ∈ server.tasks worker ∨
      (worker = pool.workerOf datagram.peer ∧
        task = ⟨server.buffers.slot, datagram.received.length, datagram.peer⟩) := by
  simp only [receive, pending]
  split_ifs with here
  · rw [List.mem_append, List.mem_singleton, and_iff_right here]
  · rw [iff_comm]
    exact or_iff_left (fun both => here both.1)

theorem outstanding_receive {datagram : Datagram} {rest : List Datagram}
    (conserves : Conserves registered queue delivered server)
    (pending : server.pending = datagram :: rest) (peer : String) :
    server.receive.outstanding peer ++ sentBy peer rest =
      server.outstanding peer ++ sentBy peer server.pending := by
  have kept : ∀ task ∈ server.tasks (pool.workerOf peer),
      server.receive.buffers.contents task.slot task.len =
        server.buffers.contents task.slot task.len := by
    intro task member
    obtain ⟨short, aligned⟩ := conserves.sized _ task member
    have unwritten := conserves.unwritten _ task member
    simp only [receive, pending]
    refine ReceiveBuffers.contents_take_of_ne _ ?_ aligned short datagram.received_length
    intro same
    rw [pending, List.length_cons, ReceiveBuffers.slots, same] at unwritten
    exact unwritten List.mem_cons_self
  have older : ((server.tasks (pool.workerOf peer)).filter (fun task => task.peer = peer)).map
      (fun task => server.receive.buffers.contents task.slot task.len) =
      server.outstanding peer := by
    apply List.map_congr_left
    intro task member
    exact kept task (List.mem_of_mem_filter member)
  by_cases mine : datagram.peer = peer
  · have tasks : server.receive.tasks (pool.workerOf peer) =
        server.tasks (pool.workerOf peer) ++
          [⟨server.buffers.slot, datagram.received.length, datagram.peer⟩] := by
      simp only [receive, pending, mine, if_true]
    have buffers : server.receive.buffers = server.buffers.take datagram.received := by
      simp only [receive, pending]
    have last : server.receive.buffers.contents server.buffers.slot datagram.received.length =
        datagram.received := by
      rw [buffers, ReceiveBuffers.contents_take_slot]
    have sent : sentBy peer server.pending = datagram.received :: sentBy peer rest := by
      simp only [sentBy, pending, List.filter_cons, mine, decide_true, if_true, List.map_cons]
    rw [sent, outstanding, tasks, List.filter_append, List.map_append, older]
    simp only [mine, List.filter_cons, decide_true, if_true, List.filter_nil, List.map_cons,
      List.map_nil, last, List.append_assoc, List.singleton_append]
  · have tasks : (server.receive.tasks (pool.workerOf peer)).filter (fun task => task.peer = peer) =
        (server.tasks (pool.workerOf peer)).filter (fun task => task.peer = peer) := by
      simp only [receive, pending]
      split_ifs
      · simp only [List.filter_append, List.filter_cons, mine, decide_false, Bool.false_eq_true,
          if_false, List.filter_nil, List.append_nil]
      · rfl
    have sent : sentBy peer server.pending = sentBy peer rest := by
      simp only [sentBy, pending, List.filter_cons, mine, decide_false, Bool.false_eq_true,
        if_false]
    rw [sent, outstanding, tasks, older]

theorem conserves_return (conserves : Conserves registered queue delivered server)
    (pending : server.pending = []) :
    Conserves registered queue delivered
      { server with buffers := server.buffers.take [], returned := true } := by
  have nothing : (server.buffers.take []).slots server.pending.length = [] := by
    rw [pending]
    rfl
  refine
    { placed := conserves.placed
      sized := conserves.sized
      unwritten := ?_
      distinct := ?_
      conserved := ?_ }
  · intro worker task _member
    change task.slot ∉ (server.buffers.take []).slots server.pending.length
    rw [nothing]
    exact List.not_mem_nil
  · change ((server.buffers.take []).slots server.pending.length).Nodup
    rw [nothing]
    exact List.nodup_nil
  · intro peer known
    rw [← conserves.conserved peer known]
    simp only [outstanding, ReceiveBuffers.contents_take_nil]

theorem conserves_receive (conserves : Conserves registered queue delivered server) :
    Conserves registered queue delivered server.receive := by
  cases pending : server.pending with
  | nil =>
      simp only [receive, pending]
      split_ifs
      · exact conserves
      · have returns := conserves_return conserves pending
        rw [pending] at returns
        exact returns
  | cons datagram rest =>
      have upcoming : server.buffers.slots server.pending.length =
          server.buffers.slot :: server.receive.buffers.slots rest.length := by
        simp only [pending, List.length_cons, receive]
        exact ReceiveBuffers.slots_succ _ _ _
      have left : server.receive.pending = rest := by simp only [receive, pending]
      have distinct := conserves.distinct
      rw [upcoming] at distinct
      obtain ⟨unused, distinct⟩ := List.nodup_cons.mp distinct
      refine
        { placed := ?_
          sized := ?_
          unwritten := ?_
          distinct := ?_
          conserved := ?_ }
      · intro worker task member
        rcases (mem_tasks_receive pending).mp member with older | ⟨here, rfl⟩
        · exact conserves.placed worker task older
        · exact here.symm
      · intro worker task member
        rcases (mem_tasks_receive pending).mp member with older | ⟨_, rfl⟩
        · exact conserves.sized worker task older
        · exact ⟨datagram.received_length, server.buffers.slot_aligned⟩
      · intro worker task member
        rw [left]
        rcases (mem_tasks_receive pending).mp member with older | ⟨_, rfl⟩
        · have unwritten := conserves.unwritten worker task older
          rw [upcoming] at unwritten
          exact fun later => unwritten (List.mem_cons_of_mem _ later)
        · exact unused
      · rw [left]
        exact distinct
      · intro peer known
        rw [left, List.append_assoc, outstanding_receive conserves pending, ← List.append_assoc]
        exact conserves.conserved peer known

theorem mem_tasks_of_work {worker other : Fin pool.size} {task : UdpTask}
    (member : task ∈ (server.work worker).tasks other) : task ∈ server.tasks other := by
  change task ∈ if other = worker then (server.tasks other).tail else server.tasks other at member
  split_ifs at member
  · exact List.mem_of_mem_tail member
  · exact member

theorem deliveredTo_runTask_other {task : UdpTask} {peer : String} (different : task.peer ≠ peer) :
    deliveredTo peer (runTask registered server.buffers task) = [] := by
  unfold runTask
  split_ifs
  · simp [deliveredTo, different]
  · rfl

theorem deliveredTo_runTask_self {task : UdpTask} (known : task.peer ∈ registered) :
    deliveredTo task.peer (runTask registered server.buffers task) =
      [server.buffers.contents task.slot task.len] := by
  simp [runTask, known, deliveredTo]

theorem outstanding_work (conserves : Conserves registered queue delivered server)
    (worker : Fin pool.size) {peer : String} (known : peer ∈ registered) :
    deliveredTo peer ((machine registered).emit server (.work worker)) ++
        (server.work worker).outstanding peer =
      server.outstanding peer := by
  unfold outstanding
  by_cases here : pool.workerOf peer = worker
  · have tasks : (server.work worker).tasks (pool.workerOf peer) =
        (server.tasks worker).tail := by
      rw [here]
      exact if_pos rfl
    rw [tasks, here]
    cases queued : server.tasks worker with
    | nil =>
        simp only [machine, queued]
        rfl
    | cons task rest =>
        simp only [machine, queued, List.tail_cons]
        by_cases mine : task.peer = peer
        · subst mine
          rw [deliveredTo_runTask_self known]
          simp only [List.filter_cons, decide_true, if_true, List.map_cons, List.singleton_append]
          rfl
        · rw [deliveredTo_runTask_other mine, List.nil_append]
          simp only [List.filter_cons, mine, decide_false, Bool.false_eq_true, if_false]
          rfl
  · have tasks : (server.work worker).tasks (pool.workerOf peer) =
        server.tasks (pool.workerOf peer) := if_neg here
    have silent : deliveredTo peer ((machine registered).emit server (.work worker)) = [] := by
      cases queued : server.tasks worker with
      | nil =>
          simp only [machine, queued]
          rfl
      | cons task rest =>
          simp only [machine, queued]
          apply deliveredTo_runTask_other
          intro mine
          have place := conserves.placed worker task (by rw [queued]; exact List.mem_cons_self)
          rw [mine] at place
          exact here place
    rw [tasks, silent, List.nil_append]
    rfl

theorem conserves_work (conserves : Conserves registered queue delivered server)
    (worker : Fin pool.size) :
    Conserves registered queue
      (delivered ++ (machine registered).emit server (.work worker)) (server.work worker) := by
  refine
    { placed := ?_
      sized := ?_
      unwritten := ?_
      distinct := conserves.distinct
      conserved := ?_ }
  · exact fun other task member => conserves.placed other task (mem_tasks_of_work member)
  · exact fun other task member => conserves.sized other task (mem_tasks_of_work member)
  · exact fun other task member => conserves.unwritten other task (mem_tasks_of_work member)
  · intro peer known
    rw [deliveredTo_append, List.append_assoc (deliveredTo peer delivered),
      outstanding_work conserves worker known]
    exact conserves.conserved peer known

theorem conserves_step (conserves : Conserves registered queue delivered server)
    (step : Step pool) :
    Conserves registered queue (delivered ++ (machine registered).emit server step)
      ((machine registered).next server step) := by
  cases step with
  | receive =>
      change Conserves registered queue (delivered ++ []) server.receive
      rw [List.append_nil]
      exact conserves_receive conserves
  | work worker => exact conserves_work conserves worker

/-- The whole run: the induction is on the steps, with what has been delivered
as accumulator. -/
theorem conserves_run (conserves : Conserves registered queue delivered server)
    (steps : List (Step pool)) :
    Conserves registered queue (delivered ++ (machine registered).trace server steps)
      ((machine registered).run server steps) := by
  induction steps generalizing server delivered with
  | nil =>
      rw [LabelledMachine.trace_nil, List.append_nil]
      exact conserves
  | cons step rest ih =>
      rw [LabelledMachine.trace_cons, LabelledMachine.run_cons, ← List.append_assoc]
      exact ih (conserves_step conserves step)

end Conserves

/-- Once everything is drained, each registered peer has got all its datagrams in
order, whatever the interleaving. -/
theorem threaded_delivers {registered : Finset String} {buffers : ReceiveBuffers}
    {queue : List Datagram} {steps : List (Step pool)}
    (fits : (buffers.slots queue.length).Nodup)
    (drained : ((machine registered).run (start pool buffers queue) steps).Drained)
    {peer : String} (known : peer ∈ registered) :
    deliveredTo peer ((machine registered).trace (start pool buffers queue) steps) =
      sentBy peer queue := by
  have conserves := @conserves_run pool registered _ _ _ (conserves_start fits) steps
  have conserved := conserves.conserved peer known
  obtain ⟨_returned, received, idle⟩ := drained
  rw [outstanding, idle, received] at conserved
  simpa [sentBy] using conserved

end ThreadedServer

/-! ### Both ways of dispatch -/

/-- What the inline callback leaves out is what comes after the first datagram of
an unknown sender. -/
theorem registeredFirst_iff (registered : Finset String) (queue : List Datagram) :
    RegisteredFirst registered queue ↔
      ∀ datagram ∈ queue.dropWhile (fun datagram => datagram.peer ∈ registered),
        datagram.peer ∉ registered := by
  induction queue with
  | nil =>
      constructor
      · intro _ datagram member
        cases member
      · intro _ before datagram after split
        exact absurd split.symm (List.append_ne_nil_of_right_ne_nil _ (List.cons_ne_nil _ _))
  | cons head rest ih =>
      rw [List.dropWhile_cons]
      by_cases known : head.peer ∈ registered
      · simp only [known, decide_true, if_true]
        rw [← ih]
        constructor
        · intro first before datagram after split
          exact first (head :: before) datagram after (by rw [split, List.cons_append])
        · intro first before datagram after split unknown
          cases before with
          | nil =>
              obtain ⟨same, _⟩ := List.cons.inj split
              rw [← same] at unknown
              exact absurd known unknown
          | cons other before =>
              exact first before datagram after (List.cons.inj split).2 unknown
      · simp only [known, decide_false, Bool.false_eq_true, if_false]
        constructor
        · intro first datagram member
          rcases List.mem_cons.mp member with rfl | later
          · exact known
          · exact first [] head rest rfl known datagram later
        · intro unknown before datagram after split _ later member
          apply unknown
          rw [split]
          exact List.mem_append_right _ (List.mem_cons_of_mem _ member)

theorem sentBy_takeWhile_iff (registered : Finset String) (queue : List Datagram) (peer : String) :
    sentBy peer (queue.takeWhile (fun datagram => datagram.peer ∈ registered)) =
        sentBy peer queue ↔
      ∀ datagram ∈ queue.dropWhile (fun datagram => datagram.peer ∈ registered),
        datagram.peer ≠ peer := by
  have split : sentBy peer queue =
      sentBy peer (queue.takeWhile (fun datagram => datagram.peer ∈ registered)) ++
        sentBy peer (queue.dropWhile (fun datagram => datagram.peer ∈ registered)) := by
    unfold sentBy
    rw [← List.map_append, ← List.filter_append, List.takeWhile_append_dropWhile]
  rw [split, List.self_eq_append_right]
  simp [sentBy, List.filter_eq_nil_iff]

/-- Inline and threaded dispatch agree on what each registered peer gets if and
only if no registered sender comes after an unknown one in the queue. -/
theorem dispatch_agrees_iff (registered : Finset String) (pool : WorkerPool)
    (buffers : ReceiveBuffers) (queue : List Datagram)
    (steps : List (ThreadedServer.Step pool)) (fits : (buffers.slots queue.length).Nodup)
    (drained : ((ThreadedServer.machine registered).run
      (ThreadedServer.start pool buffers queue) steps).Drained) :
    (∀ peer ∈ registered, deliveredTo peer (inlineCallback registered buffers queue).deliveries =
        deliveredTo peer ((ThreadedServer.machine registered).trace
          (ThreadedServer.start pool buffers queue) steps)) ↔
      RegisteredFirst registered queue := by
  rw [registeredFirst_iff]
  have each (peer : String) (known : peer ∈ registered) :
      deliveredTo peer (inlineCallback registered buffers queue).deliveries =
          deliveredTo peer ((ThreadedServer.machine registered).trace
            (ThreadedServer.start pool buffers queue) steps) ↔
        ∀ datagram ∈ queue.dropWhile (fun datagram => datagram.peer ∈ registered),
          datagram.peer ≠ peer := by
    rw [inline_deliveries, deliveredTo_map, ThreadedServer.threaded_delivers fits drained known,
      sentBy_takeWhile_iff]
  constructor
  · intro agree datagram member known
    exact (each datagram.peer known).mp (agree datagram.peer known) datagram member rfl
  · intro unknown peer known
    apply (each peer known).mpr
    intro datagram member same
    rw [← same] at known
    exact unknown datagram member known

/-- A registered sender before an unknown one, and two workers. -/
theorem dispatch_agrees_registered_first :
    let registered : Finset String := {"10.0.0.1:5060"}
    let pool : WorkerPool := ⟨2, by decide, String.length⟩
    let buffers : ReceiveBuffers := ⟨20971520, false, 0, fun _ _ => 0, by decide⟩
    let queue : List Datagram := [⟨"10.0.0.1:5060", [1]⟩, ⟨"10.0.0.2:5060", [2]⟩]
    let steps : List (ThreadedServer.Step pool) :=
      [.receive, .work 1, .receive, .receive, .work 1]
    ∀ peer ∈ registered, deliveredTo peer (inlineCallback registered buffers queue).deliveries =
      deliveredTo peer ((ThreadedServer.machine registered).trace
        (ThreadedServer.start pool buffers queue) steps) := by
  intro registered pool buffers queue steps
  refine (dispatch_agrees_iff registered pool buffers queue steps (by decide) ?_).mpr ?_
  · exact ⟨rfl, rfl, by decide⟩
  · rw [registeredFirst_iff]
    decide

/-- An unknown sender before a registered one: the callback without workers
returns before it gets to the second datagram. -/
theorem registered_sender_unread :
    let registered : Finset String := {"10.0.0.1:5060"}
    let pool : WorkerPool := ⟨1, by decide, String.length⟩
    let buffers : ReceiveBuffers := ⟨20971520, false, 0, fun _ _ => 0, by decide⟩
    let queue : List Datagram := [⟨"10.0.0.2:5060", [2]⟩, ⟨"10.0.0.1:5060", [1]⟩]
    let steps : List (ThreadedServer.Step pool) :=
      [.receive, .receive, .receive, .work 0, .work 0]
    (buffers.slots queue.length).Nodup ∧
      ((ThreadedServer.machine registered).run
        (ThreadedServer.start pool buffers queue) steps).Drained ∧
      deliveredTo "10.0.0.1:5060" (inlineCallback registered buffers queue).deliveries = [] ∧
      deliveredTo "10.0.0.1:5060" ((ThreadedServer.machine registered).trace
        (ThreadedServer.start pool buffers queue) steps) = [[1]] := by
  intro registered pool buffers queue steps
  exact ⟨by decide, ⟨rfl, rfl, by decide⟩, by decide, by decide⟩

end Ffvms.Concrete
