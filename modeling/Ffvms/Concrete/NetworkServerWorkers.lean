/-
Receive loops and worker threads.

Every event loop reads its own socket: it takes a slot of the shared receive
buffers, receives a datagram into it and submits a task to the worker that the
name of the sender hashes to.  A worker is a pool with one thread, which runs its
tasks in the order of submission.  Nothing enforces the order of the datagrams of
one sender explicitly; the invariant says that those delivered, those that wait
and the one in the hands of the loop are, in this order, all that were received.
-/

import Mathlib.Data.Fintype.Basic
import Mathlib.Logic.Function.Basic
import Ffvms.Concrete.NetworkServerDispatch

namespace Ffvms.Concrete

/-- Where an event loop is between two turns: before the next slot is taken,
before `recvfrom`, or before the submission of the task. -/
inductive LoopState where
  | idle
  | holding (slot : ReceiveSlot)
  | received (task : UdpTask)

def LoopState.slot? : LoopState → Option ReceiveSlot
  | .holding slot => some slot
  | .idle | .received _ => none

def LoopState.task? : LoopState → Option UdpTask
  | .idle | .holding _ => none
  | .received task => some task

inductive Traffic where
  | received (datagram : Datagram)
  | delivered (delivery : Delivery)

def receipts (traffic : List Traffic) : List Datagram :=
  traffic.filterMap (fun event =>
    match event with
    | .received datagram => some datagram
    | .delivered _ => none)

def deliveries (traffic : List Traffic) : List Delivery :=
  traffic.filterMap (fun event =>
    match event with
    | .received _ => none
    | .delivered delivery => some delivery)

/-- The event loops and the workers; `running` is the task that a worker has taken
from its queue and not finished. -/
structure DispatchServer (pool : WorkerPool) (Loop : Type) where
  buffers : ReceiveBuffers
  loops : Loop → LoopState
  queues : Fin pool.size → List UdpTask
  running : Fin pool.size → Option UdpTask

namespace DispatchServer

variable {pool : WorkerPool} {Loop : Type} [DecidableEq Loop]

def start (buffers : ReceiveBuffers) : DispatchServer pool Loop :=
  { buffers := buffers
    loops := fun _ => .idle
    queues := fun _ => []
    running := fun _ => none }

inductive Step (pool : WorkerPool) (Loop : Type) where
  | takeSlot (loop : Loop)
  | receive (loop : Loop) (datagram : Datagram)
  | receiveNothing (loop : Loop)
  | submit (loop : Loop)
  | startTask (worker : Fin pool.size)
  | execute (worker : Fin pool.size)

def setLoop (server : DispatchServer pool Loop) (loop : Loop) (state : LoopState) :
    DispatchServer pool Loop :=
  { server with loops := Function.update server.loops loop state }

def enqueue (server : DispatchServer pool Loop) (task : UdpTask) : DispatchServer pool Loop :=
  { server with
    queues := Function.update server.queues (pool.workerOf task.peer)
      (server.queues (pool.workerOf task.peer) ++ [task]) }

def finish (server : DispatchServer pool Loop) (worker : Fin pool.size) :
    DispatchServer pool Loop :=
  { server with running := Function.update server.running worker none }

def perform (server : DispatchServer pool Loop) : Step pool Loop → DispatchServer pool Loop
  | .takeSlot loop =>
      match server.loops loop with
      | .idle =>
          { server.setLoop loop (.holding server.buffers.slot) with
            buffers := server.buffers.take [] }
      | .holding _ | .received _ => server
  | .receive loop datagram =>
      match server.loops loop with
      | .holding slot =>
          { server.setLoop loop (.received ⟨slot, datagram.received.length, datagram.peer⟩) with
            buffers := server.buffers.store slot datagram.received }
      | .idle | .received _ => server
  | .receiveNothing loop =>
      match server.loops loop with
      | .holding _ => server.setLoop loop .idle
      | .idle | .received _ => server
  | .submit loop =>
      match server.loops loop with
      | .received task => (server.setLoop loop .idle).enqueue task
      | .idle | .holding _ => server
  | .startTask worker =>
      match server.running worker, server.queues worker with
      | none, task :: rest =>
          { server with
            queues := Function.update server.queues worker rest
            running := Function.update server.running worker (some task) }
      | _, _ => server
  | .execute worker => server.finish worker

/-- The task of the worker looks the peer up and calls its handler with the bytes
that are in the slot then. -/
def traffic (registered : Finset String) (server : DispatchServer pool Loop) :
    Step pool Loop → List Traffic
  | .receive loop datagram =>
      match server.loops loop with
      | .holding _ => [.received datagram]
      | .idle | .received _ => []
  | .execute worker =>
      match server.running worker with
      | some task => (ThreadedServer.runTask registered server.buffers task).map .delivered
      | none => []
  | _ => []

def machine (registered : Finset String) :
    LabelledMachine (DispatchServer pool Loop) (Step pool Loop) Traffic :=
  { next := perform
    emit := traffic registered }

def submitted (server : DispatchServer pool Loop) (worker : Fin pool.size) : List UdpTask :=
  (server.running worker).toList ++ server.queues worker

def InUse (server : DispatchServer pool Loop) (task : UdpTask) : Prop :=
  (∃ worker, task ∈ server.submitted worker) ∨ ∃ loop, server.loops loop = .received task

/-- The datagrams of a sender come in on one socket, and no slot is handed out
while the datagram in it is outstanding. -/
def Sheltered (socketOf : String → Loop) (server : DispatchServer pool Loop) :
    Step pool Loop → Prop
  | .takeSlot loop => server.loops loop = .idle →
      (∀ task, server.InUse task → task.slot ≠ server.buffers.slot) ∧
        ∀ other slot, server.loops other = .holding slot → slot ≠ server.buffers.slot
  | .receive loop datagram => socketOf datagram.peer = loop
  | _ => True

omit [DecidableEq Loop] in
theorem sheltered_takeSlot_iff (socketOf : String → Loop) (server : DispatchServer pool Loop)
    (loop : Loop) : Sheltered socketOf server (.takeSlot loop) ↔
      ((server.loops loop).slot? = none → (server.loops loop).task? = none →
        (∀ worker, ∀ task ∈ server.submitted worker, task.slot ≠ server.buffers.slot) ∧
        ∀ other, (∀ task ∈ (server.loops other).task?, task.slot ≠ server.buffers.slot) ∧
          ∀ slot ∈ (server.loops other).slot?, slot ≠ server.buffers.slot) := by
  have taskOf (other : Loop) (task : UdpTask) :
      task ∈ (server.loops other).task? ↔ server.loops other = .received task := by
    cases server.loops other <;> simp [LoopState.task?]
  have slotOf (other : Loop) (slot : ReceiveSlot) :
      slot ∈ (server.loops other).slot? ↔ server.loops other = .holding slot := by
    cases server.loops other <;> simp [LoopState.slot?]
  have idle : server.loops loop = .idle ↔
      (server.loops loop).slot? = none ∧ (server.loops loop).task? = none := by
    cases server.loops loop <;> simp [LoopState.slot?, LoopState.task?]
  simp only [Sheltered, idle, and_imp, taskOf, slotOf]
  refine forall_congr' fun _ => forall_congr' fun _ => ?_
  constructor
  · rintro ⟨unused, unheld⟩
    exact ⟨fun worker task member => unused task (Or.inl ⟨worker, member⟩),
      fun other => ⟨fun task holds => unused task (Or.inr ⟨other, holds⟩), unheld other⟩⟩
  · rintro ⟨waiting, loops⟩
    refine ⟨?_, fun other => (loops other).2⟩
    rintro task (⟨worker, member⟩ | ⟨other, holds⟩)
    · exact waiting worker task member
    · exact (loops other).1 task holds

instance [Fintype Loop] (socketOf : String → Loop) (server : DispatchServer pool Loop) :
    (step : Step pool Loop) → Decidable (Sheltered socketOf server step)
  | .takeSlot loop => decidable_of_iff' _ (sheltered_takeSlot_iff socketOf server loop)
  | .receive loop datagram => inferInstanceAs (Decidable (socketOf datagram.peer = loop))
  | .receiveNothing _ | .submit _ | .startTask _ | .execute _ => isTrue trivial

def Quiet (server : DispatchServer pool Loop) : Prop :=
  ∀ worker, server.running worker = none ∧ server.queues worker = []

instance (server : DispatchServer pool Loop) : Decidable server.Quiet :=
  inferInstanceAs (Decidable (∀ worker, server.running worker = none ∧ server.queues worker = []))

def inHand (socketOf : String → Loop) (server : DispatchServer pool Loop) (peer : String) :
    List UdpTask :=
  (server.loops (socketOf peer)).task?.toList.filter (fun task => task.peer = peer)

/-- What has been received from the peer and not yet handled. -/
def backlog (socketOf : String → Loop) (server : DispatchServer pool Loop) (peer : String) :
    List UdpTask :=
  (server.submitted (pool.workerOf peer)).filter (fun task => task.peer = peer) ++
    server.inHand socketOf peer

def payload (server : DispatchServer pool Loop) (task : UdpTask) : List UInt8 :=
  server.buffers.contents task.slot task.len

/-! ### The invariant -/

structure Accounted (registered : Finset String) (socketOf : String → Loop)
    (server : DispatchServer pool Loop) (traffic : List Traffic) : Prop where
  placed : ∀ worker, ∀ task ∈ server.submitted worker, pool.workerOf task.peer = worker
  owned : ∀ loop task, server.loops loop = .received task → socketOf task.peer = loop
  aligned : ∀ loop slot, server.loops loop = .holding slot → slotSize ∣ slot.position
  apart : ∀ loop slot task, server.loops loop = .holding slot → server.InUse task →
    task.slot ≠ slot
  distinct : ∀ loop other slot, server.loops loop = .holding slot →
    server.loops other = .holding slot → loop = other
  sized : ∀ task, server.InUse task → task.len ≤ slotSize ∧ slotSize ∣ task.slot.position
  conserved : ∀ peer ∈ registered, sentBy peer (receipts traffic) =
    deliveredTo peer (deliveries traffic) ++ (server.backlog socketOf peer).map server.payload
  silent : ∀ peer ∉ registered, deliveredTo peer (deliveries traffic) = []

theorem receipts_append (first second : List Traffic) :
    receipts (first ++ second) = receipts first ++ receipts second :=
  List.filterMap_append

theorem deliveries_append (first second : List Traffic) :
    deliveries (first ++ second) = deliveries first ++ deliveries second :=
  List.filterMap_append

theorem sentBy_append (peer : String) (first second : List Datagram) :
    sentBy peer (first ++ second) = sentBy peer first ++ sentBy peer second := by
  unfold sentBy
  rw [List.filter_append, List.map_append]

theorem receipts_delivered (delivered : List Delivery) :
    receipts (delivered.map .delivered) = [] := by
  induction delivered with
  | nil => rfl
  | cons _ _ tail => exact tail

theorem deliveries_delivered (delivered : List Delivery) :
    deliveries (delivered.map .delivered) = delivered := by
  induction delivered with
  | nil => rfl
  | cons delivery _ tail => exact congrArg (delivery :: ·) tail

section Loops

variable {server : DispatchServer pool Loop} {loop other : Loop} {state : LoopState}
  {slot : ReceiveSlot} {task : UdpTask}

theorem loops_setLoop (server : DispatchServer pool Loop) (loop other : Loop) (state : LoopState) :
    (server.setLoop loop state).loops other =
      if other = loop then state else server.loops other :=
  Function.update_apply _ _ _ _

theorem holding_of_setLoop (holds : (server.setLoop loop state).loops other = .holding slot) :
    (other = loop ∧ state = .holding slot) ∨ server.loops other = .holding slot := by
  rw [loops_setLoop] at holds
  split_ifs at holds with here
  · exact Or.inl ⟨here, holds⟩
  · exact Or.inr holds

theorem received_of_setLoop (holds : (server.setLoop loop state).loops other = .received task) :
    (other = loop ∧ state = .received task) ∨ server.loops other = .received task := by
  rw [loops_setLoop] at holds
  split_ifs at holds with here
  · exact Or.inl ⟨here, holds⟩
  · exact Or.inr holds

theorem holding_of_setLoop_idle (holds : (server.setLoop loop .idle).loops other = .holding slot) :
    server.loops other = .holding slot :=
  (holding_of_setLoop holds).resolve_left (fun ⟨_, new⟩ => nomatch new)

theorem received_of_setLoop_idle
    (holds : (server.setLoop loop .idle).loops other = .received task) :
    server.loops other = .received task :=
  (received_of_setLoop holds).resolve_left (fun ⟨_, new⟩ => nomatch new)

theorem inHand_setLoop (socketOf : String → Loop) (server : DispatchServer pool Loop) (loop : Loop)
    (state : LoopState) (peer : String) :
    (server.setLoop loop state).inHand socketOf peer =
      if socketOf peer = loop then state.task?.toList.filter (fun task => task.peer = peer)
      else server.inHand socketOf peer := by
  unfold inHand
  rw [loops_setLoop]
  split_ifs <;> rfl

omit [DecidableEq Loop] in
theorem inHand_eq_nil {socketOf : String → Loop} {peer : String}
    (none : (server.loops (socketOf peer)).task? = none) : server.inHand socketOf peer = [] := by
  unfold inHand
  rw [none]
  rfl

omit [DecidableEq Loop] in
theorem inUse_of_mem_backlog {socketOf : String → Loop} {peer : String}
    (member : task ∈ server.backlog socketOf peer) : server.InUse task := by
  rcases List.mem_append.mp member with submitted | hand
  · exact Or.inl ⟨_, (List.mem_filter.mp submitted).1⟩
  · refine Or.inr ⟨socketOf peer, ?_⟩
    have found := Option.mem_toList.mp (List.mem_filter.mp hand).1
    revert found
    cases server.loops (socketOf peer) with
    | idle | holding _ => exact fun found => nomatch found
    | received _ => exact fun found => congrArg _ (Option.some.inj found)

theorem backlog_setLoop_empty {socketOf : String → Loop}
    (empty : (server.loops loop).task? = none) (still : state.task? = none) (peer : String) :
    (server.setLoop loop state).backlog socketOf peer = server.backlog socketOf peer := by
  unfold backlog
  rw [inHand_setLoop]
  split_ifs with here
  · rw [still, inHand_eq_nil (here ▸ empty)]
    rfl
  · rfl

theorem backlog_setLoop_received {socketOf : String → Loop}
    (empty : (server.loops loop).task? = none) (own : socketOf task.peer = loop) (peer : String) :
    (server.setLoop loop (.received task)).backlog socketOf peer =
      server.backlog socketOf peer ++ if task.peer = peer then [task] else [] := by
  unfold backlog
  rw [inHand_setLoop, List.append_assoc]
  congr 1
  by_cases same : task.peer = peer
  · subst same
    rw [if_pos own, if_pos rfl, inHand_eq_nil (own ▸ empty)]
    simp [LoopState.task?]
  · split_ifs with here
    · rw [inHand_eq_nil (here ▸ empty)]
      simp [LoopState.task?, same]
    · rw [List.append_nil]

end Loops

section Steps

variable {registered : Finset String} {socketOf : String → Loop}
  {server : DispatchServer pool Loop} {events : List Traffic} {loop : Loop}

omit [DecidableEq Loop] in
theorem accounted_start (registered : Finset String) (socketOf : String → Loop)
    (buffers : ReceiveBuffers) :
    Accounted registered socketOf (start buffers : DispatchServer pool Loop) [] := by
  have unused (task : UdpTask) : ¬(start buffers : DispatchServer pool Loop).InUse task := by
    rintro (⟨worker, member⟩ | ⟨loop, holds⟩)
    · cases member
    · cases holds
  exact
    { placed := fun _ _ member => nomatch member
      owned := fun _ _ holds => nomatch holds
      aligned := fun _ _ holds => nomatch holds
      apart := fun _ _ _ holds => nomatch holds
      distinct := fun _ _ _ holds => nomatch holds
      sized := fun task inUse => absurd inUse (unused task)
      conserved := fun _ _ => rfl
      silent := fun _ _ => rfl }

theorem accounted_takeSlot (accounted : Accounted registered socketOf server events)
    (idle : server.loops loop = .idle)
    (unused : ∀ task, server.InUse task → task.slot ≠ server.buffers.slot)
    (unheld : ∀ other slot, server.loops other = .holding slot → slot ≠ server.buffers.slot) :
    Accounted registered socketOf
      { server.setLoop loop (.holding server.buffers.slot) with
        buffers := server.buffers.take [] } events := by
  have inUse {task : UdpTask}
      (used : (server.setLoop loop (.holding server.buffers.slot)).InUse task) :
      server.InUse task := by
    rcases used with submitted | ⟨other, holds⟩
    · exact Or.inl submitted
    · rcases received_of_setLoop holds with ⟨_, new⟩ | old
      · cases new
      · exact Or.inr ⟨other, old⟩
  refine
    { placed := accounted.placed
      owned := ?_
      aligned := ?_
      apart := ?_
      distinct := ?_
      sized := fun task used => accounted.sized task (inUse used)
      conserved := ?_
      silent := accounted.silent }
  · intro other task holds
    rcases received_of_setLoop holds with ⟨_, new⟩ | old
    · cases new
    · exact accounted.owned other task old
  · intro other slot holds
    rcases holding_of_setLoop holds with ⟨_, new⟩ | old
    · cases new
      exact server.buffers.slot_aligned
    · exact accounted.aligned other slot old
  · intro other slot task holds used
    rcases holding_of_setLoop holds with ⟨_, new⟩ | old
    · cases new
      exact unused task (inUse used)
    · exact accounted.apart other slot task old (inUse used)
  · intro first second slot inFirst inSecond
    rcases holding_of_setLoop inFirst with ⟨firstHere, firstNew⟩ | firstOld
    · rcases holding_of_setLoop inSecond with ⟨secondHere, _⟩ | secondOld
      · exact firstHere.trans secondHere.symm
      · cases firstNew
        exact absurd rfl (unheld second _ secondOld)
    · rcases holding_of_setLoop inSecond with ⟨_, secondNew⟩ | secondOld
      · cases secondNew
        exact absurd rfl (unheld first _ firstOld)
      · exact accounted.distinct first second slot firstOld secondOld
  · intro peer known
    rw [accounted.conserved peer known]
    congr 1
    change (server.backlog socketOf peer).map server.payload =
      ((server.setLoop loop (.holding server.buffers.slot)).backlog socketOf peer).map _
    rw [backlog_setLoop_empty (by rw [idle]; rfl) rfl]
    apply List.map_congr_left
    intro task _
    exact (ReceiveBuffers.contents_take_nil server.buffers task.slot task.len).symm

omit [DecidableEq Loop] in
theorem Accounted.of_fewer {later : DispatchServer pool Loop} {traffic : List Traffic}
    (accounted : Accounted registered socketOf server events)
    (holding : ∀ loop slot, later.loops loop = .holding slot → server.loops loop = .holding slot)
    (received : ∀ loop task, later.loops loop = .received task →
      server.loops loop = .received task)
    (inUse : ∀ task, later.InUse task → server.InUse task)
    (placed : ∀ worker, ∀ task ∈ later.submitted worker, pool.workerOf task.peer = worker)
    (conserved : ∀ peer ∈ registered, sentBy peer (receipts traffic) =
      deliveredTo peer (deliveries traffic) ++ (later.backlog socketOf peer).map later.payload)
    (silent : ∀ peer ∉ registered, deliveredTo peer (deliveries traffic) = []) :
    Accounted registered socketOf later traffic :=
  { placed := placed
    owned := fun loop task now => accounted.owned loop task (received loop task now)
    aligned := fun loop slot now => accounted.aligned loop slot (holding loop slot now)
    apart := fun loop slot task now used =>
      accounted.apart loop slot task (holding loop slot now) (inUse task used)
    distinct := fun first second slot inFirst inSecond =>
      accounted.distinct first second slot (holding first slot inFirst)
        (holding second slot inSecond)
    sized := fun task used => accounted.sized task (inUse task used)
    conserved := conserved
    silent := silent }

theorem accounted_receiveNothing {slot : ReceiveSlot}
    (accounted : Accounted registered socketOf server events)
    (holds : server.loops loop = .holding slot) :
    Accounted registered socketOf (server.setLoop loop .idle) events := by
  apply accounted.of_fewer (fun _ _ => holding_of_setLoop_idle)
    (fun _ _ => received_of_setLoop_idle) _ accounted.placed _ accounted.silent
  · exact fun _ used => used.imp id (fun ⟨other, now⟩ => ⟨other, received_of_setLoop_idle now⟩)
  · intro peer known
    rw [accounted.conserved peer known, backlog_setLoop_empty (by rw [holds]; rfl) rfl]
    rfl

theorem accounted_receive {slot : ReceiveSlot} {datagram : Datagram}
    (accounted : Accounted registered socketOf server events)
    (holds : server.loops loop = .holding slot) (own : socketOf datagram.peer = loop) :
    Accounted registered socketOf
      { server.setLoop loop (.received ⟨slot, datagram.received.length, datagram.peer⟩) with
        buffers := server.buffers.store slot datagram.received }
      (events ++ [.received datagram]) := by
  generalize taskEq : UdpTask.mk slot datagram.received.length datagram.peer = task
  have inUse {other : UdpTask} (used : (server.setLoop loop (.received task)).InUse other) :
      server.InUse other ∨ other = task := by
    rcases used with submitted | ⟨reader, now⟩
    · exact Or.inl (Or.inl submitted)
    · rcases received_of_setLoop now with ⟨_, new⟩ | old
      · cases new
        exact Or.inr rfl
      · exact Or.inl (Or.inr ⟨reader, old⟩)
  have held {other : Loop} {taken : ReceiveSlot}
      (now : (server.setLoop loop (.received task)).loops other = .holding taken) :
      server.loops other = .holding taken ∧ other ≠ loop := by
    rw [loops_setLoop] at now
    split_ifs at now with here
    exact ⟨now, here⟩
  have aligned := accounted.aligned loop slot holds
  -- What the other tasks will read is not written.
  have payload {other : UdpTask} (used : server.InUse other) :
      (server.buffers.store slot datagram.received).contents other.slot other.len =
        server.payload other := by
    obtain ⟨short, otherAligned⟩ := accounted.sized other used
    exact ReceiveBuffers.contents_store_of_ne server.buffers
      (accounted.apart loop slot other holds used) aligned otherAligned short
      datagram.received_length
  refine
    { placed := accounted.placed
      owned := ?_
      aligned := fun other taken now => accounted.aligned other taken (held now).1
      apart := ?_
      distinct := fun first second taken inFirst inSecond =>
        accounted.distinct first second taken (held inFirst).1 (held inSecond).1
      sized := ?_
      conserved := ?_
      silent := ?_ }
  · intro other task now
    rcases received_of_setLoop now with ⟨here, new⟩ | old
    · cases new
      rw [← taskEq, here]
      exact own
    · exact accounted.owned other task old
  · intro other taken used now inside
    obtain ⟨old, different⟩ := held now
    rcases inUse inside with before | rfl
    · exact accounted.apart other taken used old before
    · rw [← taskEq]
      rintro rfl
      exact different (accounted.distinct other loop _ old holds)
  · intro other used
    rcases inUse used with before | rfl
    · exact accounted.sized other before
    · rw [← taskEq]
      exact ⟨datagram.received_length, aligned⟩
  · intro peer known
    have last : (if task.peer = peer then [task] else []).map
        (fun task => (server.buffers.store slot datagram.received).contents task.slot task.len) =
          sentBy peer [datagram] := by
      unfold sentBy
      rw [← taskEq]
      by_cases same : datagram.peer = peer
      · simp [same, ReceiveBuffers.contents_store_self]
      · simp [same]
    have earlier : (server.backlog socketOf peer).map
        (fun task => (server.buffers.store slot datagram.received).contents task.slot task.len) =
          (server.backlog socketOf peer).map server.payload :=
      List.map_congr_left (fun _ member => payload (inUse_of_mem_backlog member))
    rw [receipts_append, sentBy_append, deliveries_append, accounted.conserved peer known]
    change _ ++ sentBy peer [datagram] = deliveredTo peer (deliveries events ++ []) ++
      ((server.setLoop loop (.received task)).backlog socketOf peer).map
        (fun task => (server.buffers.store slot datagram.received).contents task.slot task.len)
    rw [List.append_nil, backlog_setLoop_received (holds ▸ rfl) (taskEq ▸ own), List.map_append,
      earlier, last, List.append_assoc]
  · intro peer unknown
    rw [deliveries_append]
    change deliveredTo peer (deliveries events ++ []) = []
    rw [List.append_nil]
    exact accounted.silent peer unknown

omit [DecidableEq Loop] in
theorem submitted_enqueue (server : DispatchServer pool Loop) (task : UdpTask)
    (worker : Fin pool.size) :
    (server.enqueue task).submitted worker =
      server.submitted worker ++ if worker = pool.workerOf task.peer then [task] else [] := by
  unfold submitted enqueue
  simp only [Function.update_apply]
  split_ifs with here
  · rw [here, List.append_assoc]
  · rw [List.append_nil]

/-- The task moves from the hands of its loop to the end of the queue of the
worker of its peer, so that the datagrams of every peer are in the same order. -/
theorem backlog_submit {task : UdpTask} (holds : server.loops loop = .received task)
    (own : socketOf task.peer = loop) (peer : String) :
    ((server.setLoop loop .idle).enqueue task).backlog socketOf peer =
      server.backlog socketOf peer := by
  change List.filter _ (((server.setLoop loop .idle).enqueue task).submitted _) ++
    (server.setLoop loop .idle).inHand socketOf peer = server.backlog socketOf peer
  rw [submitted_enqueue, List.filter_append, List.append_assoc, inHand_setLoop]
  apply congrArg ((server.submitted (pool.workerOf peer)).filter (fun task => task.peer = peer) ++ ·)
  by_cases same : task.peer = peer
  · subst same
    rw [if_pos own, if_pos rfl]
    simp [inHand, own, holds, LoopState.task?]
  · have others : (if pool.workerOf peer = pool.workerOf task.peer then [task] else []).filter
        (fun task => task.peer = peer) = [] := by
      split_ifs <;> simp [same]
    rw [others]
    split_ifs with here
    · simp [inHand, here, holds, LoopState.task?, same]
    · rfl

theorem accounted_submit {task : UdpTask}
    (accounted : Accounted registered socketOf server events)
    (holds : server.loops loop = .received task) :
    Accounted registered socketOf ((server.setLoop loop .idle).enqueue task) events := by
  have waits {worker : Fin pool.size} {other : UdpTask}
      (member : other ∈ ((server.setLoop loop .idle).enqueue task).submitted worker) :
      other ∈ server.submitted worker ∨ other = task ∧ worker = pool.workerOf task.peer := by
    rw [submitted_enqueue, List.mem_append] at member
    refine member.imp id (fun new => ?_)
    split_ifs at new with here
    · exact ⟨List.mem_singleton.mp new, here⟩
    · cases new
  apply accounted.of_fewer
  · exact fun _ _ => holding_of_setLoop_idle
  · exact fun _ _ => received_of_setLoop_idle
  · intro other used
    rcases used with ⟨worker, member⟩ | ⟨reader, now⟩
    · rcases waits member with old | ⟨rfl, _⟩
      · exact Or.inl ⟨worker, old⟩
      · exact Or.inr ⟨loop, holds⟩
    · exact Or.inr ⟨reader, received_of_setLoop_idle now⟩
  · intro worker other member
    rcases waits member with old | ⟨rfl, here⟩
    · exact accounted.placed worker other old
    · exact here.symm
  · intro peer known
    rw [accounted.conserved peer known,
      backlog_submit holds (accounted.owned loop task holds)]
    rfl
  · exact accounted.silent

omit [DecidableEq Loop] in
theorem submitted_startTask {worker : Fin pool.size} {task : UdpTask} {rest : List UdpTask}
    (free : server.running worker = none) (queue : server.queues worker = task :: rest) :
    submitted { server with
      queues := Function.update server.queues worker rest
      running := Function.update server.running worker (some task) } = server.submitted := by
  funext other
  unfold submitted
  simp only [Function.update_apply]
  split_ifs with here
  · rw [here, free, queue]
    rfl
  · rfl

omit [DecidableEq Loop] in
theorem accounted_of_submitted {later : DispatchServer pool Loop}
    (accounted : Accounted registered socketOf server events)
    (buffers : later.buffers = server.buffers) (loops : later.loops = server.loops)
    (submitted : later.submitted = server.submitted) :
    Accounted registered socketOf later events := by
  have backlog (peer : String) : later.backlog socketOf peer = server.backlog socketOf peer := by
    unfold DispatchServer.backlog inHand
    rw [submitted, loops]
  have payload : later.payload = server.payload := by
    unfold DispatchServer.payload
    rw [buffers]
  apply accounted.of_fewer (fun _ _ now => loops ▸ now) (fun _ _ now => loops ▸ now) _
    (submitted ▸ accounted.placed) _ accounted.silent
  · intro task used
    unfold InUse at used
    rwa [submitted, loops] at used
  · intro peer known
    rw [backlog, payload]
    exact accounted.conserved peer known

omit [DecidableEq Loop] in
theorem submitted_finish (server : DispatchServer pool Loop) (worker other : Fin pool.size) :
    (server.finish worker).submitted other =
      if other = worker then server.queues worker else server.submitted other := by
  unfold submitted finish
  simp only [Function.update_apply]
  split_ifs with here
  · rw [here]
    rfl
  · rfl

omit [DecidableEq Loop] in
theorem backlog_finish {worker : Fin pool.size} {task : UdpTask}
    (running : server.submitted worker = task :: server.queues worker)
    (place : pool.workerOf task.peer = worker) (peer : String) :
    server.backlog socketOf peer =
      (if task.peer = peer then [task] else []) ++ (server.finish worker).backlog socketOf peer := by
  unfold backlog
  rw [submitted_finish]
  by_cases same : task.peer = peer
  · subst same
    rw [place, if_pos rfl, running]
    simp
    rfl
  · rw [if_neg same, List.nil_append]
    split_ifs with here
    · rw [here, running, List.filter_cons_of_neg (by simpa using same)]
      rfl
    · rfl

omit [DecidableEq Loop] in
theorem accounted_execute {worker : Fin pool.size} {task : UdpTask}
    (accounted : Accounted registered socketOf server events)
    (runs : server.running worker = some task) :
    Accounted registered socketOf (server.finish worker)
      (events ++ (ThreadedServer.runTask registered server.buffers task).map .delivered) := by
  have running : server.submitted worker = task :: server.queues worker := by
    unfold submitted
    rw [runs]
    rfl
  have waits {other : Fin pool.size} {waiting : UdpTask}
      (member : waiting ∈ (server.finish worker).submitted other) :
      waiting ∈ server.submitted other := by
    rw [submitted_finish] at member
    split_ifs at member with here
    · rw [here, running]
      exact List.mem_cons_of_mem _ member
    · exact member
  have place : pool.workerOf task.peer = worker :=
    accounted.placed worker task (running ▸ List.mem_cons_self)
  apply accounted.of_fewer
  · exact fun _ _ now => now
  · exact fun _ _ now => now
  · exact fun _ used => used.imp (fun ⟨other, member⟩ => ⟨other, waits member⟩) id
  · exact fun other waiting member => accounted.placed other waiting (waits member)
  · intro peer known
    have handled : deliveredTo peer (ThreadedServer.runTask registered server.buffers task) =
        (if task.peer = peer then [task] else []).map server.payload := by
      unfold ThreadedServer.runTask deliveredTo
      by_cases same : task.peer = peer
      · simp [same, known, payload]
      · split_ifs <;> simp [same]
    rw [receipts_append, receipts_delivered, List.append_nil, deliveries_append,
      deliveries_delivered, deliveredTo_append, accounted.conserved peer known,
      backlog_finish running place, List.map_append, handled, List.append_assoc]
    rfl
  · intro peer unknown
    rw [deliveries_append, deliveries_delivered, deliveredTo_append,
      accounted.silent peer unknown, List.nil_append]
    unfold ThreadedServer.runTask deliveredTo
    split_ifs with known
    · have other : task.peer ≠ peer := fun same => unknown (same ▸ known)
      simp [other]
    · rfl

theorem accounted_step (step : Step pool Loop)
    (accounted : Accounted registered socketOf server events)
    (sheltered : Sheltered socketOf server step) :
    Accounted registered socketOf (server.perform step)
      (events ++ server.traffic registered step) := by
  cases step with
  | takeSlot loop =>
    simp only [traffic, List.append_nil, perform]
    split
    next idle =>
      obtain ⟨unused, unheld⟩ := sheltered idle
      exact accounted_takeSlot accounted idle unused unheld
    all_goals exact accounted
  | receive loop datagram =>
    simp only [perform, traffic]
    split
    next slot holds => exact accounted_receive accounted holds sheltered
    all_goals
      rw [List.append_nil]
      exact accounted
  | receiveNothing loop =>
    simp only [traffic, List.append_nil, perform]
    split
    next slot holds => exact accounted_receiveNothing accounted holds
    all_goals exact accounted
  | submit loop =>
    simp only [traffic, List.append_nil, perform]
    split
    next task holds => exact accounted_submit accounted holds
    all_goals exact accounted
  | startTask worker =>
    simp only [traffic, List.append_nil, perform]
    split
    next task rest free queue =>
      exact accounted_of_submitted accounted rfl rfl (submitted_startTask free queue)
    next => exact accounted
  | execute worker =>
    simp only [perform, traffic]
    split
    next task runs => exact accounted_execute accounted runs
    next idle =>
      rw [List.append_nil]
      refine accounted_of_submitted accounted rfl rfl ?_
      funext other
      rw [submitted_finish]
      split_ifs with here
      · rw [here, submitted, idle]
        rfl
      · rfl

theorem accounted_run {steps : List (Step pool Loop)} (buffers : ReceiveBuffers)
    (sheltered : (machine registered).Along (Sheltered socketOf) (start buffers) steps) :
    Accounted registered socketOf ((machine registered).run (start buffers) steps)
      ((machine registered).trace (start buffers) steps) := by
  have kept := sheltered.trace_invariant (Accounted registered socketOf)
    (fun _ _ step accounted here => accounted_step step accounted here)
    (accounted_start registered socketOf buffers)
  exact kept

end Steps

omit [DecidableEq Loop] in
theorem backlog_of_quiet {server : DispatchServer pool Loop} (quiet : server.Quiet)
    (socketOf : String → Loop) (peer : String) :
    server.backlog socketOf peer = server.inHand socketOf peer := by
  obtain ⟨free, empty⟩ := quiet (pool.workerOf peer)
  unfold backlog submitted
  rw [free, empty]
  rfl

/-- At every moment of a run, the handler of a registered peer has been called
with a prefix of the datagrams received from that peer, each once and in order;
nobody else is called; and when the workers wait, the prefix lacks at most the
datagram that its loop has received and not yet submitted. -/
theorem workers_deliver_in_order (registered : Finset String) (socketOf : String → Loop)
    (buffers : ReceiveBuffers) (steps : List (Step pool Loop))
    (sheltered : (machine registered).Along (Sheltered socketOf) (start buffers) steps) :
    let server := (machine registered).run (start buffers) steps
    let traffic := (machine registered).trace (start buffers) steps
    (∀ peer ∈ registered,
      deliveredTo peer (deliveries traffic) <+: sentBy peer (receipts traffic)) ∧
    (∀ peer ∉ registered, deliveredTo peer (deliveries traffic) = []) ∧
    (server.Quiet → ∀ peer ∈ registered,
      sentBy peer (receipts traffic) = deliveredTo peer (deliveries traffic) ++
        (server.inHand socketOf peer).map server.payload ∧
      ((server.loops (socketOf peer)).task? = none →
        deliveredTo peer (deliveries traffic) = sentBy peer (receipts traffic))) := by
  intro server traffic
  have accounted : Accounted registered socketOf server traffic := accounted_run buffers sheltered
  refine ⟨?_, accounted.silent, ?_⟩
  · intro peer known
    rw [accounted.conserved peer known]
    exact List.prefix_append _ _
  · intro quiet peer known
    have whole := accounted.conserved peer known
    rw [backlog_of_quiet quiet] at whole
    refine ⟨whole, fun submitted => ?_⟩
    rw [whole, inHand_eq_nil submitted]
    exact (List.append_nil _).symm

/-- Two senders on two sockets, one of them registered, and two workers.  The second
datagram of the registered sender comes in while the first one waits. -/
theorem workers_deliver_two_datagrams :
    let registered : Finset String := {"10.0.0.1:5060"}
    let pool : WorkerPool := ⟨2, by decide, String.length⟩
    let buffers : ReceiveBuffers := ⟨20971520, false, 0, fun _ _ => 0, by decide⟩
    let steps : List (Step pool Bool) :=
      [.takeSlot true, .takeSlot false, .receive false ⟨"10.0.0.20:5060", [9]⟩,
        .receive true ⟨"10.0.0.1:5060", [1]⟩, .submit true, .takeSlot true,
        .receive true ⟨"10.0.0.1:5060", [2]⟩, .startTask 1, .submit false, .submit true,
        .startTask 0, .execute 0, .execute 1, .startTask 1, .execute 1]
    let traffic := (machine registered).trace (start buffers) steps
    deliveredTo "10.0.0.1:5060" (deliveries traffic) = [[1], [2]] ∧
      deliveredTo "10.0.0.1:5060" (deliveries traffic) =
        sentBy "10.0.0.1:5060" (receipts traffic) := by
  intro registered pool buffers steps traffic
  refine ⟨by decide, ?_⟩
  have sheltered : (machine registered).Along
      (Sheltered (fun peer => peer == "10.0.0.1:5060")) (start buffers) steps := by decide
  have quiet : ((machine registered).run (start buffers) steps).Quiet := by decide
  have delivered := workers_deliver_in_order registered _ buffers steps sheltered
  exact (delivered.2.2 quiet "10.0.0.1:5060" (by decide)).2 (by decide)

/-- Between `recvfrom` and `submit` the datagram is with the loop, and the workers wait. -/
theorem datagram_in_hand_undelivered :
    let registered : Finset String := {"10.0.0.1:5060"}
    let pool : WorkerPool := ⟨1, by decide, String.length⟩
    let buffers : ReceiveBuffers := ⟨20971520, false, 0, fun _ _ => 0, by decide⟩
    let steps : List (Step pool Unit) := [.takeSlot (), .receive () ⟨"10.0.0.1:5060", [1]⟩]
    let traffic := (machine registered).trace (start buffers) steps
    (machine registered).Along (Sheltered (fun _ => ())) (start buffers) steps ∧
      ((machine registered).run (start buffers) steps).Quiet ∧
      deliveredTo "10.0.0.1:5060" (deliveries traffic) ≠
        sentBy "10.0.0.1:5060" (receipts traffic) := by
  decide

end DispatchServer

end Ffvms.Concrete
