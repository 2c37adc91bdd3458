/-
The UDP read callback of the network server, with and without worker threads.

A readable event drains the socket.  Every datagram is received into the next
slot of two receive buffers that are used in turn.  Without workers the callback
looks the sender up and calls its handler in the loop; an unknown sender makes
it return, with the rest of the queue unread.  With workers the same code runs
in a task, where the return ends only the task.  The event is edge-triggered, so
what is left unread stays unread.
-/

import Mathlib.Data.Finset.Basic
import Ffvms.ByteMemory
import Ffvms.LabelledRun

namespace Ffvms.Concrete

structure Datagram where
  peer : String
  data : List UInt8
  deriving DecidableEq, Repr

structure Delivery where
  peer : String
  data : List UInt8
  deriving DecidableEq, Repr

def slotSize : Nat := 1600

structure ReceiveSlot where
  buffer : Bool
  position : Nat
  deriving DecidableEq, Repr

/-- `mBufferSize`, `mReceiveBufferIndex`, `mCurPosition` and the contents of the
two buffers.  The position advances by whole slots. -/
structure ReceiveBuffers where
  size : Nat
  index : Bool
  position : Nat
  memory : ByteMemory Bool
  aligned : slotSize ∣ position

namespace ReceiveBuffers

/-- The slot that the next datagram is received into: the current position, or
the start of the other buffer if this one is full. -/
def slot (buffers : ReceiveBuffers) : ReceiveSlot :=
  if buffers.size ≤ buffers.position + slotSize then ⟨!buffers.index, 0⟩
  else ⟨buffers.index, buffers.position⟩

theorem slot_aligned (buffers : ReceiveBuffers) : slotSize ∣ buffers.slot.position := by
  unfold slot
  split_ifs
  · exact Nat.dvd_zero _
  · exact buffers.aligned

def take (buffers : ReceiveBuffers) (bytes : List UInt8) : ReceiveBuffers :=
  { size := buffers.size
    index := buffers.slot.buffer
    position := buffers.slot.position + slotSize
    memory := buffers.memory.write buffers.slot.buffer buffers.slot.position bytes
    aligned := Nat.dvd_add buffers.slot_aligned (Nat.dvd_refl _) }

def store (buffers : ReceiveBuffers) (slot : ReceiveSlot) (bytes : List UInt8) : ReceiveBuffers :=
  { buffers with memory := buffers.memory.write slot.buffer slot.position bytes }

def contents (buffers : ReceiveBuffers) (slot : ReceiveSlot) (len : Nat) : List UInt8 :=
  buffers.memory.read slot.buffer slot.position len

def slots (buffers : ReceiveBuffers) : Nat → List ReceiveSlot
  | 0 => []
  | count + 1 => buffers.slot :: (buffers.take []).slots count

end ReceiveBuffers

def Datagram.received (datagram : Datagram) : List UInt8 := datagram.data.take slotSize

/-! ### Without workers -/

structure InlineRun where
  buffers : ReceiveBuffers
  deliveries : List Delivery
  unread : List Datagram

/-- The loop of the callback with `mpUdpWorkerThreads` empty.  The last
`recvfrom` finds the queue empty and stores nothing. -/
def inlineCallback (registered : Finset String) : ReceiveBuffers → List Datagram → InlineRun
  | buffers, [] => ⟨buffers.take [], [], []⟩
  | buffers, datagram :: rest =>
      let filled := buffers.take datagram.received
      if datagram.peer ∈ registered then
        let onward := inlineCallback registered filled rest
        ⟨onward.buffers,
          ⟨datagram.peer, filled.contents buffers.slot datagram.received.length⟩ ::
            onward.deliveries,
          onward.unread⟩
      else ⟨filled, [], rest⟩

/-! ### With workers -/

/-- The worker pools, each with one thread, and `std::hash` on the peer names. -/
structure WorkerPool where
  size : Nat
  positive : 0 < size
  hash : String → Nat

def WorkerPool.workerOf (pool : WorkerPool) (peer : String) : Fin pool.size :=
  ⟨pool.hash peer % pool.size, Nat.mod_lt _ pool.positive⟩

structure UdpTask where
  slot : ReceiveSlot
  len : Nat
  peer : String
  deriving DecidableEq, Repr

/-- `returned` says that the callback has found the socket empty. -/
structure ThreadedServer (pool : WorkerPool) where
  buffers : ReceiveBuffers
  pending : List Datagram
  tasks : Fin pool.size → List UdpTask
  returned : Bool

namespace ThreadedServer

variable {pool : WorkerPool}

def start (pool : WorkerPool) (buffers : ReceiveBuffers) (queue : List Datagram) :
    ThreadedServer pool :=
  { buffers := buffers
    pending := queue
    tasks := fun _ => []
    returned := false }

inductive Step (pool : WorkerPool) where
  | receive
  | work (worker : Fin pool.size)

def receive (server : ThreadedServer pool) : ThreadedServer pool :=
  match server.pending with
  | [] =>
      if server.returned then server
      else { server with buffers := server.buffers.take [], returned := true }
  | datagram :: rest =>
      { server with
        buffers := server.buffers.take datagram.received
        pending := rest
        tasks := fun worker =>
          if worker = pool.workerOf datagram.peer then
            server.tasks worker ++
              [⟨server.buffers.slot, datagram.received.length, datagram.peer⟩]
          else server.tasks worker }

/-- The task reads the slot when it runs, not when it was submitted. -/
def runTask (registered : Finset String) (buffers : ReceiveBuffers) (task : UdpTask) :
    List Delivery :=
  if task.peer ∈ registered then [⟨task.peer, buffers.contents task.slot task.len⟩] else []

def work (server : ThreadedServer pool) (worker : Fin pool.size) : ThreadedServer pool :=
  { server with
    tasks := fun other =>
      if other = worker then (server.tasks other).tail else server.tasks other }

def machine (registered : Finset String) :
    LabelledMachine (ThreadedServer pool) (Step pool) Delivery :=
  { next := fun server step =>
      match step with
      | .receive => server.receive
      | .work worker => server.work worker
    emit := fun server step =>
      match step with
      | .receive => []
      | .work worker =>
          match server.tasks worker with
          | [] => []
          | task :: _ => runTask registered server.buffers task }

def Drained (server : ThreadedServer pool) : Prop :=
  server.returned = true ∧ server.pending = [] ∧ ∀ worker, server.tasks worker = []

end ThreadedServer

/-! ### What a peer gets -/

def deliveredTo (peer : String) (deliveries : List Delivery) : List (List UInt8) :=
  (deliveries.filter (fun delivery => delivery.peer = peer)).map Delivery.data

/-- No datagram of a registered sender comes after one of an unknown sender. -/
def RegisteredFirst (registered : Finset String) (queue : List Datagram) : Prop :=
  ∀ before datagram after, queue = before ++ datagram :: after → datagram.peer ∉ registered →
    ∀ later ∈ after, later.peer ∉ registered

def sentBy (peer : String) (queue : List Datagram) : List (List UInt8) :=
  (queue.filter (fun datagram => datagram.peer = peer)).map Datagram.received

/-! ### Slots -/

def ReceiveSlot.Apart (first second : ReceiveSlot) : Prop :=
  first.buffer ≠ second.buffer ∨ first.position + slotSize ≤ second.position ∨
    second.position + slotSize ≤ first.position

theorem ReceiveSlot.apart_of_ne {first second : ReceiveSlot} (different : first ≠ second)
    (firstAligned : slotSize ∣ first.position) (secondAligned : slotSize ∣ second.position) :
    first.Apart second := by
  by_cases same : first.buffer = second.buffer
  · right
    have positions : first.position ≠ second.position := by
      intro equal
      exact different (by rw [ReceiveSlot.mk.injEq]; exact ⟨same, equal⟩)
    obtain ⟨here, hereEq⟩ := firstAligned
    obtain ⟨there, thereEq⟩ := secondAligned
    rw [hereEq, thereEq] at positions ⊢
    unfold slotSize at *
    omega
  · exact Or.inl same

namespace ReceiveBuffers

theorem slots_congr {first second : ReceiveBuffers} (size : first.size = second.size)
    (index : first.index = second.index) (position : first.position = second.position)
    (count : Nat) : first.slots count = second.slots count := by
  induction count generalizing first second with
  | zero => rfl
  | succ count ih =>
      have same : first.slot = second.slot := by
        unfold slot
        rw [size, index, position]
      have onward : (first.take []).slots count = (second.take []).slots count := by
        apply ih
        · exact size
        · change first.slot.buffer = second.slot.buffer
          rw [same]
        · change first.slot.position + slotSize = second.slot.position + slotSize
          rw [same]
      rw [slots, slots, same, onward]

theorem slots_succ (buffers : ReceiveBuffers) (bytes : List UInt8) (count : Nat) :
    buffers.slots (count + 1) = buffers.slot :: (buffers.take bytes).slots count := by
  rw [slots]
  congr 1
  apply slots_congr
  · rfl
  · rfl
  · rfl

theorem contents_take_slot (buffers : ReceiveBuffers) (bytes : List UInt8) :
    (buffers.take bytes).contents buffers.slot bytes.length = bytes :=
  ByteMemory.read_write_self _ _ _ _

/-- The failing `recvfrom` at the end takes a slot and stores nothing. -/
theorem contents_take_nil (buffers : ReceiveBuffers) (slot : ReceiveSlot) (len : Nat) :
    (buffers.take []).contents slot len = buffers.contents slot len := by
  unfold contents take
  dsimp only
  rw [ByteMemory.write_nil]

theorem contents_store_self (buffers : ReceiveBuffers) (slot : ReceiveSlot) (bytes : List UInt8) :
    (buffers.store slot bytes).contents slot bytes.length = bytes :=
  ByteMemory.read_write_self _ _ _ _

theorem contents_store_of_ne (buffers : ReceiveBuffers) {slot other : ReceiveSlot}
    {bytes : List UInt8} {len : Nat} (different : other ≠ slot)
    (slotAligned : slotSize ∣ slot.position) (aligned : slotSize ∣ other.position)
    (short : len ≤ slotSize) (fits : bytes.length ≤ slotSize) :
    (buffers.store slot bytes).contents other len = buffers.contents other len := by
  apply ByteMemory.read_write_disjoint
  rcases ReceiveSlot.apart_of_ne different aligned slotAligned with apart | before | behind
  · exact Or.inl apart
  · exact Or.inr (Or.inl (by omega))
  · exact Or.inr (Or.inr (by omega))

theorem contents_take_of_ne (buffers : ReceiveBuffers) {bytes : List UInt8} {other : ReceiveSlot}
    {len : Nat} (different : other ≠ buffers.slot) (aligned : slotSize ∣ other.position)
    (short : len ≤ slotSize) (fits : bytes.length ≤ slotSize) :
    (buffers.take bytes).contents other len = buffers.contents other len :=
  contents_store_of_ne buffers different buffers.slot_aligned aligned short fits

end ReceiveBuffers

theorem Datagram.received_length (datagram : Datagram) :
    datagram.received.length ≤ slotSize :=
  List.length_take_le _ _

end Ffvms.Concrete
