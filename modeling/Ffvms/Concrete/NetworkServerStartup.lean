/-
The start of the UDP server: `initUdpServer` and the loops it has started.

The event loops run before `mBufferSize` has a value and before there are any
receive buffers.  A datagram that comes in that early is received through an
element of `mpReceiveBuffers` that does not exist, and the test for a full buffer
reads a size that was never written.  The size itself is a product in `int`.
-/

import Ffvms.CheckedInt
import Ffvms.Concrete.NetworkServerSlots

namespace Ffvms.Concrete

/-- `eventNum * 20 * 1024 * 1024`, computed from the left. -/
def receiveBufferSize (eventNum : Nat) : Except ArithmeticFault Int := do
  let streams ← CheckedInt.mul intLimit eventNum 20
  let kilobytes ← CheckedInt.mul intLimit streams 1024
  CheckedInt.mul intLimit kilobytes 1024

/-- `size` is `mBufferSize`, with whatever value it has before it is `sized`;
`buffers` are the sizes of the receive buffers that exist. -/
structure StartingServer where
  eventNum : Nat
  workerNum : Nat
  started : Nat
  sized : Bool
  size : Int
  buffers : List Int
  index : Bool
  position : Int
  workers : Nat

/-- A computation of the size, or a range handed to `recvfrom` with the buffers that
exist then. -/
inductive StartupEvent where
  | computed (result : Except ArithmeticFault Int)
  | handed (buffer : Bool) (position : Int) (buffers : List Int)

inductive StartupStep where
  | init
  | receive (loop : Nat)

namespace StartingServer

/-- The constructor sets the index and the position only. -/
def create (eventNum workerNum : Nat) (garbage : Int) : StartingServer :=
  { eventNum := eventNum
    workerNum := workerNum
    started := 0
    sized := false
    size := garbage
    buffers := []
    index := false
    position := 0
    workers := 0 }

def AtSize (server : StartingServer) : Prop :=
  ¬server.started < server.eventNum ∧ server.sized = false

instance (server : StartingServer) : Decidable server.AtSize :=
  inferInstanceAs (Decidable (_ ∧ _))

/-- The statements in their order.  A fault has no next state; the server is left
where it was. -/
def init (server : StartingServer) : StartingServer :=
  if server.started < server.eventNum then { server with started := server.started + 1 }
  else if server.sized = false then
    match receiveBufferSize server.eventNum with
    | .ok size => { server with size := size, sized := true }
    | .error _ => server
  else if server.buffers.length < 2 then { server with buffers := server.buffers ++ [server.size] }
  else if server.workers < server.workerNum then { server with workers := server.workers + 1 }
  else server

def nextRange (server : StartingServer) : Bool × Int :=
  if server.size ≤ server.position + slotSize then (!server.index, 0)
  else (server.index, server.position)

def receive (server : StartingServer) : StartingServer :=
  { server with index := server.nextRange.1, position := server.nextRange.2 + slotSize }

def machine : LabelledMachine StartingServer StartupStep StartupEvent :=
  { next := fun server step =>
      match step with
      | .init => server.init
      | .receive loop => if loop < server.started then server.receive else server
    emit := fun server step =>
      match step with
      | .init => if server.AtSize then [.computed (receiveBufferSize server.eventNum)] else []
      | .receive loop =>
          if loop < server.started then
            [.handed server.nextRange.1 server.nextRange.2 server.buffers]
          else [] }

end StartingServer

/-- The size is the one that is meant; a range lies in a buffer that exists. -/
def StartupEvent.Sound (eventNum : Nat) : StartupEvent → Prop
  | .computed result => result = .ok (eventNum * 20971520 : Int)
  | .handed buffer position buffers =>
      ∃ size ∈ buffers[buffer.toNat]?, 0 ≤ position ∧ position + slotSize ≤ size

instance (eventNum : Nat) : (event : StartupEvent) → Decidable (event.Sound eventNum)
  | .computed result => inferInstanceAs (Decidable (result = _))
  | .handed buffer _ buffers =>
      inferInstanceAs (Decidable (∃ size ∈ buffers[buffer.toNat]?, _ ∧ _))

theorem receiveBufferSize_eq_ok_iff (eventNum : Nat) :
    receiveBufferSize eventNum = .ok (eventNum * 20971520 : Int) ↔
      (eventNum * 20971520 : Int) < intLimit := by
  unfold receiveBufferSize
  simp only [CheckedInt.bind_eq_ok_iff, CheckedInt.mul_eq_ok_iff]
  unfold CheckedInt.Fits intLimit
  constructor
  · intro ⟨streams, ⟨_, streamsEq⟩, kilobytes, ⟨_, kilobytesEq⟩, bytes, _⟩
    omega
  · intro small
    refine ⟨_, ⟨?_, rfl⟩, _, ⟨?_, rfl⟩, ?_, ?_⟩
    · omega
    · omega
    · omega
    · omega

namespace StartingServer

variable {server : StartingServer}

/-- The product fits; no datagram is received before there is a buffer for it, the
first one and, once that is full, the second. -/
def Prepared (server : StartingServer) : StartupStep → Prop
  | .init => server.AtSize → (server.eventNum * 20971520 : Int) < intLimit
  | .receive loop => loop < server.started →
      server.buffers.length = 2 ∨
        server.buffers.length = 1 ∧ server.position + slotSize < server.size

instance (server : StartingServer) : (step : StartupStep) → Decidable (server.Prepared step)
  | .init => inferInstanceAs (Decidable (_ → _))
  | .receive _ => inferInstanceAs (Decidable (_ → _))

structure Coherent (eventNum : Nat) (server : StartingServer) : Prop where
  eventNumEq : server.eventNum = eventNum
  started : server.started ≤ server.eventNum
  unsized : server.sized = false → server.buffers = []
  sizeEq : server.sized = true → server.size = eventNum * 20971520
  count : server.buffers.length ≤ 2
  sizes : ∀ size ∈ server.buffers, size = server.size
  untouched : server.buffers = [] → server.position = 0
  first : server.buffers.length < 2 → server.index = false
  nonneg : 0 ≤ server.position

theorem coherent_create (eventNum workerNum : Nat) (garbage : Int) :
    Coherent eventNum (create eventNum workerNum garbage) :=
  { eventNumEq := rfl
    started := Nat.zero_le _
    unsized := fun _ => rfl
    sizeEq := fun impossible => nomatch impossible
    count := Nat.zero_le _
    sizes := fun _ member => nomatch member
    untouched := fun _ => rfl
    first := fun _ => rfl
    nonneg := le_refl 0 }

theorem init_cases (server : StartingServer) :
    (server.started < server.eventNum ∧
        server.init = { server with started := server.started + 1 }) ∨
      (server.AtSize ∧ ∃ size, receiveBufferSize server.eventNum = .ok size ∧
        server.init = { server with size := size, sized := true }) ∨
      (server.sized = true ∧ server.buffers.length < 2 ∧
        server.init = { server with buffers := server.buffers ++ [server.size] }) ∨
      ∃ workers, server.init = { server with workers := workers } := by
  unfold init
  by_cases starting : server.started < server.eventNum
  · rw [if_pos starting]
    exact Or.inl ⟨starting, rfl⟩
  · rw [if_neg starting]
    by_cases unsized : server.sized = false
    · rw [if_pos unsized]
      cases computed : receiveBufferSize server.eventNum with
      | ok size => exact Or.inr (Or.inl ⟨⟨starting, unsized⟩, size, rfl, rfl⟩)
      | error fault => exact Or.inr (Or.inr (Or.inr ⟨server.workers, rfl⟩))
    · rw [if_neg unsized]
      by_cases allocating : server.buffers.length < 2
      · rw [if_pos allocating]
        exact Or.inr (Or.inr (Or.inl ⟨Bool.of_not_eq_false unsized, allocating, rfl⟩))
      · rw [if_neg allocating]
        by_cases hiring : server.workers < server.workerNum
        · rw [if_pos hiring]
          exact Or.inr (Or.inr (Or.inr ⟨server.workers + 1, rfl⟩))
        · rw [if_neg hiring]
          exact Or.inr (Or.inr (Or.inr ⟨server.workers, rfl⟩))

theorem coherent_init {eventNum : Nat} (coherent : Coherent eventNum server)
    (prepared : server.Prepared .init) : Coherent eventNum server.init := by
  rcases init_cases server with
    ⟨starting, result⟩ | ⟨atSize, size, computed, result⟩ | ⟨sized, allocating, result⟩ |
      ⟨workers, result⟩
  · rw [result]
    exact { coherent with started := starting }
  · rw [result]
    have empty := coherent.unsized atSize.2
    have sizeEq : size = eventNum * 20971520 := by
      have fits := (receiveBufferSize_eq_ok_iff server.eventNum).mpr (prepared atSize)
      rw [fits] at computed
      cases computed
      rw [coherent.eventNumEq]
    exact
      { coherent with
        unsized := fun impossible => nomatch impossible
        sizeEq := fun _ => sizeEq
        sizes := fun other member => by
          rw [empty] at member
          cases member }
  · rw [result]
    refine
      { coherent with
        unsized := fun unsized => ?_
        count := ?_
        sizes := ?_
        untouched := fun empty => ?_
        first := fun _ => coherent.first allocating }
    · rw [sized] at unsized
      cases unsized
    · rw [List.length_append, List.length_singleton]
      omega
    · intro other member
      rcases List.mem_append.mp member with older | new
      · exact coherent.sizes other older
      · exact List.mem_singleton.mp new
    · exact absurd empty (List.append_ne_nil_of_right_ne_nil _ (List.cons_ne_nil _ _))
  · rw [result]
    exact { coherent with }

theorem Coherent.size_of_buffer {eventNum loop : Nat} (coherent : Coherent eventNum server)
    (running : loop < server.started) (exists_ : server.buffers ≠ []) :
    20971520 ≤ server.size := by
  have sized : server.sized = true := by
    cases unsized : server.sized with
    | true => rfl
    | false => exact absurd (coherent.unsized unsized) exists_
  have started := coherent.started
  have same := coherent.eventNumEq
  rw [coherent.sizeEq sized]
  omega

theorem nextRange_cases (server : StartingServer) :
    (server.size ≤ server.position + slotSize ∧ server.nextRange = (!server.index, 0)) ∨
      (server.position + slotSize < server.size ∧
        server.nextRange = (server.index, server.position)) := by
  unfold nextRange
  by_cases full : server.size ≤ server.position + slotSize
  · exact Or.inl ⟨full, if_pos full⟩
  · exact Or.inr ⟨Int.not_le.mp full, if_neg full⟩

theorem coherent_receive {eventNum loop : Nat} (coherent : Coherent eventNum server)
    (running : loop < server.started) (prepared : server.Prepared (.receive loop)) :
    Coherent eventNum server.receive := by
  have ready := prepared running
  have nonneg := coherent.nonneg
  have present : server.buffers ≠ [] := by
    intro empty
    rw [empty] at ready
    simp at ready
  unfold receive
  rcases nextRange_cases server with ⟨full, range⟩ | ⟨room, range⟩
  · rw [range]
    refine
      { coherent with
        untouched := fun empty => absurd empty present
        first := fun single => ?_
        nonneg := ?_ }
    · -- With one buffer only, there was room in it.
      dsimp only at single
      omega
    · dsimp only
      omega
  · rw [range]
    refine
      { coherent with
        untouched := fun empty => absurd empty present
        first := coherent.first
        nonneg := ?_ }
    dsimp only
    omega

/-- Whether the range is sound is decided by the buffers that exist. -/
theorem sound_receive_iff {eventNum loop : Nat} (coherent : Coherent eventNum server)
    (running : loop < server.started) :
    (StartupEvent.handed server.nextRange.1 server.nextRange.2 server.buffers).Sound eventNum ↔
      server.Prepared (.receive loop) := by
  have count := coherent.count
  have nonneg := coherent.nonneg
  unfold StartupEvent.Sound Prepared
  constructor
  · intro ⟨size, found, _, _⟩ _
    have inside := (List.getElem?_eq_some_iff.mp found).1
    rcases nextRange_cases server with ⟨full, range⟩ | ⟨room, range⟩
    · rw [range] at inside
      left
      by_contra other
      -- The only buffer is the first, and the range is in the second.
      rw [coherent.first (by omega)] at inside
      change 1 < server.buffers.length at inside
      omega
    · omega
  · intro prepared
    have ready := prepared running
    have present : server.buffers ≠ [] := by
      intro empty
      rw [empty] at ready
      simp at ready
    have large := coherent.size_of_buffer running present
    have entry : ∀ index, index < server.buffers.length →
        server.size ∈ server.buffers[index]? := by
      intro index inside
      have found := List.getElem?_eq_getElem inside
      rw [coherent.sizes _ (List.getElem_mem inside)] at found
      exact found
    rcases nextRange_cases server with ⟨full, range⟩ | ⟨room, range⟩
    · rw [range]
      refine ⟨server.size, entry _ ?_, le_refl 0, ?_⟩
      · have bit := Bool.toNat_le (!server.index)
        dsimp only
        omega
      · unfold slotSize
        dsimp only
        omega
    · rw [range]
      refine ⟨server.size, entry _ ?_, nonneg, Int.le_of_lt room⟩
      rcases ready with both | ⟨single, _⟩
      · have bit := Bool.toNat_le server.index
        dsimp only
        omega
      · rw [coherent.first (by omega)]
        change 0 < server.buffers.length
        omega

theorem coherent_next {eventNum : Nat} (coherent : Coherent eventNum server) (step : StartupStep)
    (prepared : server.Prepared step) : Coherent eventNum (machine.next server step) := by
  cases step with
  | init => exact coherent_init coherent prepared
  | receive loop =>
      simp only [machine]
      by_cases running : loop < server.started
      · rw [if_pos running]
        exact coherent_receive coherent running prepared
      · rw [if_neg running]
        exact coherent

theorem sound_emit_iff {eventNum : Nat} (coherent : Coherent eventNum server)
    (step : StartupStep) :
    (∀ event ∈ machine.emit server step, event.Sound eventNum) ↔ server.Prepared step := by
  cases step with
  | init =>
      simp only [machine, Prepared]
      by_cases atSize : server.AtSize
      · rw [if_pos atSize, List.forall_mem_singleton, forall_prop_of_true atSize,
          ← receiveBufferSize_eq_ok_iff, coherent.eventNumEq]
        rfl
      · rw [if_neg atSize]
        exact iff_of_true (fun _ member => nomatch member) (fun here => absurd here atSize)
  | receive loop =>
      simp only [machine]
      by_cases running : loop < server.started
      · rw [if_pos running, List.forall_mem_singleton]
        exact sound_receive_iff coherent running
      · rw [if_neg running]
        exact iff_of_true (fun _ member => nomatch member) (fun here => absurd here running)

/-- For any number of loops, whatever value the size has at first, and in any
interleaving with datagrams: the size is right and every range lies in a buffer
exactly when every step is prepared. -/
theorem startup_sound_iff (eventNum workerNum : Nat) (garbage : Int) (steps : List StartupStep) :
    (∀ event ∈ machine.trace (create eventNum workerNum garbage) steps, event.Sound eventNum) ↔
      machine.Along Prepared (create eventNum workerNum garbage) steps :=
  LabelledMachine.trace_good_iff_along (Coherent eventNum)
    (fun _ step coherent prepared => coherent_next coherent step prepared)
    (fun _ step coherent => sound_emit_iff coherent step)
    (coherent_create eventNum workerNum garbage)

/-- One loop is started and a datagram comes in: there is no buffer.  With 103 loops
the product leaves the range. -/
theorem early_datagram_unsound :
    (∃ event ∈ machine.trace (create 1 1 0) [.init, .receive 0], ¬event.Sound 1) ∧
      ∃ event ∈ machine.trace (create 103 1 0) (List.replicate 104 .init), ¬event.Sound 103 := by
  decide +kernel

/-! ### The buffers afterwards -/

/-- The fields that the callbacks use are those of these buffers. -/
structure Represents (server : StartingServer) (buffers : ReceiveBuffers) : Prop where
  size : server.size = buffers.size
  index : server.index = buffers.index
  position : server.position = buffers.position

theorem Represents.nextRange {buffers : ReceiveBuffers} (same : server.Represents buffers) :
    server.nextRange = (buffers.slot.buffer, (buffers.slot.position : Int)) := by
  unfold StartingServer.nextRange ReceiveBuffers.slot
  rw [same.size, same.index, same.position]
  by_cases full : buffers.size ≤ buffers.position + slotSize
  · rw [if_pos full, if_pos (by exact_mod_cast full)]
    rfl
  · rw [if_neg full, if_neg (by exact_mod_cast full)]

theorem Represents.receive {buffers : ReceiveBuffers} (same : server.Represents buffers)
    (bytes : List UInt8) : server.receive.Represents (buffers.take bytes) := by
  have range := same.nextRange
  refine ⟨same.size, ?_, ?_⟩
  · exact congrArg Prod.fst range
  · have position := congrArg Prod.snd range
    simp only [StartingServer.receive, ReceiveBuffers.take, position]
    push_cast
    rfl

theorem run_init_position (count : Nat) (server : StartingServer) :
    (machine.run server (List.replicate count .init)).index = server.index ∧
      (machine.run server (List.replicate count .init)).position = server.position := by
  induction count generalizing server with
  | zero => exact ⟨rfl, rfl⟩
  | succ count ih =>
      have still : server.init.index = server.index ∧ server.init.position = server.position := by
        rcases init_cases server with
          ⟨_, result⟩ | ⟨_, _, _, result⟩ | ⟨_, _, result⟩ | ⟨_, result⟩
        all_goals
          rw [result]
          exact ⟨rfl, rfl⟩
      rw [List.replicate_succ, LabelledMachine.run_cons, ← still.1, ← still.2]
      exact ih server.init

/-- Without datagrams, `initUdpServer` leaves the buffers that the allocations start
from. -/
theorem represents_initial (eventNum workerNum count : Nat) (garbage : Int)
    (memory : ByteMemory Bool)
    (prepared : machine.Along Prepared (create eventNum workerNum garbage)
      (List.replicate count .init))
    (sized : (machine.run (create eventNum workerNum garbage)
      (List.replicate count .init)).sized = true) :
    (machine.run (create eventNum workerNum garbage) (List.replicate count .init)).Represents
      (ReceiveBuffers.initial (eventNum * 20971520) memory) := by
  have coherent := LabelledMachine.Along.invariant (Coherent eventNum)
    (fun _ step coherent prepared => coherent_next coherent step prepared)
    (coherent_create eventNum workerNum garbage) prepared
  obtain ⟨index, position⟩ := run_init_position count (create eventNum workerNum garbage)
  refine ⟨?_, index, position⟩
  rw [coherent.sizeEq sized]
  exact (Int.natCast_mul eventNum 20971520).symm

end StartingServer

end Ffvms.Concrete
