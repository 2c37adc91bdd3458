/-
How late the receive slots come again.

A buffer gives out its slots from the start until the next one would reach its
last byte, then the other buffer takes over.  With `count` slots in a buffer the
allocations repeat after exactly `2 * count` of them, and no two in between
overlap.

A datagram is not stored when its slot is given out, though: `recvfrom` runs after
`mBufferMutex` is released.  A loop that falls behind by a whole round stores its
datagram over one that was received into the same slot in the meantime.  The
allocations are therefore numbered, and the contents of a slot are followed by the
number it was given out under.
-/

import Mathlib.Order.Bounds.Basic
import Ffvms.Concrete.NetworkServerWorkers

namespace Ffvms.Concrete

def ReceiveSlot.Inside (size : Nat) (slot : ReceiveSlot) : Prop :=
  slot.position + slotSize ≤ size

namespace ReceiveBuffers

def initial (size : Nat) (memory : ByteMemory Bool) : ReceiveBuffers :=
  { size := size
    index := false
    position := 0
    memory := memory
    aligned := Nat.dvd_zero _ }

def after (buffers : ReceiveBuffers) : Nat → ReceiveBuffers
  | 0 => buffers
  | number + 1 => (buffers.after number).take []

def slotAt (buffers : ReceiveBuffers) (number : Nat) : ReceiveSlot :=
  (buffers.after number).slot

theorem after_take (buffers : ReceiveBuffers) (number : Nat) :
    (buffers.take []).after number = buffers.after (number + 1) := by
  induction number with
  | zero => rfl
  | succ number ih => exact congrArg (fun state => take state []) ih

/-- These are the slots of the next datagrams. -/
theorem slots_eq_slotAt (buffers : ReceiveBuffers) (count : Nat) :
    buffers.slots count = (List.range count).map buffers.slotAt := by
  induction count generalizing buffers with
  | zero => rfl
  | succ count ih =>
      rw [slots, ih, List.range_succ_eq_map, List.map_cons, List.map_map]
      congr 1
      apply List.map_congr_left
      intro number _
      exact congrArg slot (after_take buffers number)

theorem slotAt_aligned (buffers : ReceiveBuffers) (number : Nat) :
    slotSize ∣ (buffers.slotAt number).position :=
  (buffers.after number).slot_aligned

theorem after_size (buffers : ReceiveBuffers) (number : Nat) :
    (buffers.after number).size = buffers.size := by
  induction number with
  | zero => rfl
  | succ number ih => exact ih

/-- One allocation after another: on in the same buffer, or at the start of the
other one. -/
theorem slotAt_succ (buffers : ReceiveBuffers) (number : Nat) :
    buffers.slotAt (number + 1) =
      if buffers.size ≤ (buffers.slotAt number).position + slotSize + slotSize then
        ⟨!(buffers.slotAt number).buffer, 0⟩
      else ⟨(buffers.slotAt number).buffer, (buffers.slotAt number).position + slotSize⟩ := by
  rw [← after_size buffers number]
  rfl

section Period

variable {size count : Nat} {memory : ByteMemory Bool}

def FullAfter (size count : Nat) : Prop :=
  IsLeast { slots | size ≤ slotSize * slots + slotSize } count

theorem FullAfter.full_iff (full : FullAfter size count) (slots : Nat) :
    size ≤ slotSize * slots + slotSize ↔ count ≤ slots := by
  constructor
  · intro reached
    exact full.2 reached
  · intro past
    have reached : size ≤ slotSize * count + slotSize := full.1
    have more : slotSize * count ≤ slotSize * slots := Nat.mul_le_mul_left slotSize past
    omega

theorem FullAfter.pos (full : FullAfter size count) (large : 3200 ≤ size) : 0 < count := by
  have reached : size ≤ slotSize * count + slotSize := full.1
  apply Nat.pos_of_ne_zero
  intro zero
  rw [zero, Nat.mul_zero] at reached
  unfold slotSize at reached
  omega

theorem slotAt_eq (full : FullAfter size count) (positive : 0 < count) (number : Nat) :
    (initial size memory).slotAt number =
      ⟨decide (number / count % 2 = 1), slotSize * (number % count)⟩ := by
  induction number with
  | zero =>
      have room : ¬size ≤ slotSize * 0 + slotSize := by
        rw [full.full_iff]
        omega
      have first : (initial size memory).slotAt 0 = ⟨false, 0⟩ := by
        unfold slotAt after slot
        exact if_neg room
      rw [first, Nat.zero_div, Nat.zero_mod]
      rfl
  | succ number ih =>
      rw [slotAt_succ, ih]
      dsimp only
      have within : number % count < count := Nat.mod_lt number positive
      have split := Nat.div_add_mod number count
      have grown : slotSize * (number % count) + slotSize = slotSize * (number % count + 1) := by
        rw [Nat.mul_add, Nat.mul_one]
      have filled : (initial size memory).size ≤ slotSize * (number % count) + slotSize + slotSize ↔
          count ≤ number % count + 1 := by
        rw [grown]
        exact full.full_iff (number % count + 1)
      by_cases last : count ≤ number % count + 1
      · -- The buffer is full: the next number starts a new round.
        rw [if_pos (filled.mpr last)]
        have next : number + 1 = count * (number / count + 1) := by
          rw [Nat.mul_add, Nat.mul_one]
          omega
        rw [next, Nat.mul_div_cancel_left _ positive, Nat.mul_mod_right, Nat.mul_zero]
        congr 1
        rcases Nat.mod_two_eq_zero_or_one (number / count) with even | odd
        · rw [even, Nat.add_mod, even]
          rfl
        · rw [odd, Nat.add_mod, odd]
          rfl
      · rw [if_neg (fun reached => last (filled.mp reached)), grown]
        have next : number + 1 = count * (number / count) + (number % count + 1) := by omega
        have inside : number % count + 1 < count := by omega
        have quotient : (number + 1) / count = number / count := by
          rw [next, Nat.mul_add_div positive, Nat.div_eq_of_lt inside, Nat.add_zero]
        have remainder : (number + 1) % count = number % count + 1 := by
          rw [next, Nat.mul_add_mod, Nat.mod_eq_of_lt inside]
        rw [quotient, remainder]

theorem slotAt_inside (full : FullAfter size count) (positive : 0 < count) (number : Nat) :
    ((initial size memory).slotAt number).Inside size := by
  rw [slotAt_eq full positive]
  have within : number % count < count := Nat.mod_lt number positive
  have room : ¬size ≤ slotSize * (number % count) + slotSize := by
    rw [full.full_iff]
    omega
  unfold ReceiveSlot.Inside
  dsimp only
  omega

theorem slotAt_period (full : FullAfter size count) (positive : 0 < count) (number : Nat) :
    (initial size memory).slotAt (number + 2 * count) = (initial size memory).slotAt number := by
  rw [slotAt_eq full positive, slotAt_eq full positive, Nat.add_mul_div_right _ _ positive,
    Nat.add_mul_mod_self_right, Nat.add_mod_right]

theorem slotAt_ne (full : FullAfter size count) (positive : 0 < count) {first second : Nat}
    (before : first < second) (near : second < first + 2 * count) :
    (initial size memory).slotAt first ≠ (initial size memory).slotAt second := by
  rw [slotAt_eq full positive, slotAt_eq full positive]
  intro same
  obtain ⟨buffers, positions⟩ := ReceiveSlot.mk.inj same
  have offsets : first % count = second % count :=
    Nat.eq_of_mul_eq_mul_left (by decide) positions
  have rounds : first / count % 2 = 1 ↔ second / count % 2 = 1 := decide_eq_decide.mp buffers
  have firstSplit := Nat.div_add_mod first count
  have secondSplit := Nat.div_add_mod second count
  -- The rounds differ by an even number, which is neither 0 nor 2 or more.
  have later : first / count < second / count := by
    apply @Nat.lt_of_mul_lt_mul_left count
    omega
  have soon : second / count < first / count + 2 := by
    apply @Nat.lt_of_mul_lt_mul_left count
    rw [Nat.mul_add]
    omega
  omega

end Period

end ReceiveBuffers

/-! ### Numbered allocations -/

structure Receipt where
  number : Nat
  slot : ReceiveSlot
  bytes : List UInt8

/-- The server with the count of the allocations so far, for each loop the number of
its last one, and all that was received. -/
structure NumberedServer (pool : WorkerPool) (Loop : Type) where
  server : DispatchServer pool Loop
  taken : Nat
  ticket : Loop → Nat
  receipts : List Receipt

namespace NumberedServer

variable {pool : WorkerPool} {Loop : Type} [DecidableEq Loop]

def start (buffers : ReceiveBuffers) : NumberedServer pool Loop :=
  { server := DispatchServer.start buffers
    taken := 0
    ticket := fun _ => 0
    receipts := [] }

def perform (state : NumberedServer pool Loop) (step : DispatchServer.Step pool Loop) :
    NumberedServer pool Loop :=
  match step with
  | .takeSlot loop =>
      match state.server.loops loop with
      | .idle =>
          { state with
            server := state.server.perform step
            taken := state.taken + 1
            ticket := Function.update state.ticket loop state.taken }
      | .holding _ | .received _ => state
  | .receive loop datagram =>
      match state.server.loops loop with
      | .holding slot =>
          { state with
            server := state.server.perform step
            receipts := state.receipts ++ [⟨state.ticket loop, slot, datagram.received⟩] }
      | .idle | .received _ => state
  | .receiveNothing _ | .submit _ | .startTask _ | .execute _ =>
      { state with server := state.server.perform step }

def machine : LabelledMachine (NumberedServer pool Loop) (DispatchServer.Step pool Loop) Traffic :=
  { next := perform
    emit := fun _ _ => [] }

/-- The numbers are only looked at: the server runs as it does without them. -/
theorem server_perform (state : NumberedServer pool Loop) (step : DispatchServer.Step pool Loop) :
    (state.perform step).server = state.server.perform step := by
  cases step with
  | takeSlot loop =>
      cases held : state.server.loops loop with
      | idle => simp only [perform, held]
      | holding slot => simp only [perform, DispatchServer.perform, held]
      | received task => simp only [perform, DispatchServer.perform, held]
  | receive loop datagram =>
      cases held : state.server.loops loop with
      | idle => simp only [perform, DispatchServer.perform, held]
      | holding slot => simp only [perform, held]
      | received task => simp only [perform, DispatchServer.perform, held]
  | receiveNothing loop => rfl
  | submit loop => rfl
  | startTask worker => rfl
  | execute worker => rfl

theorem server_run (registered : Finset String) (state : NumberedServer pool Loop)
    (steps : List (DispatchServer.Step pool Loop)) :
    (machine.run state steps).server =
      (DispatchServer.machine registered).run state.server steps := by
  induction steps generalizing state with
  | nil => rfl
  | cons step rest ih =>
      rw [LabelledMachine.run_cons, LabelledMachine.run_cons, ih]
      exact congrArg (fun server => (DispatchServer.machine registered).run server rest)
        (server_perform state step)

/-- A loop stores its datagram before its slot could have come up again: fewer than
`period` allocations were made since its own. -/
def InTime (period : Nat) (state : NumberedServer pool Loop) :
    DispatchServer.Step pool Loop → Prop
  | .receive loop _ =>
      match state.server.loops loop with
      | .holding _ => state.taken < state.ticket loop + 1 + period
      | .idle | .received _ => True
  | _ => True

instance (period : Nat) (state : NumberedServer pool Loop) :
    (step : DispatchServer.Step pool Loop) → Decidable (state.InTime period step)
  | .receive loop _ => by
      unfold InTime
      dsimp only
      split <;> infer_instance
  | .takeSlot _ | .receiveNothing _ | .submit _ | .startTask _ | .execute _ => isTrue trivial

/-- A datagram is what was received while fewer than `period` allocations were made
after the one of its slot. -/
def Kept (period : Nat) (state : NumberedServer pool Loop) : Prop :=
  ∀ receipt ∈ state.receipts, state.taken < receipt.number + 1 + period →
    state.server.buffers.contents receipt.slot receipt.bytes.length = receipt.bytes

instance (period : Nat) (state : NumberedServer pool Loop) : Decidable (state.Kept period) :=
  inferInstanceAs (Decidable (∀ receipt ∈ state.receipts, _ → _))

/-- What the numbers say about the slots, on buffers that started as `first`. -/
structure Numbered (first : ReceiveBuffers) (state : NumberedServer pool Loop) : Prop where
  size : state.server.buffers.size = (first.after state.taken).size
  index : state.server.buffers.index = (first.after state.taken).index
  position : state.server.buffers.position = (first.after state.taken).position
  held : ∀ loop slot, state.server.loops loop = .holding slot →
    slot = first.slotAt (state.ticket loop) ∧ state.ticket loop < state.taken
  unreceived : ∀ loop slot, state.server.loops loop = .holding slot →
    ∀ receipt ∈ state.receipts, receipt.number ≠ state.ticket loop
  distinct : ∀ loop other slot taken, state.server.loops loop = .holding slot →
    state.server.loops other = .holding taken → state.ticket loop = state.ticket other →
      loop = other
  known : ∀ receipt ∈ state.receipts,
    receipt.slot = first.slotAt receipt.number ∧ receipt.number < state.taken ∧
      receipt.bytes.length ≤ slotSize

section Steps

variable {first : ReceiveBuffers} {state : NumberedServer pool Loop} {period : Nat}

omit [DecidableEq Loop] in
theorem Numbered.slot_eq (numbered : Numbered first state) :
    state.server.buffers.slot = first.slotAt state.taken := by
  unfold ReceiveBuffers.slotAt ReceiveBuffers.slot
  rw [numbered.size, numbered.index, numbered.position]

omit [DecidableEq Loop] in
theorem numbered_start (first : ReceiveBuffers) :
    Numbered first (start first : NumberedServer pool Loop) :=
  { size := rfl
    index := rfl
    position := rfl
    held := fun _ _ holds => nomatch holds
    unreceived := fun _ _ holds => nomatch holds
    distinct := fun _ _ _ _ holds => nomatch holds
    known := fun _ member => nomatch member }

omit [DecidableEq Loop] in
theorem Numbered.of_fewer (numbered : Numbered first state) {server : DispatchServer pool Loop}
    (buffers : server.buffers = state.server.buffers)
    (fewer : ∀ loop slot, server.loops loop = .holding slot →
      state.server.loops loop = .holding slot) : Numbered first { state with server := server } :=
  { size := by rw [buffers]; exact numbered.size
    index := by rw [buffers]; exact numbered.index
    position := by rw [buffers]; exact numbered.position
    held := fun loop slot holds => numbered.held loop slot (fewer loop slot holds)
    unreceived := fun loop slot holds => numbered.unreceived loop slot (fewer loop slot holds)
    distinct := fun loop other slot taken holds otherHolds =>
      numbered.distinct loop other slot taken (fewer loop slot holds) (fewer other taken otherHolds)
    known := numbered.known }

theorem numbered_takeSlot (numbered : Numbered first state) {loop : Loop}
    (idle : state.server.loops loop = .idle) :
    Numbered first (state.perform (.takeSlot loop)) := by
  have slotEq := numbered.slot_eq
  simp only [perform, DispatchServer.perform, idle]
  -- Who holds a slot now took it in this step, or held it before under an older number.
  have holders : ∀ other slot,
      (state.server.setLoop loop (.holding state.server.buffers.slot)).loops other =
        .holding slot →
      (other = loop ∧ slot = state.server.buffers.slot) ∨
        (other ≠ loop ∧ state.server.loops other = .holding slot) := by
    intro other slot holds
    rcases DispatchServer.holding_of_setLoop holds with ⟨here, new⟩ | before
    · exact Or.inl ⟨here, (LoopState.holding.inj new).symm⟩
    · refine Or.inr ⟨?_, before⟩
      intro here
      rw [here, idle] at before
      cases before
  refine
    { size := numbered.size
      index := congrArg ReceiveSlot.buffer slotEq
      position := congrArg (fun slot => ReceiveSlot.position slot + slotSize) slotEq
      held := ?_
      unreceived := ?_
      distinct := ?_
      known := ?_ }
  · intro other slot holds
    dsimp only
    rcases holders other slot holds with ⟨rfl, rfl⟩ | ⟨elsewhere, before⟩
    · rw [Function.update_self]
      exact ⟨slotEq, Nat.lt_succ_self _⟩
    · rw [Function.update_of_ne elsewhere]
      obtain ⟨known, older⟩ := numbered.held other slot before
      exact ⟨known, by omega⟩
  · intro other slot holds receipt member
    dsimp only
    rcases holders other slot holds with ⟨rfl, rfl⟩ | ⟨elsewhere, before⟩
    · rw [Function.update_self]
      have older := (numbered.known receipt member).2.1
      omega
    · rw [Function.update_of_ne elsewhere]
      exact numbered.unreceived other slot before receipt member
  · intro one two slot taken oneHolds twoHolds
    dsimp only
    rcases holders one slot oneHolds with ⟨rfl, rfl⟩ | ⟨oneElse, oneBefore⟩
    · rcases holders two taken twoHolds with ⟨rfl, rfl⟩ | ⟨twoElse, twoBefore⟩
      · exact fun _ => rfl
      · rw [Function.update_self, Function.update_of_ne twoElse]
        have older := (numbered.held two taken twoBefore).2
        omega
    · rcases holders two taken twoHolds with ⟨rfl, rfl⟩ | ⟨twoElse, twoBefore⟩
      · rw [Function.update_self, Function.update_of_ne oneElse]
        have older := (numbered.held one slot oneBefore).2
        omega
      · rw [Function.update_of_ne oneElse, Function.update_of_ne twoElse]
        exact numbered.distinct one two slot taken oneBefore twoBefore
  · intro receipt member
    obtain ⟨known, older, short⟩ := numbered.known receipt member
    exact ⟨known, Nat.lt_succ_of_lt older, short⟩

theorem numbered_receive (numbered : Numbered first state) {loop : Loop} {slot : ReceiveSlot}
    (holding : state.server.loops loop = .holding slot) (datagram : Datagram) :
    Numbered first (state.perform (.receive loop datagram)) := by
  simp only [perform, DispatchServer.perform, holding]
  have holders : ∀ other taken,
      (state.server.setLoop loop
        (.received ⟨slot, datagram.received.length, datagram.peer⟩)).loops other =
          .holding taken →
      other ≠ loop ∧ state.server.loops other = .holding taken := by
    intro other taken holds
    rw [DispatchServer.loops_setLoop] at holds
    split_ifs at holds with here
    exact ⟨here, holds⟩
  refine
    { size := numbered.size
      index := numbered.index
      position := numbered.position
      held := fun other taken holds => numbered.held other taken (holders other taken holds).2
      unreceived := ?_
      distinct := fun one two slot taken oneHolds twoHolds =>
        numbered.distinct one two slot taken (holders one slot oneHolds).2
          (holders two taken twoHolds).2
      known := ?_ }
  · intro other taken holds receipt member
    obtain ⟨elsewhere, before⟩ := holders other taken holds
    rcases List.mem_append.mp member with older | new
    · exact numbered.unreceived other taken before receipt older
    · rw [List.mem_singleton.mp new]
      intro same
      exact elsewhere (numbered.distinct loop other slot taken holding before same).symm
  · intro receipt member
    rcases List.mem_append.mp member with older | new
    · exact numbered.known receipt older
    · rw [List.mem_singleton.mp new]
      obtain ⟨known, older⟩ := numbered.held loop slot holding
      exact ⟨known, older, datagram.received_length⟩

omit [DecidableEq Loop] in
theorem Kept.of_same (kept : Kept period state) {server : DispatchServer pool Loop}
    (buffers : server.buffers = state.server.buffers) :
    Kept period { state with server := server } := by
  intro receipt member recent
  dsimp only
  rw [buffers]
  exact kept receipt member recent

theorem kept_takeSlot (kept : Kept period state) {loop : Loop}
    (idle : state.server.loops loop = .idle) : Kept period (state.perform (.takeSlot loop)) := by
  simp only [perform, DispatchServer.perform, idle]
  intro receipt member recent
  dsimp only at recent ⊢
  rw [ReceiveBuffers.contents_take_nil]
  exact kept receipt member (by omega)

/-- The slots of two numbers less than a period apart are different, so a store in
time does not touch what is still to be kept. -/
theorem kept_receive (numbered : Numbered first state) (kept : Kept period state)
    (apart : ∀ one two, one < two → two < one + period → first.slotAt one ≠ first.slotAt two)
    {loop : Loop} {slot : ReceiveSlot} (holding : state.server.loops loop = .holding slot)
    (datagram : Datagram) (inTime : state.InTime period (.receive loop datagram)) :
    Kept period (state.perform (.receive loop datagram)) := by
  obtain ⟨slotEq, older⟩ := numbered.held loop slot holding
  simp only [InTime, holding] at inTime
  simp only [perform, DispatchServer.perform, holding]
  intro receipt member recent
  dsimp only at recent ⊢
  rcases List.mem_append.mp member with before | new
  · obtain ⟨known, past, short⟩ := numbered.known receipt before
    have other := numbered.unreceived loop slot holding receipt before
    have different : receipt.slot ≠ slot := by
      rw [known, slotEq]
      rcases Nat.lt_or_gt_of_ne other with less | greater
      · exact apart _ _ less (by omega)
      · exact (apart _ _ greater (by omega)).symm
    rw [ReceiveBuffers.contents_store_of_ne _ different
      (by rw [slotEq]; exact first.slotAt_aligned _) (by rw [known]; exact first.slotAt_aligned _)
      short datagram.received_length]
    exact kept receipt before recent
  · rw [List.mem_singleton.mp new]
    exact ReceiveBuffers.contents_store_self _ _ _

/-- A step takes a slot, or receives into one, or leaves the buffers alone and no
loop gets a slot. -/
theorem perform_cases (state : NumberedServer pool Loop) (step : DispatchServer.Step pool Loop) :
    (∃ loop, step = .takeSlot loop ∧ state.server.loops loop = .idle) ∨
      (∃ loop datagram slot, step = .receive loop datagram ∧
        state.server.loops loop = .holding slot) ∨
      ∃ server, state.perform step = { state with server := server } ∧
        server.buffers = state.server.buffers ∧
        ∀ loop slot, server.loops loop = .holding slot →
          state.server.loops loop = .holding slot := by
  have unready (same : state.perform step = state) : ∃ server,
      state.perform step = { state with server := server } ∧
        server.buffers = state.server.buffers ∧
        ∀ loop slot, server.loops loop = .holding slot →
          state.server.loops loop = .holding slot :=
    ⟨state.server, same, rfl, fun _ _ => id⟩
  cases step with
  | takeSlot loop =>
      cases held : state.server.loops loop with
      | idle => exact Or.inl ⟨loop, rfl, held⟩
      | holding slot => exact Or.inr (Or.inr (unready (by simp only [perform, held])))
      | received task => exact Or.inr (Or.inr (unready (by simp only [perform, held])))
  | receive loop datagram =>
      cases held : state.server.loops loop with
      | idle => exact Or.inr (Or.inr (unready (by simp only [perform, held])))
      | holding slot => exact Or.inr (Or.inl ⟨loop, datagram, slot, rfl, held⟩)
      | received task => exact Or.inr (Or.inr (unready (by simp only [perform, held])))
  | receiveNothing loop =>
      refine Or.inr (Or.inr ⟨_, rfl, ?_⟩)
      simp only [DispatchServer.perform]
      cases held : state.server.loops loop with
      | idle => exact ⟨rfl, fun _ _ => id⟩
      | holding slot => exact ⟨rfl, fun _ _ => DispatchServer.holding_of_setLoop_idle⟩
      | received task => exact ⟨rfl, fun _ _ => id⟩
  | submit loop =>
      refine Or.inr (Or.inr ⟨_, rfl, ?_⟩)
      simp only [DispatchServer.perform]
      cases held : state.server.loops loop with
      | idle => exact ⟨rfl, fun _ _ => id⟩
      | holding slot => exact ⟨rfl, fun _ _ => id⟩
      | received task => exact ⟨rfl, fun _ _ => DispatchServer.holding_of_setLoop_idle⟩
  | startTask worker =>
      refine Or.inr (Or.inr ⟨_, rfl, ?_⟩)
      simp only [DispatchServer.perform]
      split
      · exact ⟨rfl, fun _ _ => id⟩
      · exact ⟨rfl, fun _ _ => id⟩
  | execute worker => exact Or.inr (Or.inr ⟨_, rfl, rfl, fun _ _ => id⟩)

theorem numbered_perform (numbered : Numbered first state) (step : DispatchServer.Step pool Loop) :
    Numbered first (state.perform step) := by
  rcases perform_cases state step with
    ⟨loop, rfl, idle⟩ | ⟨loop, datagram, slot, rfl, holding⟩ | ⟨server, result, buffers, fewer⟩
  · exact numbered_takeSlot numbered idle
  · exact numbered_receive numbered holding datagram
  · rw [result]
    exact numbered.of_fewer buffers fewer

theorem kept_perform (numbered : Numbered first state) (kept : Kept period state)
    (apart : ∀ one two, one < two → two < one + period → first.slotAt one ≠ first.slotAt two)
    (step : DispatchServer.Step pool Loop) (inTime : state.InTime period step) :
    Kept period (state.perform step) := by
  rcases perform_cases state step with
    ⟨loop, rfl, idle⟩ | ⟨loop, datagram, slot, rfl, holding⟩ | ⟨server, result, buffers, _⟩
  · exact kept_takeSlot kept idle
  · exact kept_receive numbered kept apart holding datagram inTime
  · rw [result]
    exact kept.of_same buffers

end Steps

/-- With `count` slots in a buffer of at least two: every allocation gives out a whole
slot inside a buffer, apart from all others less than `2 * count` allocations away and
the same as the one that far away.  In any run of any number of loops the allocations
are given out in this order, and if every loop receives in time, every datagram keeps
its content while fewer than `2 * count` allocations come after its own. -/
theorem slots_reused_late (size count : Nat) (memory : ByteMemory Bool) (large : 3200 ≤ size)
    (full : ReceiveBuffers.FullAfter size count) (pool : WorkerPool) (Loop : Type)
    [DecidableEq Loop] (steps : List (DispatchServer.Step pool Loop)) :
    let first := ReceiveBuffers.initial size memory
    let begin : NumberedServer pool Loop := start first
    (∀ number, (first.slotAt number).Inside size ∧
        (∀ other, number < other → other < number + 2 * count →
          (first.slotAt number).Apart (first.slotAt other)) ∧
        first.slotAt (number + 2 * count) = first.slotAt number) ∧
      (∀ before, before <+: steps →
        (machine.run begin before).server.buffers.slot =
          first.slotAt (machine.run begin before).taken) ∧
      (machine.Along (InTime (2 * count)) begin steps →
        ∀ before, before <+: steps → (machine.run begin before).Kept (2 * count)) := by
  intro first begin
  have positive := full.pos large
  have apart : ∀ one two, one < two → two < one + 2 * count →
      first.slotAt one ≠ first.slotAt two :=
    fun one two less near => ReceiveBuffers.slotAt_ne full positive less near
  have numbered : Numbered first begin := numbered_start first
  refine ⟨?_, ?_, ?_⟩
  · intro number
    refine ⟨ReceiveBuffers.slotAt_inside full positive number, ?_,
      ReceiveBuffers.slotAt_period full positive number⟩
    intro other less near
    exact ReceiveSlot.apart_of_ne (apart number other less near) (first.slotAt_aligned number)
      (first.slotAt_aligned other)
  · intro before _
    exact (LabelledMachine.run_invariant (Numbered first)
      (fun _ step holds => numbered_perform holds step) numbered before).slot_eq
  · intro inTime before isPrefix
    have both := LabelledMachine.Along.invariant
      (fun state => Numbered first state ∧ state.Kept (2 * count))
      (fun _ step holds guard => ⟨numbered_perform holds.1 step,
        kept_perform holds.1 holds.2 apart step guard⟩)
      ⟨numbered, fun _ member => nomatch member⟩ (inTime.take_prefix isPrefix)
    exact both.2

def onePool : WorkerPool := ⟨1, by decide, fun _ => 0⟩

theorem smallest_full : ReceiveBuffers.FullAfter 3200 1 := by
  constructor
  · exact Nat.le_refl 3200
  · intro slots reached
    change 3200 ≤ 1600 * slots + 1600 at reached
    omega

/-- Two loops on the smallest buffers, each receiving right after it has its slot. -/
theorem prompt_loops_keep :
    let begin : NumberedServer onePool Bool := start (ReceiveBuffers.initial 3200 (fun _ _ => 0))
    let steps := [.takeSlot false, .receive false ⟨"a", [1]⟩, .takeSlot true,
      .receive true ⟨"b", [2]⟩]
    machine.Along (InTime 2) begin steps ∧ (machine.run begin steps).Kept 2 := by
  intro begin steps
  have inTime : machine.Along (InTime 2) begin steps := by decide
  exact ⟨inTime, (slots_reused_late 3200 1 (fun _ _ => 0) (le_refl 3200) smallest_full onePool Bool
    steps).2.2 inTime steps (List.prefix_refl steps)⟩

/-- The first loop takes a slot and is held up; the second goes once round, and the
datagram it receives is overwritten with no allocation after its own. -/
theorem late_receive_overwrites :
    let begin : NumberedServer onePool Bool := start (ReceiveBuffers.initial 3200 (fun _ _ => 0))
    let steps := [.takeSlot false, .takeSlot true, .receiveNothing true, .takeSlot true,
      .receive true ⟨"b", [2]⟩, .receive false ⟨"a", [1]⟩]
    let state := machine.run begin steps
    state.taken = 3 ∧ state.receipts.map Receipt.number = [2, 0] ∧
      state.receipts.map Receipt.bytes = [[2], [1]] ∧
      state.receipts.map (fun receipt => state.server.buffers.contents receipt.slot 1) =
        [[1], [1]] ∧
      ¬state.Kept 2 := by
  decide +kernel

end NumberedServer

end Ffvms.Concrete
