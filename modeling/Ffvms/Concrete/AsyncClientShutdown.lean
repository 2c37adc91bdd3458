/-
The destructor of an `AsyncClient`, and how the client spreads its calls.

The destructor shuts a queue down and joins its thread before it goes to the next queue.  The
other threads are still running then, and a callback may make calls.  When a callback returns
is up to the callback, and when an RPC completes to gRPC.
-/

import Mathlib.Data.Int.CardIntervalMod
import Ffvms.Concrete.AsyncClientCalls

namespace Ffvms.Concrete

namespace ClientDestructor

variable {threadNum : Nat}

def shut : ClientDestructor threadNum → Nat
  | .alive => 0
  | .shutting index => index
  | .joining index => index.val + 1
  | .returned => threadNum

def joined : ClientDestructor threadNum → Nat
  | .alive => 0
  | .shutting index => index
  | .joining index => index.val
  | .returned => threadNum

end ClientDestructor

namespace AsyncClient

variable {threadNum : Nat} {User Callback Response : Type}

/-! ### The order of the destructor -/

/-- The queues are shut down in order, a thread leaves its loop when its queue is shut down and
empty, and a thread that has been joined has left its loop. -/
structure Winding (client : AsyncClient threadNum User Callback Response) : Prop where
  closed : ∀ index, (client.cqs index).closed = true ↔ index.val < client.destructor.shut
  joined : ∀ index, index.val < client.destructor.joined → client.threads index = .ended
  ended : ∀ index, client.threads index = .ended → (client.cqs index).drained = true

section Steps

variable {client later : AsyncClient threadNum User Callback Response}

theorem winding_start (cursor : Nat) :
    Winding (start cursor : AsyncClient threadNum User Callback Response) := by
  refine ⟨?_, ?_, ?_⟩
  · intro index
    exact iff_of_false Bool.false_ne_true (Nat.not_lt_zero _)
  · exact fun _ below => absurd below (Nat.not_lt_zero _)
  · intro index ended
    cases ended

theorem Winding.of_running (winding : Winding client)
    (destructor : later.destructor = client.destructor)
    (closed : ∀ index, (later.cqs index).closed = (client.cqs index).closed)
    (threads : ∀ index, later.threads index = .ended ↔ client.threads index = .ended)
    (drained : ∀ index, client.threads index = .ended → later.cqs index = client.cqs index) :
    Winding later := by
  refine ⟨?_, ?_, ?_⟩
  · intro index
    rw [closed, destructor]
    exact winding.closed index
  · intro index below
    rw [destructor] at below
    exact (threads index).mpr (winding.joined index below)
  · intro index ended
    have before := (threads index).mp ended
    rw [drained index before]
    exact winding.ended index before

theorem ended_setThread_iff {index : Fin threadNum} {thread : ClientThread}
    (before : client.threads index ≠ .ended) (next : thread ≠ .ended) (other : Fin threadNum) :
    (client.setThread index thread).threads other = .ended ↔ client.threads other = .ended := by
  by_cases here : other = index
  · subst here
    simp only [setThread, Function.update_self]
    exact iff_of_false next before
  · simp only [setThread, Function.update_of_ne here]

theorem closed_setCq {index : Fin threadNum} {cq : CompletionQueue Nat}
    (same : cq.closed = (client.cqs index).closed) (other : Fin threadNum) :
    ((client.setCq index cq).cqs other).closed = (client.cqs other).closed := by
  by_cases here : other = index
  · subst here
    simp only [setCq, Function.update_self, same]
  · simp only [setCq, Function.update_of_ne here]

theorem cqs_setCq_of_running {index : Fin threadNum} {cq : CompletionQueue Nat}
    (running : client.threads index ≠ .ended) (other : Fin threadNum)
    (ended : client.threads other = .ended) :
    (client.setCq index cq).cqs other = client.cqs other := by
  have different : other ≠ index := by
    rintro rfl
    exact running ended
  simp only [setCq, Function.update_of_ne different]

theorem Winding.drained_of_ended (winding : Winding client) {index : Fin threadNum}
    (ended : client.threads index = .ended) :
    (client.cqs index).closed = true ∧ (client.cqs index).tags = [] :=
  (CompletionQueue.drained_iff _).mp (winding.ended index ended)

theorem winding_effect [DecidableEq User] [Inhabited Response]
    {step : Step threadNum User Callback Response}
    {events : List (ClientEvent threadNum Callback Response)}
    (effect : client.Effect step later events) (promised : client.Promised step)
    (winding : Winding client) : Winding later := by
  cases effect with
  | none => exact winding
  | noThread | dangling | shutDown | call =>
      exact winding.of_running rfl (fun _ => rfl) (fun _ => Iff.rfl) (fun _ _ => rfl)
  | startCall caller frame call begun lives accepts =>
      refine winding.of_running rfl (closed_setCq rfl) (fun _ => Iff.rfl) ?_
      refine cqs_setCq_of_running (fun ended => ?_)
      rw [(winding.drained_of_ended ended).1] at accepts
      cases accepts
  | finish cq address ok response status call lives =>
      refine winding.of_running rfl (closed_setCq rfl) (fun _ => Iff.rfl) ?_
      refine cqs_setCq_of_running (fun ended => ?_)
      have member := CompletionQueue.mem_tags_of_outstanding promised
      rw [(winding.drained_of_ended ended).2] at member
      cases member
  | take index address ok place =>
      have running : client.threads index ≠ .ended := by
        rw [place]
        simp
      exact winding.of_running rfl (closed_setCq rfl) (ended_setThread_iff running (by simp))
        (cqs_setCq_of_running running)
  | leave index place =>
      refine ⟨winding.closed, ?_, ?_⟩
      · intro other below
        by_cases here : other = index
        · subst here
          simp only [setThread, Function.update_self]
        · simp only [setThread, Function.update_of_ne here]
          exact winding.joined other below
      · intro other ended
        by_cases here : other = index
        · subst here
          exact promised place
        · simp only [setThread, Function.update_of_ne here] at ended
          exact winding.ended other ended
  | processed index address ok call place lives =>
      exact winding.of_running rfl (fun _ => rfl)
        (ended_setThread_iff (by simp [store, place]) (by simp)) (fun _ _ => rfl)
  | delete index address call place returned lives =>
      exact winding.of_running rfl (fun _ => rfl)
        (ended_setThread_iff (by simp [store, place]) (by simp)) (fun _ _ => rfl)
  | destroy alive =>
      have shut := winding.closed
      rw [alive] at shut
      exact ⟨shut, fun _ below => absurd below (Nat.not_lt_zero _), winding.ended⟩
  | close index place =>
      have shut := winding.closed
      have joined := winding.joined
      rw [place] at shut joined
      refine ⟨?_, joined, ?_⟩
      · intro other
        by_cases here : other = index
        · subst here
          simp [setDestructor, setCq, CompletionQueue.close, ClientDestructor.shut]
        · simp only [setDestructor, setCq, Function.update_of_ne here, shut other,
            ClientDestructor.shut, Nat.lt_succ_iff]
          exact ⟨Nat.le_of_lt, fun below => Nat.lt_of_le_of_ne below (Fin.val_ne_of_ne here)⟩
      · intro other ended
        have drained := winding.ended other ended
        by_cases here : other = index
        · subst here
          simp only [setDestructor, setCq, Function.update_self, CompletionQueue.drained_iff,
            CompletionQueue.tags_close] at drained ⊢
          exact ⟨rfl, drained.2⟩
        · simp only [setDestructor, setCq, Function.update_of_ne here]
          exact drained
  | finishLoop index place all =>
      have shut := winding.closed
      have joined := winding.joined
      rw [place] at shut joined
      refine ⟨?_, ?_, winding.ended⟩
      · intro other
        exact (shut other).trans (iff_of_true (Nat.lt_of_lt_of_le other.isLt all) other.isLt)
      · exact fun other _ => joined other (Nat.lt_of_lt_of_le other.isLt all)
  | join index place ended =>
      have shut := winding.closed
      have joined := winding.joined
      rw [place] at shut joined
      refine ⟨shut, ?_, winding.ended⟩
      intro other below
      rcases Nat.lt_succ_iff_lt_or_eq.mp below with before | same
      · exact joined other before
      · rw [Fin.ext same]
        exact ended

end Steps

section Runs

variable [DecidableEq User] [Inhabited Response]

theorem winding_after {cursor : Nat} {steps : List (Step threadNum User Callback Response)}
    (kept : Kept cursor steps) : Winding (after cursor steps) :=
  invariant_after (fun client _ => Winding client)
    (fun _ _ _ _ _ effect promised winding => winding_effect effect promised winding)
    (winding_start cursor) kept

/-! ### What the destructor guarantees -/

/-- When the destructor has returned and no `Call` is under way, and gRPC has kept its promises,
every call that was ever made has had its callback run once, every object has been deleted, and
every thread has ended. -/
theorem destroyed_client_answered (cursor : Nat)
    (steps : List (Step threadNum User Callback Response)) (kept : Kept cursor steps)
    (returned : (after cursor steps).destructor = .returned)
    (quiet : ∀ caller, (after cursor steps).frames caller = none) :
    (∀ index, (after cursor steps).threads index = .ended) ∧
    (∀ address, (after cursor steps).heap address = none) ∧
    (calledSerials (history cursor steps)).Perm (List.range (after cursor steps).calls) := by
  have winding := winding_after kept
  obtain ⟨custody, ledger, _, _⟩ := sound_after kept
  have ended (index : Fin threadNum) : (after cursor steps).threads index = .ended := by
    refine winding.joined index ?_
    rw [returned]
    exact index.isLt
  have freed (address : Nat) : (after cursor steps).heap address = none := by
    cases lives : (after cursor steps).heap address with
    | none => rfl
    | some call =>
        have reader : (after cursor steps).reader? address = some call.reader := by
          rw [reader?, lives]
          rfl
        cases place : call.reader with
        | none =>
            rw [place] at reader
            obtain ⟨caller, frame, begun, _⟩ := (custody.loose address).mp reader
            cases (quiet caller).symm.trans begun
        | some index =>
            rw [place] at reader
            have member := (custody.owned address index).mpr reader
            rw [held, (winding.drained_of_ended (ended index)).2, ended index] at member
            cases member
  refine ⟨ended, freed, ?_⟩
  refine (List.perm_ext_iff_of_nodup ledger.once List.nodup_range).mpr ?_
  intro serial
  rw [List.mem_range]
  refine ⟨ledger.known serial, fun below => ?_⟩
  refine (ledger.kept serial below).resolve_right ?_
  rintro ⟨address, found⟩
  rw [serial?, freed address] at found
  cases found

/-- The call that a callback is making can be started, unless the queue that was picked for it
has been shut down. -/
def CanStart (client : AsyncClient threadNum User Callback Response) (index : Fin threadNum) :
    Prop :=
  ∀ frame, client.frames (.worker index) = some frame → (client.cqs frame.cq).closed = false →
    (machine.next client (.startCall (.worker index))).frames (.worker index) = none

/-- The thread has a step to take that is not the return of a callback, and that gRPC, if it
takes part in it, may take. -/
def GoesOn (client : AsyncClient threadNum User Callback Response) (index : Fin threadNum) :
    Prop :=
  (∀ address, client.threads index ≠ .inCallback address) ∧
    ∃ step, client.Promised step ∧
      (machine.next client step).threads index ≠ client.threads index

theorem Custody.canStart {client : AsyncClient threadNum User Callback Response}
    (custody : Custody client) (running : client.crashed = false) (index : Fin threadNum) :
    client.CanStart index := by
  intro frame begun accepts
  have reader := (custody.loose frame.call).mpr ⟨.worker index, frame, begun, rfl⟩
  obtain ⟨call, found, _⟩ := Option.map_eq_some_iff.mp reader
  simp [machine, perform, running, act, begun, AsyncClient.startCall, found, accepts, setFrame]

/-- While the destructor waits for a thread, the thread is in a callback, where a `Call` that
it makes is not held up by the client, or waits for an RPC of its queue that has not completed,
or goes on. -/
theorem join_waits_for_callbacks_and_rpcs (cursor : Nat)
    (steps : List (Step threadNum User Callback Response)) (kept : Kept cursor steps)
    (running : (after cursor steps).crashed = false) (index : Fin threadNum)
    (joining : (after cursor steps).destructor = .joining index)
    (busy : (after cursor steps).threads index ≠ .ended) :
    ((∃ address, (after cursor steps).threads index = .inCallback address) ∧
      (after cursor steps).CanStart index) ∨
    ((after cursor steps).threads index = .waiting ∧
      ∃ address call, address ∈ ((after cursor steps).cqs index).outstanding ∧
        (after cursor steps).heap address = some call) ∨
    (after cursor steps).GoesOn index := by
  have winding := winding_after kept
  obtain ⟨custody, _, _, _⟩ := sound_after kept
  generalize after cursor steps = client at *
  have acts (step : Step threadNum User Callback Response) :
      machine.next client step = (client.act step).client := by
    simp only [machine, perform, running, Bool.false_eq_true, if_false]
  -- What the thread or its queue refers to is alive.
  have lives {address : Nat} (member : address ∈ client.held index) :
      ∃ call, client.heap address = some call := by
    have reader := (custody.owned address index).mp member
    obtain ⟨call, found, _⟩ := Option.map_eq_some_iff.mp reader
    exact ⟨call, found⟩
  cases place : client.threads index with
  | ended => exact absurd place busy
  | inCallback address => exact Or.inl ⟨⟨address, rfl⟩, custody.canStart running index⟩
  | got address ok =>
      obtain ⟨call, found⟩ := lives (List.mem_append_right _
        (by rw [place]; exact List.mem_singleton.mpr rfl))
      refine Or.inr (Or.inr ⟨by simp [place], .processed index, trivial, ?_⟩)
      simp [acts, act, place, processed, found, setThread]
  | waiting =>
      have answered (answer : Option (Nat × Bool))
          (allowed : (client.cqs index).MayAnswer answer) : client.GoesOn index := by
        refine ⟨by simp [place], .next index answer, fun _ => allowed, ?_⟩
        cases answer <;> simp [acts, act, place, next, setThread]
      cases front : (client.cqs index).ready with
      | cons entry rest =>
          refine Or.inr (Or.inr (answered (some entry) ?_))
          simp [CompletionQueue.MayAnswer, front]
      | nil =>
          cases begun : (client.cqs index).outstanding with
          | nil =>
              have closed : (client.cqs index).closed = true := by
                rw [winding.closed index, joining]
                exact Nat.lt_succ_self _
              refine Or.inr (Or.inr (answered none ?_))
              simp [CompletionQueue.MayAnswer, CompletionQueue.drained, front, begun, closed]
          | cons address rest =>
              have member : address ∈ (client.cqs index).outstanding := by
                rw [begun]
                exact List.mem_cons_self
              obtain ⟨call, found⟩ := lives
                (List.mem_append_left _ (CompletionQueue.mem_tags_of_outstanding member))
              exact Or.inr (Or.inl ⟨rfl, address, call, List.mem_cons_self, found⟩)

/-- One call on each of two queues; the second completes, and its callback makes a call, after
the destructor has shut the first queue down. -/
def ackWhileDestroyed (second : Fin 2) : List (Step 2 Unit Nat Nat) :=
  [.call (.user ()) 10 100 0, .startCall (.user ()), .call (.user ()) 11 101 0,
    .startCall (.user ()), .destroy, .shutdown, .finish second 11 true 7 GrpcStatus.success,
    .next second (some (11, true)), .processed second, .call (.worker second) 12 102 0]

theorem join_waits_for_callbacks_and_rpcs_two_threads :
    (after 0 (ackWhileDestroyed 1)).destructor = .joining 0 ∧
    (((∃ address, (after 0 (ackWhileDestroyed 1)).threads 0 = .inCallback address) ∧
        (after 0 (ackWhileDestroyed 1)).CanStart 0) ∨
      ((after 0 (ackWhileDestroyed 1)).threads 0 = .waiting ∧
        ∃ address call, address ∈ ((after 0 (ackWhileDestroyed 1)).cqs 0).outstanding ∧
          (after 0 (ackWhileDestroyed 1)).heap address = some call) ∨
      (after 0 (ackWhileDestroyed 1)).GoesOn 0) :=
  ⟨by decide, join_waits_for_callbacks_and_rpcs 0 (ackWhileDestroyed 1) (by decide) (by decide) 0
    (by decide) (by decide)⟩

def answeredAndDestroyed (only : Fin 1) : List (Step 1 Unit Nat Nat) :=
  [.call (.user ()) 10 100 5, .startCall (.user ()), .finish only 10 false 7 GrpcStatus.success,
    .next only (some (10, false)), .processed only, .delete only, .destroy, .shutdown,
    .next only none, .join, .shutdown]

theorem destroyed_client_answered_one_call :
    history 0 (answeredAndDestroyed 0) =
      [.picked 0 100 0, .started 0 (some 5), .finished 0 false 7 GrpcStatus.success,
        .called 0 100 (some 7) (some GrpcStatus.unknownMistake), .deleted 0] ∧
    (∀ index, (after 0 (answeredAndDestroyed 0)).threads index = .ended) ∧
    (∀ address, (after 0 (answeredAndDestroyed 0)).heap address = none) ∧
    (calledSerials (history 0 (answeredAndDestroyed 0))).Perm
      (List.range (after 0 (answeredAndDestroyed 0)).calls) := by
  refine ⟨by decide,
    destroyed_client_answered 0 (answeredAndDestroyed 0) (by decide) (by decide) ?_⟩
  intro caller
  cases caller with
  | user thread => cases thread; decide
  | worker index => rw [Subsingleton.elim index 0]; decide

theorem destructor_begun {client later : AsyncClient threadNum User Callback Response}
    {step : Step threadNum User Callback Response}
    {events : List (ClientEvent threadNum Callback Response)}
    (effect : client.Effect step later events) (begun : client.destructor ≠ .alive) :
    later.destructor ≠ .alive := by
  cases effect with
  | destroy alive => exact absurd alive begun
  | close | finishLoop | join => simp [setDestructor]
  | none | noThread | dangling | shutDown | call | startCall | finish | take | leave | processed
  | delete => exact begun

def Blamed (client : AsyncClient threadNum User Callback Response) (kind : ClientFault) : Prop :=
  (kind = .divisionByZero ∧ threadNum = 0) ∨
    (kind = .queueShutDown ∧ client.destructor ≠ .alive)

theorem blamed_effect {client later : AsyncClient threadNum User Callback Response}
    {step : Step threadNum User Callback Response}
    {outputs events : List (ClientEvent threadNum Callback Response)}
    (effect : client.Effect step later events) (promised : client.Promised step)
    (custody : Custody client) (winding : Winding client)
    (blamed : ∀ kind, .fault kind ∈ outputs → Blamed client kind) (kind : ClientFault)
    (member : .fault kind ∈ outputs ++ events) : Blamed later kind := by
  rcases List.mem_append.mp member with old | new
  · exact (blamed kind old).imp_right (fun late => ⟨late.1, destructor_begun effect late.2⟩)
  · cases effect with
    | noThread _ absent =>
        cases List.mem_singleton.mp new
        exact Or.inl ⟨rfl, absent⟩
    | dangling _ address freed used => exact absurd used (custody.not_dangling promised freed)
    | shutDown caller frame begun closed =>
        cases List.mem_singleton.mp new
        refine Or.inr ⟨rfl, fun alive => ?_⟩
        have below := (winding.closed frame.cq).mp closed
        rw [show client.destructor = .alive from alive] at below
        exact absurd below (Nat.not_lt_zero _)
    | none | call | startCall | finish | take | leave | processed | delete | destroy | close
    | finishLoop | join => simp at new

/-- If gRPC keeps its promises, a client that has a thread does not bring the process down
before its destructor begins; after that it can do so only by starting a call on a queue that
has been shut down, for which gRPC aborts. -/
theorem no_fault_while_alive (cursor : Nat)
    (steps : List (Step threadNum User Callback Response)) (kept : Kept cursor steps)
    (kind : ClientFault) (failed : .fault kind ∈ history cursor steps) :
    (kind = .divisionByZero ∧ threadNum = 0) ∨
      (kind = .queueShutDown ∧ (after cursor steps).destructor ≠ .alive) := by
  have invariant := invariant_after (fun client events => Sound client events ∧ Winding client ∧
      ∀ kind, .fault kind ∈ events → Blamed client kind)
    (fun client step later outputs events effect promised ⟨sound, winding, blamed⟩ =>
      ⟨sound_effect effect promised sound, winding_effect effect promised winding,
        blamed_effect effect promised sound.custody winding blamed⟩)
    ⟨sound_start cursor, winding_start cursor, fun _ member => absurd member List.not_mem_nil⟩
    kept
  exact invariant.2.2 kind failed

def ackAborted (second : Fin 2) : List (Step 2 Unit Nat Nat) :=
  ackWhileDestroyed second ++ [.startCall (.worker second)]

theorem no_fault_while_alive_ack :
    (ClientEvent.fault .queueShutDown : ClientEvent 2 Nat Nat) ∈ history 0 (ackAborted 1) ∧
    ((ClientFault.queueShutDown = .divisionByZero ∧ 2 = 0) ∨
      (ClientFault.queueShutDown = .queueShutDown ∧
        (after 0 (ackAborted 1)).destructor ≠ .alive)) :=
  ⟨by decide, no_fault_while_alive 0 (ackAborted 1) (by decide) .queueShutDown (by decide)⟩

/-! ### The queues that the cursor picks -/

def pickedCqs (events : List (ClientEvent threadNum Callback Response)) : List (Fin threadNum) :=
  events.filterMap fun
    | .picked _ _ cq => some cq
    | .started _ _ | .finished _ _ _ _ | .called _ _ _ _ | .deleted _ | .fault _ => none

def InTurn (cursor : Nat) (client : AsyncClient threadNum User Callback Response)
    (events : List (ClientEvent threadNum Callback Response)) : Prop :=
  client.cursor = (cursor + client.calls) % 2 ^ 64 ∧
    (pickedCqs events).map Fin.val =
      (List.range client.calls).map (fun call => (cursor + call) % 2 ^ 64 % threadNum)

theorem inTurn_effect {cursor : Nat} {client later : AsyncClient threadNum User Callback Response}
    {step : Step threadNum User Callback Response}
    {outputs events : List (ClientEvent threadNum Callback Response)}
    (effect : client.Effect step later events) (inTurn : InTurn cursor client outputs) :
    InTurn cursor later (outputs ++ events) := by
  obtain ⟨counts, picks⟩ := inTurn
  cases effect with
  | call caller address callback timeoutInMs cq free vacant picked =>
      refine ⟨?_, ?_⟩
      · change (client.cursor + 1) % 2 ^ 64 = (cursor + (client.calls + 1)) % 2 ^ 64
        rw [counts, Nat.mod_add_mod, Nat.add_assoc]
      · change _ = (List.range (client.calls + 1)).map _
        rw [List.range_succ, List.map_append, ← picks, pickedCqs, List.filterMap_append,
          List.map_append]
        simp only [List.filterMap_cons, List.filterMap_nil, List.map_cons, List.map_nil, picked,
          counts]
        rfl
  | none | noThread | dangling | shutDown | startCall | finish | take | leave | processed | delete
  | destroy | close | finishLoop | join =>
      refine ⟨counts, ?_⟩
      rw [pickedCqs, List.filterMap_append]
      exact (congrArg _ (List.append_nil _)).trans picks

theorem inTurn_after (cursor : Nat) (steps : List (Step threadNum User Callback Response)) :
    InTurn cursor (after cursor steps) (history cursor steps) := by
  have begins : InTurn cursor (start cursor : AsyncClient threadNum User Callback Response) [] :=
    ⟨rfl, rfl⟩
  exact LabelledMachine.trace_invariant (InTurn cursor)
    (fun client _ step inTurn => inTurn_effect (client.perform_effect step) inTurn) begins steps

omit [DecidableEq User] [Inhabited Response] in
/-- A window of consecutive numbers meets a residue as often as the numbers below its end do,
less those below its start. -/
theorem count_residue (first length : Nat) (residue : Fin threadNum) :
    (List.range length).countP (fun offset => (first + offset) % threadNum == residue.val) +
        (first / threadNum + if residue.val < first % threadNum then 1 else 0) =
      (first + length) / threadNum +
        if residue.val < (first + length) % threadNum then 1 else 0 := by
  have positive : 0 < threadNum := Nat.lt_of_le_of_lt (Nat.zero_le _) residue.isLt
  have reduced : residue.val % threadNum = residue.val := Nat.mod_eq_of_lt residue.isLt
  have split := Nat.count_add (fun number => number ≡ residue.val [MOD threadNum]) first length
  rw [Nat.count_modEq_card _ positive, Nat.count_modEq_card _ positive, reduced] at split
  have window : Nat.count (fun offset => first + offset ≡ residue.val [MOD threadNum]) length =
      (List.range length).countP (fun offset => (first + offset) % threadNum == residue.val) := by
    refine List.countP_congr (fun offset _ => ?_)
    rw [decide_eq_true_iff, beq_iff_eq]
    exact (Iff.of_eq (congrArg _ reduced))
  rw [split, window, Nat.add_comm]

/-- The calls go round the queues in turn, so that two queues never differ by more than one
call.  Where the cursor wraps this needs a number of threads that divides its range. -/
theorem calls_spread_evenly (cursor : Nat) (steps : List (Step threadNum User Callback Response))
    (regular : cursor + (after cursor steps).calls ≤ 2 ^ 64 ∨ threadNum ∣ 2 ^ 64)
    (first second : Fin threadNum) :
    (pickedCqs (history cursor steps)).count first ≤
      (pickedCqs (history cursor steps)).count second + 1 := by
  have picks := (inTurn_after cursor steps).2
  have unwrapped : (List.range (after cursor steps).calls).map
      (fun call => (cursor + call) % 2 ^ 64 % threadNum) =
        (List.range (after cursor steps).calls).map (fun call => (cursor + call) % threadNum) := by
    refine List.map_congr_left (fun call member => ?_)
    rcases regular with small | divides
    · rw [Nat.mod_eq_of_lt (Nat.lt_of_lt_of_le
        (Nat.add_lt_add_left (List.mem_range.mp member) cursor) small)]
    · exact Nat.mod_mod_of_dvd _ divides
  have counted (residue : Fin threadNum) : (pickedCqs (history cursor steps)).count residue =
      (List.range (after cursor steps).calls).countP
        (fun offset => (cursor + offset) % threadNum == residue.val) := by
    rw [← List.count_map_of_injective _ Fin.val Fin.val_injective, picks, unwrapped, List.count,
      List.countP_map]
    rfl
  have one := count_residue cursor (after cursor steps).calls first
  have other := count_residue cursor (after cursor steps).calls second
  rw [counted, counted]
  split_ifs at one other <;> omega

def threeCalls : List (Step 2 Unit Nat Nat) :=
  [.call (.user ()) 10 100 0, .startCall (.user ()), .call (.user ()) 11 101 0,
    .startCall (.user ()), .call (.user ()) 12 102 0]

theorem calls_spread_evenly_three_calls :
    pickedCqs (history 7 threeCalls) = [1, 0, 1] ∧
    (pickedCqs (history 7 threeCalls)).count 1 ≤
      (pickedCqs (history 7 threeCalls)).count 0 + 1 :=
  ⟨by decide, calls_spread_evenly 7 threeCalls (Or.inr (by decide)) 1 0⟩

end Runs

end AsyncClient

end Ffvms.Concrete
