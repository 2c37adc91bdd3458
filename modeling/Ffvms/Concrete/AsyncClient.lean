/-
The asynchronous gRPC client: `AsyncClient` and its call objects.

A call is allocated by the thread that makes it, is started on the completion queue that
the cursor picks, and belongs from then on to the one thread that takes tags from that
queue.  That thread runs the callback and deletes the object.  The tag of a call is its
address, and an address that has been freed may be allocated again.

The addresses that `new` returns and the order of the threads are part of the labels, and so
is all that gRPC does: when it writes the results of an RPC and posts its tag, and what `Next`
returns.  What gRPC promises about this is a condition on the labels, `Promised`.  A call
through a dangling pointer and an index that cannot be computed end the process.  So does an
operation that is begun on a queue after `Shutdown`: gRPC does not allow it and aborts.
-/

import Mathlib.Algebra.Group.Nat.Defs
import Mathlib.Data.List.Range
import Mathlib.Data.List.Nodup
import Mathlib.Logic.Function.Basic
import Ffvms.LabelledRun
import Ffvms.CompletionQueue

namespace Ffvms.Concrete

structure GrpcStatus where
  errorCode : Nat
  errorMessage : String
  deriving DecidableEq, Repr

namespace GrpcStatus

def success : GrpcStatus := { errorCode := 0, errorMessage := "" }

/-- What a call reports whose completion says that it did not take place.  The code is
`StatusCode::UNKNOWN`. -/
def unknownMistake : GrpcStatus := { errorCode := 2, errorMessage := "grpc unknown mistake" }

def ok (status : GrpcStatus) : Bool := status.errorCode == 0

end GrpcStatus

/-- A `GeneralAsyncClientCall`.  The serial number tells the call from every other one; the
reader is known by the queue that it will post to, and is empty before the call is started.
Pointers that have been moved out are `none`. -/
structure GeneralAsyncClientCall (threadNum : Nat) (Callback Response : Type) where
  serial : Nat
  callback : Callback
  response : Option Response
  status : Option GrpcStatus
  deadlineInMs : Option Int
  reader : Option (Fin threadNum)
  deriving DecidableEq

namespace GeneralAsyncClientCall

variable {threadNum : Nat} {Callback Response : Type}

def create [Inhabited Response] (serial : Nat) (callback : Callback) :
    GeneralAsyncClientCall threadNum Callback Response :=
  { serial := serial
    callback := callback
    response := some default
    status := some GrpcStatus.success
    deadlineInMs := none
    reader := none }

def startCall (call : GeneralAsyncClientCall threadNum Callback Response) (cq : Fin threadNum)
    (timeoutInMs : Int) : GeneralAsyncClientCall threadNum Callback Response :=
  { call with
    deadlineInMs := if timeoutInMs > 0 then some timeoutInMs else call.deadlineInMs
    reader := some cq }

def finish (call : GeneralAsyncClientCall threadNum Callback Response) (response : Response)
    (status : GrpcStatus) : GeneralAsyncClientCall threadNum Callback Response :=
  { call with response := some response, status := some status }

def processedStatus (call : GeneralAsyncClientCall threadNum Callback Response) (ok : Bool) :
    Option GrpcStatus :=
  if ok then call.status else some GrpcStatus.unknownMistake

def processed (call : GeneralAsyncClientCall threadNum Callback Response) :
    GeneralAsyncClientCall threadNum Callback Response :=
  { call with response := none, status := none }

end GeneralAsyncClientCall

/-- Who makes a call: a thread of the program, or the callback that a client thread runs. -/
inductive Caller (threadNum : Nat) (User : Type) where
  | user (thread : User)
  | worker (index : Fin threadNum)
  deriving DecidableEq

/-- The locals of `Call` between the choice of the queue and the start of the call. -/
structure CallFrame (threadNum : Nat) where
  call : Nat
  cq : Fin threadNum
  timeoutInMs : Int
  deriving DecidableEq

/-- Where a client thread is: in `Next`, before `Processed`, in the callback or after it, and
out of the loop. -/
inductive ClientThread where
  | waiting
  | got (call : Nat) (ok : Bool)
  | inCallback (call : Nat)
  | ended
  deriving DecidableEq

/-- Where the destructor is: before `Shutdown` of a queue or before `join` of its thread. -/
inductive ClientDestructor (threadNum : Nat) where
  | alive
  | shutting (index : Nat)
  | joining (index : Fin threadNum)
  | returned
  deriving DecidableEq

inductive ClientFault where
  | divisionByZero
  | danglingCall
  | queueShutDown
  deriving DecidableEq, Repr

inductive ClientEvent (threadNum : Nat) (Callback Response : Type) where
  | picked (serial : Nat) (callback : Callback) (cq : Fin threadNum)
  | started (serial : Nat) (deadlineInMs : Option Int)
  | finished (serial : Nat) (ok : Bool) (response : Response) (status : GrpcStatus)
  | called (serial : Nat) (callback : Callback) (response : Option Response)
      (status : Option GrpcStatus)
  | deleted (serial : Nat)
  | fault (kind : ClientFault)
  deriving DecidableEq

/-- `calls` counts the calls that have picked a queue. -/
structure AsyncClient (threadNum : Nat) (User Callback Response : Type) where
  cursor : Nat
  calls : Nat
  heap : Nat → Option (GeneralAsyncClientCall threadNum Callback Response)
  cqs : Fin threadNum → CompletionQueue Nat
  threads : Fin threadNum → ClientThread
  frames : Caller threadNum User → Option (CallFrame threadNum)
  destructor : ClientDestructor threadNum
  crashed : Bool

namespace AsyncClient

variable {threadNum : Nat} {User Callback Response : Type}

structure Answer (threadNum : Nat) (User Callback Response : Type) where
  client : AsyncClient threadNum User Callback Response
  events : List (ClientEvent threadNum Callback Response)

/-- The constructor does not set the cursor. -/
def start (cursor : Nat) : AsyncClient threadNum User Callback Response :=
  { cursor := cursor % 2 ^ 64
    calls := 0
    heap := fun _ => none
    cqs := fun _ => CompletionQueue.empty
    threads := fun _ => .waiting
    frames := fun _ => none
    destructor := .alive
    crashed := false }

section Changes

variable (client : AsyncClient threadNum User Callback Response)

def store (address : Nat) (call : Option (GeneralAsyncClientCall threadNum Callback Response)) :
    AsyncClient threadNum User Callback Response :=
  { client with heap := Function.update client.heap address call }

def setCq (index : Fin threadNum) (cq : CompletionQueue Nat) :
    AsyncClient threadNum User Callback Response :=
  { client with cqs := Function.update client.cqs index cq }

def setThread (index : Fin threadNum) (thread : ClientThread) :
    AsyncClient threadNum User Callback Response :=
  { client with threads := Function.update client.threads index thread }

def setFrame [DecidableEq User] (caller : Caller threadNum User)
    (frame : Option (CallFrame threadNum)) : AsyncClient threadNum User Callback Response :=
  { client with frames := Function.update client.frames caller frame }

def setDestructor (point : ClientDestructor threadNum) :
    AsyncClient threadNum User Callback Response :=
  { client with destructor := point }

def fetchAdd : AsyncClient threadNum User Callback Response :=
  { client with cursor := (client.cursor + 1) % 2 ^ 64, calls := client.calls + 1 }

def crash (kind : ClientFault) : Answer threadNum User Callback Response :=
  { client := { client with crashed := true }
    events := [.fault kind] }

end Changes

/-! ### Making a call -/

/-- `mCursor.fetch_add(1) % mThreadNum`, which needs a thread. -/
def pick? (client : AsyncClient threadNum User Callback Response) : Option (Fin threadNum) :=
  if positive : 0 < threadNum then some ⟨client.cursor % threadNum, Nat.mod_lt _ positive⟩
  else none

def call [DecidableEq User] [Inhabited Response]
    (client : AsyncClient threadNum User Callback Response) (caller : Caller threadNum User)
    (address : Nat) (callback : Callback) (timeoutInMs : Int) :
    Answer threadNum User Callback Response :=
  match client.pick? with
  | none => client.crash .divisionByZero
  | some cq =>
      { client := ((client.store address (some (.create client.calls callback))).fetchAdd).setFrame
          caller (some ⟨address, cq, timeoutInMs⟩)
        events := [.picked client.calls callback cq] }

def startCall [DecidableEq User] (client : AsyncClient threadNum User Callback Response)
    (caller : Caller threadNum User) (frame : CallFrame threadNum) :
    Answer threadNum User Callback Response :=
  match client.heap frame.call with
  | none => client.crash .danglingCall
  | some call =>
      if (client.cqs frame.cq).closed then client.crash .queueShutDown
      else
        let begun := call.startCall frame.cq frame.timeoutInMs
        { client := ((client.store frame.call (some begun)).setCq frame.cq
            ((client.cqs frame.cq).enqueue frame.call)).setFrame caller none
          events := [.started begun.serial begun.deadlineInMs] }

/-- gRPC writes the results of an RPC through the pointers it was given and posts the tag. -/
def finish (client : AsyncClient threadNum User Callback Response) (cq : Fin threadNum)
    (address : Nat) (ok : Bool) (response : Response) (status : GrpcStatus) :
    Answer threadNum User Callback Response :=
  match client.heap address with
  | none => client.crash .danglingCall
  | some call =>
      { client := (client.store address (some (call.finish response status))).setCq cq
          ((client.cqs cq).complete address ok)
        events := [.finished call.serial ok response status] }

/-! ### The loop of a client thread -/

def next (client : AsyncClient threadNum User Callback Response) (index : Fin threadNum) :
    Option (Nat × Bool) → AsyncClient threadNum User Callback Response
  | some (address, ok) =>
      (client.setCq index ((client.cqs index).handOut (address, ok))).setThread index
        (.got address ok)
  | none => client.setThread index .ended

def processed (client : AsyncClient threadNum User Callback Response) (index : Fin threadNum)
    (address : Nat) (ok : Bool) : Answer threadNum User Callback Response :=
  match client.heap address with
  | none => client.crash .danglingCall
  | some call =>
      { client := (client.store address (some call.processed)).setThread index
          (.inCallback address)
        events := [.called call.serial call.callback call.response (call.processedStatus ok)] }

def delete (client : AsyncClient threadNum User Callback Response) (index : Fin threadNum)
    (address : Nat) : Answer threadNum User Callback Response :=
  match client.heap address with
  | none => client.crash .danglingCall
  | some call =>
      { client := (client.store address none).setThread index .waiting
        events := [.deleted call.serial] }

/-! ### The destructor -/

def shutdown (client : AsyncClient threadNum User Callback Response) (index : Nat) :
    AsyncClient threadNum User Callback Response :=
  if inRange : index < threadNum then
    (client.setCq ⟨index, inRange⟩ (client.cqs ⟨index, inRange⟩).close).setDestructor
      (.joining ⟨index, inRange⟩)
  else client.setDestructor .returned

/-! ### Steps and runs -/

inductive Step (threadNum : Nat) (User Callback Response : Type) where
  | call (caller : Caller threadNum User) (address : Nat) (callback : Callback)
      (timeoutInMs : Int)
  | startCall (caller : Caller threadNum User)
  | finish (cq : Fin threadNum) (address : Nat) (ok : Bool) (response : Response)
      (status : GrpcStatus)
  | next (index : Fin threadNum) (answer : Option (Nat × Bool))
  | processed (index : Fin threadNum)
  | delete (index : Fin threadNum)
  | destroy
  | shutdown
  | join

def mayCall (client : AsyncClient threadNum User Callback Response) :
    Caller threadNum User → Bool
  | .user _ => true
  | .worker index =>
      match client.threads index with
      | .inCallback _ => true
      | .waiting | .got _ _ | .ended => false

/-- A step that is not the next one of its thread does nothing.  `new` returns an address
that is free, and the callback has returned before the object is deleted. -/
def act [DecidableEq User] [Inhabited Response]
    (client : AsyncClient threadNum User Callback Response) :
    Step threadNum User Callback Response → Answer threadNum User Callback Response
  | .call caller address callback timeoutInMs =>
      if client.mayCall caller = true ∧ client.frames caller = none ∧
          (client.heap address).isNone = true then
        client.call caller address callback timeoutInMs
      else ⟨client, []⟩
  | .startCall caller =>
      match client.frames caller with
      | some frame => client.startCall caller frame
      | none => ⟨client, []⟩
  | .finish cq address ok response status => client.finish cq address ok response status
  | .next index answer =>
      match client.threads index with
      | .waiting => ⟨client.next index answer, []⟩
      | .got _ _ | .inCallback _ | .ended => ⟨client, []⟩
  | .processed index =>
      match client.threads index with
      | .got address ok => client.processed index address ok
      | .waiting | .inCallback _ | .ended => ⟨client, []⟩
  | .delete index =>
      match client.threads index with
      | .inCallback address =>
          if client.frames (.worker index) = none then client.delete index address
          else ⟨client, []⟩
      | .waiting | .got _ _ | .ended => ⟨client, []⟩
  | .destroy =>
      match client.destructor with
      | .alive => ⟨client.setDestructor (.shutting 0), []⟩
      | .shutting _ | .joining _ | .returned => ⟨client, []⟩
  | .shutdown =>
      match client.destructor with
      | .shutting index => ⟨client.shutdown index, []⟩
      | .alive | .joining _ | .returned => ⟨client, []⟩
  | .join =>
      match client.destructor with
      | .joining index =>
          if client.threads index = .ended then
            ⟨client.setDestructor (.shutting (index.val + 1)), []⟩
          else ⟨client, []⟩
      | .alive | .shutting _ | .returned => ⟨client, []⟩

def perform [DecidableEq User] [Inhabited Response]
    (client : AsyncClient threadNum User Callback Response)
    (step : Step threadNum User Callback Response) : Answer threadNum User Callback Response :=
  if client.crashed then ⟨client, []⟩ else client.act step

def machine [DecidableEq User] [Inhabited Response] :
    LabelledMachine (AsyncClient threadNum User Callback Response)
      (Step threadNum User Callback Response) (ClientEvent threadNum Callback Response) :=
  { next := fun client step => (client.perform step).client
    emit := fun client step => (client.perform step).events }

/-- What gRPC promises.  It writes the results of an RPC that has been started, once, and
posts its tag to the queue of the RPC after that.  `Next` returns true with a tag that has
been posted to its queue, once for each tag, and false when the queue has been shut down and
every tag of an RPC that was started on it has been returned. -/
def Promised (client : AsyncClient threadNum User Callback Response) :
    Step threadNum User Callback Response → Prop
  | .finish cq address _ _ _ => address ∈ (client.cqs cq).outstanding
  | .next index answer =>
      client.threads index = .waiting → (client.cqs index).MayAnswer answer
  | .call _ _ _ _ | .startCall _ | .processed _ | .delete _ | .destroy | .shutdown | .join => True

instance (client : AsyncClient threadNum User Callback Response) :
    (step : Step threadNum User Callback Response) → Decidable (client.Promised step)
  | .finish cq address _ _ _ => inferInstanceAs (Decidable (address ∈ (client.cqs cq).outstanding))
  | .next index answer =>
      inferInstanceAs
        (Decidable (client.threads index = .waiting → (client.cqs index).MayAnswer answer))
  | .call _ _ _ _ | .startCall _ | .processed _ | .delete _ | .destroy | .shutdown | .join =>
      isTrue trivial

section Runs

variable [DecidableEq User] [Inhabited Response]

def after (cursor : Nat) (steps : List (Step threadNum User Callback Response)) :
    AsyncClient threadNum User Callback Response :=
  machine.run (start cursor) steps

def history (cursor : Nat) (steps : List (Step threadNum User Callback Response)) :
    List (ClientEvent threadNum Callback Response) :=
  machine.trace (start cursor : AsyncClient threadNum User Callback Response) steps

end Runs

def Kept [DecidableEq User] [Inhabited Response] (cursor : Nat)
    (steps : List (Step threadNum User Callback Response)) : Prop :=
  machine.Along Promised (start cursor) steps

instance [DecidableEq User] [Inhabited Response] (cursor : Nat)
    (steps : List (Step threadNum User Callback Response)) : Decidable (Kept cursor steps) :=
  inferInstanceAs (Decidable (machine.Along Promised (start cursor) steps))

/-! ### What a step can do -/

def Uses (client : AsyncClient threadNum User Callback Response) :
    Step threadNum User Callback Response → Nat → Prop
  | .startCall caller, address =>
      ∃ frame, client.frames caller = some frame ∧ frame.call = address
  | .finish _ tag _ _ _, address => tag = address
  | .processed index, address => ∃ ok, client.threads index = .got address ok
  | .delete index, address => client.threads index = .inCallback address
  | .call _ _ _ _, _ | .next _ _, _ | .destroy, _ | .shutdown, _ | .join, _ => False

inductive Effect [DecidableEq User] [Inhabited Response]
    (client : AsyncClient threadNum User Callback Response) :
    Step threadNum User Callback Response → AsyncClient threadNum User Callback Response →
      List (ClientEvent threadNum Callback Response) → Prop
  | none (step : Step threadNum User Callback Response) : Effect client step client []
  | noThread (step : Step threadNum User Callback Response) (absent : threadNum = 0) :
      Effect client step (client.crash .divisionByZero).client [.fault .divisionByZero]
  | dangling (step : Step threadNum User Callback Response) (address : Nat)
      (freed : client.heap address = none) (used : client.Uses step address) :
      Effect client step (client.crash .danglingCall).client [.fault .danglingCall]
  | shutDown (caller : Caller threadNum User) (frame : CallFrame threadNum)
      (begun : client.frames caller = some frame) (closed : (client.cqs frame.cq).closed = true) :
      Effect client (.startCall caller) (client.crash .queueShutDown).client
        [.fault .queueShutDown]
  | call (caller : Caller threadNum User) (address : Nat) (callback : Callback)
      (timeoutInMs : Int) (cq : Fin threadNum) (free : client.frames caller = none)
      (vacant : client.heap address = none) (picked : cq.val = client.cursor % threadNum) :
      Effect client (.call caller address callback timeoutInMs)
        (((client.store address (some (.create client.calls callback))).fetchAdd).setFrame
          caller (some ⟨address, cq, timeoutInMs⟩))
        [.picked client.calls callback cq]
  | startCall (caller : Caller threadNum User) (frame : CallFrame threadNum)
      (call : GeneralAsyncClientCall threadNum Callback Response)
      (begun : client.frames caller = some frame) (lives : client.heap frame.call = some call)
      (accepts : (client.cqs frame.cq).closed = false) :
      Effect client (.startCall caller)
        (((client.store frame.call (some (call.startCall frame.cq frame.timeoutInMs))).setCq
          frame.cq ((client.cqs frame.cq).enqueue frame.call)).setFrame caller none)
        [.started call.serial (call.startCall frame.cq frame.timeoutInMs).deadlineInMs]
  | finish (cq : Fin threadNum) (address : Nat) (ok : Bool) (response : Response)
      (status : GrpcStatus) (call : GeneralAsyncClientCall threadNum Callback Response)
      (lives : client.heap address = some call) :
      Effect client (.finish cq address ok response status)
        ((client.store address (some (call.finish response status))).setCq cq
          ((client.cqs cq).complete address ok))
        [.finished call.serial ok response status]
  | take (index : Fin threadNum) (address : Nat) (ok : Bool)
      (place : client.threads index = .waiting) :
      Effect client (.next index (some (address, ok)))
        ((client.setCq index ((client.cqs index).handOut (address, ok))).setThread index
          (.got address ok)) []
  | leave (index : Fin threadNum) (place : client.threads index = .waiting) :
      Effect client (.next index none) (client.setThread index .ended) []
  | processed (index : Fin threadNum) (address : Nat) (ok : Bool)
      (call : GeneralAsyncClientCall threadNum Callback Response)
      (place : client.threads index = .got address ok)
      (lives : client.heap address = some call) :
      Effect client (.processed index)
        ((client.store address (some call.processed)).setThread index (.inCallback address))
        [.called call.serial call.callback call.response (call.processedStatus ok)]
  | delete (index : Fin threadNum) (address : Nat)
      (call : GeneralAsyncClientCall threadNum Callback Response)
      (place : client.threads index = .inCallback address)
      (returned : client.frames (.worker index) = none)
      (lives : client.heap address = some call) :
      Effect client (.delete index) ((client.store address none).setThread index .waiting)
        [.deleted call.serial]
  | destroy (alive : client.destructor = .alive) :
      Effect client .destroy (client.setDestructor (.shutting 0)) []
  | close (index : Fin threadNum) (place : client.destructor = .shutting index.val) :
      Effect client .shutdown
        ((client.setCq index (client.cqs index).close).setDestructor (.joining index)) []
  | finishLoop (index : Nat) (place : client.destructor = .shutting index)
      (all : threadNum ≤ index) :
      Effect client .shutdown (client.setDestructor .returned) []
  | join (index : Fin threadNum) (place : client.destructor = .joining index)
      (ended : client.threads index = .ended) :
      Effect client .join (client.setDestructor (.shutting (index.val + 1))) []

section Effects

variable [DecidableEq User] [Inhabited Response]

theorem call_effect (client : AsyncClient threadNum User Callback Response)
    {caller : Caller threadNum User} {address : Nat} (callback : Callback) (timeoutInMs : Int)
    (free : client.frames caller = none) (vacant : client.heap address = none) :
    client.Effect (.call caller address callback timeoutInMs)
      (client.call caller address callback timeoutInMs).client
      (client.call caller address callback timeoutInMs).events := by
  unfold call pick?
  by_cases positive : 0 < threadNum
  · rw [dif_pos positive]
    exact .call caller address callback timeoutInMs _ free vacant rfl
  · rw [dif_neg positive]
    exact .noThread _ (Nat.eq_zero_of_not_pos positive)

theorem startCall_effect (client : AsyncClient threadNum User Callback Response)
    {caller : Caller threadNum User} {frame : CallFrame threadNum}
    (begun : client.frames caller = some frame) :
    client.Effect (.startCall caller) (client.startCall caller frame).client
      (client.startCall caller frame).events := by
  unfold startCall
  cases lives : client.heap frame.call with
  | none => exact .dangling _ frame.call lives ⟨frame, begun, rfl⟩
  | some call =>
      cases accepts : (client.cqs frame.cq).closed with
      | true => exact .shutDown caller frame begun accepts
      | false => exact .startCall caller frame call begun lives accepts

theorem next_effect (client : AsyncClient threadNum User Callback Response)
    {index : Fin threadNum} (place : client.threads index = .waiting)
    (answer : Option (Nat × Bool)) :
    client.Effect (.next index answer) (client.next index answer) [] := by
  cases answer with
  | none => exact .leave index place
  | some entry => exact .take index entry.1 entry.2 place

theorem shutdown_effect (client : AsyncClient threadNum User Callback Response) {index : Nat}
    (place : client.destructor = .shutting index) :
    client.Effect .shutdown (client.shutdown index) [] := by
  unfold shutdown
  by_cases inRange : index < threadNum
  · rw [dif_pos inRange]
    exact .close ⟨index, inRange⟩ place
  · rw [dif_neg inRange]
    exact .finishLoop index place (Nat.le_of_not_lt inRange)

theorem act_effect (client : AsyncClient threadNum User Callback Response)
    (step : Step threadNum User Callback Response) :
    client.Effect step (client.act step).client (client.act step).events := by
  cases step with
  | call caller address callback timeoutInMs =>
      simp only [act]
      split
      next allowed =>
        exact client.call_effect callback timeoutInMs allowed.2.1
          (Option.isNone_iff_eq_none.mp allowed.2.2)
      next => exact .none _
  | startCall caller =>
      simp only [act]
      cases begun : client.frames caller with
      | none => exact .none _
      | some frame => exact client.startCall_effect begun
  | finish cq address ok response status =>
      simp only [act, finish]
      cases lives : client.heap address with
      | none => exact .dangling _ address lives rfl
      | some call => exact .finish cq address ok response status call lives
  | next index answer =>
      simp only [act]
      cases place : client.threads index with
      | waiting => exact client.next_effect place answer
      | got | inCallback | ended => exact .none _
  | processed index =>
      simp only [act]
      cases place : client.threads index with
      | got address ok =>
          simp only [processed]
          cases lives : client.heap address with
          | none => exact .dangling _ address lives ⟨ok, place⟩
          | some call => exact .processed index address ok call place lives
      | waiting | inCallback | ended => exact .none _
  | delete index =>
      simp only [act]
      cases place : client.threads index with
      | inCallback address =>
          simp only
          split
          next returned =>
            unfold delete
            cases lives : client.heap address with
            | none => exact .dangling _ address lives place
            | some call => exact .delete index address call place returned lives
          next => exact .none _
      | waiting | got | ended => exact .none _
  | destroy =>
      simp only [act]
      cases place : client.destructor with
      | alive => exact .destroy place
      | shutting | joining | returned => exact .none _
  | shutdown =>
      simp only [act]
      cases place : client.destructor with
      | shutting index => exact client.shutdown_effect place
      | alive | joining | returned => exact .none _
  | join =>
      simp only [act]
      cases place : client.destructor with
      | joining index =>
          simp only
          split
          next ended => exact .join index place ended
          next => exact .none _
      | alive | shutting | returned => exact .none _

theorem perform_effect (client : AsyncClient threadNum User Callback Response)
    (step : Step threadNum User Callback Response) :
    client.Effect step (client.perform step).client (client.perform step).events := by
  unfold perform
  cases client.crashed with
  | true => exact .none _
  | false => exact client.act_effect step

/-- What the effects keep, with the events so far, holds after every run in which gRPC keeps
its promises. -/
theorem invariant_after
    (inv : AsyncClient threadNum User Callback Response →
      List (ClientEvent threadNum Callback Response) → Prop)
    (preserve : ∀ client step later outputs events, Effect client step later events →
      client.Promised step → inv client outputs → inv later (outputs ++ events))
    {cursor : Nat} (begins : inv (start cursor) [])
    {steps : List (Step threadNum User Callback Response)} (kept : Kept cursor steps) :
    inv (after cursor steps) (history cursor steps) :=
  kept.trace_invariant inv
    (fun client outputs step holds promised =>
      preserve client step _ outputs _ (client.perform_effect step) promised holds) begins

end Effects

end AsyncClient

end Ffvms.Concrete
