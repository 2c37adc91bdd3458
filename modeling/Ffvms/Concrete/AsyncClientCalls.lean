/-
What becomes of the calls of an `AsyncClient`.

Every live call object is in one place: in the frame of the `Call` that made it, in the
completion queue it was started on, or in the hands of the thread of that queue.  From this
it follows, if gRPC keeps its promises, that no thread follows a dangling pointer and that
every callback runs once, with the response and the status that the RPC delivered.
-/

import Ffvms.Concrete.AsyncClient

namespace Ffvms.Concrete

def ClientThread.hand : ClientThread → List Nat
  | .got call _ | .inCallback call => [call]
  | .waiting | .ended => []

/-- What the thread has taken from its queue and not yet passed to `Processed`. -/
def ClientThread.taken : ClientThread → List (Nat × Bool)
  | .got call ok => [(call, ok)]
  | .waiting | .inCallback _ | .ended => []

theorem ClientThread.mem_hand_of_taken {thread : ClientThread} {entry : Nat × Bool}
    (member : entry ∈ thread.taken) : entry.1 ∈ thread.hand := by
  cases thread with
  | got call ok =>
      rw [List.mem_singleton.mp member]
      exact List.mem_singleton.mpr rfl
  | waiting | inCallback | ended => cases member

namespace AsyncClient

variable {threadNum : Nat} {User Callback Response : Type}

/-! ### Custody of the call objects -/

def reader? (client : AsyncClient threadNum User Callback Response) (address : Nat) :
    Option (Option (Fin threadNum)) :=
  (client.heap address).map (·.reader)

def held (client : AsyncClient threadNum User Callback Response) (index : Fin threadNum) :
    List Nat :=
  (client.cqs index).tags ++ (client.threads index).hand

/-- A call that has been started is referred to once, by the queue of its reader or by the
thread of that queue; one that has not been started belongs to one frame. -/
structure Custody (client : AsyncClient threadNum User Callback Response) : Prop where
  owned : ∀ address index,
    address ∈ client.held index ↔ client.reader? address = some (some index)
  unique : ∀ index, (client.held index).Nodup
  loose : ∀ address, client.reader? address = some none ↔
    ∃ caller frame, client.frames caller = some frame ∧ frame.call = address
  apart : ∀ caller other first second, client.frames caller = some first →
    client.frames other = some second → first.call = second.call → caller = other

section Changes

variable {client later : AsyncClient threadNum User Callback Response}

theorem custody_start (cursor : Nat) :
    Custody (start cursor : AsyncClient threadNum User Callback Response) := by
  refine ⟨?_, ?_, ?_, ?_⟩
  · intro address index
    simp [held, reader?, start, ClientThread.hand]
  · intro index
    exact List.nodup_nil
  · intro address
    simp [reader?, start]
  · intro caller other first second begun
    cases begun

theorem Custody.of_same (custody : Custody client) (frames : later.frames = client.frames)
    (readers : ∀ address, later.reader? address = client.reader? address)
    (same : ∀ index, (later.held index).Perm (client.held index)) : Custody later := by
  refine ⟨?_, ?_, ?_, ?_⟩
  · intro address index
    rw [(same index).mem_iff, readers]
    exact custody.owned address index
  · intro index
    exact (same index).nodup_iff.mpr (custody.unique index)
  · intro address
    rw [readers, frames]
    exact custody.loose address
  · rw [frames]
    exact custody.apart

theorem reader?_store_self (address : Nat)
    (call : Option (GeneralAsyncClientCall threadNum Callback Response)) :
    (client.store address call).reader? address = call.map (·.reader) := by
  simp only [reader?, store, Function.update_self]

theorem reader?_store_of_ne {address other : Nat} (different : other ≠ address)
    (call : Option (GeneralAsyncClientCall threadNum Callback Response)) :
    (client.store address call).reader? other = client.reader? other := by
  simp only [reader?, store, Function.update_of_ne different]

theorem reader?_store_same {address : Nat}
    {before call : GeneralAsyncClientCall threadNum Callback Response}
    (lives : client.heap address = some before) (reader : call.reader = before.reader)
    (other : Nat) : (client.store address (some call)).reader? other = client.reader? other := by
  by_cases here : other = address
  · subst here
    rw [reader?_store_self, reader?, lives, Option.map_some, Option.map_some, reader]
  · exact reader?_store_of_ne here _

theorem held_setThread (index : Fin threadNum) (thread : ClientThread) :
    (client.setThread index thread).held index = (client.cqs index).tags ++ thread.hand := by
  simp only [held, setThread, Function.update_self]

theorem held_setThread_same {index : Fin threadNum} {thread : ClientThread}
    (hand : thread.hand = (client.threads index).hand) (other : Fin threadNum) :
    (client.setThread index thread).held other = client.held other := by
  by_cases here : other = index
  · subst here
    rw [held_setThread, hand]
    rfl
  · simp only [held, setThread, Function.update_of_ne here]

theorem held_setCq_perm {index : Fin threadNum} {cq : CompletionQueue Nat}
    (tags : cq.tags.Perm (client.cqs index).tags) (other : Fin threadNum) :
    ((client.setCq index cq).held other).Perm (client.held other) := by
  by_cases here : other = index
  · subst here
    simp only [held, setCq, Function.update_self]
    exact tags.append_right _
  · simp only [held, setCq, Function.update_of_ne here]
    exact List.Perm.refl _

theorem held_take {index : Fin threadNum} {address : Nat} {ok : Bool}
    (place : client.threads index = .waiting)
    (ready : (address, ok) ∈ (client.cqs index).ready) (other : Fin threadNum) :
    (((client.setCq index ((client.cqs index).handOut (address, ok))).setThread index
      (.got address ok)).held other).Perm (client.held other) := by
  by_cases here : other = index
  · subst here
    simp only [held, setCq, setThread, Function.update_self, place, ClientThread.hand,
      List.append_nil]
    refine List.Perm.trans ?_ (CompletionQueue.tags_handOut ready).symm
    exact List.perm_append_comm
  · simp only [held, setCq, setThread, Function.update_of_ne here]
    exact List.Perm.refl _

variable [DecidableEq User]

theorem setFrame_eq_some_iff (caller other : Caller threadNum User)
    (frame : Option (CallFrame threadNum)) (found : CallFrame threadNum) :
    (client.setFrame caller frame).frames other = some found ↔
      (other = caller ∧ frame = some found) ∨
        (other ≠ caller ∧ client.frames other = some found) := by
  by_cases here : other = caller
  · subst here
    simp only [setFrame, Function.update_self, true_and, ne_eq, not_true_eq_false, false_and,
      or_false]
  · simp only [setFrame, Function.update_of_ne here, here, false_and, ne_eq, not_false_eq_true,
      true_and, false_or]

theorem Custody.call [Inhabited Response] (custody : Custody client)
    {caller : Caller threadNum User} {address : Nat} (callback : Callback) (timeoutInMs : Int)
    (cq : Fin threadNum) (free : client.frames caller = none)
    (vacant : client.heap address = none) :
    Custody (((client.store address (some (.create client.calls callback))).fetchAdd).setFrame
      caller (some ⟨address, cq, timeoutInMs⟩)) := by
  have absent : client.reader? address = none := by rw [reader?, vacant]; rfl
  have unframed (other : Caller threadNum User) (frame : CallFrame threadNum)
      (begun : client.frames other = some frame) : frame.call ≠ address := by
    intro same
    cases absent.symm.trans ((custody.loose address).mpr ⟨other, frame, begun, same⟩)
  refine ⟨?_, custody.unique, ?_, ?_⟩
  · intro other index
    refine (custody.owned other index).trans ?_
    change _ ↔ (client.store address _).reader? other = _
    by_cases here : other = address
    · subst here
      rw [absent, reader?_store_self]
      simp [GeneralAsyncClientCall.create]
    · rw [reader?_store_of_ne here]
  · intro other
    change (client.store address _).reader? other = _ ↔ _
    simp only [setFrame_eq_some_iff]
    by_cases here : other = address
    · subst here
      rw [reader?_store_self]
      exact ⟨fun _ => ⟨caller, _, Or.inl ⟨rfl, rfl⟩, rfl⟩, fun _ => rfl⟩
    · rw [reader?_store_of_ne here, custody.loose other]
      constructor
      · rintro ⟨thread, frame, begun, same⟩
        have different : thread ≠ caller := by
          rintro rfl
          cases free.symm.trans begun
        exact ⟨thread, frame, Or.inr ⟨different, begun⟩, same⟩
      · rintro ⟨thread, frame, ⟨_, made⟩ | ⟨_, begun⟩, same⟩
        · cases made
          exact absurd same.symm here
        · exact ⟨thread, frame, begun, same⟩
  · intro thread other first second firstBegun secondBegun same
    rw [setFrame_eq_some_iff] at firstBegun secondBegun
    rcases firstBegun with ⟨rfl, made⟩ | ⟨_, begun⟩ <;>
      rcases secondBegun with ⟨own, madeToo⟩ | ⟨_, begunToo⟩
    · exact own.symm
    · cases made
      exact absurd same.symm (unframed other second begunToo)
    · cases madeToo
      exact absurd same (unframed thread first begun)
    · exact custody.apart thread other first second begun begunToo same

theorem Custody.startCall (custody : Custody client) {caller : Caller threadNum User}
    {frame : CallFrame threadNum} (call : GeneralAsyncClientCall threadNum Callback Response)
    (begun : client.frames caller = some frame) :
    Custody (((client.store frame.call (some (call.startCall frame.cq frame.timeoutInMs))).setCq
      frame.cq ((client.cqs frame.cq).enqueue frame.call)).setFrame caller none) := by
  have loose := (custody.loose frame.call).mpr ⟨caller, frame, begun, rfl⟩
  have unheld (index : Fin threadNum) : frame.call ∉ client.held index := by
    intro member
    cases loose.symm.trans ((custody.owned frame.call index).mp member)
  have held_self : ((client.setCq frame.cq
      ((client.cqs frame.cq).enqueue frame.call)).held frame.cq) =
        frame.call :: client.held frame.cq := by
    simp only [held, setCq, Function.update_self, CompletionQueue.tags_enqueue, List.cons_append]
  have held_other {index : Fin threadNum} (different : index ≠ frame.cq) :
      (client.setCq frame.cq ((client.cqs frame.cq).enqueue frame.call)).held index =
        client.held index := by
    simp only [held, setCq, Function.update_of_ne different]
  refine ⟨?_, ?_, ?_, ?_⟩
  · intro address index
    change address ∈ (client.setCq _ _).held index ↔ (client.store frame.call _).reader? address = _
    by_cases here : address = frame.call
    · subst here
      rw [reader?_store_self]
      by_cases own : index = frame.cq
      · subst own
        rw [held_self]
        exact ⟨fun _ => rfl, fun _ => List.mem_cons_self⟩
      · rw [held_other own]
        refine ⟨fun member => absurd member (unheld index), fun reader => ?_⟩
        cases reader
        exact absurd rfl own
    · rw [reader?_store_of_ne here, ← custody.owned address index]
      by_cases own : index = frame.cq
      · subst own
        rw [held_self, List.mem_cons, or_iff_right here]
      · rw [held_other own]
  · intro index
    change ((client.setCq _ _).held index).Nodup
    by_cases own : index = frame.cq
    · subst own
      rw [held_self]
      exact List.nodup_cons.mpr ⟨unheld frame.cq, custody.unique frame.cq⟩
    · rw [held_other own]
      exact custody.unique index
  · intro address
    change (client.store frame.call _).reader? address = _ ↔ _
    simp only [setFrame_eq_some_iff, reduceCtorEq, and_false, false_or]
    by_cases here : address = frame.call
    · subst here
      rw [reader?_store_self]
      refine ⟨fun reader => (by cases reader), ?_⟩
      rintro ⟨other, found, ⟨different, held⟩, same⟩
      exact absurd (custody.apart other caller found frame held begun same) different
    · rw [reader?_store_of_ne here, custody.loose address]
      constructor
      · rintro ⟨other, found, held, same⟩
        refine ⟨other, found, ⟨?_, held⟩, same⟩
        rintro rfl
        cases begun.symm.trans held
        exact here same.symm
      · rintro ⟨other, found, ⟨_, held⟩, same⟩
        exact ⟨other, found, held, same⟩
  · intro thread other first second firstBegun secondBegun same
    rw [setFrame_eq_some_iff] at firstBegun secondBegun
    rcases firstBegun with ⟨_, made⟩ | ⟨_, first⟩
    · cases made
    rcases secondBegun with ⟨_, made⟩ | ⟨_, second⟩
    · cases made
    exact custody.apart thread other _ _ first second same

omit [DecidableEq User] in
/-- Nothing refers to an object that has been deleted. -/
theorem Custody.delete (custody : Custody client) {index : Fin threadNum} {address : Nat}
    (place : client.threads index = .inCallback address) :
    Custody ((client.store address none).setThread index .waiting) := by
  have held_self : client.held index =
      ((client.store address none).setThread index .waiting).held index ++ [address] := by
    simp only [held, setThread, store, Function.update_self, place, ClientThread.hand,
      List.append_nil]
  have held_other {other : Fin threadNum} (different : other ≠ index) :
      ((client.store address none).setThread index .waiting).held other = client.held other := by
    simp only [held, setThread, store, Function.update_of_ne different]
  have reader : client.reader? address = some (some index) := by
    refine (custody.owned address index).mp ?_
    rw [held_self]
    exact List.mem_append_right _ List.mem_cons_self
  have unique := custody.unique index
  rw [held_self] at unique
  have gone : address ∉ ((client.store address none).setThread index .waiting).held index :=
    fun member => List.disjoint_of_nodup_append unique member List.mem_cons_self
  refine ⟨?_, ?_, ?_, custody.apart⟩
  · intro found other
    change _ ↔ (client.store address none).reader? found = _
    by_cases here : found = address
    · subst here
      rw [reader?_store_self]
      refine ⟨fun member => ?_, fun absent => (by cases absent)⟩
      by_cases own : other = index
      · subst own
        exact absurd member gone
      · rw [held_other own, custody.owned found other, reader] at member
        cases member
        exact absurd rfl own
    · rw [reader?_store_of_ne here, ← custody.owned found other]
      by_cases own : other = index
      · subst own
        rw [held_self, List.mem_append, List.mem_singleton, or_iff_left here]
      · rw [held_other own]
  · intro other
    by_cases own : other = index
    · subst own
      exact unique.of_append_left
    · rw [held_other own]
      exact custody.unique other
  · intro found
    change (client.store address none).reader? found = _ ↔ _
    by_cases here : found = address
    · subst here
      rw [reader?_store_self]
      refine ⟨fun absent => (by cases absent), fun framed => ?_⟩
      cases reader.symm.trans ((custody.loose found).mpr framed)
    · rw [reader?_store_of_ne here]
      exact custody.loose found

theorem custody_effect [Inhabited Response] {step : Step threadNum User Callback Response}
    {events : List (ClientEvent threadNum Callback Response)}
    (effect : client.Effect step later events) (promised : client.Promised step)
    (custody : Custody client) : Custody later := by
  cases effect with
  | none => exact custody
  | noThread | dangling | shutDown =>
      exact custody.of_same rfl (fun _ => rfl) (fun _ => List.Perm.refl _)
  | call caller address callback timeoutInMs cq free vacant =>
      exact custody.call callback timeoutInMs cq free vacant
  | startCall caller frame call begun lives => exact custody.startCall call begun
  | finish cq address ok response status call lives =>
      refine custody.of_same rfl (reader?_store_same lives rfl) ?_
      exact held_setCq_perm (CompletionQueue.tags_complete promised ok)
  | take index address ok place =>
      exact custody.of_same rfl (fun _ => rfl) (held_take place (promised place))
  | leave index place =>
      have same : ∀ other, (client.setThread index .ended).held other = client.held other :=
        held_setThread_same (congrArg ClientThread.hand place).symm
      exact custody.of_same rfl (fun _ => rfl) (fun other => .of_eq (same other))
  | processed index address ok call place lives =>
      have same : ∀ other, ((client.store address (some call.processed)).setThread index
          (.inCallback address)).held other = client.held other :=
        held_setThread_same (congrArg ClientThread.hand place).symm
      exact custody.of_same rfl (reader?_store_same lives rfl) (fun other => .of_eq (same other))
  | delete index address call place returned lives => exact custody.delete place
  | destroy | finishLoop | join =>
      exact custody.of_same rfl (fun _ => rfl) (fun _ => List.Perm.refl _)
  | close index =>
      refine custody.of_same rfl (fun _ => rfl) ?_
      exact held_setCq_perm (List.Perm.refl _)

end Changes

/-! ### What has happened to each call -/

def calledSerials (events : List (ClientEvent threadNum Callback Response)) : List Nat :=
  events.filterMap fun
    | .called serial _ _ _ => some serial
    | .picked _ _ _ | .started _ _ | .finished _ _ _ _ | .deleted _ | .fault _ => none

@[simp] theorem calledSerials_append
    (first second : List (ClientEvent threadNum Callback Response)) :
    calledSerials (first ++ second) = calledSerials first ++ calledSerials second :=
  List.filterMap_append

def serial? (client : AsyncClient threadNum User Callback Response) (address : Nat) :
    Option Nat :=
  (client.heap address).map (·.serial)

def InCallback (client : AsyncClient threadNum User Callback Response) (address : Nat) : Prop :=
  ∃ index, client.threads index = .inCallback address

/-- A call that has picked a queue has its callback before it or behind it: its object lives
until the callback has been run, and no callback is run twice. -/
structure Ledger (client : AsyncClient threadNum User Callback Response)
    (events : List (ClientEvent threadNum Callback Response)) : Prop where
  numbered : ∀ address serial, client.serial? address = some serial → serial < client.calls
  distinct : ∀ address other serial, client.serial? address = some serial →
    client.serial? other = some serial → address = other
  once : (calledSerials events).Nodup
  known : ∀ serial ∈ calledSerials events, serial < client.calls
  called_iff : ∀ address serial, client.serial? address = some serial →
    (serial ∈ calledSerials events ↔ client.InCallback address)
  kept : ∀ serial < client.calls, serial ∈ calledSerials events ∨
    ∃ address, client.serial? address = some serial

section Ledgers

variable {client later : AsyncClient threadNum User Callback Response}
  {outputs events : List (ClientEvent threadNum Callback Response)}

theorem ledger_start (cursor : Nat) :
    Ledger (start cursor : AsyncClient threadNum User Callback Response) [] := by
  refine ⟨?_, ?_, List.nodup_nil, ?_, ?_, ?_⟩
  · intro address serial found
    cases found
  · intro address other serial found
    cases found
  · intro serial member
    cases member
  · intro address serial found
    cases found
  · intro serial below
    cases below

theorem Ledger.of_same (ledger : Ledger client outputs) (calls : later.calls = client.calls)
    (serials : ∀ address, later.serial? address = client.serial? address)
    (running : ∀ address, later.InCallback address ↔ client.InCallback address)
    (silent : calledSerials events = []) : Ledger later (outputs ++ events) := by
  refine ⟨?_, ?_, ?_, ?_, ?_, ?_⟩ <;>
    simp only [calledSerials_append, silent, List.append_nil, calls, serials, running]
  · exact ledger.numbered
  · exact ledger.distinct
  · exact ledger.once
  · exact ledger.known
  · exact ledger.called_iff
  · exact ledger.kept

theorem serial?_store_self (address : Nat)
    (call : Option (GeneralAsyncClientCall threadNum Callback Response)) :
    (client.store address call).serial? address = call.map (·.serial) := by
  simp only [serial?, store, Function.update_self]

theorem serial?_store_of_ne {address other : Nat} (different : other ≠ address)
    (call : Option (GeneralAsyncClientCall threadNum Callback Response)) :
    (client.store address call).serial? other = client.serial? other := by
  simp only [serial?, store, Function.update_of_ne different]

theorem serial?_store_same {address : Nat}
    {before call : GeneralAsyncClientCall threadNum Callback Response}
    (lives : client.heap address = some before) (serial : call.serial = before.serial)
    (other : Nat) : (client.store address (some call)).serial? other = client.serial? other := by
  by_cases here : other = address
  · subst here
    rw [serial?_store_self, serial?, lives, Option.map_some, Option.map_some, serial]
  · exact serial?_store_of_ne here _

theorem inCallback_setThread_iff {index : Fin threadNum} {thread : ClientThread}
    (before : ∀ address, client.threads index ≠ .inCallback address)
    (next : ∀ address, thread ≠ .inCallback address) (address : Nat) :
    (client.setThread index thread).InCallback address ↔ client.InCallback address := by
  constructor
  · rintro ⟨other, place⟩
    by_cases here : other = index
    · subst here
      simp only [setThread, Function.update_self] at place
      exact absurd place (next address)
    · simp only [setThread, Function.update_of_ne here] at place
      exact ⟨other, place⟩
  · rintro ⟨other, place⟩
    have here : other ≠ index := by
      rintro rfl
      exact before address place
    refine ⟨other, ?_⟩
    simp only [setThread, Function.update_of_ne here]
    exact place

theorem Ledger.call [DecidableEq User] [Inhabited Response] (ledger : Ledger client outputs)
    {address : Nat} {callback : Callback} {cq : Fin threadNum} (caller : Caller threadNum User)
    (frame : CallFrame threadNum) (vacant : client.heap address = none)
    (custody : Custody client) :
    Ledger (((client.store address (some (.create client.calls callback))).fetchAdd).setFrame
      caller (some frame)) (outputs ++ [.picked client.calls callback cq]) := by
  have idle : ¬ client.InCallback address := by
    rintro ⟨index, place⟩
    have member : address ∈ client.held index := by
      simp only [held, place, ClientThread.hand, List.mem_append, List.mem_singleton, or_true]
    have reader := (custody.owned address index).mp member
    rw [reader?, vacant] at reader
    cases reader
  have fresh : client.calls ∉ calledSerials outputs :=
    fun member => Nat.lt_irrefl _ (ledger.known _ member)
  have silent : calledSerials (outputs ++ [.picked client.calls callback cq]) =
      calledSerials outputs := by
    rw [calledSerials_append]
    exact List.append_nil _
  have serials (other : Nat) :
      (((client.store address (some (.create client.calls callback))).fetchAdd).setFrame
        caller (some frame)).serial? other =
          if other = address then some client.calls else client.serial? other := by
    change (client.store address _).serial? other = _
    split
    next here => rw [here, serial?_store_self]; rfl
    next here => exact serial?_store_of_ne here _
  refine ⟨?_, ?_, ?_, ?_, ?_, ?_⟩
  · intro other serial
    rw [serials]
    split
    next =>
      rintro ⟨⟩
      exact Nat.lt_succ_self _
    next => exact fun found => Nat.lt_succ_of_lt (ledger.numbered other serial found)
  · intro first second serial
    rw [serials, serials]
    split <;> split
    next here there => exact fun _ _ => here.trans there.symm
    next =>
      rintro ⟨⟩ found
      exact absurd (ledger.numbered second _ found) (Nat.lt_irrefl _)
    next =>
      rintro found ⟨⟩
      exact absurd (ledger.numbered first _ found) (Nat.lt_irrefl _)
    next => exact ledger.distinct first second serial
  · rw [silent]
    exact ledger.once
  · rw [silent]
    exact fun serial member => Nat.lt_succ_of_lt (ledger.known serial member)
  · intro other serial
    rw [serials, silent]
    split
    next here =>
      rintro ⟨⟩
      subst here
      exact iff_of_false fresh idle
    next => exact ledger.called_iff other serial
  · intro serial below
    rw [silent]
    rcases Nat.lt_succ_iff_lt_or_eq.mp below with old | rfl
    · refine (ledger.kept serial old).imp_right ?_
      rintro ⟨other, found⟩
      refine ⟨other, ?_⟩
      rw [serials, if_neg, found]
      rintro rfl
      rw [serial?, vacant] at found
      cases found
    · exact Or.inr ⟨address, (serials address).trans (if_pos rfl)⟩

theorem Ledger.processed (ledger : Ledger client outputs) {index : Fin threadNum} {address : Nat}
    {ok : Bool} {call : GeneralAsyncClientCall threadNum Callback Response}
    (place : client.threads index = .got address ok) (lives : client.heap address = some call)
    (custody : Custody client) :
    Ledger ((client.store address (some call.processed)).setThread index (.inCallback address))
      (outputs ++ [.called call.serial call.callback call.response (call.processedStatus ok)]) := by
  have member : address ∈ client.held index := by
    simp only [held, place, ClientThread.hand, List.mem_append, List.mem_singleton, or_true]
  have idle : ¬ client.InCallback address := by
    rintro ⟨other, running⟩
    have also : address ∈ client.held other := by
      simp only [held, running, ClientThread.hand, List.mem_append, List.mem_singleton, or_true]
    -- A reader has one queue, whose thread does one thing at a time.
    cases ((custody.owned address index).mp member).symm.trans
      ((custody.owned address other).mp also)
    cases place.symm.trans running
  have own : client.serial? address = some call.serial := by rw [serial?, lives]; rfl
  have fresh : call.serial ∉ calledSerials outputs :=
    fun found => idle ((ledger.called_iff address call.serial own).mp found)
  have called : calledSerials (outputs ++
      [.called call.serial call.callback call.response (call.processedStatus ok)]) =
        calledSerials outputs ++ [call.serial] :=
    calledSerials_append _ _
  have serials : ∀ other, ((client.store address (some call.processed)).setThread index
      (.inCallback address)).serial? other = client.serial? other :=
    serial?_store_same lives rfl
  have running (other : Nat) : ((client.store address (some call.processed)).setThread index
      (.inCallback address)).InCallback other ↔ other = address ∨ client.InCallback other := by
    constructor
    · rintro ⟨thread, there⟩
      by_cases here : thread = index
      · subst here
        simp only [setThread, Function.update_self, ClientThread.inCallback.injEq] at there
        exact Or.inl there.symm
      · simp only [setThread, Function.update_of_ne here] at there
        exact Or.inr ⟨thread, there⟩
    · rintro (rfl | ⟨thread, there⟩)
      · exact ⟨index, by simp only [setThread, Function.update_self]⟩
      · have here : thread ≠ index := by
          rintro rfl
          cases place.symm.trans there
        refine ⟨thread, ?_⟩
        simp only [setThread, Function.update_of_ne here]
        exact there
  refine ⟨?_, ?_, ?_, ?_, ?_, ?_⟩ <;> simp only [serials, called, running]
  · exact ledger.numbered
  · exact ledger.distinct
  · rw [← List.concat_eq_append]
    exact ledger.once.concat fresh
  · intro serial among
    rcases List.mem_append.mp among with old | new
    · exact ledger.known serial old
    · rw [List.mem_singleton.mp new]
      exact ledger.numbered address _ own
  · intro other serial found
    rw [List.mem_append, List.mem_singleton, ledger.called_iff other serial found, or_comm]
    refine or_congr_left ?_
    constructor
    · rintro rfl
      exact ledger.distinct other address _ found own
    · rintro rfl
      exact Option.some.inj (found.symm.trans own)
  · intro serial below
    exact (ledger.kept serial below).imp_left (List.mem_append_left _)

theorem Ledger.delete (ledger : Ledger client outputs) {index : Fin threadNum} {address : Nat}
    {call : GeneralAsyncClientCall threadNum Callback Response}
    (place : client.threads index = .inCallback address) :
    Ledger ((client.store address none).setThread index .waiting)
      (outputs ++ [.deleted call.serial]) := by
  have called : calledSerials (outputs ++ [.deleted call.serial]) = calledSerials outputs := by
    rw [calledSerials_append]
    exact List.append_nil _
  have remains {other serial : Nat}
      (found : ((client.store address none).setThread index .waiting).serial? other =
        some serial) : other ≠ address ∧ client.serial? other = some serial := by
    change (client.store address none).serial? other = some serial at found
    by_cases here : other = address
    · subst here
      rw [serial?_store_self] at found
      cases found
    · rw [serial?_store_of_ne here] at found
      exact ⟨here, found⟩
  refine ⟨?_, ?_, called ▸ ledger.once, called ▸ ledger.known, ?_, ?_⟩
  · exact fun other serial found => ledger.numbered other serial (remains found).2
  · intro first second serial found also
    exact ledger.distinct first second serial (remains found).2 (remains also).2
  · intro other serial found
    obtain ⟨different, before⟩ := remains found
    rw [called, ledger.called_iff other serial before]
    constructor
    · rintro ⟨thread, there⟩
      have here : thread ≠ index := by
        rintro rfl
        cases place.symm.trans there
        exact different rfl
      refine ⟨thread, ?_⟩
      simp only [setThread, store, Function.update_of_ne here]
      exact there
    · rintro ⟨thread, there⟩
      by_cases here : thread = index
      · subst here
        simp only [setThread, Function.update_self] at there
        cases there
      · simp only [setThread, store, Function.update_of_ne here] at there
        exact ⟨thread, there⟩
  · intro serial below
    rw [called]
    rcases ledger.kept serial below with old | ⟨other, found⟩
    · exact Or.inl old
    · by_cases here : other = address
      · subst here
        refine Or.inl ((ledger.called_iff other serial found).mpr ⟨index, place⟩)
      · refine Or.inr ⟨other, ?_⟩
        change (client.store address none).serial? other = some serial
        rw [serial?_store_of_ne here]
        exact found

theorem ledger_effect [DecidableEq User] [Inhabited Response]
    {step : Step threadNum User Callback Response} (effect : client.Effect step later events)
    (custody : Custody client) (ledger : Ledger client outputs) :
    Ledger later (outputs ++ events) := by
  have same : ∀ address, client.InCallback address ↔ client.InCallback address :=
    fun _ => Iff.rfl
  cases effect with
  | none => exact ledger.of_same rfl (fun _ => rfl) same rfl
  | noThread | dangling | shutDown => exact ledger.of_same rfl (fun _ => rfl) same rfl
  | call caller address callback timeoutInMs cq free vacant =>
      exact ledger.call caller _ vacant custody
  | startCall caller frame call begun lives =>
      exact ledger.of_same rfl (serial?_store_same lives rfl) same rfl
  | finish cq address ok response status call lives =>
      exact ledger.of_same rfl (serial?_store_same lives rfl) same rfl
  | take index address ok place =>
      refine ledger.of_same rfl (fun _ => rfl) ?_ rfl
      exact inCallback_setThread_iff (by simp [place, setCq]) (by simp)
  | leave index place =>
      refine ledger.of_same rfl (fun _ => rfl) ?_ rfl
      exact inCallback_setThread_iff (by simp [place]) (by simp)
  | processed index address ok call place lives => exact ledger.processed place lives custody
  | delete index address call place returned lives => exact ledger.delete place
  | destroy | finishLoop | join | close => exact ledger.of_same rfl (fun _ => rfl) same rfl

end Ledgers

/-! ### What the callbacks are given -/

def settled (client : AsyncClient threadNum User Callback Response) (index : Fin threadNum) :
    List (Nat × Bool) :=
  (client.cqs index).ready ++ (client.threads index).taken

def identity? (client : AsyncClient threadNum User Callback Response) (address : Nat) :
    Option (Nat × Callback) :=
  (client.heap address).map fun call => (call.serial, call.callback)

/-- The callback is the one that the call was made with, and is given what the RPC delivered.
The pointers are not null. -/
def Faithful (events : List (ClientEvent threadNum Callback Response)) (serial : Nat)
    (callback : Callback) (response : Option Response) (status : Option GrpcStatus) : Prop :=
  (∃ cq, .picked serial callback cq ∈ events) ∧
    ∃ ok delivered reported, .finished serial ok delivered reported ∈ events ∧
      response = some delivered ∧
      status = some (if ok then reported else GrpcStatus.unknownMistake)

theorem Faithful.append {outputs : List (ClientEvent threadNum Callback Response)} {serial : Nat}
    {callback : Callback} {response : Option Response} {status : Option GrpcStatus}
    (faithful : Faithful outputs serial callback response status)
    (events : List (ClientEvent threadNum Callback Response)) :
    Faithful (outputs ++ events) serial callback response status := by
  obtain ⟨⟨cq, picked⟩, ok, delivered, reported, finished, results⟩ := faithful
  exact ⟨⟨cq, List.mem_append_left _ picked⟩, ok, delivered, reported,
    List.mem_append_left _ finished, results⟩

/-- A completed call has the results of its RPC, and the callbacks that were run were given
them. -/
structure Answers (client : AsyncClient threadNum User Callback Response)
    (events : List (ClientEvent threadNum Callback Response)) : Prop where
  ready : ∀ index, ∀ entry ∈ client.settled index, ∃ call response status,
    client.heap entry.1 = some call ∧ call.response = some response ∧
      call.status = some status ∧ .finished call.serial entry.2 response status ∈ events
  named : ∀ address serial callback, client.identity? address = some (serial, callback) →
    ∃ cq, .picked serial callback cq ∈ events
  faithful : ∀ serial callback response status,
    .called serial callback response status ∈ events →
      Faithful events serial callback response status

section Answered

variable {client later : AsyncClient threadNum User Callback Response}
  {outputs events : List (ClientEvent threadNum Callback Response)}

theorem answers_start (cursor : Nat) :
    Answers (start cursor : AsyncClient threadNum User Callback Response) [] := by
  refine ⟨?_, ?_, ?_⟩
  · intro index entry member
    cases member
  · intro address serial callback found
    cases found
  · intro serial callback response status member
    cases member

theorem mem_held_of_settled {index : Fin threadNum} {entry : Nat × Bool}
    (member : entry ∈ client.settled index) : entry.1 ∈ client.held index := by
  rcases List.mem_append.mp member with ready | taken
  · exact List.mem_append_left _ (CompletionQueue.mem_tags_of_ready ready)
  · exact List.mem_append_right _ (ClientThread.mem_hand_of_taken taken)

theorem Custody.same_queue (custody : Custody client) {first second : Fin threadNum}
    {address : Nat} (member : address ∈ client.held first) (also : address ∈ client.held second) :
    first = second :=
  Option.some.inj (Option.some.inj
    (((custody.owned address first).mp member).symm.trans ((custody.owned address second).mp also)))

theorem Custody.settled_ne_outstanding (custody : Custody client) {cq index : Fin threadNum}
    {address : Nat} (begun : address ∈ (client.cqs cq).outstanding) {entry : Nat × Bool}
    (member : entry ∈ client.settled index) : entry.1 ≠ address := by
  rintro rfl
  have there : entry.1 ∈ client.held cq :=
    List.mem_append_left _ (CompletionQueue.mem_tags_of_outstanding begun)
  cases custody.same_queue there (mem_held_of_settled member)
  have unique := custody.unique cq
  rw [held, CompletionQueue.tags, List.append_assoc] at unique
  refine List.disjoint_of_nodup_append unique begun ?_
  rcases List.mem_append.mp member with ready | taken
  · exact List.mem_append_left _ (List.mem_map_of_mem ready)
  · exact List.mem_append_right _ (ClientThread.mem_hand_of_taken taken)

theorem Custody.settled_ne_hand (custody : Custody client) {index other : Fin threadNum}
    {address : Nat} (hand : address ∈ (client.threads index).hand) {entry : Nat × Bool}
    (member : entry ∈ client.settled other)
    (ready : other = index → entry ∈ (client.cqs index).ready) : entry.1 ≠ address := by
  rintro rfl
  cases custody.same_queue (List.mem_append_right _ hand) (mem_held_of_settled member)
  exact List.disjoint_of_nodup_append (custody.unique index)
    (CompletionQueue.mem_tags_of_ready (ready rfl)) hand

/-- Steps that complete no RPC and make no call: the completed calls keep their objects. -/
theorem Answers.of_same (answers : Answers client outputs)
    (settled : ∀ index, ∀ entry ∈ later.settled index,
      entry ∈ client.settled index ∧ later.heap entry.1 = client.heap entry.1)
    (identities : ∀ address, later.identity? address = none ∨
      later.identity? address = client.identity? address)
    (called : ∀ serial callback response status, .called serial callback response status ∈ events →
      Faithful outputs serial callback response status) :
    Answers later (outputs ++ events) := by
  refine ⟨?_, ?_, ?_⟩
  · intro index entry member
    obtain ⟨before, same⟩ := settled index entry member
    obtain ⟨call, response, status, lives, delivered, reported, finished⟩ :=
      answers.ready index entry before
    exact ⟨call, response, status, same.trans lives, delivered, reported,
      List.mem_append_left _ finished⟩
  · intro address serial callback found
    rcases identities address with gone | same
    · cases gone.symm.trans found
    · obtain ⟨cq, picked⟩ := answers.named address serial callback (same.symm.trans found)
      exact ⟨cq, List.mem_append_left _ picked⟩
  · intro serial callback response status member
    rcases List.mem_append.mp member with old | new
    · exact (answers.faithful serial callback response status old).append events
    · exact (called serial callback response status new).append events

theorem identity?_store (address : Nat)
    (call : Option (GeneralAsyncClientCall threadNum Callback Response)) (other : Nat) :
    (client.store address call).identity? other =
      if other = address then call.map (fun call => (call.serial, call.callback))
      else client.identity? other := by
  simp only [identity?, store, Function.update_apply]
  split <;> rfl

theorem identity?_store_same {address : Nat}
    {before call : GeneralAsyncClientCall threadNum Callback Response}
    (lives : client.heap address = some before)
    (same : (call.serial, call.callback) = (before.serial, before.callback)) (other : Nat) :
    (client.store address (some call)).identity? other = client.identity? other := by
  rw [identity?_store]
  split
  next here =>
    rw [here, identity?, lives, Option.map_some, Option.map_some, same]
  next => rfl

theorem heap_store_of_ne {address other : Nat} (different : other ≠ address)
    (call : Option (GeneralAsyncClientCall threadNum Callback Response)) :
    (client.store address call).heap other = client.heap other := by
  simp only [store, Function.update_of_ne different]

/-- When a thread is done with the completion of a call, the object of that call may change:
the other completions are about other objects. -/
theorem Custody.settled_of_done (custody : Custody client) {index : Fin threadNum}
    {address : Nat} (hand : address ∈ (client.threads index).hand) {thread : ClientThread}
    (done : thread.taken = [])
    (call : Option (GeneralAsyncClientCall threadNum Callback Response)) (other : Fin threadNum)
    {entry : Nat × Bool}
    (member : entry ∈ ((client.store address call).setThread index thread).settled other) :
    entry ∈ client.settled other ∧
      (client.store address call).heap entry.1 = client.heap entry.1 := by
  by_cases here : other = index
  · subst here
    simp only [settled, setThread, store, Function.update_self, done, List.append_nil] at member
    have before : entry ∈ client.settled other := List.mem_append_left _ member
    exact ⟨before, heap_store_of_ne (custody.settled_ne_hand hand before (fun _ => member)) _⟩
  · have before : entry ∈ client.settled other := by
      simpa only [settled, setThread, store, Function.update_of_ne here] using member
    exact ⟨before, heap_store_of_ne
      (custody.settled_ne_hand hand before (fun same => absurd same here)) _⟩

theorem Answers.finish (answers : Answers client outputs) (custody : Custody client)
    {cq : Fin threadNum} {address : Nat} {ok : Bool} {response : Response} {status : GrpcStatus}
    {call : GeneralAsyncClientCall threadNum Callback Response}
    (begun : address ∈ (client.cqs cq).outstanding) (lives : client.heap address = some call) :
    Answers ((client.store address (some (call.finish response status))).setCq cq
      ((client.cqs cq).complete address ok))
      (outputs ++ [.finished call.serial ok response status]) := by
  have identities : ∀ other, (client.store address
      (some (call.finish response status))).identity? other = client.identity? other :=
    identity?_store_same lives rfl
  have old : Answers (client.store address (some (call.finish response status)))
      (outputs ++ [.finished call.serial ok response status]) := by
    refine answers.of_same ?_ (fun other => Or.inr (identities other)) (by simp)
    intro index entry member
    exact ⟨member, heap_store_of_ne (custody.settled_ne_outstanding begun member) _⟩
  refine ⟨?_, old.named, old.faithful⟩
  intro index entry member
  have new : entry ∈ client.settled index ∨ entry = (address, ok) := by
    by_cases here : index = cq
    · subst here
      simp only [settled, setCq, store, Function.update_self, CompletionQueue.complete,
        List.mem_append, List.mem_singleton] at member ⊢
      tauto
    · simp only [settled, setCq, store, Function.update_of_ne here] at member
      exact Or.inl member
  rcases new with before | rfl
  · exact old.ready index entry before
  · refine ⟨call.finish response status, response, status, ?_, rfl, rfl, ?_⟩
    · exact Function.update_self ..
    · exact List.mem_append_right _ List.mem_cons_self

theorem Answers.processed (answers : Answers client outputs) (custody : Custody client)
    {index : Fin threadNum} {address : Nat} {ok : Bool}
    {call : GeneralAsyncClientCall threadNum Callback Response}
    (place : client.threads index = .got address ok) (lives : client.heap address = some call) :
    Answers ((client.store address (some call.processed)).setThread index (.inCallback address))
      (outputs ++
        [.called call.serial call.callback call.response (call.processedStatus ok)]) := by
  have hand : address ∈ (client.threads index).hand := by
    rw [place]
    exact List.mem_singleton.mpr rfl
  have own : (address, ok) ∈ client.settled index := by
    refine List.mem_append_right _ ?_
    rw [place]
    exact List.mem_singleton.mpr rfl
  have identities : ∀ other, (client.store address
      (some call.processed)).identity? other = client.identity? other :=
    identity?_store_same lives rfl
  refine answers.of_same ?_ (fun other => Or.inr (identities other)) ?_
  · exact fun other entry member => custody.settled_of_done hand rfl _ other member
  · intro serial callback response status member
    cases List.mem_singleton.mp member
    obtain ⟨cq, picked⟩ := answers.named address call.serial call.callback
      (by rw [identity?, lives]; rfl)
    obtain ⟨found, delivered, reported, same, given, told, finished⟩ :=
      answers.ready index (address, ok) own
    cases lives.symm.trans same
    refine ⟨⟨cq, picked⟩, ok, delivered, reported, finished, given, ?_⟩
    unfold GeneralAsyncClientCall.processedStatus
    rw [told]
    cases ok <;> rfl

theorem Answers.call [DecidableEq User] [Inhabited Response] (answers : Answers client outputs)
    {address : Nat} {callback : Callback} {cq : Fin threadNum} (caller : Caller threadNum User)
    (frame : CallFrame threadNum) (vacant : client.heap address = none) :
    Answers (((client.store address (some (.create client.calls callback))).fetchAdd).setFrame
      caller (some frame)) (outputs ++ [.picked client.calls callback cq]) := by
  refine ⟨?_, ?_, ?_⟩
  · intro index entry member
    obtain ⟨call, response, status, lives, given, told, finished⟩ :=
      answers.ready index entry member
    have different : entry.1 ≠ address := by
      intro same
      rw [same, vacant] at lives
      cases lives
    exact ⟨call, response, status, (heap_store_of_ne different _).trans lives, given, told,
      List.mem_append_left _ finished⟩
  · intro other serial found name
    change (client.store address _).identity? other = _ at name
    rw [identity?_store] at name
    split at name
    · cases name
      exact ⟨cq, List.mem_append_right _ List.mem_cons_self⟩
    · obtain ⟨queue, picked⟩ := answers.named other serial found name
      exact ⟨queue, List.mem_append_left _ picked⟩
  · intro serial found response status member
    rcases List.mem_append.mp member with old | new
    · exact (answers.faithful serial found response status old).append _
    · cases List.mem_singleton.mp new

theorem answers_effect [DecidableEq User] [Inhabited Response]
    {step : Step threadNum User Callback Response} (effect : client.Effect step later events)
    (promised : client.Promised step) (custody : Custody client)
    (answers : Answers client outputs) : Answers later (outputs ++ events) := by
  cases effect with
  | none | noThread | dangling | shutDown | destroy | finishLoop | join =>
      exact answers.of_same (fun _ _ member => ⟨member, rfl⟩) (fun _ => Or.inr rfl) (by simp)
  | call caller address callback timeoutInMs cq free vacant =>
      exact answers.call caller _ vacant
  | startCall caller frame call begun lives =>
      have identities : ∀ other, (client.store frame.call (some (call.startCall frame.cq
          frame.timeoutInMs))).identity? other = client.identity? other :=
        identity?_store_same lives rfl
      refine answers.of_same ?_ (fun other => Or.inr (identities other)) (by simp)
      intro index entry member
      have before : entry ∈ client.settled index := by
        by_cases here : index = frame.cq
        · subst here
          simpa only [settled, setFrame, setCq, store, Function.update_self,
            CompletionQueue.enqueue] using member
        · simpa only [settled, setFrame, setCq, store, Function.update_of_ne here] using member
      refine ⟨before, heap_store_of_ne ?_ _⟩
      -- The object has no reader, those of the queue have one.
      intro same
      have loose := (custody.loose frame.call).mpr ⟨caller, frame, begun, rfl⟩
      have held := (custody.owned _ index).mp (mem_held_of_settled before)
      rw [same, loose] at held
      cases held
  | finish cq address ok response status call lives =>
      exact answers.finish custody promised lives
  | take index address ok place =>
      refine answers.of_same ?_ (fun _ => Or.inr rfl) (by simp)
      intro other entry member
      refine ⟨?_, rfl⟩
      by_cases here : other = index
      · subst here
        simp only [settled, setThread, setCq, Function.update_self, CompletionQueue.handOut,
          ClientThread.taken, List.mem_append, List.mem_singleton] at member ⊢
        rcases member with left | rfl
        · exact Or.inl (List.mem_of_mem_erase left)
        · exact Or.inl (promised place)
      · simpa only [settled, setThread, setCq, Function.update_of_ne here] using member
  | leave index place =>
      refine answers.of_same ?_ (fun _ => Or.inr rfl) (by simp)
      intro other entry member
      refine ⟨?_, rfl⟩
      by_cases here : other = index
      · subst here
        simpa only [settled, setThread, Function.update_self, place, ClientThread.taken]
          using member
      · simpa only [settled, setThread, Function.update_of_ne here] using member
  | processed index address ok call place lives =>
      exact answers.processed custody place lives
  | delete index address call place returned lives =>
      have hand : address ∈ (client.threads index).hand := by
        rw [place]
        exact List.mem_singleton.mpr rfl
      refine answers.of_same ?_ (fun other => ?_) (by simp)
      · exact fun other entry member => custody.settled_of_done hand rfl none other member
      · change (client.store address none).identity? other = none ∨
          (client.store address none).identity? other = _
        rw [identity?_store]
        split
        · exact Or.inl rfl
        · exact Or.inr rfl
  | close index =>
      refine answers.of_same ?_ (fun _ => Or.inr rfl) (by simp)
      intro other entry member
      refine ⟨?_, rfl⟩
      by_cases here : other = index
      · subst here
        simpa only [settled, setDestructor, setCq, Function.update_self,
          CompletionQueue.close] using member
      · simpa only [settled, setDestructor, setCq, Function.update_of_ne here] using member

end Answered

/-! ### Runs -/

section Runs

variable {client later : AsyncClient threadNum User Callback Response}
  {outputs events : List (ClientEvent threadNum Callback Response)}

theorem Custody.not_dangling (custody : Custody client)
    {step : Step threadNum User Callback Response} (promised : client.Promised step)
    {address : Nat} (freed : client.heap address = none) : ¬client.Uses step address := by
  have absent : client.reader? address = none := by rw [reader?, freed]; rfl
  have unheld (index : Fin threadNum) : address ∉ client.held index := by
    intro member
    cases absent.symm.trans ((custody.owned address index).mp member)
  intro used
  cases step with
  | startCall caller =>
      obtain ⟨frame, begun, same⟩ := used
      cases absent.symm.trans ((custody.loose address).mpr ⟨caller, frame, begun, same⟩)
  | finish cq tag ok response status =>
      cases used
      exact unheld cq (List.mem_append_left _ (CompletionQueue.mem_tags_of_outstanding promised))
  | processed index =>
      obtain ⟨ok, place⟩ := used
      refine unheld index (List.mem_append_right _ ?_)
      rw [place]
      exact List.mem_singleton.mpr rfl
  | delete index =>
      refine unheld index (List.mem_append_right _ ?_)
      rw [(used : client.threads index = .inCallback address)]
      exact List.mem_singleton.mpr rfl
  | call | next | destroy | shutdown | join => exact used

structure Sound (client : AsyncClient threadNum User Callback Response)
    (events : List (ClientEvent threadNum Callback Response)) : Prop where
  custody : Custody client
  ledger : Ledger client events
  answers : Answers client events
  safe : .fault .danglingCall ∉ events

variable [DecidableEq User] [Inhabited Response]

theorem sound_effect {step : Step threadNum User Callback Response}
    (effect : client.Effect step later events) (promised : client.Promised step)
    (sound : Sound client outputs) : Sound later (outputs ++ events) := by
  refine ⟨custody_effect effect promised sound.custody,
    ledger_effect effect sound.custody sound.ledger,
    answers_effect effect promised sound.custody sound.answers, ?_⟩
  refine List.not_mem_append sound.safe ?_
  cases effect with
  | dangling _ address freed used => exact absurd used (sound.custody.not_dangling promised freed)
  | none | noThread | shutDown | call | startCall | finish | take | leave | processed | delete
  | destroy | close | finishLoop | join => simp

omit [DecidableEq User] [Inhabited Response] in
theorem sound_start (cursor : Nat) :
    Sound (start cursor : AsyncClient threadNum User Callback Response) [] :=
  ⟨custody_start cursor, ledger_start cursor, answers_start cursor, List.not_mem_nil⟩

theorem sound_after {cursor : Nat} {steps : List (Step threadNum User Callback Response)}
    (kept : Kept cursor steps) : Sound (after cursor steps) (history cursor steps) :=
  invariant_after Sound
    (fun _ _ _ _ _ effect promised sound => sound_effect effect promised sound)
    (sound_start cursor) kept

/-- Whatever the threads, the RPCs and the destructor do and however addresses are reused, if
gRPC keeps its promises: no callback is run twice, each is given the response and the status of
its own RPC and never a null pointer, no freed object is touched, and a call whose callback has
not been run still has its object. -/
theorem callbacks_run_once (cursor : Nat)
    (steps : List (Step threadNum User Callback Response)) (kept : Kept cursor steps) :
    (calledSerials (history cursor steps)).Nodup ∧
    (∀ serial callback response status,
      .called serial callback response status ∈ history cursor steps →
        Faithful (history cursor steps) serial callback response status) ∧
    (∀ serial < (after cursor steps).calls, serial ∈ calledSerials (history cursor steps) ∨
      ∃ address call, (after cursor steps).heap address = some call ∧ call.serial = serial) ∧
    .fault .danglingCall ∉ history cursor steps := by
  obtain ⟨_, ledger, answers, safe⟩ := sound_after kept
  refine ⟨ledger.once, answers.faithful, ?_, safe⟩
  intro serial below
  refine (ledger.kept serial below).imp_right ?_
  rintro ⟨address, found⟩
  obtain ⟨call, lives, number⟩ := Option.map_eq_some_iff.mp found
  exact ⟨address, call, lives, number⟩

/-- Two calls on one queue are answered in the other order, and a third one gets the address of
the first that is deleted. -/
def answeredOutOfOrder (only : Fin 1) : List (Step 1 Unit Nat Nat) :=
  [.call (.user ()) 10 100 0, .startCall (.user ()), .call (.user ()) 11 101 0,
    .startCall (.user ()), .finish only 11 true 7 GrpcStatus.success, .next only (some (11, true)),
    .processed only, .delete only, .call (.user ()) 11 102 0, .startCall (.user ()),
    .finish only 10 false 8 GrpcStatus.success, .next only (some (10, false)), .processed only]

theorem callbacks_run_once_out_of_order :
    calledSerials (history 0 (answeredOutOfOrder 0)) = [1, 0] ∧
    (calledSerials (history 0 (answeredOutOfOrder 0))).Nodup ∧
    (∀ serial callback response status,
      .called serial callback response status ∈ history 0 (answeredOutOfOrder 0) →
        Faithful (history 0 (answeredOutOfOrder 0)) serial callback response status) ∧
    (∀ serial < (after 0 (answeredOutOfOrder 0)).calls,
      serial ∈ calledSerials (history 0 (answeredOutOfOrder 0)) ∨
        ∃ address call, (after 0 (answeredOutOfOrder 0)).heap address = some call ∧
          call.serial = serial) ∧
    .fault .danglingCall ∉ history 0 (answeredOutOfOrder 0) :=
  ⟨by decide, callbacks_run_once 0 (answeredOutOfOrder 0) (by decide)⟩

end Runs

end AsyncClient

end Ffvms.Concrete
