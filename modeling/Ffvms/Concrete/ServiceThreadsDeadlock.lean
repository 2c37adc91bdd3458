/-
Deadlocks of the service threads.

The locks of the service are taken in an order that goes down to the lock of the
RTP contexts.  The network server closes a cycle: a datagram is delivered under the
lock of the peers and takes the lock of the contexts, and the callback of an invite
registers its peer under the lock of the contexts.  Both take the contexts shared,
so that they wait for each other only if a third thread, which asks for the
contexts exclusively, has come between them.
-/

import Ffvms.Concrete.ServiceThreadsInvariant

namespace Ffvms.Concrete

open LockProgram

variable {Client Thread : Type} [DecidableEq Client]

/-! ### The order of the locks -/

omit [DecidableEq Client] in
theorem ServiceStage.eq_handlePacket {stage : ServiceStage Client} {mode taken : LockMode}
    (held : (.network, taken) ∈ stage.outer) (wants : stage.lock? = some (.rtpContext, mode)) :
    ∃ context packets, stage = .handlePacket context packets := by
  cases stage with
  | handlePacket context packets => exact ⟨context, packets, rfl⟩
  | registerVideo video target => cases target <;> simp [outer] at held
  | unregisterVideo video closing => cases closing <;> simp [outer] at held
  | inviteCallback => cases held
  | _ => cases wants

namespace ServiceLock

def rank : ServiceLock → Nat
  | .rtspServer => 3
  | .proxyInfo | .network => 2
  | .client _ => 1
  | .rtpContext => 0

omit [DecidableEq Client] in
theorem rank_lt {stage : ServiceStage Client} {lock other : ServiceLock} {mode taken : LockMode}
    (held : (lock, taken) ∈ stage.outer) (wants : stage.lock? = some (other, mode)) :
    lock = .rtpContext ∨ other.rank < lock.rank := by
  cases stage with
  | registerVideo video target =>
      cases target with
      | none => cases held
      | some proxy =>
          cases wants
          simp only [ServiceStage.outer, List.mem_cons, Prod.mk.injEq, List.not_mem_nil,
            or_false] at held
          rcases held with ⟨rfl, _⟩ | ⟨rfl, _⟩ | ⟨rfl, _⟩ <;> simp [rank]
  | unregisterVideo video closing =>
      cases closing with
      | false => cases held
      | true =>
          cases wants
          simp only [ServiceStage.outer, List.mem_cons, Prod.mk.injEq, List.not_mem_nil,
            or_false] at held
          rcases held with ⟨rfl, _⟩ | ⟨rfl, _⟩ <;> simp [rank]
  | onOptionsClients | onDescribeClients | consumePkt =>
      cases wants
      simp only [ServiceStage.outer, List.mem_cons, Prod.mk.injEq, List.not_mem_nil,
        or_false] at held
      rcases held with ⟨rfl, _⟩ | ⟨rfl, _⟩ <;> simp [rank]
  | accept | readcb | errorcb | inviteCallback | datagram => cases held
  | onPlay | eraseProxy => cases wants
  | _ =>
      cases wants
      simp only [ServiceStage.outer, List.mem_singleton, Prod.mk.injEq] at held
      simp [held.1, rank]

end ServiceLock

namespace ServiceThreads

/-! ### The cycle -/

variable {state : ServiceThreads Thread Client}

theorem backlog_iff {deliverer writer : Thread} : serviceProxies.Backlog state deliverer writer ↔
    state.Waits serviceProgram deliverer .rtpContext .shared ∧
      (.network, .shared) ∈ state.held deliverer ∧
      state.Waits serviceProgram writer .rtpContext .exclusive ∧
      [writer, deliverer].Sublist (state.queues .rtpContext) :=
  ⟨fun ⟨delivers, holds, writes, ahead⟩ => ⟨delivers, holds, writes, ahead⟩,
    fun ⟨delivers, holds, writes, ahead⟩ => ⟨delivers, holds, writes, ahead⟩⟩

theorem crossing_iff {caller deliverer writer : Thread} :
    serviceProxies.Crossing state caller deliverer writer ↔
      state.Waits serviceProgram caller .network .exclusive ∧
        serviceProxies.Backlog state deliverer writer :=
  ⟨fun ⟨calls, backlog⟩ => ⟨calls, backlog⟩, fun ⟨calls, backlog⟩ => ⟨calls, backlog⟩⟩

theorem crossing_of_deadlocked {threads : Set Thread} (regular : Regular state)
    (deadlocked : state.Deadlocked serviceProgram threads) :
    ∃ caller deliverer writer, serviceProxies.Crossing state caller deliverer writer := by
  obtain ⟨waiter, within, _, _, rfl, waits⟩ :=
    deadlocked.exists_waits ServiceLock.rank (· = .rtpContext) regular.queued (by
      intro thread lock taken other mode held waits
      obtain ⟨stage, _, wants, outer⟩ := regular.stage_of_waits waits
      exact ServiceLock.rank_lt (outer ▸ held) wants)
  exact ProxyProgram.crossing_of_waits regular.toRegular deadlocked within waits

theorem deadlocked_iff (regular : Regular state) :
    (∃ threads, state.Deadlocked serviceProgram threads) ↔
      ∃ caller deliverer writer, serviceProxies.Crossing state caller deliverer writer := by
  constructor
  · rintro ⟨threads, deadlocked⟩
    exact crossing_of_deadlocked regular deadlocked
  · rintro ⟨caller, deliverer, writer, crossing⟩
    exact ⟨_, crossing.deadlocked regular.toRegular⟩

/-! ### The requests that close the cycle -/

/-- `registerPeer` asks for the peers while a delivery waits behind a writer, or a
delivery asks for the contexts behind a writer while `registerPeer` waits. -/
def Crosses (state : ServiceThreads Thread Client) (thread : Thread) : Prop :=
  match state.points thread with
  | .entering (.registerPeer _ _) =>
      ∃ deliverer writer, serviceProxies.Backlog state deliverer writer
  | .entering (.handlePacket _ _) =>
      thread ∉ state.queues .rtpContext ∧
        (∃ caller, state.Waits serviceProgram caller .network .exclusive) ∧
        ∃ writer, state.Waits serviceProgram writer .rtpContext .exclusive
  | _ => False

def Uncrossed (state : ServiceThreads Thread Client) :
    ThreadStep Thread (ThreadCall Client) → Prop
  | .request thread => ¬state.Crosses thread
  | _ => True

section Steps

variable [Fintype Thread] [DecidableEq Thread]
  {step : ThreadStep Thread (ThreadCall Client)} {caller deliverer writer : Thread}

omit [Fintype Thread] [DecidableEq Thread] in
theorem crossing_of_moves {later : ServiceThreads Thread Client} {mover : Thread}
    (moves : Moves state later mover)
    (crossing : serviceProxies.Crossing later caller deliverer writer) :
    serviceProxies.Crossing state caller deliverer writer := by
  obtain ⟨calls, delivers, holds, writes, ahead⟩ := crossing
  have stays : deliverer ≠ mover := by
    rintro rfl
    exact moves.gone _ delivers.1
  rw [moves.held deliverer stays] at holds
  exact ⟨(moves.waits calls.1).mp calls, (moves.waits delivers.1).mp delivers, holds,
    (moves.waits writes.1).mp writes, ahead.trans (moves.fewer _)⟩

omit [Fintype Thread] [DecidableEq Thread] in
theorem ahead_of_concat {first second last : Thread} {queue : List Thread}
    (ahead : [first, second].Sublist (queue ++ [last])) :
    [first, second].Sublist queue ∨ (second = last ∧ first ∈ queue) := by
  have backwards := ahead.reverse
  rw [List.reverse_append] at backwards
  rcases List.sublist_cons_iff.mp backwards with old | ⟨front, split, rest⟩
  · exact Or.inl (List.reverse_sublist.mp old)
  · cases split
    exact Or.inr ⟨rfl, List.mem_reverse.mp (rest.subset List.mem_cons_self)⟩

omit [Fintype Thread] [DecidableEq Thread] in
theorem crossing_of_request {thread : Thread} {lock : ServiceLock} (regular : Regular state)
    (new : thread ∉ state.queues lock)
    (crossing : serviceProxies.Crossing
      { state with queues := Function.update state.queues lock (state.queues lock ++ [thread]) }
      caller deliverer writer) :
    serviceProxies.Crossing state caller deliverer writer ∨ state.Crosses thread := by
  rw [crossing_iff, backlog_iff] at crossing
  obtain ⟨⟨inPeers, calls⟩, ⟨inContexts, delivers⟩, holds, ⟨before, writes⟩, ahead⟩ := crossing
  simp only [Function.update_apply] at inPeers calls inContexts delivers holds before writes ahead
  by_cases contexts : lock = .rtpContext
  · subst contexts
    rw [if_neg (by decide)] at inPeers
    rw [if_pos rfl] at ahead
    rcases ahead_of_concat ahead with old | ⟨rfl, earlier⟩
    · left
      refine ⟨⟨inPeers, calls⟩, ⟨?_, delivers⟩, holds, ⟨?_, writes⟩, old⟩
      · exact old.subset (List.mem_cons_of_mem _ List.mem_cons_self)
      · exact old.subset List.mem_cons_self
    · -- The delivery has just asked, so the writer and the caller were there.
      right
      obtain ⟨stage, place, wants⟩ := delivers
      have fits := regular.fits deliverer
      rw [place] at fits
      rw [(fits : state.held deliverer = _)] at holds
      obtain ⟨context, packets, rfl⟩ := ServiceStage.eq_handlePacket holds wants
      unfold Crosses
      rw [place]
      exact ⟨new, ⟨caller, inPeers, calls⟩, writer, earlier, writes⟩
  · rw [if_neg (Ne.symm contexts)] at inContexts before ahead
    have backlog : serviceProxies.Backlog state deliverer writer :=
      ⟨⟨inContexts, delivers⟩, holds, ⟨before, writes⟩, ahead⟩
    split_ifs at inPeers with peers
    · rcases List.mem_append.mp inPeers with old | last
      · exact Or.inl (crossing_iff.mpr ⟨⟨peers ▸ old, calls⟩, backlog⟩)
      · -- `registerPeer` has just asked, so the backlog was there.
        right
        cases List.mem_singleton.mp last
        obtain ⟨stage, place, wants⟩ := calls
        obtain ⟨peer, context, rfl⟩ := ServiceStage.eq_registerPeer wants
        unfold Crosses
        rw [place]
        exact ⟨deliverer, writer, backlog⟩
    · exact Or.inl ⟨⟨inPeers, calls⟩, backlog⟩

/-- A step that does not cross leads to no new cycle. -/
theorem crossing_step (regular : Regular state) (uncrossed : state.Uncrossed step)
    (crossing :
      serviceProxies.Crossing (serviceProgram.perform state step) caller deliverer writer) :
    serviceProxies.Crossing state caller deliverer writer := by
  rcases (queues_step regular.queued : serviceProgram.perform state step = state ∨ _ ∨ _) with
    same | ⟨thread, stage, lock, mode, rfl, place, wants, new, same⟩ | ⟨mover, moves⟩
  · rwa [same] at crossing
  · rw [same] at crossing
    exact (crossing_of_request regular new crossing).resolve_right uncrossed
  · exact crossing_of_moves moves crossing

theorem crossing_of_crosses {thread : Thread} (regular : Regular state)
    (crosses : state.Crosses thread) : ∃ caller deliverer writer,
      serviceProxies.Crossing (serviceProgram.perform state (.request thread)) caller deliverer
        writer := by
  unfold Crosses at crosses
  split at crosses
  next peer context place =>
    obtain ⟨deliverer, writer, delivers, holds, writes, ahead⟩ := crosses
    refine ⟨thread, deliverer, writer, crossing_iff.mpr ?_⟩
    simp only [perform, place, serviceProgram, ServiceStage.lock?]
    split_ifs with queued
    · exact ⟨⟨queued, _, place, rfl⟩, delivers, holds, writes, ahead⟩
    · refine ⟨⟨?_, _, place, rfl⟩, delivers, holds, writes, ahead⟩
      simp only [Function.update_self]
      exact List.mem_append_right _ (List.mem_singleton_self _)
  next context packets place =>
    obtain ⟨new, ⟨caller, calls⟩, writer, writes⟩ := crosses
    have fits := regular.fits thread
    rw [place] at fits
    refine ⟨caller, thread, writer, crossing_iff.mpr ⟨?_, backlog_iff.mpr ?_⟩⟩
    all_goals simp only [perform, place, serviceProgram, ServiceStage.lock?, if_neg new]
    · exact calls
    refine ⟨⟨?_, _, place, rfl⟩, ?_, ⟨?_, writes.2⟩, ?_⟩
    · simp only [Function.update_self]
      exact List.mem_append_right _ (List.mem_singleton_self _)
    · rw [(fits : state.held thread = _)]
      exact List.mem_singleton_self _
    · simp only [Function.update_self]
      exact List.mem_append_left _ writes.1
    · simp only [Function.update_self]
      exact (List.singleton_sublist.mpr writes.1).append (List.Sublist.refl [thread])
  next => exact crosses.elim

theorem uncrossed_of_next (regular : Regular state)
    (clear : ¬∃ caller deliverer writer,
      serviceProxies.Crossing (serviceProgram.perform state step) caller deliverer writer) :
    state.Uncrossed step := by
  cases step with
  | request thread =>
      intro crosses
      exact clear (crossing_of_crosses regular crosses)
  | start | acquire | run | release => trivial

end Steps

end ServiceThreads

end Ffvms.Concrete
