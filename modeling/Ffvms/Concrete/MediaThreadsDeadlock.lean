/-
Deadlocks of the media threads.

`mFileContextMutex` and the callbacks of the frame timers are below the locks of the
service.  What is taken under them is the lock of a client only, by a callback to a proxy
that has been registered, and whoever waits with that lock is about to register the
proxy.  So the file videos close no cycle of their own, and a deadlock is still the one
through the network server.
-/

import Ffvms.Concrete.ServiceThreadsDeadlock
import Ffvms.Concrete.MediaThreadsFrames

namespace Ffvms.Concrete

open LockProgram

variable {Client Thread : Type} [DecidableEq Client]

namespace MediaStage

/-! ### The order of the locks -/

variable {stage : MediaStage Client} {wanted : MediaLock} {mode taken : LockMode}

def CallsBack (stage : MediaStage Client) (wanted : MediaLock × LockMode) : Prop :=
  ∃ proxy mode, stage.Targets proxy ∧ wanted = (.service (.client proxy), mode)

omit [DecidableEq Client] in
theorem under_event {context : Nat} (held : (.event context, taken) ∈ stage.outer)
    (wants : stage.lock? = some (wanted, mode)) : stage.CallsBack (wanted, mode) := by
  cases stage with
  | service stage => simp [outer] at held
  | framePkt context proxy =>
      cases wants
      exact ⟨proxy, .shared, rfl, rfl⟩
  | frameEnd => cases wants
  | registerFile video target => cases target <;> simp [outer, describing] at held
  | unregisterFile video inClose => cases inClose <;> simp [outer, closing] at held
  | deleteEvent _ video => cases video <;> simp [outer, closing] at held
  | _ => simp [outer, closing] at held

omit [DecidableEq Client] in
theorem under_fileContext (held : (.fileContext, taken) ∈ stage.outer)
    (wants : stage.lock? = some (wanted, mode)) :
    (∃ context, wanted = .event context) ∨ stage.CallsBack (wanted, mode) := by
  cases stage with
  | service stage => simp [outer] at held
  | deleteEvent context | replaceEvent context =>
      cases wants
      exact Or.inl ⟨context, rfl⟩
  | fileSdp task probe proxy =>
      cases wants
      exact Or.inr ⟨proxy, .exclusive, Or.inl rfl, rfl⟩
  | eraseClosed | startFile => cases wants
  | registerFile video target => cases target <;> simp [outer, describing] at held
  | unregisterFile video inClose => cases inClose <;> simp [outer, closing] at held
  | _ => simp [outer] at held

end MediaStage

namespace MediaLock

def rank : MediaLock → Nat
  | .service lock => lock.rank
  | .fileContext | .event _ => 0

def Low (lock : MediaLock) : Prop :=
  lock = .service .rtpContext ∨ lock = .fileContext ∨ ∃ context, lock = .event context

theorem low_or_pos (lock : MediaLock) : lock.Low ∨ 0 < lock.rank := by
  cases lock with
  | service lock =>
      cases lock with
      | rtpContext => exact Or.inl (Or.inl rfl)
      | _ => exact Or.inr (by simp [rank, ServiceLock.rank])
  | fileContext => exact Or.inl (Or.inr (Or.inl rfl))
  | event context => exact Or.inl (Or.inr (Or.inr ⟨context, rfl⟩))

omit [DecidableEq Client] in
theorem rank_lt {stage : MediaStage Client} {lock other : MediaLock} {mode taken : LockMode}
    (held : (lock, taken) ∈ stage.outer) (wants : stage.lock? = some (other, mode)) :
    lock.Low ∨ other.rank < lock.rank := by
  cases stage with
  | service stage =>
      obtain ⟨_, member, same⟩ := List.mem_map.mp held
      cases same
      obtain ⟨_, asks, same⟩ := Option.map_eq_some_iff.mp wants
      cases same
      exact (ServiceLock.rank_lt member asks).imp_left (fun contexts => Or.inl (by rw [contexts]))
  | fileSdp =>
      cases List.mem_singleton.mp held
      exact Or.inl (Or.inr (Or.inl rfl))
  | framePkt context =>
      cases List.mem_singleton.mp held
      exact Or.inl (Or.inr (Or.inr ⟨context, rfl⟩))
  | eraseClosed | startFile | frameEnd => cases wants
  | _ =>
      -- A lock at the bottom is asked for.
      cases wants
      exact lock.low_or_pos

end MediaLock

namespace MediaThreads

/-! ### The cycle -/

section States

variable {state : MediaThreads Thread Client} {thread : Thread} {taken : LockMode}
  {threads : Set Thread}

theorem not_calls_back {stage : MediaStage Client} {lock : MediaLock} {mode : LockMode}
    (regular : mediaProxies.Regular state) (deadlocked : state.Deadlocked mediaProgram threads)
    (within : thread ∈ threads) (place : state.points thread = .entering stage)
    (waits : state.Waits mediaProgram thread lock mode) : ¬stage.CallsBack (lock, mode) := by
  rintro ⟨proxy, asked, target, same⟩
  cases same
  exact ProxyProgram.not_waits_client regular deadlocked within place target waits

theorem not_holds_event {context : Nat} (regular : mediaProxies.Regular state)
    (deadlocked : state.Deadlocked mediaProgram threads) (within : thread ∈ threads) :
    (.event context, taken) ∉ state.held thread := by
  intro held
  obtain ⟨stage, lock, mode, place, wants, waits, outer⟩ :=
    regular.stage_of_deadlocked deadlocked within
  rw [outer] at held
  exact not_calls_back regular deadlocked within place waits
    (MediaStage.under_event held wants)

theorem not_holds_fileContext (regular : mediaProxies.Regular state)
    (deadlocked : state.Deadlocked mediaProgram threads) (within : thread ∈ threads) :
    (.fileContext, taken) ∉ state.held thread := by
  intro held
  obtain ⟨stage, lock, mode, place, wants, waits, outer⟩ :=
    regular.stage_of_deadlocked deadlocked within
  rw [outer] at held
  rcases MediaStage.under_fileContext held wants with ⟨context, rfl⟩ | callback
  · obtain ⟨holder, holderWithin, _, timer⟩ :=
      regular.toOrderly.exists_holder deadlocked within waits
    exact not_holds_event regular deadlocked holderWithin timer
  · exact not_calls_back regular deadlocked within place waits callback

theorem crossing_of_deadlocked (regular : mediaProxies.Regular state)
    (deadlocked : state.Deadlocked mediaProgram threads) :
    ∃ caller deliverer writer, mediaProxies.Crossing state caller deliverer writer := by
  obtain ⟨waiter, within, lock, mode, low, waits⟩ :=
    deadlocked.exists_waits MediaLock.rank MediaLock.Low regular.queued (by
      intro thread lock taken other mode held waits
      obtain ⟨stage, _, wants, outer⟩ := regular.stage_of_waits waits
      exact MediaLock.rank_lt (outer ▸ held) wants)
  obtain ⟨holder, holderWithin, taken, held⟩ :=
    regular.toOrderly.exists_holder deadlocked within waits
  rcases low with rfl | rfl | ⟨context, rfl⟩
  · exact ProxyProgram.crossing_of_waits regular deadlocked within waits
  · exact absurd held (not_holds_fileContext regular deadlocked holderWithin)
  · exact absurd held (not_holds_event regular deadlocked holderWithin)

end States

section Runs

variable [Fintype Thread] [DecidableEq Thread]

/-- The thread holds `mFileContextMutex` or is in the callback of a frame timer. -/
def HoldsFiles (state : MediaThreads Thread Client) (thread : Thread) : Prop :=
  ∃ taken ∈ state.held thread, taken.1 = .fileContext ∨ ∃ context, taken.1 = .event context

omit [Fintype Thread] [DecidableEq Thread] in
theorem not_deadlocked_of_holdsFiles {state : MediaThreads Thread Client} {thread : Thread}
    (regular : mediaProxies.Regular state) (holds : state.HoldsFiles thread) {threads : Set Thread}
    (deadlocked : state.Deadlocked mediaProgram threads) : thread ∉ threads := by
  intro within
  obtain ⟨⟨lock, taken⟩, member, rfl | ⟨context, rfl⟩⟩ := holds
  · exact not_holds_fileContext regular deadlocked within member
  · exact not_holds_event regular deadlocked within member

end Runs

end MediaThreads

end Ffvms.Concrete
