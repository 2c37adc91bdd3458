/-
Threads that handle the proxies of the service.

A proxy is registered once: it waits for its SDP or has it from its registration on until
`Close` takes it out of the map.  And the locks of the service close one cycle, through
the network server: a datagram is delivered under the lock of the peers and takes the lock
of the contexts, while the callback of an invite registers its peer under the lock of the
contexts.  Neither depends on what serves a proxy, so both are stated here for any program
that says what its sections do with the proxies.
-/

import Ffvms.Concrete.ServiceThreadsSections

namespace Ffvms.Concrete

open LockProgram

/-- What the sections of a program do with the proxies, and the locks of the service among
its locks.  A section `registers?` the proxy that it hands to the producer, it has a
callback of each proxy that it `Targets` in hand, and in `Close` it `closes?` the key
that is to be erased. -/
structure ProxyProgram (Client Data Call Stage Lock : Type) [DecidableEq Client] where
  program : LockProgram Data Call Stage Lock
  scopes : program.Scopes
  service : Data → RtspService Client
  Serves : Data → Nat → Prop
  registers? : Stage → Option Nat
  Targets : Stage → Nat → Prop
  closes? : Stage → Option VideoRequest
  erases? : Stage → Option VideoRequest
  rtspServer : Lock
  proxyInfo : Lock
  client : Nat → Lock
  rtpContext : Lock
  network : Lock
  enter_neutral : ∀ {data later call stage}, program.enter data call = some (later, stage) →
    registers? stage = none ∧ closes? stage = none ∧ service later = service data ∧
      ∀ proxy, Serves later proxy ∨ Targets stage proxy → Serves data proxy
  body_succeeds : ∀ data stage,
    RtspService.Succeeds (service data) (service (program.body data stage).1)
      (fun video => ∃ next, (program.body data stage).2.next? = some next ∧
        ∃ key, closes? next = some key ∧ key.cmpStr = video.cmpStr)
      (fun video => ∃ key, erases? stage = some key ∧ video.cmpStr = key.cmpStr)
  body_serves : ∀ {data stage proxy}, Serves (program.body data stage).1 proxy →
    Serves data proxy ∨ registers? stage = some proxy ∨ Targets stage proxy
  next_targets : ∀ {data stage next proxy}, (program.body data stage).2.next? = some next →
    Targets next proxy → Serves data proxy ∨ Targets stage proxy
  next_closes : ∀ {data stage key}, closes? stage = some key →
    (∃ next, (program.body data stage).2.next? = some next ∧ closes? next = some key) ∨
      erases? stage = some key
  next_registers : ∀ {data stage next proxy}, (program.body data stage).2.next? = some next →
    registers? next = some proxy →
      registers? stage = none ∧ closes? stage = none ∧
      (rtspServer, .shared) ∈ scopes.inner stage ∧
      (∃ found, (service data).proxyAt? proxy = some found ∧ ¬found.Asked) ∧
      ∀ video info, (service (program.body data stage).1).proxies.find? video = some info →
        info.identity = proxy → info.Asked
  outer_of_registers : ∀ {stage proxy}, registers? stage = some proxy →
    (proxyInfo, .exclusive) ∈ scopes.outer stage
  outer_of_closes : ∀ {stage key}, closes? stage = some key →
    (rtspServer, .exclusive) ∈ scopes.outer stage
  registers_of_client : ∀ {stage proxy taken}, (client proxy, taken) ∈ scopes.outer stage →
    registers? stage = some proxy
  under_rtpContext : ∀ {stage taken}, (rtpContext, taken) ∈ scopes.outer stage →
    taken = .shared ∧ (program.lock? stage = some (network, .exclusive) ∨
      ∃ proxy mode, Targets stage proxy ∧ program.lock? stage = some (client proxy, mode))
  under_network : ∀ {stage taken}, (network, taken) ∈ scopes.outer stage →
    taken = .shared ∧ (program.lock? stage = some (rtpContext, .shared) ∨
      ∃ proxy mode, Targets stage proxy ∧ program.lock? stage = some (client proxy, mode))
  before_network : ∀ {stage}, program.lock? stage = some (network, .exclusive) →
    (rtpContext, .shared) ∈ scopes.outer stage

namespace ProxyProgram

variable {Client Data Call Stage Lock Thread : Type} [DecidableEq Client]
  (proxies : ProxyProgram Client Data Call Stage Lock)

/-! ### One registration for each proxy -/

def Registers (pending : Thread → Option Stage) (proxy : Nat) : Prop :=
  Somewhere pending (fun stage => proxies.registers? stage = some proxy)

def Bound (data : Data) (pending : Thread → Option Stage) (proxy : Nat) : Prop :=
  proxies.Serves data proxy ∨ Somewhere pending (fun stage => proxies.Targets stage proxy)

def Closing (pending : Thread → Option Stage) (video : VideoRequest) : Prop :=
  Somewhere pending (fun stage => ∃ key, proxies.closes? stage = some key ∧
    key.cmpStr = video.cmpStr)

structure Settled (data : Data) (pending : Thread → Option Stage) : Prop where
  speaks : ∀ video proxy, (proxies.service data).proxies.find? video = some proxy → proxy.Speaks
  fresh : ∀ video proxy, (proxies.service data).proxies.find? video = some proxy →
    proxy.identity < (proxies.service data).nextIdentity
  known : ∀ proxy, proxies.Registers pending proxy ∨ proxies.Bound data pending proxy →
    proxy < (proxies.service data).nextIdentity
  asked : ∀ video proxy, (proxies.service data).proxies.find? video = some proxy →
    proxies.Registers pending proxy.identity ∨ proxies.Bound data pending proxy.identity →
      proxy.Asked ∨ proxies.Closing pending video
  alone : ∀ proxy, proxies.Registers pending proxy → ¬proxies.Bound data pending proxy

section Settling

variable {proxies} {data later : Data} {pending next : Thread → Option Stage}

theorem settled_initial (empty : proxies.service data = RtspService.initial)
    (nobody : ∀ proxy, ¬proxies.Serves data proxy) (idle : ∀ thread, pending thread = none) :
    proxies.Settled data pending := by
  have nowhere (property : Stage → Prop) : ¬Somewhere pending property := by
    rintro ⟨thread, stage, comes, _⟩
    cases (idle thread).symm.trans comes
  have unbound (proxy : Nat) :
      ¬(proxies.Registers pending proxy ∨ proxies.Bound data pending proxy) := by
    rintro (registers | served | target)
    · exact nowhere _ registers
    · exact nobody proxy served
    · exact nowhere _ target
  have absent (video : VideoRequest) (proxy : ProxyInfo Client) :
      (proxies.service data).proxies.find? video ≠ some proxy := by
    rw [empty]
    exact nofun
  exact
    { speaks := fun video proxy located => absurd located (absent video proxy)
      fresh := fun video proxy located => absurd located (absent video proxy)
      known := fun proxy involved => absurd involved (unbound proxy)
      asked := fun video proxy located => absurd located (absent video proxy)
      alone := fun proxy registers => absurd (Or.inl registers) (unbound proxy) }

/-- The invariant goes over to a later state if every proxy that is involved then
has been involved before, or has just been asked for. -/
theorem Settled.advance {excused lost : VideoRequest → Prop}
    (settled : proxies.Settled data pending)
    (succeeds : RtspService.Succeeds (proxies.service data) (proxies.service later) excused lost)
    (involved : ∀ proxy, proxies.Registers next proxy ∨ proxies.Bound later next proxy →
      (proxies.Registers pending proxy ∨ proxies.Bound data pending proxy) ∨
        (proxy < (proxies.service data).nextIdentity ∧ ∀ video info,
          (proxies.service later).proxies.find? video = some info → info.identity = proxy →
            info.Asked))
    (alone : ∀ proxy, proxies.Registers next proxy → ¬proxies.Bound later next proxy)
    (closing : ∀ video proxy, (proxies.service later).proxies.find? video = some proxy →
      proxies.Closing pending video ∨ excused video → proxies.Closing next video) :
    proxies.Settled later next := by
  have below (proxy : Nat)
      (involves : proxies.Registers next proxy ∨ proxies.Bound later next proxy) :
      proxy < (proxies.service data).nextIdentity :=
    (involved proxy involves).elim (settled.known proxy) And.left
  refine
    { speaks := ?_
      fresh := ?_
      known := fun proxy involves => Nat.lt_of_lt_of_le (below proxy involves) succeeds.grows
      asked := ?_
      alone := alone }
  · intro video proxy located
    rcases succeeds.former video proxy located with ⟨old, found, _, keeps⟩ | ⟨speaks, _, _⟩
    · exact (keeps (settled.speaks video old found)).1
    · exact speaks
  · intro video proxy located
    rcases succeeds.former video proxy located with ⟨old, found, same, _⟩ | ⟨_, own, counter⟩
    · have older := settled.fresh video old found
      have grows := succeeds.grows
      omega
    · omega
  · intro video proxy located involves
    rcases succeeds.former video proxy located with ⟨old, found, same, keeps⟩ | ⟨_, own, _⟩
    · rcases involved proxy.identity involves with before | ⟨_, asked⟩
      · rcases settled.asked video old found (same ▸ before) with asked | closes
        · rcases (keeps (settled.speaks video old found)).2 asked with still | excuse
          · exact Or.inl still
          · exact Or.inr (closing video proxy located (Or.inr excuse))
        · exact Or.inr (closing video proxy located (Or.inl closes))
      · exact Or.inl (asked video proxy located rfl)
    · -- A new proxy has an identity that nothing is bound to.
      have older := below proxy.identity involves
      omega

variable [DecidableEq Thread] {thread : Thread} {stage : Stage}

theorem Settled.start {call : Call} (settled : proxies.Settled data pending)
    (idle : pending thread = none)
    (enters : proxies.program.enter data call = some (later, stage)) :
    proxies.Settled later (Function.update pending thread (some stage)) := by
  obtain ⟨registers, closes, service, serves⟩ := proxies.enter_neutral enters
  have registering (proxy : Nat)
      (comes : proxies.Registers (Function.update pending thread (some stage)) proxy) :
      proxies.Registers pending proxy := by
    rcases Somewhere.of_update comes with ⟨begun, same, own⟩ | ⟨other, found, _, comes, own⟩
    · cases same
      cases registers.symm.trans own
    · exact ⟨other, found, comes, own⟩
  have bound (proxy : Nat)
      (involves : proxies.Bound later (Function.update pending thread (some stage)) proxy) :
      proxies.Bound data pending proxy := by
    rcases involves with served | target
    · exact Or.inl (serves proxy (Or.inl served))
    · rcases target.of_update with ⟨begun, same, own⟩ | ⟨other, found, _, comes, own⟩
      · cases same
        exact Or.inl (serves proxy (Or.inr own))
      · exact Or.inr ⟨other, found, comes, own⟩
  have succeeds : RtspService.Succeeds (proxies.service data) (proxies.service later)
      (fun _ => False) (fun _ => False) := by
    rw [service]
    exact RtspService.Succeeds.refl _ (fun _ => id)
  refine settled.advance succeeds
    (fun proxy involves => Or.inl (involves.imp (registering proxy) (bound proxy))) ?_ ?_
  · intro proxy comes context
    exact settled.alone proxy (registering proxy comes) (bound proxy context)
  · intro video proxy _ closing
    refine Somewhere.update (closing.resolve_right id) ?_
    intro before comes _
    cases idle.symm.trans comes

theorem Settled.run (settled : proxies.Settled data pending) (here : pending thread = some stage)
    (apart : proxies.scopes.Apart pending thread stage) :
    proxies.Settled (proxies.program.body data stage).1
      (Function.update pending thread (proxies.program.body data stage).2.next?) := by
  have succeeds := proxies.body_succeeds data stage
  have bound (proxy : Nat) (involves : proxies.Bound (proxies.program.body data stage).1
      (Function.update pending thread (proxies.program.body data stage).2.next?) proxy) :
      proxies.Bound data pending proxy ∨ proxies.registers? stage = some proxy := by
    rcases involves with served | target
    · rcases proxies.body_serves served with before | registers | target
      · exact Or.inl (Or.inl before)
      · exact Or.inr registers
      · exact Or.inl (Or.inr ⟨thread, stage, here, target⟩)
    · left
      rcases target.of_update with ⟨after, follows, own⟩ | ⟨other, found, _, comes, own⟩
      · rcases proxies.next_targets follows own with served | target
        · exact Or.inl served
        · exact Or.inr ⟨thread, stage, here, target⟩
      · exact Or.inr ⟨other, found, comes, own⟩
  refine settled.advance succeeds ?_ ?_ ?_
  · rintro proxy (registers | involves)
    · rcases Somewhere.of_update registers with
        ⟨after, follows, own⟩ | ⟨other, found, _, comes, own⟩
      · obtain ⟨_, _, _, ⟨found, located, _⟩, asked⟩ := proxies.next_registers follows own
        obtain ⟨key, there, same⟩ := RtspService.proxyAt?_eq_some located
        exact Or.inr ⟨same ▸ settled.fresh key found there, asked⟩
      · exact Or.inl (Or.inl ⟨other, found, comes, own⟩)
    · rcases bound proxy involves with before | registers
      · exact Or.inl (Or.inr before)
      · exact Or.inl (Or.inl ⟨thread, stage, here, registers⟩)
  · intro proxy registers involves
    rcases Somewhere.of_update registers with
      ⟨after, follows, own⟩ | ⟨other, begun, different, comes, own⟩
    · obtain ⟨plain, opens, holds, ⟨found, located, silent⟩, _⟩ :=
        proxies.next_registers follows own
      obtain ⟨key, there, same⟩ := RtspService.proxyAt?_eq_some located
      have before := (bound proxy involves).resolve_right (by rw [plain]; exact nofun)
      rcases settled.asked key found there (Or.inr (same ▸ before)) with asked | closing
      · exact silent asked
      · -- `Close` would hold the lock of the servers alone.
        obtain ⟨other, erasing, comes, _, closes, _⟩ := closing
        have different : other ≠ thread := by
          rintro rfl
          cases here.symm.trans comes
          cases opens.symm.trans closes
        exact apart other erasing different comes _ _ _ holds (proxies.outer_of_closes closes)
          (LockMode.conflicts_exclusive _)
    · rcases bound proxy involves with before | registers
      · exact settled.alone proxy ⟨other, begun, comes, own⟩ before
      · -- Two registrations would both hold the lock of the map.
        exact apart other begun different comes _ _ _
          (List.mem_append_right _ (proxies.outer_of_registers registers))
          (proxies.outer_of_registers own) (LockMode.conflicts_exclusive _)
  · intro video proxy located closing
    rcases closing with before | ⟨after, follows, closes⟩
    · refine Somewhere.update before ?_
      rintro erasing comes ⟨key, own, same⟩
      cases here.symm.trans comes
      rcases proxies.next_closes own with ⟨after, follows, closes⟩ | erases
      · exact ⟨after, follows, key, closes, same⟩
      · rw [succeeds.erased video ⟨key, erases, same.symm⟩] at located
        cases located
    · exact ⟨thread, after, (Function.update_self _ _ _).trans follows, closes⟩

end Settling

/-! ### The states of a run -/

structure Regular (state : ThreadState Thread Data Stage Lock) : Prop
    extends proxies.scopes.Orderly state where
  settled : proxies.Settled state.data (fun thread => (state.points thread).pending?)

section States

variable {proxies} {state : ThreadState Thread Data Stage Lock}

theorem regular_initial {data : Data} (empty : proxies.service data = RtspService.initial)
    (nobody : ∀ proxy, ¬proxies.Serves data proxy) :
    proxies.Regular (ThreadState.initial data : ThreadState Thread Data Stage Lock) :=
  { proxies.scopes.orderly_initial data with
    settled := settled_initial empty nobody (fun _ => rfl) }

variable [Fintype Thread] [DecidableEq Thread] [DecidableEq Lock]

theorem Regular.step (regular : proxies.Regular state) (step : ThreadStep Thread Call) :
    proxies.Regular (proxies.program.perform state step) := by
  refine ⟨regular.toOrderly.perform step, pending_step proxies.Settled regular.settled ?_ ?_⟩
  · intro thread call data stage idle enters
    exact regular.settled.start (by rw [idle]; rfl) enters
  · intro thread stage place
    exact regular.settled.run (by rw [place]; rfl) (regular.toOrderly.apart place)

end States

/-! ### The cycle through the network server -/

/-- The delivery of a datagram waits for the contexts behind a writer. -/
structure Backlog (state : ThreadState Thread Data Stage Lock) (deliverer writer : Thread) :
    Prop where
  delivers : state.Waits proxies.program deliverer proxies.rtpContext .shared
  holds : (proxies.network, .shared) ∈ state.held deliverer
  writes : state.Waits proxies.program writer proxies.rtpContext .exclusive
  ahead : [writer, deliverer].Sublist (state.queues proxies.rtpContext)

/-- Meanwhile the callback of an invite waits to register its peer. -/
structure Crossing (state : ThreadState Thread Data Stage Lock)
    (caller deliverer writer : Thread) : Prop where
  calls : state.Waits proxies.program caller proxies.network .exclusive
  backlog : proxies.Backlog state deliverer writer

section Deadlock

variable {proxies} {state : ThreadState Thread Data Stage Lock} {thread : Thread}
  {threads : Set Thread} {lock : Lock} {mode taken : LockMode}

theorem Crossing.deadlocked {caller deliverer writer : Thread} (regular : proxies.Regular state)
    (crossing : proxies.Crossing state caller deliverer writer) :
    state.Deadlocked proxies.program {caller, deliverer, writer} := by
  obtain ⟨calls, delivers, holds, writes, ahead⟩ := crossing
  refine ⟨⟨caller, Or.inl rfl⟩, ?_⟩
  rintro thread (rfl | rfl | rfl)
  · exact ⟨deliverer, Or.inr (Or.inl rfl), _, _, calls,
      Or.inl ⟨.shared, holds, LockMode.conflicts_exclusive _⟩⟩
  · refine ⟨writer, Or.inr (Or.inr rfl), _, _, delivers, Or.inr ?_⟩
    exact ⟨.exclusive, writes, (LockMode.conflicts_exclusive _).symm, ahead⟩
  · -- The caller is before `registerPeer`, under the shared lock of the contexts.
    obtain ⟨stage, _, wants, held⟩ := regular.stage_of_waits calls
    refine ⟨caller, Or.inl rfl, _, _, writes, Or.inl ⟨.shared, ?_, LockMode.conflicts_exclusive _⟩⟩
    rw [held]
    exact proxies.before_network wants

/-- A callback does not wait for the lock of its client in a deadlock: the holder would be
about to register a proxy that is registered already. -/
theorem not_waits_client {stage : Stage} {proxy : Nat} (regular : proxies.Regular state)
    (deadlocked : state.Deadlocked proxies.program threads) (within : thread ∈ threads)
    (place : state.points thread = .entering stage) (target : proxies.Targets stage proxy) :
    ¬state.Waits proxies.program thread (proxies.client proxy) mode := by
  intro waits
  obtain ⟨holder, holderWithin, taken, held⟩ :=
    regular.toOrderly.exists_holder deadlocked within waits
  obtain ⟨holding, _, _, holderPlace, _, _, outer⟩ :=
    regular.stage_of_deadlocked deadlocked holderWithin
  rw [outer] at held
  have registers : proxies.Registers (fun thread => (state.points thread).pending?) proxy :=
    ⟨holder, holding, congrArg Point.pending? holderPlace, proxies.registers_of_client held⟩
  exact regular.settled.alone proxy registers
    (Or.inr ⟨thread, stage, congrArg Point.pending? place, target⟩)

theorem waits_network (regular : proxies.Regular state)
    (deadlocked : state.Deadlocked proxies.program threads) (within : thread ∈ threads)
    (held : (proxies.rtpContext, taken) ∈ state.held thread) :
    taken = .shared ∧ state.Waits proxies.program thread proxies.network .exclusive := by
  obtain ⟨stage, lock, mode, place, wants, waits, outer⟩ :=
    regular.stage_of_deadlocked deadlocked within
  rw [outer] at held
  obtain ⟨rfl, network | ⟨proxy, asked, target, client⟩⟩ := proxies.under_rtpContext held
  · cases wants.symm.trans network
    exact ⟨rfl, waits⟩
  · cases wants.symm.trans client
    exact absurd waits (not_waits_client regular deadlocked within place target)

theorem waits_rtpContext (regular : proxies.Regular state)
    (deadlocked : state.Deadlocked proxies.program threads) (within : thread ∈ threads)
    (held : (proxies.network, taken) ∈ state.held thread) :
    taken = .shared ∧ state.Waits proxies.program thread proxies.rtpContext .shared := by
  obtain ⟨stage, lock, mode, place, wants, waits, outer⟩ :=
    regular.stage_of_deadlocked deadlocked within
  rw [outer] at held
  obtain ⟨rfl, contexts | ⟨proxy, asked, target, client⟩⟩ := proxies.under_network held
  · cases wants.symm.trans contexts
    exact ⟨rfl, waits⟩
  · cases wants.symm.trans client
    exact absurd waits (not_waits_client regular deadlocked within place target)

theorem crossing_of_waits (regular : proxies.Regular state)
    (deadlocked : state.Deadlocked proxies.program threads) (within : thread ∈ threads)
    (waits : state.Waits proxies.program thread proxies.rtpContext mode) :
    ∃ caller deliverer writer, proxies.Crossing state caller deliverer writer := by
  obtain ⟨caller, callerWithin, _, contexts⟩ :=
    regular.toOrderly.exists_holder deadlocked within waits
  obtain ⟨_, calls⟩ := waits_network regular deadlocked callerWithin contexts
  obtain ⟨deliverer, delivererWithin, _, peers⟩ :=
    regular.toOrderly.exists_holder deadlocked callerWithin calls
  obtain ⟨rfl, delivers⟩ := waits_rtpContext regular deadlocked delivererWithin peers
  obtain ⟨writer, writerWithin, _, _, again, blocks⟩ := deadlocked.2 deliverer delivererWithin
  obtain ⟨rfl, rfl⟩ := delivers.unique again
  rcases blocks with ⟨taken, held, conflict⟩ | ⟨asked, writes, conflict, ahead⟩
  · -- Nobody waits while it holds the contexts exclusively.
    have shared := (waits_network regular deadlocked writerWithin held).1
    exact absurd ⟨shared, rfl⟩ conflict
  · cases LockMode.eq_exclusive_of_conflicts conflict
    exact ⟨caller, deliverer, writer, calls, delivers, peers, writes, ahead⟩

end Deadlock

end ProxyProgram

end Ffvms.Concrete
