/-
What holds in every state of the media threads.

Their sections do with the proxies what `ProxyProgram` asks for: the argument of the
service threads does not depend on what a registration serves.
-/

import Ffvms.Concrete.ServiceThreadsInvariant
import Ffvms.Concrete.MediaThreadsSections

namespace Ffvms.Concrete

open LockProgram

variable {Client Thread : Type} [DecidableEq Client]

theorem MediaData.asked_of_describe {data : MediaData Client} {client : Client}
    {video key : VideoRequest} {proxy : Nat} {found info : ProxyInfo Client}
    (located : data.service.proxyAt? proxy = some found)
    (there : OrderedMap.find?
      (data.body (.service (.onDescribeClients client video proxy))).1.service.proxies key =
        some info) (own : info.identity = proxy) : info.Asked := by
  simp only [body, located, describeMedia] at there
  split_ifs at there
  · change (data.service.writeProxy proxy (fun info => info.described client)).proxies.find? key =
      some info at there
    rw [RtspService.writeProxy_find?] at there
    obtain ⟨old, _, rfl⟩ := Option.map_eq_some_iff.mp there
    split_ifs at own ⊢ with same
    · exact old.asked_described client
    · exact absurd own same
  · have plain : OrderedMap.find?
        (data.toSharedData.body (.onDescribeClients client video proxy)).1.service.proxies key =
          some info := by
      simp only [SharedData.body, located]
      exact there
    exact ServiceThreads.asked_of_describe located plain own

namespace MediaStage

/-! ### The locks around a section -/

variable {stage : MediaStage Client} {lock : ServiceLock} {taken : LockMode}

omit [DecidableEq Client] in
theorem mem_outer_service {stage : ServiceStage Client}
    (held : (.service lock, taken) ∈ (MediaStage.service stage).outer) :
    (lock, taken) ∈ stage.outer := by
  obtain ⟨pair, member, same⟩ := List.mem_map.mp held
  cases same
  exact member

omit [DecidableEq Client] in
theorem lock?_service {stage : ServiceStage Client} {mode : LockMode}
    (wants : stage.lock? = some (lock, mode)) :
    (MediaStage.service stage).lock? = some (.service lock, mode) := by
  rw [lock?, wants]
  rfl

omit [DecidableEq Client] in
theorem outer_of_registers {proxy : Nat} (registers : stage.registers? = some proxy) :
    (.service .proxyInfo, .exclusive) ∈ stage.outer := by
  cases stage with
  | service stage => exact List.mem_map_of_mem (ServiceStage.outer_of_registers registers)
  | registerFile video target =>
      cases registers
      exact List.mem_cons_of_mem _ List.mem_cons_self
  | _ => cases registers

omit [DecidableEq Client] in
theorem outer_of_closes {key : VideoRequest} (closes : stage.closes? = some key) :
    (.service .rtspServer, .exclusive) ∈ stage.outer := by
  cases stage with
  | service stage => exact List.mem_map_of_mem (ServiceStage.outer_of_closes closes)
  | unregisterFile video inClose =>
      cases inClose
      · cases closes
      · simp [outer, closing]
  | deleteEvent context video =>
      cases video
      · cases closes
      · simp [outer, closing]
  | eraseClosed => simp [outer, closing]
  | _ => cases closes

omit [DecidableEq Client] in
theorem registers_of_client {proxy : Nat}
    (held : (.service (.client proxy), taken) ∈ stage.outer) : stage.registers? = some proxy := by
  cases stage with
  | service stage => exact ServiceStage.registers_of_client (mem_outer_service held)
  | registerFile video target =>
      cases target with
      | none => cases held
      | some own =>
          simp only [outer, Option.elim, describing, List.mem_cons, Prod.mk.injEq,
            MediaLock.service.injEq, ServiceLock.client.injEq, reduceCtorEq, false_and,
            List.not_mem_nil, or_false] at held
          rw [held.1]
          rfl
  | unregisterFile video inClose => cases inClose <;> simp [outer, closing] at held
  | deleteEvent context video => cases video <;> simp [outer, closing] at held
  | _ => simp [outer, closing] at held

omit [DecidableEq Client] in
theorem eq_service (held : (.service lock, taken) ∈ stage.outer)
    (lower : lock = .rtpContext ∨ lock = .network) :
    ∃ inner, stage = .service inner ∧ (lock, taken) ∈ inner.outer := by
  cases stage with
  | service stage => exact ⟨stage, rfl, mem_outer_service held⟩
  | registerFile video target =>
      rcases lower with rfl | rfl <;> cases target <;> simp [outer, describing] at held
  | unregisterFile video inClose =>
      rcases lower with rfl | rfl <;> cases inClose <;> simp [outer, closing] at held
  | deleteEvent context video =>
      rcases lower with rfl | rfl <;> cases video <;> simp [outer, closing] at held
  | _ => rcases lower with rfl | rfl <;> simp [outer, closing] at held

end MediaStage

def mediaProxies : ProxyProgram Client (MediaData Client) (MediaCall Client) (MediaStage Client)
    MediaLock :=
  { program := mediaProgram
    scopes := mediaScopes
    service := fun data => data.service
    Serves := MediaData.Serves
    registers? := MediaStage.registers?
    Targets := MediaStage.Targets
    closes? := MediaStage.closes?
    erases? := MediaStage.erases?
    rtspServer := .service .rtspServer
    proxyInfo := .service .proxyInfo
    client := fun proxy => .service (.client proxy)
    rtpContext := .service .rtpContext
    network := .service .network
    enter_neutral := MediaData.enter_neutral
    body_succeeds := MediaData.body_succeeds
    body_serves := MediaData.body_serves
    next_targets := fun follows own => (MediaData.media_next follows).targets own
    next_closes := MediaData.media_next_closes
    next_registers := by
      intro data stage next proxy follows registers
      obtain ⟨client, video, found, rfl, located, silent⟩ :=
        (MediaData.media_next follows).registers registers
      refine ⟨rfl, rfl, ?_, ⟨found, located, silent⟩, ?_⟩
      · simp [Scopes.inner, mediaScopes, MediaStage.outer, ServiceStage.outer]
      · intro key info there own
        exact MediaData.asked_of_describe located there own
    outer_of_registers := MediaStage.outer_of_registers
    outer_of_closes := MediaStage.outer_of_closes
    registers_of_client := MediaStage.registers_of_client
    under_rtpContext := by
      intro stage taken held
      obtain ⟨inner, rfl, within⟩ := MediaStage.eq_service held (Or.inl rfl)
      obtain ⟨shared, network | ⟨proxy, mode, target, client⟩⟩ :=
        ServiceStage.under_rtpContext within
      · exact ⟨shared, Or.inl (MediaStage.lock?_service network)⟩
      · exact ⟨shared, Or.inr ⟨proxy, mode, target, MediaStage.lock?_service client⟩⟩
    under_network := by
      intro stage taken held
      obtain ⟨inner, rfl, within⟩ := MediaStage.eq_service held (Or.inr rfl)
      obtain ⟨shared, contexts | ⟨proxy, mode, target, client⟩⟩ :=
        ServiceStage.under_network within
      · exact ⟨shared, Or.inl (MediaStage.lock?_service contexts)⟩
      · exact ⟨shared, Or.inr ⟨proxy, mode, target, MediaStage.lock?_service client⟩⟩
    before_network := by
      intro stage wants
      cases stage with
      | service inner =>
          obtain ⟨⟨asked, how⟩, asks, same⟩ := Option.map_eq_some_iff.mp wants
          cases same
          obtain ⟨peer, context, rfl⟩ := ServiceStage.eq_registerPeer asks
          exact List.mem_singleton_self _
      | _ => cases wants }

namespace MediaThreads

theorem regular_initial (config : ProducerConfig) :
    mediaProxies.Regular (initial config : MediaThreads Thread Client) := by
  refine mediaProxies.regular_initial rfl ?_
  rintro proxy (⟨address, cell, found, _⟩ | ⟨context, member, _⟩ | ⟨serial, task, found, _⟩)
  · cases found
  · cases member
  · cases found

end MediaThreads

end Ffvms.Concrete
