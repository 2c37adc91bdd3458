/-
The handlers and the callbacks of the service are atomic, as far as their locks go.

Every state of the threads shows a state of the service in which each handler and each
callback is one step.  A handler takes its step in its last section; `Close` takes it in its
first one, when the client leaves, and the proxy that it is about to erase is no longer shown.
The sockets that errors close are left out: nothing reads them.  Of a run in which sections
overlap that no lock keeps apart, nothing is said.
-/

import Ffvms.Concrete.RtspServiceAgreement
import Ffvms.Concrete.ServiceProducerAgreement
import Ffvms.Concrete.ServiceThreadsDeliveries
import Ffvms.Concrete.ServiceThreadsRaces

namespace Ffvms.Concrete

variable {Client Thread : Type} [DecidableEq Client]

namespace ServiceStage

def effective (service : RtspService Client) : ServiceStage Client → Bool
  | .onOptions _ uri => (service.proxies.find? (VideoRequest.parseUrl uri)).isNone
  | .onOptionsClients _ _ | .onDescribeClients _ _ _ | .onPlayClients _ _ _ | .close _
  | .processSdp _ _ _ _ | .consumePkt _ _ _ => true
  | _ => false

inductive TakesEffect (service : RtspService Client) :
    ServiceStage Client → List (RtspService.Step Client) → Prop
  | create (client : Client) (uri : String)
      (absent : service.proxies.find? (VideoRequest.parseUrl uri) = none) :
      TakesEffect service (.onOptions client uri) [.options client uri]
  | join (client : Client) (uri : String) (found : ProxyInfo Client)
      (located : service.proxies.find? (VideoRequest.parseUrl uri) = some found) :
      TakesEffect service (.onOptionsClients client found.identity) [.options client uri]
  | describe (client : Client) (uri : String) (found : ProxyInfo Client)
      (located : service.proxies.find? (VideoRequest.parseUrl uri) = some found) :
      TakesEffect service
        (.onDescribeClients client (VideoRequest.parseUrl uri) found.identity)
        [.describe client uri]
  | play (client : Client) (uri : String) (npt : Option Int) (found : ProxyInfo Client)
      (located : service.proxies.find? (VideoRequest.parseUrl uri) = some found) :
      TakesEffect service (.onPlayClients client found.identity npt) [.play client uri npt]
  | close (client : Client) : TakesEffect service (.close client) [.close client]
  | sdp (proxy : Nat) (video : VideoRequest) (gb : GbInviteVideoResponse) (context : Nat) :
      TakesEffect service (.processSdp proxy video gb context)
        [.processSdp proxy (gbSdp video gb)]
  | packet (proxy : Nat) (packet : List UInt8) (rest : List (List UInt8)) :
      TakesEffect service (.consumePkt proxy packet rest) [.consumePkt proxy packet]
  | quiet (stage : ServiceStage Client) (none : stage.effective service = false) :
      TakesEffect service stage []

def Aims (service : RtspService Client) : ServiceStage Client → Prop
  | .onOptionsClients _ proxy | .onPlayClients _ proxy _ =>
      ∃ uri info, service.proxies.find? (VideoRequest.parseUrl uri) = some info ∧
        info.identity = proxy
  | .onDescribeClients _ video proxy =>
      ∃ uri info, VideoRequest.parseUrl uri = video ∧ service.proxies.find? video = some info ∧
        info.identity = proxy
  | _ => True

omit [DecidableEq Client] in
theorem Aims.of_succeeds {service later : RtspService Client} {excused lost : VideoRequest → Prop}
    {stage : ServiceStage Client} (aims : stage.Aims service)
    (succeeds : RtspService.Succeeds service later excused lost)
    (spares : ∀ video, ¬lost video) : stage.Aims later := by
  cases stage with
  | onOptionsClients client proxy | onPlayClients client proxy npt =>
      obtain ⟨uri, info, located, rfl⟩ := aims
      obtain ⟨kept, there, same⟩ := succeeds.kept _ info located (spares _)
      exact ⟨uri, kept, there, same⟩
  | onDescribeClients client video proxy =>
      obtain ⟨uri, info, rfl, located, rfl⟩ := aims
      obtain ⟨kept, there, same⟩ := succeeds.kept _ info located (spares _)
      exact ⟨uri, kept, rfl, there, same⟩
  | _ => trivial

end ServiceStage

namespace SharedData

open RtspService

/-! ### One section -/

def Shown (service : RtspService Client) : Option VideoRequest → RtspService Client → Prop
  | none, shown => service.Agrees shown
  | some video, shown => (service.without video).Agrees shown ∧ service.Deserted video

omit [DecidableEq Client] in
theorem Shown.agrees {service shown other : RtspService Client} {closing : Option VideoRequest}
    (shows : Shown service closing shown) (agrees : shown.Agrees other) :
    Shown service closing other := by
  cases closing with
  | none => exact Agrees.trans shows agrees
  | some video => exact ⟨shows.1.trans agrees, shows.2⟩

theorem body_quiet (data : SharedData Client) {stage : ServiceStage Client}
    (quiet : stage.effective data.service = false) (keeps : stage.erases? = none) :
    data.service.Agrees (data.body stage).1.service := by
  have same := Agrees.refl data.service
  cases stage with
  | accept | registerPeer | unregisterVideo => exact same
  | onOptionsClients | onDescribeClients | onPlayClients | close | processSdp | consumePkt =>
      cases quiet
  | eraseProxy => cases keeps
  | readcb client request =>
      simp only [body]
      split_ifs
      · cases request <;> exact same
      · exact same
  | errorcb =>
      simp only [body]
      split_ifs <;> exact same
  | onOptions client uri =>
      simp only [body]
      split
      next absent =>
        rw [ServiceStage.effective, absent] at quiet
        cases quiet
      next => exact same
  | onDescribe | onPlay | datagram =>
      simp only [body]
      split <;> exact same
  | handlePacket =>
      simp only [body]
      repeat' split
      all_goals exact same
  | registerVideo video target => exact callErrors_sockets _ _
  | inviteCallback invite completion =>
      simp only [body]
      split
      · exact same
      · unfold acceptInvite
        dsimp only
        split
        · exact callErrors_sockets _ _
        · exact same
        · exact same

theorem next_closes_none {data : SharedData Client} {stage next : ServiceStage Client}
    (follows : (data.body stage).2.next? = some next) (opens : stage.closes? = none)
    (other : ∀ client, stage ≠ .close client) : next.closes? = none := by
  cases next_stage follows with
  | unregister client video => exact absurd rfl (other client)
  | erase client video => exact absurd rfl (other client)
  | unregistered video => cases opens
  | _ => rfl

def closing? (data : SharedData Client) (stage : ServiceStage Client) : Option VideoRequest :=
  (data.body stage).2.next?.bind ServiceStage.closes?

theorem closing?_eq_none {data : SharedData Client} {stage : ServiceStage Client}
    (opens : stage.closes? = none) (other : ∀ client, stage ≠ .close client) :
    data.closing? stage = none := by
  unfold closing?
  cases follows : (data.body stage).2.next? with
  | none => rfl
  | some next => exact next_closes_none follows opens other

theorem describeFound_agrees (data : SharedData Client) {uri : String} {found : ProxyInfo Client}
    (consistent : data.service.Consistent)
    (located : data.service.proxies.find? (VideoRequest.parseUrl uri) = some found)
    (client : Client) :
    (data.service.onDescribe client uri).service.Agrees
      (data.describeFound client (VideoRequest.parseUrl uri) found.identity found).1.service := by
  rw [onDescribe_of_some located]
  simp only [describeFound, writeProxy_eq_storeProxy consistent located]
  split_ifs
  · exact Agrees.refl _
  · exact callErrors_sockets _ _
  · exact Agrees.refl _
  · exact Agrees.refl _

theorem closeFound_shown {data : SharedData Client} {client : Client} {video : VideoRequest}
    {left : ProxyInfo Client} (scan : data.service.closeScan client = some (video, left)) :
    Shown (data.closeFound video left).1.service
      ((data.closeFound video left).2.next?.bind ServiceStage.closes?)
      (data.service.close client).service := by
  have deserted (needed : left.needUnregistered) :
      (data.service.storeProxy video left).Deserted video := by
    intro info located
    change (data.service.proxies.modify video _).find? video = some info at located
    rw [OrderedMap.find?_modify, if_pos rfl] at located
    obtain ⟨old, _, rfl⟩ := Option.map_eq_some_iff.mp located
    exact needed
  have erased : (data.service.storeProxy video left).without video =
      data.service.without video := by
    simp only [without, storeProxy, OrderedMap.erase_modify]
  have closed (needed : left.needUnregistered) :
      Shown (data.service.storeProxy video left) (some video)
        (data.service.without video) :=
    ⟨erased ▸ Agrees.refl _, deserted needed⟩
  simp only [close, scan, closeFound]
  split_ifs with needed registered takes
  · exact closed needed
  · exact closed needed
  · exact closed needed
  · exact Agrees.refl _

/-- A section of a handler or of a callback that takes effect makes one step of the service. -/
theorem body_shown {data : SharedData Client} {stage : ServiceStage Client}
    (consistent : data.service.Consistent) (aims : stage.Aims data.service)
    (opens : stage.closes? = none)
    (awaited : ∀ proxy, stage.delivers? data = some proxy → proxy ∈ data.service.pendingSdp) :
    ∃ moves, stage.TakesEffect data.service moves ∧
      machine.Along SdpDelivered data.service moves ∧
      Shown (data.body stage).1.service (data.closing? stage) (machine.run data.service moves) := by
  have single {move : Step Client} (takes : stage.TakesEffect data.service [move])
      (delivered : data.service.SdpDelivered move)
      (other : ∀ client, stage ≠ .close client)
      (same : (machine.next data.service move).Agrees (data.body stage).1.service) :
      ∃ moves, stage.TakesEffect data.service moves ∧
        machine.Along SdpDelivered data.service moves ∧
        Shown (data.body stage).1.service (data.closing? stage)
          (machine.run data.service moves) := by
    refine ⟨_, takes, ⟨delivered, trivial⟩, ?_⟩
    rw [closing?_eq_none opens other]
    exact same.symm
  cases effective : stage.effective data.service with
  | false =>
      refine ⟨[], .quiet stage effective, trivial, ?_⟩
      have other (client : Client) : stage ≠ .close client := by
        rintro rfl
        cases effective
      have keeps : stage.erases? = none := by
        cases stage with
        | eraseProxy => cases opens
        | _ => rfl
      rw [closing?_eq_none opens other]
      exact (body_quiet data effective keeps).symm
  | true =>
      cases stage with
      | onOptions client uri =>
          have absent := Option.isNone_iff_eq_none.mp effective
          refine single (.create client uri absent) trivial (by simp) ?_
          simp only [body, absent]
          exact Agrees.refl _
      | onOptionsClients client proxy =>
          obtain ⟨uri, found, located, rfl⟩ := aims
          refine single (.join client uri found located) trivial (by simp) ?_
          simp only [body, writeProxy_eq_storeProxy consistent located, machine, perform, onOptions,
            located]
          exact Agrees.refl _
      | onDescribeClients client video proxy =>
          obtain ⟨uri, found, rfl, located, rfl⟩ := aims
          refine single (.describe client uri found located) trivial (by simp) ?_
          simp only [body, proxyAt?_of_find? consistent located]
          exact describeFound_agrees data consistent located client
      | onPlayClients client proxy npt =>
          obtain ⟨uri, found, located, rfl⟩ := aims
          refine single (.play client uri npt found located) trivial (by simp) ?_
          simp only [body, proxyAt?_of_find? consistent located,
            writeProxy_eq_storeProxy consistent located, machine, perform, onPlay_of_some located]
          split_ifs <;> exact Agrees.refl _
      | close client =>
          refine ⟨_, .close client, ⟨trivial, trivial⟩, ?_⟩
          simp only [closing?, body]
          cases scan : data.service.closeScan client with
          | none =>
              simp only [machine, LabelledMachine.run, perform, close, scan]
              exact Agrees.refl _
          | some found => exact closeFound_shown scan
      | processSdp proxy video gb context =>
          refine single (.sdp proxy video gb context) ?_ (by simp) (Agrees.refl _)
          exact ⟨RtpProducer.gbSdp_ne_empty video gb, awaited proxy rfl⟩
      | consumePkt proxy packet rest =>
          exact single (.packet proxy packet rest) trivial (by simp) (Agrees.refl _)
      | _ => cases effective

theorem body_shown_beside {data : SharedData Client} {stage : ServiceStage Client}
    {video : VideoRequest} (deserted : data.service.Deserted video)
    (outside : ∀ mode, (.rtspServer, mode) ∉ serviceScopes.inner stage)
    (awaited : ∀ proxy, stage.delivers? data = some proxy → proxy ∈ data.service.pendingSdp) :
    ∃ moves, stage.TakesEffect data.service moves ∧
      machine.Along SdpDelivered (data.service.without video) moves ∧
      Shown (data.body stage).1.service (some video)
        (machine.run (data.service.without video) moves) := by
  cases effective : stage.effective data.service with
  | false =>
      have keeps : stage.erases? = none := by
        cases stage with
        | eraseProxy =>
            refine absurd ?_ (outside .exclusive)
            simp [LockProgram.Scopes.inner, serviceScopes, ServiceStage.outer]
        | _ => rfl
      have same := body_quiet data effective keeps
      refine ⟨[], .quiet stage effective, trivial, (same.without video).symm, ?_⟩
      rw [Deserted, same.proxies]
      exact deserted
  | true =>
      cases stage with
      | processSdp proxy requested gb context =>
          refine ⟨_, .sdp proxy requested gb context,
            ⟨⟨RtpProducer.gbSdp_ne_empty requested gb, awaited proxy rfl⟩, trivial⟩, ?_,
            deserted_processSdp deserted proxy _⟩
          change Agrees _ ((data.service.without video).processSdpFunction proxy _)
          rw [processSdp_without deserted]
          exact Agrees.refl _
      | consumePkt proxy packet rest =>
          refine ⟨_, .packet proxy packet rest, ⟨trivial, trivial⟩, ?_, deserted⟩
          change Agrees _ ((data.service.without video).consumePktFunction proxy packet)
          rw [consumePkt_without deserted]
          exact Agrees.refl _
      | onOptions | onOptionsClients | onDescribeClients | onPlayClients =>
          refine absurd ?_ (outside .shared)
          simp [LockProgram.Scopes.inner, serviceScopes, ServiceStage.outer]
      | close =>
          refine absurd ?_ (outside .exclusive)
          simp [LockProgram.Scopes.inner, serviceScopes, ServiceStage.outer]
      | _ => cases effective

end SharedData

namespace ServiceThreads

open LockProgram

/-! ### The sections of all threads -/

section Sections

variable {data later : SharedData Client} {pending : Thread → Option (ServiceStage Client)}
  {shown : RtspService Client}

def IsClosing (pending : Thread → Option (ServiceStage Client)) : Option VideoRequest → Prop
  | none => ∀ thread stage, pending thread = some stage → stage.closes? = none
  | some video => Somewhere pending (fun stage => stage.closes? = some video)

def Shows (data : SharedData Client) (pending : Thread → Option (ServiceStage Client))
    (shown : RtspService Client) : Prop :=
  ∃ closing, IsClosing pending closing ∧ SharedData.Shown data.service closing shown

def Aiming (data : SharedData Client) (pending : Thread → Option (ServiceStage Client)) : Prop :=
  ∀ thread stage, pending thread = some stage → stage.Aims data.service

variable [DecidableEq Thread] {thread : Thread} {stage : ServiceStage Client}

omit [DecidableEq Client] in
theorem aiming_start {call : ThreadCall Client} (aiming : Aiming data pending)
    (enters : data.enter call = some (later, stage)) :
    Aiming later (Function.update pending thread (some stage)) := by
  obtain ⟨_, _, _, unfound, service, _⟩ := enter_neutral enters
  intro other found comes
  rw [service]
  by_cases here : other = thread
  · subst here
    rw [Function.update_self] at comes
    cases comes
    cases stage with
    | onOptionsClients | onDescribeClients | onPlayClients => cases unfound
    | _ => trivial
  · rw [Function.update_of_ne here] at comes
    exact aiming other found comes

/-- A handler keeps its proxy, because `Close` erases none while it is under way. -/
theorem aiming_run (aiming : Aiming data pending)
    (apart : serviceScopes.Apart pending thread stage) :
    Aiming (data.body stage).1
      (Function.update pending thread (data.body stage).2.next?) := by
  have succeeds := data.body_succeeds stage
  intro other found comes
  by_cases here : other = thread
  · subst here
    rw [Function.update_self] at comes
    have aims : found.Aims data.service := by
      cases SharedData.next_stage comes with
      | join client uri info located => exact ⟨uri, info, located, rfl⟩
      | ask client uri info located => exact ⟨uri, info, rfl, located, rfl⟩
      | stream client uri npt info located => exact ⟨uri, info, located, rfl⟩
      | _ => trivial
    exact aims.of_succeeds succeeds (ServiceStage.not_erases (erases_of_next comes))
  · rw [Function.update_of_ne here] at comes
    cases handled : found.found? with
    | none =>
        cases found with
        | onOptionsClients | onDescribeClients | onPlayClients => cases handled
        | _ => trivial
    | some proxy =>
        refine (aiming other found comes).of_succeeds succeeds (ServiceStage.not_erases ?_)
        cases stage with
        | eraseProxy =>
            refine absurd ?_ (apart other found here comes .rtspServer .exclusive .shared
              (by simp [Scopes.inner, serviceScopes, ServiceStage.outer]) (outer_of_found handled))
            simp [LockMode.Conflicts]
        | _ => rfl

omit [DecidableEq Client] in
theorem shows_start {call : ThreadCall Client} (shows : Shows data pending shown)
    (idle : pending thread = none) (enters : data.enter call = some (later, stage)) :
    Shows later (Function.update pending thread (some stage)) shown := by
  obtain ⟨_, _, closes, _, service, _⟩ := enter_neutral enters
  obtain ⟨closing, closer, same⟩ := shows
  refine ⟨closing, ?_, service ▸ same⟩
  cases closing with
  | none =>
      intro other found comes
      by_cases here : other = thread
      · subst here
        rw [Function.update_self] at comes
        cases comes
        exact closes
      · rw [Function.update_of_ne here] at comes
        exact closer other found comes
  | some video =>
      refine Somewhere.update closer ?_
      intro before comes _
      cases idle.symm.trans comes

omit [DecidableEq Thread] in
theorem others_open (apart : serviceScopes.Apart pending thread stage)
    (holds : (.rtspServer, .exclusive) ∈ serviceScopes.inner stage) {other : Thread}
    {found : ServiceStage Client} (different : other ≠ thread)
    (comes : pending other = some found) : found.closes? = none := by
  cases closes : found.closes? with
  | none => rfl
  | some video =>
      exact absurd (LockMode.conflicts_exclusive _) (apart other found different comes _ _ _ holds
        (ServiceStage.outer_of_closes closes))

theorem shows_closer {video : VideoRequest} (apart : serviceScopes.Apart pending thread stage)
    (closes : stage.closes? = some video)
    (shows : SharedData.Shown data.service (some video) shown) :
    Shows (data.body stage).1 (Function.update pending thread (data.body stage).2.next?) shown := by
  have holds : (.rtspServer, .exclusive) ∈ serviceScopes.inner stage :=
    List.mem_append_right _ (ServiceStage.outer_of_closes closes)
  cases stage with
  | eraseProxy key =>
      cases closes
      refine ⟨none, ?_, shows.1⟩
      intro other found comes
      by_cases here : other = thread
      · subst here
        rw [Function.update_self] at comes
        cases comes
      · rw [Function.update_of_ne here] at comes
        exact others_open apart holds here comes
  | unregisterVideo key closing =>
      cases closing with
      | false => cases closes
      | true =>
          cases closes
          exact ⟨some video, ⟨thread, _, Function.update_self _ _ _, rfl⟩, shows⟩
  | _ => cases closes

theorem shows_run (deliveries : Deliveries data pending) (aiming : Aiming data pending)
    (consistent : shown.Consistent) (here : pending thread = some stage)
    (apart : serviceScopes.Apart pending thread stage) (shows : Shows data pending shown) :
    ∃ moves, stage.TakesEffect data.service moves ∧
      RtspService.machine.Along RtspService.SdpDelivered shown moves ∧
      Shows (data.body stage).1 (Function.update pending thread (data.body stage).2.next?)
        (RtspService.machine.run shown moves) := by
  obtain ⟨closing, closer, same⟩ := shows
  have awaited (proxy : Nat) (delivers : stage.delivers? data = some proxy) :
      proxy ∈ data.service.pendingSdp :=
    deliveries.awaited (.thread thread) proxy ⟨stage, here, delivers⟩
  cases closing with
  | none =>
      have opens := closer thread stage here
      obtain ⟨moves, takes, delivered, reached⟩ := SharedData.body_shown
        (RtspService.Agrees.consistent (RtspService.Agrees.symm same) consistent)
        (aiming thread stage here) opens awaited
      refine ⟨moves, takes, RtspService.Agrees.along same delivered, data.closing? stage, ?_,
        reached.agrees (RtspService.Agrees.run same moves)⟩
      cases ends : data.closing? stage with
      | none =>
          intro other found comes
          by_cases own : other = thread
          · subst own
            rw [Function.update_self] at comes
            rw [SharedData.closing?, comes] at ends
            exact ends
          · rw [Function.update_of_ne own] at comes
            exact closer other found comes
      | some video =>
          obtain ⟨next, follows, closes⟩ := Option.bind_eq_some_iff.mp ends
          exact ⟨thread, next, (Function.update_self _ _ _).trans follows, closes⟩
  | some video =>
      obtain ⟨other, found, comes, closes⟩ := closer
      by_cases own : other = thread
      · subst own
        cases here.symm.trans comes
        refine ⟨[], .quiet stage ?_, trivial, shows_closer apart closes same⟩
        cases stage with
        | eraseProxy | unregisterVideo => rfl
        | _ => cases closes
      · have outside (mode : LockMode) : (.rtspServer, mode) ∉ serviceScopes.inner stage := by
          intro held
          exact apart other found own comes _ _ _ held (ServiceStage.outer_of_closes closes)
            (LockMode.conflicts_exclusive _)
        obtain ⟨moves, takes, delivered, reached⟩ :=
          SharedData.body_shown_beside same.2 outside awaited
        refine ⟨moves, takes, same.1.along delivered, some video, ?_,
          reached.agrees (same.1.run moves)⟩
        exact ⟨other, found, (Function.update_of_ne own _ _).trans comes, closes⟩

end Sections

/-! ### Runs -/

section Runs

variable [Fintype Thread] [DecidableEq Thread]

/-- The steps of the service that a step of a thread makes: those of the section that it
runs, if it runs one. -/
inductive TakesEffect (state : ServiceThreads Thread Client) :
    ThreadStep Thread (ThreadCall Client) → List (RtspService.Step Client) → Prop
  | run (thread : Thread) (stage : ServiceStage Client) (moves : List (RtspService.Step Client))
      (place : state.points thread = .inside stage)
      (takes : stage.TakesEffect state.data.service moves) : TakesEffect state (.run thread) moves
  | other (step : ThreadStep Thread (ThreadCall Client))
      (outside : ∀ thread stage, step = .run thread → state.points thread ≠ .inside stage) :
      TakesEffect state step []

/-- The steps of the service that a run of the threads makes, in the order of the run. -/
inductive Linearized (config : ProducerConfig) :
    List (ThreadStep Thread (ThreadCall Client)) → List (RtspService.Step Client) → Prop
  | nil : Linearized config [] []
  | concat (steps : List (ThreadStep Thread (ThreadCall Client)))
      (step : ThreadStep Thread (ThreadCall Client)) (moves effect : List (RtspService.Step Client))
      (before : Linearized config steps moves)
      (takes : (after config steps).TakesEffect step effect) :
      Linearized config (steps ++ [step]) (moves ++ effect)

structure Linear (state : ServiceThreads Thread Client) (shown : RtspService Client) : Prop where
  delivering : Delivering state
  aiming : Aiming state.data (fun thread => (state.points thread).pending?)
  shows : Shows state.data (fun thread => (state.points thread).pending?) shown
  consistent : shown.Consistent

omit [Fintype Thread] [DecidableEq Thread] in
theorem linear_initial (config : ProducerConfig) :
    Linear (initial config : ServiceThreads Thread Client) RtspService.initial := by
  refine ⟨delivering_initial config, ?_, ⟨none, ?_, RtspService.Agrees.refl _⟩,
    RtspService.consistent_initial⟩
  · intro thread stage comes
    cases comes
  · intro thread stage comes
    cases comes

theorem linear_step {state : ServiceThreads Thread Client} {shown : RtspService Client}
    (linear : Linear state shown) (step : ThreadStep Thread (ThreadCall Client)) :
    ∃ moves, state.TakesEffect step moves ∧
      RtspService.machine.Along RtspService.SdpDelivered shown moves ∧
      Linear (serviceProgram.perform state step) (RtspService.machine.run shown moves) := by
  obtain ⟨delivering, aiming, shows, consistent⟩ := linear
  suffices reached : ∃ moves, state.TakesEffect step moves ∧
      RtspService.machine.Along RtspService.SdpDelivered shown moves ∧
      Aiming (serviceProgram.perform state step).data
        (fun thread => ((serviceProgram.perform state step).points thread).pending?) ∧
      Shows (serviceProgram.perform state step).data
        (fun thread => ((serviceProgram.perform state step).points thread).pending?)
        (RtspService.machine.run shown moves) by
    obtain ⟨moves, takes, delivered, aims, same⟩ := reached
    refine ⟨moves, takes, delivered, delivering_step delivering, aims, same, ?_⟩
    exact delivered.invariant RtspService.Consistent
      (fun _ _ consistent met => RtspService.consistent_step consistent met) consistent
  have effect := pending_effect serviceProgram state step
  generalize (serviceProgram.perform state step).data = later,
    (fun thread => ((serviceProgram.perform state step).points thread).pending?) = pending
      at effect ⊢
  cases effect with
  | none _ outside => exact ⟨[], .other step outside, trivial, aiming, shows⟩
  | start thread call _ stage idle enters =>
      exact ⟨[], .other _ (by simp), trivial, aiming_start aiming enters,
        shows_start shows (by rw [idle]; rfl) enters⟩
  | run thread stage place =>
      have apart := delivering.regular.toOrderly.apart place
      obtain ⟨moves, takes, delivered, same⟩ := shows_run delivering.deliveries aiming consistent
        (by rw [place]; rfl) apart shows
      exact ⟨moves, .run thread stage moves place takes, delivered, aiming_run aiming apart, same⟩

theorem linear_after (config : ProducerConfig)
    (steps : List (ThreadStep Thread (ThreadCall Client))) :
    ∃ moves, Linearized config steps moves ∧
      RtspService.machine.Along RtspService.SdpDelivered RtspService.initial moves ∧
      Linear (after config steps) (RtspService.after moves) := by
  induction steps using List.reverseRecOn with
  | nil => exact ⟨[], .nil, trivial, linear_initial config⟩
  | append_singleton steps step ih =>
      obtain ⟨moves, linearized, delivered, linear⟩ := ih
      obtain ⟨effect, takes, met, reached⟩ := linear_step linear step
      refine ⟨moves ++ effect, .concat steps step moves effect linearized takes,
        (LabelledMachine.along_append _ _ _ _).mpr ⟨delivered, met⟩, ?_⟩
      rw [after_concat, RtspService.after, LabelledMachine.run_append]
      exact reached

def deliveryConfig : ProducerConfig := ⟨"127.0.0.1:5060", 200, 4, 1000, zeroedMemory⟩

/-- The run in which one client describes a camera, up to the delivery of its SDP. -/
def deliveryRun (thread : Thread) (client : Client) :
    List (ThreadStep Thread (ThreadCall Client)) :=
  let pass : List (ThreadStep Thread (ThreadCall Client)) :=
    [.request thread, .acquire thread, .run thread]
  let release (count : Nat) : List (ThreadStep Thread (ThreadCall Client)) :=
    List.replicate count (.release thread)
  [[.start thread (.accept client)], pass, release 1,
    [.start thread (.readcb client (.options "gb/1"))], pass, pass, release 2,
    [.start thread (.readcb client (.describe "gb/1"))], pass, pass, pass, pass, release 4,
    [.start thread (.inviteCallback 0
      (.answered ⟨"a", some ⟨"p", 90000, 96, "H264"⟩⟩ ⟨7, true, true⟩))], pass,
    [.request thread, .acquire thread]].flatten

/-- As long as no callback has lost its proxy or uses a freed connection, and none of the
overlaps happens that the locks allow, the handlers and the callbacks behave as if each of them
were one step of the service, made in a section of its own. -/
theorem threads_linearize (config : ProducerConfig) (labels : List (HazardousStep Thread Client))
    (guarded : hazardousMachine.Along Guarded (initial config) labels) :
    ∃ moves, Linearized config (labels.map HazardousStep.step) moves ∧
      RtspService.machine.Along RtspService.SdpDelivered RtspService.initial moves ∧
      Shows (hazardousAfter config labels).data
        (fun thread => ((hazardousAfter config labels).points thread).pending?)
        (RtspService.after moves) := by
  obtain ⟨moves, linearized, delivered, linear⟩ :=
    linear_after config (labels.map HazardousStep.step)
  rw [hazardousAfter_eq config guarded]
  exact ⟨moves, linearized, delivered, linear.shows⟩

/-- The run with a second thread that accepts a client meanwhile. -/
theorem threads_linearize_delivery :
    let meanwhile : List (ThreadStep (Fin 2) (ThreadCall (Fin 2))) :=
      [.start 1 (.accept 1), .request 1, .acquire 1, .run 0]
    let labels : List (HazardousStep (Fin 2) (Fin 2)) :=
      (deliveryRun 0 0 ++ meanwhile).map (fun step => ⟨step, initial deliveryConfig⟩)
    ∃ moves, Linearized deliveryConfig (labels.map HazardousStep.step) moves ∧
      RtspService.machine.Along RtspService.SdpDelivered RtspService.initial moves ∧
      Shows (hazardousAfter deliveryConfig labels).data
        (fun thread => ((hazardousAfter deliveryConfig labels).points thread).pending?)
        (RtspService.after moves) := by
  intro meanwhile labels
  exact threads_linearize deliveryConfig labels (by decide +kernel)

/-- The client leaves while its SDP is being delivered. -/
example :
    let leaves : List (ThreadStep (Fin 2) (ThreadCall (Fin 2))) :=
      [.start 1 (.errorcb 0), .request 1, .acquire 1, .run 1, .request 1, .acquire 1]
    (after deliveryConfig (deliveryRun 0 0 ++ leaves)).Meets 1 0 := by
  decide +kernel

theorem proxies_sound_after (config : ProducerConfig)
    (steps : List (ThreadStep Thread (ThreadCall Client))) (video : VideoRequest)
    (info : ProxyInfo Client)
    (located : (after config steps).data.service.proxies.find? video = some info) :
    info.Sound (info.identity ∈ (after config steps).data.service.pendingSdp) ∨
      (info.needUnregistered ∧ serviceProxies.Closing
        (fun thread => ((after config steps).points thread).pending?) video) := by
  obtain ⟨moves, _, _, linear⟩ := linear_after config steps
  obtain ⟨closing, closer, same⟩ := linear.shows
  cases closing with
  | none =>
      have consistent := RtspService.Agrees.consistent (RtspService.Agrees.symm same)
        linear.consistent
      exact Or.inl (consistent.sound video info located)
  | some key =>
      by_cases own : video.cmpStr = key.cmpStr
      · right
        refine ⟨same.2 info ?_, ?_⟩
        · rw [← OrderedMap.find?_congr _ own]
          exact located
        · obtain ⟨thread, stage, comes, closes⟩ := closer
          exact ⟨thread, stage, comes, key, closes, own.symm⟩
      · left
        have consistent := same.1.symm.consistent linear.consistent
        refine consistent.sound video info ?_
        change (OrderedMap.erase _ key).find? video = some info
        rw [OrderedMap.find?_erase, if_neg own]
        exact located

/-- As long as no callback has lost its proxy or uses a freed connection, and none of those
overlaps happens, a proxy is sound, unless everybody has left it and a thread is about to erase
it. -/
theorem threads_keep_proxies_sound (config : ProducerConfig)
    (labels : List (HazardousStep Thread Client))
    (guarded : hazardousMachine.Along Guarded (initial config) labels) (video : VideoRequest)
    (info : ProxyInfo Client)
    (located : (hazardousAfter config labels).data.service.proxies.find? video = some info) :
    info.Sound (info.identity ∈ (hazardousAfter config labels).data.service.pendingSdp) ∨
      (info.needUnregistered ∧ serviceProxies.Closing
        (fun thread => ((hazardousAfter config labels).points thread).pending?) video) := by
  rw [hazardousAfter_eq config guarded] at located ⊢
  exact proxies_sound_after config _ video info located

/-- The client waits for the SDP that the callback of the invite is about to deliver. -/
theorem threads_keep_proxies_sound_waiting :
    let labels : List (HazardousStep (Fin 2) (Fin 2)) :=
      (deliveryRun 0 0).map (fun step => ⟨step, initial deliveryConfig⟩)
    ∃ info, (hazardousAfter deliveryConfig labels).data.service.proxies.find?
          (VideoRequest.parseUrl "gb/1") = some info ∧
      (info.Sound (info.identity ∈ (hazardousAfter deliveryConfig labels).data.service.pendingSdp) ∨
        (info.needUnregistered ∧ serviceProxies.Closing
          (fun thread => ((hazardousAfter deliveryConfig labels).points thread).pending?)
          (VideoRequest.parseUrl "gb/1"))) := by
  intro labels
  have located : ((hazardousAfter deliveryConfig labels).data.service.proxies.find?
      (VideoRequest.parseUrl "gb/1")).isSome := by
    decide +kernel
  obtain ⟨info, there⟩ := Option.isSome_iff_exists.mp located
  exact ⟨info, there, threads_keep_proxies_sound deliveryConfig labels (by decide +kernel) _ info
    there⟩

def sdpCall? : Point (ServiceStage Client) → Option Nat
  | .inside (.processSdp proxy _ _ _) => some proxy
  | _ => none

def CallsSdp (state : ServiceThreads Thread Client) (thread : Thread) (proxy : Nat) : Prop :=
  sdpCall? (state.points thread) = some proxy

instance (state : ServiceThreads Thread Client) (thread : Thread) (proxy : Nat) :
    Decidable (state.CallsSdp thread proxy) :=
  inferInstanceAs (Decidable (_ = _))

omit [DecidableEq Client] [Fintype Thread] [DecidableEq Thread] in
theorem inside_of_callsSdp {state : ServiceThreads Thread Client} {thread : Thread} {proxy : Nat}
    (calls : state.CallsSdp thread proxy) :
    ∃ video gb context, state.points thread = .inside (.processSdp proxy video gb context) := by
  unfold CallsSdp at calls
  generalize state.points thread = point at calls ⊢
  cases point with
  | inside stage =>
      cases stage with
      | processSdp target video gb context =>
          cases calls
          exact ⟨video, gb, context, rfl⟩
      | _ => cases calls
  | _ => cases calls

omit [DecidableEq Client] [Fintype Thread] [DecidableEq Thread] in
theorem Shows.pendingSdp {data : SharedData Client}
    {pending : Thread → Option (ServiceStage Client)} {shown : RtspService Client}
    (shows : Shows data pending shown) : shown.pendingSdp = data.service.pendingSdp := by
  obtain ⟨closing, _, same⟩ := shows
  cases closing with
  | none =>
      obtain ⟨sockets, rfl⟩ := same
      rfl
  | some video =>
      obtain ⟨⟨sockets, rfl⟩, _⟩ := same
      rfl

theorem linear_run {state : ServiceThreads Thread Client} {shown : RtspService Client}
    (linear : Linear state shown) (steps : List (ThreadStep Thread (ThreadCall Client))) :
    ∃ moves, RtspService.machine.Along RtspService.SdpDelivered shown moves ∧
      Linear (machine.run state steps) (RtspService.machine.run shown moves) := by
  induction steps generalizing state shown with
  | nil => exact ⟨[], trivial, linear⟩
  | cons step rest ih =>
      obtain ⟨first, _, met, reached⟩ := linear_step linear step
      obtain ⟨later, stillMet, ends⟩ := ih reached
      refine ⟨first ++ later, (LabelledMachine.along_append _ _ _ _).mpr ⟨met, stillMet⟩, ?_⟩
      rw [LabelledMachine.run_append]
      exact ends

end Runs

end ServiceThreads

end Ffvms.Concrete
