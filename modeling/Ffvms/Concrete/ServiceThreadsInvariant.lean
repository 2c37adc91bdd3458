/-
What holds in every state of the threads.

The sections of the service threads do with the proxies what `ProxyProgram` asks for, so
that a proxy is registered once.  And a proxy is in the map as long as a handler that has
found it holds the lock of the servers.
-/

import Ffvms.Concrete.ProxyThreads

namespace Ffvms.Concrete

open LockProgram

variable {Client Thread : Type} [DecidableEq Client]

namespace ServiceThreads

/-! ### What the sections do with the proxies -/

section Sections

variable {data later : SharedData Client} {stage : ServiceStage Client}

omit [DecidableEq Client] in
theorem enter_neutral {call : ThreadCall Client} (enters : data.enter call = some (later, stage)) :
    stage.registers? = none ∧ stage.target? = none ∧ stage.closes? = none ∧
      stage.found? = none ∧ later.service = data.service ∧
        later.producer.heap = data.producer.heap := by
  cases call with
  | accept | readcb | errorcb | datagram =>
      cases enters
      exact ⟨rfl, rfl, rfl, rfl, rfl, rfl⟩
  | registerVideo video | unregisterVideo video =>
      simp only [SharedData.enter] at enters
      split_ifs at enters
      cases enters
      exact ⟨rfl, rfl, rfl, rfl, rfl, rfl⟩
  | inviteCallback serial completion =>
      obtain ⟨invite, _, same⟩ := Option.map_eq_some_iff.mp enters
      cases same
      exact ⟨rfl, rfl, rfl, rfl, rfl, rfl⟩

theorem asked_of_describe {client : Client} {video key : VideoRequest} {proxy : Nat}
    {found info : ProxyInfo Client} (located : data.service.proxyAt? proxy = some found)
    (there : (data.body (.onDescribeClients client video proxy)).1.service.proxies.find? key =
      some info) (own : info.identity = proxy) : info.Asked := by
  have written : (data.service.writeProxy proxy (fun info => info.described client)).proxies.find?
      key = some info := by
    simp only [SharedData.body, located, SharedData.describeFound] at there
    split_ifs at there
    · exact there
    · change (SharedData.callErrors _ _).proxies.find? key = some info at there
      rwa [(SharedData.callErrors_unchanged _ _).1] at there
    · exact there
    · exact there
  rw [RtspService.writeProxy_find?] at written
  obtain ⟨old, _, rfl⟩ := Option.map_eq_some_iff.mp written
  split_ifs at own ⊢ with same
  · exact old.asked_described client
  · exact absurd own same

end Sections

end ServiceThreads

namespace ServiceStage

variable {stage : ServiceStage Client} {taken : LockMode}

omit [DecidableEq Client] in
theorem outer_of_registers {proxy : Nat} (registers : stage.registers? = some proxy) :
    (.proxyInfo, .exclusive) ∈ stage.outer := by
  cases stage with
  | registerVideo video target =>
      cases registers
      exact List.mem_cons_of_mem _ List.mem_cons_self
  | _ => cases registers

omit [DecidableEq Client] in
theorem outer_of_closes {key : VideoRequest} (closes : stage.closes? = some key) :
    (.rtspServer, .exclusive) ∈ stage.outer := by
  cases stage with
  | eraseProxy => exact List.mem_cons_of_mem _ List.mem_cons_self
  | unregisterVideo video closing =>
      cases closing
      · cases closes
      · exact List.mem_cons_of_mem _ List.mem_cons_self
  | _ => cases closes

omit [DecidableEq Client] in
theorem registers_of_client {proxy : Nat} (held : (.client proxy, taken) ∈ stage.outer) :
    stage.registers? = some proxy := by
  cases stage with
  | registerVideo video target =>
      cases target with
      | none => cases held
      | some own =>
          simp only [outer, List.mem_cons, Prod.mk.injEq, ServiceLock.client.injEq, reduceCtorEq,
            false_and, List.not_mem_nil, or_false] at held
          rw [held.1]
          rfl
  | unregisterVideo video closing => cases closing <;> simp [outer] at held
  | _ => simp [outer] at held

omit [DecidableEq Client] in
/-- The contexts are held shared around the callbacks and around `registerPeer`. -/
theorem under_rtpContext (held : (.rtpContext, taken) ∈ stage.outer) :
    taken = .shared ∧ (stage.lock? = some (.network, .exclusive) ∨
      ∃ proxy mode, stage.target? = some proxy ∧ stage.lock? = some (.client proxy, mode)) := by
  cases stage with
  | registerPeer => exact ⟨by simpa [outer] using held, Or.inl rfl⟩
  | processSdp proxy => exact ⟨by simpa [outer] using held, Or.inr ⟨proxy, _, rfl, rfl⟩⟩
  | consumePkt proxy => exact ⟨by simpa [outer] using held, Or.inr ⟨proxy, _, rfl, rfl⟩⟩
  | registerVideo video target => cases target <;> simp [outer] at held
  | unregisterVideo video closing => cases closing <;> simp [outer] at held
  | _ => simp [outer] at held

omit [DecidableEq Client] in
theorem under_network (held : (.network, taken) ∈ stage.outer) :
    taken = .shared ∧ (stage.lock? = some (.rtpContext, .shared) ∨
      ∃ proxy mode, stage.target? = some proxy ∧ stage.lock? = some (.client proxy, mode)) := by
  cases stage with
  | handlePacket => exact ⟨by simpa [outer] using held, Or.inl rfl⟩
  | consumePkt proxy => exact ⟨by simpa [outer] using held, Or.inr ⟨proxy, _, rfl, rfl⟩⟩
  | registerVideo video target => cases target <;> simp [outer] at held
  | unregisterVideo video closing => cases closing <;> simp [outer] at held
  | _ => simp [outer] at held

omit [DecidableEq Client] in
theorem eq_registerPeer (wants : stage.lock? = some (.network, .exclusive)) :
    ∃ peer context, stage = .registerPeer peer context := by
  cases stage with
  | registerPeer peer context => exact ⟨peer, context, rfl⟩
  | _ => simp [lock?] at wants

end ServiceStage

def serviceProxies : ProxyProgram Client (SharedData Client) (ThreadCall Client)
    (ServiceStage Client) ServiceLock :=
  { program := serviceProgram
    scopes := serviceScopes
    service := SharedData.service
    Serves := SharedData.ContextFor
    registers? := ServiceStage.registers?
    Targets := fun stage proxy => stage.target? = some proxy
    closes? := ServiceStage.closes?
    erases? := ServiceStage.erases?
    rtspServer := .rtspServer
    proxyInfo := .proxyInfo
    client := .client
    rtpContext := .rtpContext
    network := .network
    enter_neutral := by
      intro data later call stage enters
      obtain ⟨registers, target, closes, _, service, heap⟩ :=
        ServiceThreads.enter_neutral enters
      refine ⟨registers, closes, service, ?_⟩
      rintro proxy (context | own)
      · exact context.of_same heap
      · cases target.symm.trans own
    body_succeeds := SharedData.body_succeeds
    body_serves := fun served => (SharedData.body_contextFor served).imp_right Or.inl
    next_targets := fun follows own => (SharedData.next_stage follows).target own
    next_closes := SharedData.next_closes
    next_registers := by
      intro data stage next proxy follows registers
      obtain ⟨client, video, found, rfl, located, silent⟩ :=
        (SharedData.next_stage follows).registers registers
      refine ⟨rfl, rfl, ?_, ⟨found, located, silent⟩, ?_⟩
      · simp [Scopes.inner, serviceScopes, ServiceStage.outer]
      · intro key info there own
        exact ServiceThreads.asked_of_describe located there own
    outer_of_registers := ServiceStage.outer_of_registers
    outer_of_closes := ServiceStage.outer_of_closes
    registers_of_client := ServiceStage.registers_of_client
    under_rtpContext := ServiceStage.under_rtpContext
    under_network := ServiceStage.under_network
    before_network := by
      intro stage wants
      obtain ⟨peer, context, rfl⟩ := ServiceStage.eq_registerPeer wants
      exact List.mem_singleton_self _ }

namespace ServiceThreads

/-! ### The proxy of a handler -/

/-- The thread is in a handler that has found the proxy, and `readcb` still holds
the lock of the servers for it. -/
def Handles (state : ServiceThreads Thread Client) (thread : Thread) (proxy : Nat) : Prop :=
  (∃ stage, (state.points thread).current? = some stage ∧ stage.found? = some proxy) ∧
    (.rtspServer, .shared) ∈ state.held thread

structure Regular (state : ServiceThreads Thread Client) : Prop
    extends serviceProxies.Regular state where
  alive : ∀ thread proxy, state.Handles thread proxy → state.data.service.Live proxy

section Handlers

variable {state : ServiceThreads Thread Client} {thread : Thread} {stage : ServiceStage Client}

omit [DecidableEq Client] in
theorem outer_of_found {proxy : Nat} (found : stage.found? = some proxy) :
    (.rtspServer, .shared) ∈ stage.outer := by
  cases stage with
  | onOptionsClients | onDescribeClients | onPlayClients => simp [ServiceStage.outer]
  | registerVideo video target =>
      cases found
      simp [ServiceStage.outer]
  | _ => cases found

omit [DecidableEq Client] in
theorem erases_of_found {proxy : Nat} (found : stage.found? = some proxy) :
    stage.erases? = none := by
  cases stage with
  | eraseProxy => cases found
  | _ => rfl

omit [DecidableEq Client] in
theorem live_of_succeeds {service later : RtspService Client} {excused lost : VideoRequest → Prop}
    {proxy : Nat} (succeeds : RtspService.Succeeds service later excused lost)
    (spares : ∀ video, ¬lost video) (live : service.Live proxy) : later.Live proxy := by
  obtain ⟨video, old, located, rfl⟩ := RtspService.live_iff.mp live
  obtain ⟨kept, there, same⟩ := succeeds.kept video old located (spares video)
  exact RtspService.live_iff.mpr ⟨video, kept, there, same⟩

theorem erases_of_next {data : SharedData Client} {next : ServiceStage Client}
    (follows : (data.body stage).2.next? = some next) : stage.erases? = none := by
  cases stage with
  | eraseProxy => cases follows
  | _ => rfl

/-- The body of a section of another thread: `Close` erases a proxy only when no
handler is under way. -/
theorem alive_run_other {other : Thread} {proxy : Nat} (regular : Regular state)
    (place : state.points other = .inside stage) (different : thread ≠ other)
    (handles : state.Handles thread proxy) : (state.data.body stage).1.service.Live proxy := by
  refine live_of_succeeds (state.data.body_succeeds stage) ?_ (regular.alive thread proxy handles)
  rintro video ⟨key, erases, _⟩
  cases stage with
  | eraseProxy =>
      have held := regular.fits other
      rw [place] at held
      refine regular.exclusive thread other different .rtspServer .shared .exclusive handles.2 ?_
        (LockMode.conflicts_exclusive _)
      have mine : state.held other = [(.proxyInfo, .exclusive), (.rtspServer, .exclusive)] := held
      simp [mine]
  | _ => cases erases

variable [DecidableEq Thread]

theorem alive_run_self {proxy : Nat} (regular : Regular state)
    (place : state.points thread = .inside stage)
    (handles : Handles
      { setPoint state thread (.follow stage (state.data.body stage).2) with
        data := (state.data.body stage).1 } thread proxy) :
    (state.data.body stage).1.service.Live proxy := by
  obtain ⟨⟨current, comes, found⟩, holds⟩ := handles
  have succeeds := state.data.body_succeeds stage
  simp only [setPoint, Function.update_self] at comes
  cases way : (state.data.body stage).2 with
  | nest next | leave next =>
      have follows : (state.data.body stage).2.next? = some next := by rw [way]; rfl
      rw [way] at comes
      cases comes
      exact live_of_succeeds succeeds (ServiceStage.not_erases (erases_of_next follows))
        ((SharedData.next_stage follows).found found)
  | finish =>
      rw [way] at comes
      cases comes
      have live := regular.alive thread proxy ⟨⟨stage, by rw [place]; rfl, found⟩, holds⟩
      exact live_of_succeeds succeeds (ServiceStage.not_erases (erases_of_found found)) live

variable [Fintype Thread] {step : ThreadStep Thread (ThreadCall Client)}

theorem alive_step (regular : Regular state) {proxy : Nat}
    (handles : Handles (serviceProgram.perform state step) thread proxy) :
    (serviceProgram.perform state step).data.service.Live proxy := by
  have effect := perform_effect serviceProgram state step
  generalize serviceProgram.perform state step = later at effect handles
  -- Where the thread was in the same section and held the lock, it handled the proxy.
  have before {current : ServiceStage Client} (found : current.found? = some proxy)
      (comes : (state.points thread).current? = some current)
      (holds : (.rtspServer, .shared) ∈ state.held thread) : state.data.service.Live proxy :=
    regular.alive thread proxy ⟨⟨current, comes, found⟩, holds⟩
  cases effect with
  | none | request => exact regular.alive thread proxy handles
  | start mover call data begun idle enters =>
      obtain ⟨_, _, _, unfound, service, _⟩ := enter_neutral enters
      obtain ⟨⟨current, comes, found⟩, holds⟩ := handles
      simp only [setPoint, Function.update_apply] at comes
      change data.service.Live proxy
      rw [service]
      split_ifs at comes with here
      · cases comes
        cases unfound.symm.trans found
      · exact before found comes holds
  | pass mover begun place wants =>
      obtain ⟨⟨current, comes, found⟩, holds⟩ := handles
      exact before found ((current?_update (by rw [place]; rfl)).symm.trans comes) holds
  | acquire mover begun lock mode place wants queued free =>
      obtain ⟨⟨current, comes, found⟩, holds⟩ := handles
      have stays := (current?_update (by rw [place]; rfl)).symm.trans comes
      refine before found stays ?_
      simp only [Function.update_apply] at holds
      split_ifs at holds with here
      · -- The section is under the lock of the servers from its beginning.
        have fits := regular.fits mover
        rw [place] at fits
        rw [here, place] at stays
        cases stays
        rw [here, (fits : state.held mover = _)]
        exact outer_of_found found
      · exact holds
  | run mover begun place =>
      by_cases here : thread = mover
      · subst here
        exact alive_run_self regular place handles
      · refine alive_run_other regular place here ?_
        obtain ⟨⟨current, comes, found⟩, holds⟩ := handles
        simp only [setPoint, Function.update_of_ne here] at comes
        exact ⟨⟨current, comes, found⟩, holds⟩
  | leave mover begun next place =>
      obtain ⟨⟨current, comes, found⟩, holds⟩ := handles
      have held := release_subset state mover thread holds
      exact before found ((current?_update (by rw [place]; rfl)).symm.trans comes) held
  | unwind mover begun place =>
      obtain ⟨⟨current, comes, found⟩, holds⟩ := handles
      have held := release_subset state mover thread holds
      simp only [setPoint, Function.update_apply] at comes
      split_ifs at comes with here empty
      · cases comes
      · cases comes
        exact before found (by rw [here, place]; rfl) held
      · exact before found comes held

theorem handles_step {proxy : Nat} (handles : state.Handles thread proxy)
    (holds : (.rtspServer, .shared) ∈ (serviceProgram.perform state step).held thread) :
    Handles (serviceProgram.perform state step) thread proxy := by
  refine ⟨?_, holds⟩
  have effect := perform_effect serviceProgram state step
  generalize serviceProgram.perform state step = later at effect holds
  obtain ⟨⟨current, comes, found⟩, held⟩ := handles
  -- A thread that moves on within its section keeps the proxy.
  have same {mover : Thread} {point : Point (ServiceStage Client)}
      (moves : point.current? = (state.points mover).current?) :
      ∃ stage, (Function.update state.points mover point thread).current? = some stage ∧
        stage.found? = some proxy :=
    ⟨current, (current?_update moves).trans comes, found⟩
  cases effect with
  | none | request => exact ⟨current, comes, found⟩
  | start mover call data begun idle enters =>
      refine ⟨current, ?_, found⟩
      simp only [setPoint, Function.update_apply]
      split_ifs with here
      · rw [here, idle] at comes
        cases comes
      · exact comes
  | pass mover begun place wants => exact same (by rw [place]; rfl)
  | acquire mover begun lock mode place wants queued free => exact same (by rw [place]; rfl)
  | leave mover begun next place => exact same (by rw [place]; rfl)
  | unwind mover begun place =>
      by_cases empty : (state.held mover).tail = []
      · refine ⟨current, ?_, found⟩
        simp only [setPoint, Function.update_apply] at holds ⊢
        split_ifs at holds ⊢ with here
        · rw [empty] at holds
          cases holds
        · exact comes
      · rw [if_neg empty]
        exact same (congrArg Point.current? place.symm)
  | run mover begun place =>
      by_cases here : thread = mover
      · subst here
        rw [place] at comes
        cases comes
        simp only [setPoint, Function.update_self]
        change ∃ stage, (Point.follow current (state.data.body current).2).current? = some stage ∧ _
        cases way : (state.data.body current).2 with
        | finish => exact ⟨current, rfl, found⟩
        | nest next | leave next =>
            have follows : (state.data.body current).2.next? = some next := by rw [way]; rfl
            exact ⟨next, rfl, (SharedData.next_stage follows).keeps found⟩
      · refine ⟨current, ?_, found⟩
        simp only [setPoint, Function.update_of_ne here]
        exact comes

omit [DecidableEq Thread] [Fintype Thread] in
theorem regular_initial (config : ProducerConfig) :
    Regular (initial config : ServiceThreads Thread Client) := by
  refine ⟨serviceProxies.regular_initial rfl ?_, ?_⟩
  · rintro proxy ⟨address, cell, found, _⟩
    cases found
  · rintro thread proxy ⟨_, holds⟩
    cases holds

theorem regular_step (regular : Regular state) :
    Regular (serviceProgram.perform state step) :=
  ⟨regular.toRegular.step step, fun _ _ handles => alive_step regular handles⟩

theorem regular_after (config : ProducerConfig)
    (steps : List (ThreadStep Thread (ThreadCall Client))) : Regular (after config steps) :=
  LabelledMachine.run_invariant Regular (fun _ _ regular => regular_step regular)
    (regular_initial config) steps

def LooksUp (state : ServiceThreads Thread Client) (thread : Thread) (uri : String) : Prop :=
  match state.points thread with
  | .inside stage => stage.searches? = some uri
  | _ => False

instance (state : ServiceThreads Thread Client) (thread : Thread) (uri : String) :
    Decidable (state.LooksUp thread uri) := by
  unfold LooksUp
  split <;> infer_instance

theorem handles_of_lookup {uri : String} {found : ProxyInfo Client}
    (searches : state.LooksUp thread uri)
    (located : state.data.service.proxies.find? (VideoRequest.parseUrl uri) = some found)
    (holds : (.rtspServer, .shared) ∈ (serviceProgram.perform state (.run thread)).held thread) :
    Handles (serviceProgram.perform state (.run thread)) thread found.identity := by
  refine ⟨?_, holds⟩
  obtain ⟨stage, place, own⟩ : ∃ stage, state.points thread = .inside stage ∧
      stage.searches? = some uri := by
    unfold LooksUp at searches
    split at searches
    next stage place => exact ⟨stage, place, searches⟩
    next => exact searches.elim
  have moved : (serviceProgram.perform state (.run thread)).points thread =
      .follow stage (state.data.body stage).2 := by
    simp only [perform, place, setPoint, Function.update_self]
    rfl
  rw [moved]
  cases stage with
  | onOptions client | onDescribe client | onPlay client =>
      cases own
      simp only [SharedData.body, located]
      exact ⟨_, rfl, rfl⟩
  | _ => cases own

theorem after_concat (config : ProducerConfig)
    (steps : List (ThreadStep Thread (ThreadCall Client)))
    (step : ThreadStep Thread (ThreadCall Client)) :
    after config (steps ++ [step]) = serviceProgram.perform (after config steps) step :=
  LabelledMachine.run_append _ steps [step]

/-- The proxy that a handler has found is in the map in every state until `readcb`
gives the lock of the servers back. -/
theorem found_proxy_stays (config : ProducerConfig)
    (before later : List (ThreadStep Thread (ThreadCall Client))) (thread : Thread) (uri : String)
    (found : ProxyInfo Client) (searches : (after config before).LooksUp thread uri)
    (located : (after config before).data.service.proxies.find? (VideoRequest.parseUrl uri) =
      some found)
    (handling : ∀ taken, taken <+: later →
      (.rtspServer, .shared) ∈ (after config (before ++ .run thread :: taken)).held thread) :
    (after config (before ++ .run thread :: later)).data.service.Live found.identity := by
  have handles : (after config (before ++ .run thread :: later)).Handles thread
      found.identity := by
    induction later using List.reverseRecOn with
    | nil =>
        have holds := handling [] List.nil_prefix
        rw [after_concat] at holds ⊢
        exact handles_of_lookup searches located holds
    | append_singleton earlier step ih =>
        have holds := handling _ (List.prefix_refl _)
        rw [← List.cons_append, ← List.append_assoc, after_concat] at holds ⊢
        exact handles_step (ih (fun taken start =>
          handling taken (start.trans (List.prefix_append _ _)))) holds
  exact (regular_after config _).alive thread found.identity handles

/-- A second client joins a video while the first one is being disconnected. -/
theorem found_proxy_stays_joining :
    let config : ProducerConfig := ⟨"127.0.0.1:5060", 200, 4, 1000, zeroedMemory⟩
    let pass (thread : Fin 2) : List (ThreadStep (Fin 2) (ThreadCall (Fin 2))) :=
      [.request thread, .acquire thread, .run thread]
    let before : List (ThreadStep (Fin 2) (ThreadCall (Fin 2))) :=
      [[.start 0 (.accept 0)], pass 0, [.release 0, .start 0 (.accept 1)], pass 0,
        [.release 0, .start 0 (.readcb 0 (.options "rtsp://h/gb/1"))], pass 0, pass 0,
        [.release 0, .release 0, .start 0 (.readcb 1 (.options "rtsp://h/gb/1"))], pass 0,
        [.request 0, .acquire 0]].flatten
    let later : List (ThreadStep (Fin 2) (ThreadCall (Fin 2))) :=
      [.start 1 (.errorcb 0), .request 1, .acquire 1, .request 0, .acquire 0, .run 0,
        .release 0, .release 0]
    (after config (before ++ .run 0 :: later)).data.service.Live 0 := by
  intro config pass before later
  have handling : ∀ taken ∈ later.inits, (.rtspServer, .shared) ∈
      (after config (before ++ .run 0 :: taken)).held 0 := by decide +kernel
  have located : ((after config before).data.service.proxies.find?
      (VideoRequest.parseUrl "rtsp://h/gb/1")).map ProxyInfo.identity = some 0 := by decide +kernel
  obtain ⟨found, there, same⟩ := Option.map_eq_some_iff.mp located
  rw [← same]
  exact found_proxy_stays config before later 0 "rtsp://h/gb/1" found (by decide +kernel) there
    (fun taken start => handling taken ((List.mem_inits _ _).mpr start))

end Handlers

end ServiceThreads

end Ffvms.Concrete
