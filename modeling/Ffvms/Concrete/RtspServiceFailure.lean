/-
A stream that has failed.

`processErrorFunction` closes the sockets of the clients that are in the sets of
its proxy and changes nothing else.  The proxy stays in the map, with its SDP and
its flag, until the last of these clients is closed.  Requests that arrive until
then are handled as if the stream were alive.  The main result says which
requests would have to stay away for a failed stream to admit nobody.
-/

import Ffvms.Concrete.RtspServiceInvariant

namespace Ffvms.Concrete

variable {Client : Type} [DecidableEq Client]

def Reply.Admits : Reply → Prop
  | .describe code _ | .play code _ => code = 200
  | .options _ | .interleaved _ => False

namespace RtspService

def clientsOf (service : RtspService Client) (identity : Nat) : Finset Client :=
  (service.proxies.entries.filter (fun entry => entry.2.identity = identity)).foldr
    (fun entry sockets => entry.2.beforeDescribeClients ∪ entry.2.waitingSdpClients ∪
      entry.2.beforePlayClients ∪ entry.2.playingClients ∪ sockets) ∅

theorem mem_clientsOf {service : RtspService Client} {identity : Nat} {video : VideoRequest}
    {proxy : ProxyInfo Client} {phase : Phase} {client : Client}
    (located : service.proxies.find? video = some proxy) (own : proxy.identity = identity)
    (member : client ∈ proxy.clients phase) : client ∈ service.clientsOf identity := by
  obtain ⟨stored, _sameRank, inside⟩ := OrderedMap.find?_eq_some_iff.mp located
  unfold clientsOf
  have kept : (stored, proxy) ∈ service.proxies.entries.filter
      (fun entry => entry.2.identity = identity) :=
    List.mem_filter.mpr ⟨inside, decide_eq_true own⟩
  generalize service.proxies.entries.filter (fun entry => entry.2.identity = identity) = entries
    at kept
  induction entries with
  | nil => cases kept
  | cons entry rest ih =>
      rw [List.foldr_cons]
      rcases List.mem_cons.mp kept with rfl | later
      · apply Finset.mem_union_left
        cases phase with
        | beforeDescribe =>
            exact Finset.mem_union_left _ (Finset.mem_union_left _ (Finset.mem_union_left _ member))
        | waitingSdp =>
            exact Finset.mem_union_left _ (Finset.mem_union_left _ (Finset.mem_union_right _ member))
        | beforePlay => exact Finset.mem_union_left _ (Finset.mem_union_right _ member)
        | playing => exact Finset.mem_union_right _ member
      · exact Finset.mem_union_right _ (ih later)

theorem closedSockets_next (service : RtspService Client) (step : Step Client) :
    service.closedSockets ⊆ (machine.next service step).closedSockets := by
  cases step with
  | options client uri =>
      change _ ⊆ (service.onOptions client uri).service.closedSockets
      cases located : service.proxies.find? (VideoRequest.parseUrl uri) with
      | none => simp [onOptions, located, reply]
      | some found => simp [onOptions, located, reply, storeProxy]
  | describe client uri =>
      change _ ⊆ (service.onDescribe client uri).service.closedSockets
      cases located : service.proxies.find? (VideoRequest.parseUrl uri) with
      | none => rw [onDescribe_of_none located]
      | some found =>
          rw [onDescribe_of_some located]
          dsimp only
          split_ifs <;> exact subset_rfl
  | play client uri npt =>
      change _ ⊆ (service.onPlay client uri npt).service.closedSockets
      cases located : service.proxies.find? (VideoRequest.parseUrl uri) with
      | none => rw [onPlay_of_none located]
      | some found =>
          rw [onPlay_of_some located]
          split_ifs <;> exact subset_rfl
  | close client =>
      change _ ⊆ (service.close client).service.closedSockets
      have effect := close_effect service client
      generalize (service.close client).service = result at effect
      cases effect with
      | absent | kept | erased => exact subset_rfl
  | processError identity => exact Finset.subset_union_left
  | processSdp | consumePkt => exact subset_rfl

end RtspService

/-- The service with the proxies that have reported an error, and the clients
that were told so by each. -/
structure FailingService (Client : Type) where
  service : RtspService Client
  failed : Finset Nat
  notified : Nat → Finset Client

namespace FailingService

def initial : FailingService Client :=
  { service := RtspService.initial
    failed := ∅
    notified := fun _ => ∅ }

def perform (state : FailingService Client) (step : RtspService.Step Client) :
    FailingService Client :=
  let service := RtspService.machine.next state.service step
  match step with
  | .processError identity =>
      if state.service.Live identity then
        { service := service
          failed := insert identity state.failed
          notified := fun other =>
            if other = identity then state.notified other ∪ state.service.clientsOf identity
            else state.notified other }
      else { state with service := service }
  | _ => { state with service := service }

def machine : LabelledMachine (FailingService Client) (RtspService.Step Client) Unit :=
  { next := perform
    emit := fun _ _ => [] }

def after (steps : List (RtspService.Step Client)) : FailingService Client :=
  machine.run initial steps

/-- Whoever is in a set of a failed proxy has been told of the error by it, and
the socket is closed. -/
def AllNotified (state : FailingService Client) : Prop :=
  ∀ video proxy, state.service.proxies.find? video = some proxy →
    proxy.identity ∈ state.failed → ∀ phase, ∀ client ∈ proxy.clients phase,
      client ∈ state.notified proxy.identity ∧ client ∈ state.service.closedSockets

def Answers (service : RtspService Client) (identity : Nat) : RtspService.Step Client → Prop
  | .describe _ uri | .play _ uri _ =>
      ∃ proxy, service.proxies.find? (VideoRequest.parseUrl uri) = some proxy ∧
        proxy.identity = identity
  | .processSdp proxy _ => proxy = identity
  | _ => False

/-- A failed proxy answers no DESCRIBE and no PLAY with 200. -/
def Refuses (state : FailingService Client) (step : RtspService.Step Client) : Prop :=
  ∀ identity ∈ state.failed, Answers state.service identity step →
    ∀ client, ∀ reply ∈ ((RtspService.machine.next state.service step).sent client).drop
      (state.service.sent client).length, ¬reply.Admits

def AdmitsNobody (steps : List (RtspService.Step Client)) : Prop :=
  (∀ before, before <+: steps → (after before).AllNotified) ∧ machine.Along Refuses initial steps

/-- On a failed proxy, OPTIONS comes only from clients that were told of the
error; DESCRIBE only while there is no SDP, and from such a client if nobody
waits; PLAY only from clients that may not play; and no SDP arrives for a
client that waits. -/
def StaysAway (state : FailingService Client) : RtspService.Step Client → Prop
  | .options client uri => ∀ proxy,
      state.service.proxies.find? (VideoRequest.parseUrl uri) = some proxy →
        proxy.identity ∈ state.failed → client ∈ state.notified proxy.identity
  | .describe client uri => ∀ proxy,
      state.service.proxies.find? (VideoRequest.parseUrl uri) = some proxy →
        proxy.identity ∈ state.failed → proxy.sourceSdp = "" ∧
          (proxy.waitingSdpClients = ∅ → client ∈ state.notified proxy.identity)
  | .play client uri _ => ∀ proxy,
      state.service.proxies.find? (VideoRequest.parseUrl uri) = some proxy →
        proxy.identity ∈ state.failed → client ∉ proxy.beforePlayClients
  | .processSdp identity _ => identity ∈ state.failed →
      ∀ client, state.service.boundTo identity .waitingSdp client = false
  | _ => True

/-! ### The record of errors -/

/-- Failed proxies have existed, and whoever was told of an error has lost the
socket. -/
structure Recorded (state : FailingService Client) : Prop where
  known : ∀ video proxy, state.service.proxies.find? video = some proxy →
    proxy.identity < state.service.nextIdentity
  failedKnown : ∀ identity ∈ state.failed, identity < state.service.nextIdentity
  closed : ∀ identity, state.notified identity ⊆ state.service.closedSockets

omit [DecidableEq Client] in
theorem recorded_initial : (initial : FailingService Client).Recorded :=
  { known := by intro video proxy lookup; cases lookup
    failedKnown := fun identity member => absurd member (Finset.notMem_empty identity)
    closed := fun _ => Finset.empty_subset _ }

theorem recorded_step {state : FailingService Client} (step : RtspService.Step Client)
    (recorded : state.Recorded) : (machine.next state step).Recorded := by
  obtain ⟨_key, evolves⟩ := RtspService.step_evolves state.service step
  have sockets := RtspService.closedSockets_next state.service step
  have known : ∀ video proxy,
      (RtspService.machine.next state.service step).proxies.find? video = some proxy →
        proxy.identity < (RtspService.machine.next state.service step).nextIdentity := by
    intro video proxy lookup
    have grows := evolves.grows
    rcases evolves.inherits video proxy lookup with ⟨former, found, same⟩ | ⟨_, new, above⟩
    · have older := recorded.known video former found
      omega
    · omega
  -- All steps but one leave the record alone.
  have unchanged : Recorded
      { state with service := RtspService.machine.next state.service step } :=
    { known := known
      failedKnown := fun identity member =>
        Nat.lt_of_lt_of_le (recorded.failedKnown identity member) evolves.grows
      closed := fun identity => (recorded.closed identity).trans sockets }
  cases step with
  | options | describe | play | close | processSdp | consumePkt => exact unchanged
  | processError identity =>
      change (state.perform (.processError identity)).Recorded
      simp only [perform]
      split_ifs with live
      · refine
          { known := known
            failedKnown := ?_
            closed := ?_ }
        · intro other member
          rcases Finset.mem_insert.mp member with rfl | older
          · obtain ⟨video, proxy, located, rfl⟩ := RtspService.live_iff.mp live
            exact recorded.known video proxy located
          · exact recorded.failedKnown other older
        · intro other
          dsimp only
          split_ifs
          · exact Finset.union_subset_union (recorded.closed other) subset_rfl
          · exact (recorded.closed other).trans sockets
      · exact unchanged

/-! ### One step -/

section Step

variable {state : FailingService Client}

/-- A request changes the sets of one proxy; the clients it does not add were
there before. -/
theorem allNotified_of_former {service : RtspService Client} (recorded : state.Recorded)
    (all : state.AllNotified) (sockets : state.service.closedSockets ⊆ service.closedSockets)
    (former : ∀ video proxy, service.proxies.find? video = some proxy →
      proxy.identity = state.service.nextIdentity ∨
        ∃ before, state.service.proxies.find? video = some before ∧
          proxy.identity = before.identity ∧
          ∀ phase, ∀ client ∈ proxy.clients phase,
            (∃ earlier, client ∈ before.clients earlier) ∨
              (before.identity ∈ state.failed → client ∈ state.notified before.identity)) :
    AllNotified { state with service := service } := by
  intro video proxy located failed phase client member
  suffices told : client ∈ state.notified proxy.identity from
    ⟨told, sockets (recorded.closed proxy.identity told)⟩
  change proxy.identity ∈ state.failed at failed
  rcases former video proxy located with new | ⟨before, found, same, members⟩
  · have below := recorded.failedKnown proxy.identity failed
    omega
  · rw [same] at failed ⊢
    rcases members phase client member with ⟨earlier, older⟩ | told
    · exact (all video before found failed earlier client older).1
    · exact told failed

theorem allNotified_options (recorded : state.Recorded) (all : state.AllNotified) {client : Client}
    {uri : String} (away : state.StaysAway (.options client uri)) :
    (machine.next state (.options client uri)).AllNotified := by
  refine allNotified_of_former recorded all
    (RtspService.closedSockets_next state.service (.options client uri)) ?_
  intro video proxy lookup
  rcases RtspService.onOptions_former lookup with ⟨before, found, rfl⟩ | ⟨_, rfl, _⟩
  · refine Or.inr ⟨before, found, ?_⟩
    split_ifs with same
    · refine ⟨ProxyInfo.identity_insertClient _ _ _, ?_⟩
      intro phase other member
      rw [ProxyInfo.clients_insertClient] at member
      split_ifs at member with added
      · rcases Finset.mem_insert.mp member with rfl | older
        · exact Or.inr (away before ((OrderedMap.find?_congr _ same).symm.trans found))
        · exact Or.inl ⟨phase, older⟩
      · exact Or.inl ⟨phase, member⟩
    · exact ⟨rfl, fun phase other member => Or.inl ⟨phase, member⟩⟩
  · exact Or.inl (ProxyInfo.identity_insertClient _ _ _)

theorem allNotified_describe (recorded : state.Recorded) (all : state.AllNotified)
    {client : Client} {uri : String} (away : state.StaysAway (.describe client uri)) :
    (machine.next state (.describe client uri)).AllNotified := by
  refine allNotified_of_former recorded all
    (RtspService.closedSockets_next state.service (.describe client uri)) ?_
  intro video proxy lookup
  obtain ⟨before, found, rfl⟩ := RtspService.onDescribe_former lookup
  refine Or.inr ⟨before, found, ?_⟩
  split_ifs with same
  · refine ⟨ProxyInfo.identity_described _ _, ?_⟩
    intro phase other member
    rcases ProxyInfo.mem_clients_described.mp member with ⟨older, _⟩ | ⟨rfl, _, inserts⟩
    · exact Or.inl ⟨phase, older⟩
    · right
      intro failed
      obtain ⟨silent, told⟩ :=
        away before ((OrderedMap.find?_congr _ same).symm.trans found) failed
      exact told (inserts silent)
  · exact ⟨rfl, fun phase other member => Or.inl ⟨phase, member⟩⟩

theorem allNotified_play (recorded : state.Recorded) (all : state.AllNotified) (client : Client)
    (uri : String) (npt : Option Int) :
    (machine.next state (.play client uri npt)).AllNotified := by
  refine allNotified_of_former recorded all
    (RtspService.closedSockets_next state.service (.play client uri npt)) ?_
  intro video proxy lookup
  obtain ⟨before, found, rfl⟩ := RtspService.onPlay_former lookup
  refine Or.inr ⟨before, found, ?_⟩
  split_ifs
  · refine ⟨ProxyInfo.identity_played _ _, ?_⟩
    intro phase other member
    rcases ProxyInfo.mem_clients_played.mp member with ⟨older, _⟩ | ⟨rfl, _, ready⟩
    · exact Or.inl ⟨phase, older⟩
    · exact Or.inl ⟨.beforePlay, ready⟩
  · exact ⟨rfl, fun phase other member => Or.inl ⟨phase, member⟩⟩

theorem allNotified_close (recorded : state.Recorded) (all : state.AllNotified) (client : Client) :
    (machine.next state (.close client)).AllNotified := by
  refine allNotified_of_former recorded all
    (RtspService.closedSockets_next state.service (.close client)) ?_
  intro video proxy lookup
  obtain ⟨before, found, rfl | ⟨leaves, _⟩⟩ := RtspService.close_former lookup
  · exact Or.inr ⟨proxy, found, rfl, fun phase other member => Or.inl ⟨phase, member⟩⟩
  · obtain ⟨left, _held, rfl, _first⟩ := ProxyInfo.leave_eq_some leaves
    refine Or.inr ⟨before, found, ProxyInfo.identity_eraseClient _ _ _, ?_⟩
    intro phase other member
    rw [ProxyInfo.clients_eraseClient] at member
    split_ifs at member
    · exact Or.inl ⟨phase, Finset.mem_of_mem_erase member⟩
    · exact Or.inl ⟨phase, member⟩

theorem allNotified_processSdp (recorded : state.Recorded) (all : state.AllNotified)
    (identity : Nat) (sdp : String) :
    (machine.next state (.processSdp identity sdp)).AllNotified := by
  refine allNotified_of_former recorded all subset_rfl ?_
  intro video proxy lookup
  obtain ⟨before, found, rfl⟩ := RtspService.processSdp_former lookup
  refine Or.inr ⟨before, found, ?_⟩
  split_ifs
  · refine ⟨rfl, ?_⟩
    intro phase other member
    rcases ProxyInfo.mem_clients_acceptSdp.mp member with ⟨older, _⟩ | ⟨waiting, _⟩
    · exact Or.inl ⟨phase, older⟩
    · exact Or.inl ⟨.waitingSdp, waiting⟩
  · exact ⟨rfl, fun phase other member => Or.inl ⟨phase, member⟩⟩

theorem allNotified_processError (all : state.AllNotified) (identity : Nat) :
    (machine.next state (.processError identity)).AllNotified := by
  have kept : AllNotified
      { state with service := state.service.processErrorFunction identity } := by
    intro video proxy located failed phase client member
    obtain ⟨told, closed⟩ := all video proxy located failed phase client member
    exact ⟨told, Finset.mem_union_left _ closed⟩
  change (state.perform (.processError identity)).AllNotified
  simp only [perform]
  split_ifs with live
  · intro video proxy located failed phase client member
    by_cases own : proxy.identity = identity
    · have inside := RtspService.mem_clientsOf located own member
      refine ⟨?_, Finset.mem_union_right _ inside⟩
      dsimp only
      rw [if_pos own]
      exact Finset.mem_union_right _ inside
    · obtain ⟨told, closed⟩ :=
        kept video proxy located (Finset.mem_of_mem_insert_of_ne failed own) phase client member
      refine ⟨?_, closed⟩
      dsimp only
      rw [if_neg own]
      exact told
  · exact kept

theorem allNotified_step (recorded : state.Recorded) (all : state.AllNotified)
    {step : RtspService.Step Client} (away : state.StaysAway step) :
    (machine.next state step).AllNotified := by
  cases step with
  | options client uri => exact allNotified_options recorded all away
  | describe client uri => exact allNotified_describe recorded all away
  | play client uri npt => exact allNotified_play recorded all client uri npt
  | close client => exact allNotified_close recorded all client
  | processSdp identity sdp => exact allNotified_processSdp recorded all identity sdp
  | consumePkt identity data => exact all
  | processError identity => exact allNotified_processError all identity

theorem refuses_iff {step : RtspService.Step Client} :
    state.Refuses step ↔
      ∀ identity ∈ state.failed, Answers state.service identity step →
        ∀ client, ∀ reply ∈ state.service.replies client step, ¬reply.Admits := by
  unfold Refuses
  simp only [RtspService.sent_next, List.drop_left]

theorem refuses_of_staysAway {step : RtspService.Step Client} (away : state.StaysAway step) :
    state.Refuses step := by
  rw [refuses_iff]
  intro identity failed answers client reply sent
  cases step with
  | describe sender uri =>
      obtain ⟨proxy, located, rfl⟩ := answers
      obtain ⟨silent, _⟩ := away proxy located failed
      simp [RtspService.replies, located, silent] at sent
  | play sender uri npt =>
      obtain ⟨proxy, located, rfl⟩ := answers
      have unready := away proxy located failed
      simp only [RtspService.replies, located] at sent
      split_ifs at sent with own ready
      · subst own
        exact absurd ready unready
      · rw [List.mem_singleton.mp sent]
        intro (admits : 454 = 200)
        omega
      · cases sent
  | processSdp proxy sdp =>
      obtain rfl : proxy = identity := answers
      simp [RtspService.replies, away failed client] at sent
  | options | close | consumePkt | processError => exact answers.elim

/-- A step that breaks the rule is seen at once: it is answered 200, or its client
is in a set of the failed proxy in the next state and was never told. -/
theorem staysAway_of_next {step : RtspService.Step Client}
    (all : (machine.next state step).AllNotified) (refuses : state.Refuses step) :
    state.StaysAway step := by
  rw [refuses_iff] at refuses
  cases step with
  | options client uri =>
      intro proxy located failed
      have joined : (state.service.onOptions client uri).service.proxies.find?
          (VideoRequest.parseUrl uri) = some (proxy.insertClient client .beforeDescribe) := by
        rw [RtspService.onOptions_find?, RtspService.optionsProxy, located]
        exact if_pos rfl
      have told := (all _ _ joined (by rwa [ProxyInfo.identity_insertClient]) .beforeDescribe client
        (Finset.mem_insert_self client _)).1
      rwa [ProxyInfo.identity_insertClient] at told
  | describe client uri =>
      intro proxy located failed
      have silent : proxy.sourceSdp = "" := by
        by_contra heard
        refine refuses proxy.identity failed ⟨proxy, located, rfl⟩ client
          (.describe 200 proxy.sourceSdp) ?_ rfl
        simp [RtspService.replies, located, heard]
      refine ⟨silent, ?_⟩
      intro nobody
      have described : (state.service.onDescribe client uri).service.proxies.find?
          (VideoRequest.parseUrl uri) = some (proxy.described client) := by
        rw [RtspService.onDescribe_find?, located]
        exact if_pos rfl
      have waits : client ∈ (proxy.described client).clients proxy.describeTarget :=
        ProxyInfo.mem_clients_described.mpr (Or.inr ⟨rfl, rfl, fun _ => nobody⟩)
      have told := (all _ _ described (by rwa [ProxyInfo.identity_described]) _ client waits).1
      rwa [ProxyInfo.identity_described] at told
  | play client uri npt =>
      intro proxy located failed ready
      refine refuses proxy.identity failed ⟨proxy, located, rfl⟩ client (.play 200 npt) ?_ rfl
      simp [RtspService.replies, located, ready]
  | processSdp identity sdp =>
      intro failed client
      rw [Bool.eq_false_iff]
      intro waits
      refine refuses identity failed rfl client (.describe 200 sdp) ?_ rfl
      simp [RtspService.replies, waits]
  | close | consumePkt | processError => trivial

end Step

/-- A failed stream admits nobody, in any state of the run, exactly when the steps
of the run stay away from it. -/
theorem admitsNobody_iff (steps : List (RtspService.Step Client)) :
    AdmitsNobody steps ↔ machine.Along StaysAway initial steps := by
  have recorded (before : List (RtspService.Step Client)) : (after before).Recorded :=
    machine.run_invariant Recorded (fun _ step => recorded_step step) recorded_initial before
  constructor
  · rintro ⟨all, refuses⟩
    apply LabelledMachine.Along.of_steps
    rintro before step later rfl
    have next : (machine.next (after before) step).AllNotified := by
      have reached := all (before ++ [step]) (by simp [List.prefix_append_right_inj])
      rwa [after, LabelledMachine.run_append] at reached
    exact staysAway_of_next next refuses.at_step
  · intro away
    have states (before : List (RtspService.Step Client)) (isPrefix : before <+: steps) :
        (after before).AllNotified := by
      have both : (after before).Recorded ∧ (after before).AllNotified :=
        (away.take_prefix isPrefix).invariant (fun state => state.Recorded ∧ state.AllNotified)
          (fun state step inv away => ⟨recorded_step step inv.1, allNotified_step inv.1 inv.2 away⟩)
          ⟨recorded_initial, fun _ _ lookup => nomatch lookup⟩
      exact both.2
    refine ⟨states, ?_⟩
    apply LabelledMachine.Along.of_steps
    rintro before step later rfl
    exact refuses_of_staysAway away.at_step

/-- The stream fails while client 0 plays.  Client 1 comes before the cleanup, is
answered 200 twice and is left in the playing set with its socket open. -/
theorem late_client_admitted :
    let steps : List (RtspService.Step Nat) :=
      [.options 0 "rtsp://host/file/a", .describe 0 "rtsp://host/file/a", .processSdp 0 "v=0",
        .play 0 "rtsp://host/file/a" none, .processError 0, .options 1 "rtsp://host/file/a",
        .describe 1 "rtsp://host/file/a", .play 1 "rtsp://host/file/a" none, .close 0]
    ¬AdmitsNobody steps ∧ (after steps).service.sent 1 =
        [.options 200, .describe 200 "v=0", .play 200 none] ∧
      (after steps).service.boundTo 0 .playing 1 = true ∧ 0 ∈ (after steps).failed ∧
      1 ∉ (after steps).service.closedSockets := by
  refine ⟨?_, by decide⟩
  rintro ⟨all, _⟩
  have reached := all _ (List.prefix_refl _) (VideoRequest.parseUrl "rtsp://host/file/a")
    (Option.get _ (by decide)) (Option.some_get _).symm (by decide) .playing 1 (by decide)
  exact absurd reached.2 (by decide)

end FailingService

end Ffvms.Concrete
