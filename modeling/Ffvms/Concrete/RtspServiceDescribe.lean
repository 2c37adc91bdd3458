/-
What becomes of a DESCRIBE that returned 0.

The client is to be found waiting until the SDP arrives, and answered with that
SDP afterwards.  `OnDescribe` has no branch for a proxy that already waits for
its SDP on behalf of somebody else: it drops such a client and returns 0 all the
same.  Runs without that situation lose no DESCRIBE, and no other runs do.
-/

import Ffvms.Concrete.RtspServiceInvariant

namespace Ffvms.Concrete.RtspService

variable {Client : Type} [DecidableEq Client]

/-- The state a described client is owed on its proxy: waiting as long as the
SDP has not arrived, and answered with the SDP of the proxy after that. -/
def Served (service : RtspService Client) (client : Client) (proxy : ProxyInfo Client) : Prop :=
  (proxy.registered = false ∧ proxy.sourceSdp = "" ∧ client ∈ proxy.waitingSdpClients) ∨
    (proxy.registered = true ∧ proxy.sourceSdp ≠ "" ∧
      Reply.describe 200 proxy.sourceSdp ∈ service.sent client ∧
      (client ∈ proxy.beforePlayClients ∨ client ∈ proxy.playingClients))

instance (service : RtspService Client) (client : Client) (proxy : ProxyInfo Client) :
    Decidable (service.Served client proxy) :=
  inferInstanceAs (Decidable ((_ ∧ _ ∧ _) ∨ (_ ∧ _ ∧ _ ∧ _)))

/-- A DESCRIBE that returned 0 is served in every later state of the run in
which its client has not closed and its proxy is still in the map. -/
def NoDescribeLost (steps : List (Step Client)) : Prop :=
  ∀ before client uri later, before ++ .describe client uri :: later <+: steps →
    ((after before).onDescribe client uri).result = .code 0 →
    ∀ found, (after before).proxies.find? (VideoRequest.parseUrl uri) = some found →
    .close client ∉ later →
    ∀ video proxy,
      (after (before ++ .describe client uri :: later)).proxies.find? video = some proxy →
      proxy.identity = found.identity →
      (after (before ++ .describe client uri :: later)).Served client proxy

/-- A DESCRIBE never meets a proxy on which others, but not its own client,
wait for the SDP. -/
def DescribeHeard (service : RtspService Client) : Step Client → Prop
  | .describe client uri => ∀ proxy,
      service.proxies.find? (VideoRequest.parseUrl uri) = some proxy → proxy.sourceSdp = "" →
        proxy.waitingSdpClients = ∅ ∨ client ∈ proxy.waitingSdpClients
  | _ => True

instance (service : RtspService Client) :
    (step : Step Client) → Decidable (service.DescribeHeard step)
  | .describe client uri =>
      decidable_of_iff
        (∀ proxy ∈ (service.proxies.find? (VideoRequest.parseUrl uri)).toList,
          proxy.sourceSdp = "" → proxy.waitingSdpClients = ∅ ∨ client ∈ proxy.waitingSdpClients)
        (forall_congr' fun _ => imp_congr_left Option.mem_toList)
  | .options _ _ | .play _ _ _ | .close _ | .processSdp _ _ | .consumePkt _ _
  | .processError _ => isTrue trivial

/-! ### Replies are kept -/

theorem sent_reply {service : RtspService Client} {client other : Client}
    {message sent : Reply} (member : sent ∈ service.sent other) :
    sent ∈ (service.reply client message).sent other := by
  unfold reply
  dsimp only
  split_ifs
  · exact List.mem_append_left _ member
  · exact member

theorem sent_step {service : RtspService Client} {client : Client} {sent : Reply}
    (step : Step Client) (member : sent ∈ service.sent client) :
    sent ∈ (machine.next service step).sent client := by
  cases step with
  | options other uri =>
      change sent ∈ (service.onOptions other uri).service.sent client
      cases located : service.proxies.find? (VideoRequest.parseUrl uri) with
      | none =>
          simp only [onOptions, located]
          exact sent_reply member
      | some found =>
          simp only [onOptions, located]
          exact sent_reply member
  | describe other uri =>
      change sent ∈ (service.onDescribe other uri).service.sent client
      cases located : service.proxies.find? (VideoRequest.parseUrl uri) with
      | none =>
          rw [onDescribe_of_none located]
          exact member
      | some found =>
          rw [onDescribe_of_some located]
          dsimp only
          split_ifs
          · exact member
          · exact sent_reply member
          · exact member
  | play other uri npt =>
      change sent ∈ (service.onPlay other uri npt).service.sent client
      cases located : service.proxies.find? (VideoRequest.parseUrl uri) with
      | none =>
          rw [onPlay_of_none located]
          exact member
      | some found =>
          rw [onPlay_of_some located]
          split_ifs
          · exact sent_reply member
          · exact sent_reply member
  | close other =>
      change sent ∈ (service.close other).service.sent client
      have effect := close_effect service other
      generalize (service.close other).service = result at effect
      cases effect with
      | absent nowhere => exact member
      | kept key proxy left held located leaves needed => exact member
      | erased key proxy left held located leaves unneeded => exact member
  | processSdp proxy sdp =>
      change sent ∈ (service.processSdpFunction proxy sdp).sent client
      unfold processSdpFunction
      dsimp only
      split_ifs
      · exact List.mem_append_left _ member
      · exact member
  | consumePkt proxy data =>
      change sent ∈ (service.consumePktFunction proxy data).sent client
      unfold consumePktFunction
      dsimp only
      split_ifs
      · exact List.mem_append_left _ member
      · exact member
  | processError proxy => exact member

/-! ### One step -/

omit [DecidableEq Client] in
/-- The proxy a DESCRIBE is served on stays sound for its client as long as the
SDP, the flag and the client's set only move forward. -/
private theorem served_of_kept {service result : RtspService Client} {client : Client}
    {proxy changed : ProxyInfo Client} (served : service.Served client proxy)
    (sdpEq : changed.sourceSdp = proxy.sourceSdp) (flagEq : changed.registered = proxy.registered)
    (waits : client ∈ proxy.waitingSdpClients → client ∈ changed.waitingSdpClients)
    (plays : client ∈ proxy.beforePlayClients ∨ client ∈ proxy.playingClients →
      client ∈ changed.beforePlayClients ∨ client ∈ changed.playingClients)
    (sent : ∀ reply ∈ service.sent client, reply ∈ result.sent client) :
    result.Served client changed := by
  unfold Served
  rw [sdpEq, flagEq]
  rcases served with ⟨silent, mute, waiting⟩ | ⟨heard, text, answered, ready⟩
  · exact Or.inl ⟨silent, mute, waits waiting⟩
  · exact Or.inr ⟨heard, text, sent _ answered, plays ready⟩

theorem served_options {service : RtspService Client} {client other : Client} {uri : String}
    {proxy : ProxyInfo Client} (served : service.Served client proxy) :
    (service.onOptions other uri).service.Served client
      (proxy.insertClient other .beforeDescribe) := by
  refine served_of_kept served ?_ ?_ id id (fun reply => sent_step (.options other uri))
  · rw [ProxyInfo.sourceSdp_insertClient]
  · rw [ProxyInfo.registered_insertClient]

theorem served_described {service : RtspService Client} {client other : Client} {uri : String}
    {proxy : ProxyInfo Client} (served : service.Served client proxy) :
    (service.onDescribe other uri).service.Served client (proxy.described other) := by
  have keeps (phase : Phase) (later : phase ≠ .beforeDescribe)
      (member : client ∈ proxy.clients phase) :
      client ∈ (proxy.described other).clients phase :=
    ProxyInfo.mem_clients_described.mpr (Or.inl ⟨member, fun both => later both.2⟩)
  refine served_of_kept served ?_ ?_ (keeps .waitingSdp (by decide)) ?_
    (fun reply => sent_step (.describe other uri))
  · rw [ProxyInfo.sourceSdp_described]
  · rw [ProxyInfo.registered_described]
  · intro ready
    exact ready.imp (keeps .beforePlay (by decide)) (keeps .playing (by decide))

theorem served_played {service : RtspService Client} {client other : Client} {uri : String}
    {npt : Option Int} {proxy : ProxyInfo Client} (served : service.Served client proxy) :
    (service.onPlay other uri npt).service.Served client (proxy.played other) := by
  have keeps (phase : Phase) (later : phase ≠ .beforePlay)
      (member : client ∈ proxy.clients phase) : client ∈ (proxy.played other).clients phase :=
    ProxyInfo.mem_clients_played.mpr (Or.inl ⟨member, fun both => later both.2⟩)
  refine served_of_kept served ?_ ?_ (keeps .waitingSdp (by decide)) ?_
    (fun reply => sent_step (.play other uri npt))
  · rw [ProxyInfo.sourceSdp_played]
  · rw [ProxyInfo.registered_played]
  · rintro (ready | playing)
    · by_cases own : client = other
      · subst other
        exact Or.inr (ProxyInfo.mem_clients_played.mpr (Or.inr ⟨rfl, rfl, ready⟩))
      · have stays : client ∈ (proxy.played other).clients .beforePlay :=
          ProxyInfo.mem_clients_played.mpr (Or.inl ⟨ready, fun both => own both.1⟩)
        exact Or.inl stays
    · exact Or.inr (keeps .playing (by decide) playing)

theorem served_left {service : RtspService Client} {client other : Client}
    {proxy left : ProxyInfo Client} (served : service.Served client proxy)
    (leaves : proxy.leave other = some left) (staying : client ≠ other) :
    (service.close other).service.Served client left := by
  obtain ⟨phase, _held, leftEq, _first⟩ := ProxyInfo.leave_eq_some leaves
  have keeps (current : Phase) (member : client ∈ proxy.clients current) :
      client ∈ left.clients current := by
    rw [leftEq, ProxyInfo.clients_eraseClient]
    split_ifs
    · exact Finset.mem_erase.mpr ⟨staying, member⟩
    · exact member
  refine served_of_kept served ?_ ?_ (keeps .waitingSdp) ?_ (fun reply => sent_step (.close other))
  · rw [leftEq, ProxyInfo.sourceSdp_eraseClient]
  · rw [leftEq, ProxyInfo.registered_eraseClient]
  · intro ready
    exact ready.imp (keeps .beforePlay) (keeps .playing)

/-- The delivery answers everybody who waits on its proxy.  Nobody has been
answered before, because the callback was still with the producer. -/
theorem served_processSdp {service : RtspService Client} {client : Client} {sdp : String}
    {video : VideoRequest} {proxy : ProxyInfo Client} (consistent : service.Consistent)
    (text : sdp ≠ "") (pending : proxy.identity ∈ service.pendingSdp)
    (lookup : service.proxies.find? video = some proxy) (served : service.Served client proxy) :
    (service.processSdpFunction proxy.identity sdp).Served client (proxy.acceptSdp sdp) := by
  have sound := consistent.sound video proxy lookup
  have mute := sound.silent (sound.waits pending)
  have waiting : client ∈ proxy.waitingSdpClients := by
    rcases served with ⟨_, _, waiting⟩ | ⟨_, heard, _⟩
    · exact waiting
    · exact absurd mute heard
  have bound : service.boundTo proxy.identity .waitingSdp client = true :=
    boundTo_iff.mpr ⟨video, proxy, lookup, rfl, waiting⟩
  refine Or.inr ⟨rfl, text, ?_, Or.inl ?_⟩
  · unfold processSdpFunction
    dsimp only
    rw [if_pos bound]
    exact List.mem_append_right _ List.mem_cons_self
  · exact Finset.mem_union_right _ waiting

theorem served_unchanged {service : RtspService Client} {client : Client}
    {proxy : ProxyInfo Client} (step : Step Client) (served : service.Served client proxy) :
    (machine.next service step).Served client proxy :=
  served_of_kept served rfl rfl id id (fun _ => sent_step step)

structure Owed (client : Client) (identity : Nat) (service : RtspService Client) : Prop where
  consistent : service.Consistent
  created : identity < service.nextIdentity
  served : ∀ video proxy, service.proxies.find? video = some proxy →
    proxy.identity = identity → service.Served client proxy

theorem owed_step {service : RtspService Client} {client : Client} {identity : Nat}
    {step : Step Client} (owed : Owed client identity service)
    (delivered : service.SdpDelivered step) (staying : step ≠ .close client) :
    Owed client identity (machine.next service step) := by
  obtain ⟨key, evolves⟩ := step_evolves service step
  refine
    { consistent := consistent_step owed.consistent delivered
      created := Nat.lt_of_lt_of_le owed.created evolves.grows
      served := ?_ }
  intro video changed lookup own
  cases step with
  | options other uri =>
      rcases onOptions_former lookup with ⟨proxy, found, rfl⟩ | ⟨_, new, _⟩
      · split_ifs at own ⊢
        · rw [ProxyInfo.identity_insertClient] at own
          exact served_options (owed.served video proxy found own)
        · exact served_unchanged (.options other uri) (owed.served video proxy found own)
      · rw [new, ProxyInfo.identity_insertClient] at own
        have created := owed.created
        change service.nextIdentity = identity at own
        omega
  | describe other uri =>
      obtain ⟨proxy, found, rfl⟩ := onDescribe_former lookup
      split_ifs at own ⊢
      · rw [ProxyInfo.identity_described] at own
        exact served_described (owed.served video proxy found own)
      · exact served_unchanged (.describe other uri) (owed.served video proxy found own)
  | play other uri npt =>
      obtain ⟨proxy, found, rfl⟩ := onPlay_former lookup
      split_ifs at own ⊢
      · rw [ProxyInfo.identity_played] at own
        exact served_played (owed.served video proxy found own)
      · exact served_unchanged (.play other uri npt) (owed.served video proxy found own)
  | close other =>
      have different : client ≠ other := fun same => staying (by rw [same])
      obtain ⟨proxy, found, rfl | ⟨leaves, _needed⟩⟩ := close_former lookup
      · exact served_unchanged (.close other) (owed.served video changed found own)
      · obtain ⟨phase, _held, leftEq, _first⟩ := ProxyInfo.leave_eq_some leaves
        rw [leftEq, ProxyInfo.identity_eraseClient] at own
        exact served_left (owed.served video proxy found own) leaves different
  | processSdp bound sdp =>
      obtain ⟨proxy, found, rfl⟩ := processSdp_former lookup
      split_ifs at own ⊢ with here
      · rw [ProxyInfo.identity_acceptSdp] at own
        rw [← here] at delivered ⊢
        exact served_processSdp owed.consistent delivered.1 delivered.2 found
          (owed.served video proxy found own)
      · exact served_unchanged (.processSdp bound sdp) (owed.served video proxy found own)
  | consumePkt bound data =>
      exact served_unchanged (.consumePkt bound data) (owed.served video changed lookup own)
  | processError bound =>
      exact served_unchanged (.processError bound) (owed.served video changed lookup own)

/-! ### The DESCRIBE itself -/

theorem served_onDescribe {service : RtspService Client} {client : Client} {uri : String}
    {found : ProxyInfo Client} (consistent : service.Consistent)
    (located : service.proxies.find? (VideoRequest.parseUrl uri) = some found)
    (heard : service.DescribeHeard (.describe client uri)) :
    (service.onDescribe client uri).service.Served client (found.described client) := by
  have sound := consistent.sound _ found located
  unfold Served
  rw [ProxyInfo.sourceSdp_described, ProxyInfo.registered_described]
  by_cases mute : found.sourceSdp = ""
  · have unregistered : found.registered = false := by
      cases flag : found.registered with
      | false => rfl
      | true => exact absurd mute (sound.flag.mp flag)
    refine Or.inl ⟨unregistered, mute, ?_⟩
    change client ∈ (found.described client).clients .waitingSdp
    rw [ProxyInfo.mem_clients_described]
    rcases heard found located mute with nobody | own
    · exact Or.inr ⟨rfl, (if_pos mute).symm, fun _ => nobody⟩
    · exact Or.inl ⟨own, fun both => absurd both.2 (by decide)⟩
  · refine Or.inr ⟨sound.flag.mpr mute, mute, ?_, Or.inl ?_⟩
    · rw [onDescribe_of_some located]
      have notRegistering : ¬(found.sourceSdp = "" ∧ found.waitingSdpClients = ∅) :=
        fun both => mute both.1
      simp only [if_neg notRegistering, if_pos mute, reply]
      exact List.mem_append_right _ List.mem_cons_self
    · change client ∈ (found.described client).clients .beforePlay
      rw [ProxyInfo.mem_clients_described]
      exact Or.inr ⟨rfl, (if_neg mute).symm, fun silent => absurd silent mute⟩

/-- A DESCRIBE that is not heard leaves its client in no later set, and the
state after it already shows that. -/
theorem describeHeard_of_served {service : RtspService Client} {client : Client} {uri : String}
    (served : ∀ found, service.proxies.find? (VideoRequest.parseUrl uri) = some found →
      (service.onDescribe client uri).service.Served client (found.described client)) :
    service.DescribeHeard (.describe client uri) := by
  intro found located mute
  rcases served found located with ⟨_, _, waiting⟩ | ⟨_, text, _⟩
  · change client ∈ (found.described client).clients .waitingSdp at waiting
    rw [ProxyInfo.mem_clients_described] at waiting
    rcases waiting with ⟨own, _⟩ | ⟨_, _, inserts⟩
    · exact Or.inr own
    · exact Or.inl (inserts mute)
  · rw [ProxyInfo.sourceSdp_described] at text
    exact absurd mute text

/-- In runs whose registrations deliver at most one SDP each, and never an
empty one, no DESCRIBE is lost exactly when every DESCRIBE is heard. -/
theorem no_describe_lost_iff (steps : List (Step Client))
    (delivered : machine.Along SdpDelivered initial steps) :
    NoDescribeLost steps ↔ machine.Along DescribeHeard initial steps := by
  constructor
  · intro lossless
    apply LabelledMachine.Along.of_steps
    intro before step rest split
    cases step with
    | describe client uri =>
        apply describeHeard_of_served
        intro found (located : (after before).proxies.find? _ = some found)
        have isPrefix : before ++ .describe client uri :: [] <+: steps :=
          ⟨rest, by rw [split, List.append_assoc]; rfl⟩
        have stateEq : after (before ++ .describe client uri :: []) =
            ((after before).onDescribe client uri).service :=
          LabelledMachine.run_append _ _ _
        change ((after before).onDescribe client uri).service.Served client _
        rw [← stateEq]
        refine lossless before client uri [] isPrefix (onDescribe_result client located) found
          located List.not_mem_nil (VideoRequest.parseUrl uri) _ ?_
          (ProxyInfo.identity_described found client)
        rw [stateEq, onDescribe_find?, located]
        exact if_pos rfl
    | options client uri => trivial
    | play client uri npt => trivial
    | close client => trivial
    | processSdp proxy sdp => trivial
    | consumePkt proxy data => trivial
    | processError proxy => trivial
  · intro heard before client uri later isPrefix _returned found located staying
    have deliveredHere := delivered.take_prefix isPrefix
    have heardHere := (heard.take_prefix isPrefix).at_step
    obtain ⟨deliveredBefore, _, deliveredLater⟩ :=
      (LabelledMachine.along_append _ _ before _).mp deliveredHere
    have consistent : (after before).Consistent := consistent_after deliveredBefore
    have start : Owed client found.identity
        (machine.next (after before) (.describe client uri)) := by
      refine
        { consistent := consistent_describe consistent client uri
          created := ?_
          served := ?_ }
      · change found.identity < ((after before).onDescribe client uri).service.nextIdentity
        rw [onDescribe_nextIdentity]
        exact consistent.fresh _ found located
      · intro video changed lookup own
        obtain ⟨proxy, lookupFormer, rfl⟩ := onDescribe_former lookup
        have identityEq : proxy.identity = found.identity := by
          rw [← own]
          split_ifs
          · rw [ProxyInfo.identity_described]
          · rfl
        have same : video.cmpStr = keyOf uri :=
          consistent.distinct video _ proxy found lookupFormer located identityEq
        have proxyEq : proxy = found := Option.some.inj
          (lookupFormer.symm.trans ((OrderedMap.find?_congr _ same).trans located))
        rw [if_pos same, proxyEq]
        exact served_onDescribe consistent located heardHere
    have remains : ∀ step ∈ later, step ≠ .close client :=
      fun step member same => staying (same ▸ member)
    have owed := (deliveredLater.and_labels remains).invariant (Owed client found.identity)
      (fun _ _ owed guard => owed_step owed guard.1 guard.2) start
    intro video proxy lookup own
    have stateEq : after (before ++ .describe client uri :: later) =
        machine.run (machine.next (after before) (.describe client uri)) later :=
      LabelledMachine.run_append _ _ _
    rw [stateEq] at lookup ⊢
    exact owed.served video proxy lookup own

/-- The second client describes once the SDP is there, and the first one plays. -/
theorem no_describe_lost_two_clients :
    NoDescribeLost ([.options 0 "rtsp://host/gb/1", .options 1 "rtsp://host/gb/1",
      .describe 0 "rtsp://host/gb/1", .processSdp 0 "v=0", .describe 1 "rtsp://host/gb/1",
      .play 0 "rtsp://host/gb/1" none] : List (Step Nat)) :=
  (no_describe_lost_iff _ (by decide)).mpr (by decide)

/-- Two clients, one video: the second DESCRIBE comes while the first waits.  It
returns 0 and its client is in no set of the proxy any more. -/
theorem second_describe_lost :
    ¬NoDescribeLost ([.options 0 "rtsp://host/gb/1", .options 1 "rtsp://host/gb/1",
      .describe 0 "rtsp://host/gb/1", .describe 1 "rtsp://host/gb/1"] : List (Step Nat)) := by
  intro lossless
  have served := lossless [.options 0 "rtsp://host/gb/1", .options 1 "rtsp://host/gb/1",
    .describe 0 "rtsp://host/gb/1"] 1 "rtsp://host/gb/1" [] (List.prefix_refl _) (by decide)
    (Option.get _ (by decide)) (Option.some_get _).symm List.not_mem_nil
    (VideoRequest.parseUrl "rtsp://host/gb/1") (Option.get _ (by decide))
    (Option.some_get _).symm (by decide)
  exact absurd served (by decide)

end Ffvms.Concrete.RtspService
