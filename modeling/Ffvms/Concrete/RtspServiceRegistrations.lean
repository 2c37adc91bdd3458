/-
What a proxy looks like in every reachable state, and how often it registers.

A proxy that has called `RegisterVideo` keeps somebody waiting until the SDP has
come or the proxy is erased, and a description registers only while nobody waits
and no SDP is known.  So there is one registration in the life of a proxy.
-/

import Ffvms.Concrete.RtspServiceInvariant

namespace Ffvms.Concrete.RtspService

variable {Client : Type} [DecidableEq Client]

/-! ### Clients of a proxy -/

def Attended (service : RtspService Client) : Prop :=
  ∀ video proxy, service.proxies.find? video = some proxy →
    ∃ phase, (proxy.clients phase).Nonempty

theorem attended_options {service : RtspService Client} (attended : service.Attended)
    (client : Client) (uri : String) : (service.onOptions client uri).service.Attended := by
  intro video proxy lookup
  rw [onOptions_find?] at lookup
  by_cases same : video.cmpStr = keyOf uri
  · rw [if_pos same] at lookup
    cases lookup
    exact ⟨.beforeDescribe, client, Finset.mem_insert_self client _⟩
  · rw [if_neg same] at lookup
    exact attended video proxy lookup

theorem attended_describe {service : RtspService Client} (attended : service.Attended)
    (client : Client) (uri : String) : (service.onDescribe client uri).service.Attended := by
  intro video proxy lookup
  obtain ⟨former, found, changed⟩ := onDescribe_former lookup
  rw [changed]
  split_ifs with same
  · by_cases inserts : former.DescribeInserts
    · exact ⟨former.describeTarget, client,
        ProxyInfo.mem_clients_described.mpr (Or.inr ⟨rfl, rfl, inserts⟩)⟩
    · -- The client is inserted nowhere, but somebody waits for the SDP.
      obtain ⟨_silent, waiting⟩ := Classical.not_imp.mp inserts
      obtain ⟨other, member⟩ := Finset.nonempty_iff_ne_empty.mpr waiting
      exact ⟨.waitingSdp, other,
        ProxyInfo.mem_clients_described.mpr (Or.inl ⟨member, fun both => nomatch both.2⟩)⟩
  · exact attended video former found

theorem attended_play {service : RtspService Client} (attended : service.Attended)
    (client : Client) (uri : String) (npt : Option Int) :
    (service.onPlay client uri npt).service.Attended := by
  intro video proxy lookup
  obtain ⟨former, found, changed⟩ := onPlay_former lookup
  obtain ⟨phase, other, member⟩ := attended video former found
  rw [changed]
  split_ifs with same
  · by_cases moves : other = client ∧ phase = .beforePlay
    · obtain ⟨rfl, rfl⟩ := moves
      exact ⟨.playing, other, ProxyInfo.mem_clients_played.mpr (Or.inr ⟨rfl, rfl, member⟩)⟩
    · exact ⟨phase, other, ProxyInfo.mem_clients_played.mpr (Or.inl ⟨member, moves⟩)⟩
  · exact ⟨phase, other, member⟩

theorem attended_close {service : RtspService Client} (attended : service.Attended)
    (client : Client) : (service.close client).service.Attended := by
  intro video proxy lookup
  obtain ⟨former, found, same | ⟨_leaves, needed⟩⟩ := close_former lookup
  · rw [same]
    exact attended video former found
  · by_contra nobody
    apply needed
    rw [ProxyInfo.needUnregistered_iff]
    intro phase _later
    exact Finset.not_nonempty_iff_eq_empty.mp (fun someone => nobody ⟨phase, someone⟩)

theorem attended_processSdp {service : RtspService Client} (attended : service.Attended)
    (identity : Nat) (sdp : String) : (service.processSdpFunction identity sdp).Attended := by
  intro video proxy lookup
  obtain ⟨former, found, changed⟩ := processSdp_former lookup
  obtain ⟨phase, other, member⟩ := attended video former found
  rw [changed]
  split_ifs
  · by_cases waits : phase = .waitingSdp
    · rw [waits] at member
      exact ⟨.beforePlay, other, ProxyInfo.mem_clients_acceptSdp.mpr (Or.inr ⟨member, rfl⟩)⟩
    · exact ⟨phase, other, ProxyInfo.mem_clients_acceptSdp.mpr (Or.inl ⟨member, waits⟩)⟩
  · exact ⟨phase, other, member⟩

theorem attended_step {service : RtspService Client} (step : Step Client)
    (attended : service.Attended) : (machine.next service step).Attended := by
  cases step with
  | options client uri => exact attended_options attended client uri
  | describe client uri => exact attended_describe attended client uri
  | play client uri npt => exact attended_play attended client uri npt
  | close client => exact attended_close attended client
  | processSdp proxy sdp => exact attended_processSdp attended proxy sdp
  | consumePkt proxy data => exact attended
  | processError proxy => exact attended

/-! ### Registrations of a proxy -/

/-- How often `RegisterVideo` was called with the callbacks of the proxy. -/
def registrations (calls : List ProducerCall) (identity : Nat) : Nat :=
  calls.countP (fun call =>
    match call with
    | .registerVideo _ proxy => proxy = identity
    | .unregisterVideo _ => false)

theorem registrations_append (calls later : List ProducerCall) (identity : Nat) :
    registrations (calls ++ later) identity =
      registrations calls identity + registrations later identity :=
  List.countP_append

/-- A video is registered by a description that finds neither an SDP nor a
waiting client, and the proxy then has both a registration and somebody waiting. -/
theorem registrations_emit (service : RtspService Client) (step : Step Client) (identity : Nat) :
    registrations (machine.emit service step) identity = 0 ∨
      ∃ client uri found, step = .describe client uri ∧
        service.proxies.find? (VideoRequest.parseUrl uri) = some found ∧
        found.identity = identity ∧ (found.sourceSdp = "" ∧ found.waitingSdpClients = ∅) ∧
        registrations (machine.emit service step) identity = 1 := by
  cases step with
  | options client uri =>
      left
      change registrations (service.onOptions client uri).calls identity = 0
      rw [onOptions_calls]
      rfl
  | play client uri npt =>
      left
      change registrations (service.onPlay client uri npt).calls identity = 0
      rw [onPlay_calls]
      rfl
  | close client =>
      left
      change registrations (service.close client).calls identity = 0
      unfold close
      split
      · rfl
      · split_ifs <;> rfl
  | processSdp | consumePkt | processError => exact Or.inl rfl
  | describe client uri =>
      change registrations (service.onDescribe client uri).calls identity = 0 ∨
        ∃ other another found, _ ∧ _ ∧ _ ∧ _ ∧
          registrations (service.onDescribe client uri).calls identity = 1
      cases located : service.proxies.find? (VideoRequest.parseUrl uri) with
      | none =>
          rw [onDescribe_of_none located]
          exact Or.inl rfl
      | some found =>
          rw [onDescribe_of_some located]
          dsimp only
          split_ifs with registers
          · by_cases own : found.identity = identity
            · exact Or.inr ⟨client, uri, found, rfl, located, own, registers,
                by simp [registrations, own]⟩
            · exact Or.inl (by simp [registrations, own])
          · exact Or.inl rfl
          · exact Or.inl rfl

/-- A proxy in the map after the step is a new one, or was there before and has
not forgotten that it asked for its SDP. -/
theorem asked_former {service : RtspService Client} {step : Step Client} {video : VideoRequest}
    {changed : ProxyInfo Client} (consistent : service.Consistent)
    (delivered : service.SdpDelivered step)
    (lookup : (machine.next service step).proxies.find? video = some changed) :
    (∃ former, service.proxies.find? video = some former ∧
        changed.identity = former.identity ∧ (former.Asked → changed.Asked)) ∨
      changed.identity = service.nextIdentity := by
  cases step with
  | options client uri =>
      rcases onOptions_former lookup with ⟨former, found, rfl⟩ | ⟨_, rfl, _⟩
      · refine Or.inl ⟨former, found, ?_⟩
        split_ifs
        · exact ⟨ProxyInfo.identity_insertClient _ _ _, id⟩
        · exact ⟨rfl, id⟩
      · exact Or.inr (ProxyInfo.identity_insertClient _ _ _)
  | describe client uri =>
      obtain ⟨former, found, rfl⟩ := onDescribe_former lookup
      refine Or.inl ⟨former, found, ?_⟩
      split_ifs
      · exact ⟨ProxyInfo.identity_described _ _, fun _ => ProxyInfo.asked_described _ client⟩
      · exact ⟨rfl, id⟩
  | play client uri npt =>
      obtain ⟨former, found, rfl⟩ := onPlay_former lookup
      refine Or.inl ⟨former, found, ?_⟩
      split_ifs
      · exact ⟨ProxyInfo.identity_played _ _, fun asked => asked.played client⟩
      · exact ⟨rfl, id⟩
  | close client =>
      obtain ⟨former, found, rfl | ⟨leaves, needed⟩⟩ := close_former lookup
      · exact Or.inl ⟨changed, found, rfl, id⟩
      · obtain ⟨phase, _held, leftEq, _first⟩ := ProxyInfo.leave_eq_some leaves
        have speaks : changed.Speaks :=
          ProxyInfo.Speaks.left (consistent.sound video former found).speaks leaves
        refine Or.inl ⟨former, found, ?_, fun _ => speaks.asked needed⟩
        rw [leftEq, ProxyInfo.identity_eraseClient]
  | processSdp proxy sdp =>
      obtain ⟨former, found, rfl⟩ := processSdp_former lookup
      refine Or.inl ⟨former, found, ?_⟩
      split_ifs
      · exact ⟨rfl, fun _ => Or.inr delivered.1⟩
      · exact ⟨rfl, id⟩
  | consumePkt proxy data => exact Or.inl ⟨changed, lookup, rfl, id⟩
  | processError proxy => exact Or.inl ⟨changed, lookup, rfl, id⟩

/-- A registered proxy has asked for its SDP as long as it is in the map, and so
never asks again. -/
structure Accounted (service : RtspService Client) (calls : List ProducerCall) : Prop where
  consistent : service.Consistent
  attended : service.Attended
  once : ∀ identity, registrations calls identity ≤ 1
  known : ∀ identity, 0 < registrations calls identity → identity < service.nextIdentity
  asked : ∀ video proxy, service.proxies.find? video = some proxy →
    0 < registrations calls proxy.identity → proxy.Asked

omit [DecidableEq Client] in
theorem accounted_initial : (initial : RtspService Client).Accounted [] :=
  { consistent := consistent_initial
    attended := by intro video proxy lookup; cases lookup
    once := fun _ => Nat.zero_le 1
    known := fun _ positive => absurd positive (Nat.lt_irrefl 0)
    asked := by intro video proxy lookup; cases lookup }

theorem accounted_step {service : RtspService Client} {calls : List ProducerCall}
    {step : Step Client} (accounted : service.Accounted calls)
    (delivered : service.SdpDelivered step) :
    (machine.next service step).Accounted (calls ++ machine.emit service step) := by
  have consistent := accounted.consistent
  obtain ⟨_key, evolves⟩ := step_evolves service step
  refine
    { consistent := consistent_step consistent delivered
      attended := attended_step step accounted.attended
      once := ?_
      known := ?_
      asked := ?_ }
  · intro identity
    have before := accounted.once identity
    rw [registrations_append]
    rcases registrations_emit service step identity with
      none | ⟨_, uri, found, _, located, own, registers, one⟩
    · omega
    · -- A proxy registered before would have asked, and this one has not.
      have never : registrations calls identity = 0 := by
        by_contra positive
        rcases accounted.asked _ found located (by rw [own]; omega) with waiting | heard
        · exact waiting.ne_empty registers.2
        · exact heard registers.1
      omega
  · intro identity positive
    rw [registrations_append] at positive
    rcases registrations_emit service step identity with
      none | ⟨_, uri, found, _, located, own, _, _⟩
    · exact Nat.lt_of_lt_of_le (accounted.known identity (by omega)) evolves.grows
    · have older := consistent.fresh _ found located
      have grows := evolves.grows
      omega
  · intro video proxy lookup positive
    rw [registrations_append] at positive
    rcases registrations_emit service step proxy.identity with
      none | ⟨client, uri, found, rfl, located, own, registers, _⟩
    · rcases asked_former consistent delivered lookup with ⟨former, old, same, keeps⟩ | new
      · rw [same] at positive none
        exact keeps (accounted.asked video former old (by omega))
      · have below := accounted.known proxy.identity (by omega)
        omega
    · obtain ⟨former, old, rfl⟩ := onDescribe_former lookup
      have identityEq : former.identity = found.identity := by
        rw [own]
        split_ifs
        · rw [ProxyInfo.identity_described]
        · rfl
      have same : video.cmpStr = keyOf uri :=
        consistent.distinct video _ former found old located identityEq
      have formerEq : former = found := Option.some.inj
        (old.symm.trans ((OrderedMap.find?_congr _ same).trans located))
      rw [if_pos same, formerEq]
      exact ProxyInfo.asked_described _ client

/-- In every state reached, a proxy in the map has a client, whoever waits for the
SDP waits before it has come, whoever may play comes after it, and the video was
registered once at most. -/
theorem proxy_invariant (steps : List (Step Client))
    (delivered : machine.Along SdpDelivered initial steps) (video : VideoRequest)
    (proxy : ProxyInfo Client) (located : (after steps).proxies.find? video = some proxy) :
    (∃ phase, (proxy.clients phase).Nonempty) ∧
      (proxy.waitingSdpClients.Nonempty → proxy.sourceSdp = "" ∧ proxy.registered = false) ∧
      (proxy.beforePlayClients.Nonempty ∨ proxy.playingClients.Nonempty →
        proxy.sourceSdp ≠ "" ∧ proxy.registered = true) ∧
      registrations (machine.trace initial steps) proxy.identity ≤ 1 := by
  have accounted : (after steps).Accounted (machine.trace initial steps) :=
    delivered.trace_invariant Accounted (fun _ _ _ => accounted_step) accounted_initial
  have sound := accounted.consistent.sound video proxy located
  refine ⟨accounted.attended video proxy located, ?_, ?_, accounted.once proxy.identity⟩
  · intro waiting
    have silent := sound.silent waiting
    refine ⟨silent, ?_⟩
    rw [← Bool.not_eq_true, sound.flag]
    exact fun heard => heard silent
  · intro ready
    have heard : proxy.sourceSdp ≠ "" := by
      rcases ready with ⟨client, member⟩ | ⟨client, member⟩
      · exact sound.speaks client (Or.inl member)
      · exact sound.speaks client (Or.inr member)
    exact ⟨heard, sound.flag.mpr heard⟩

/-- The SDP arrives while one client waits; then that client plays, and a second one
describes the camera. -/
theorem proxy_invariant_answered :
    let steps : List (Step Nat) :=
      [.options 0 "rtsp://host/gb/1", .options 1 "rtsp://host/gb/1",
        .describe 0 "rtsp://host/gb/1", .processSdp 0 "v=0", .play 0 "rtsp://host/gb/1" none,
        .describe 1 "rtsp://host/gb/1"]
    machine.Along SdpDelivered initial steps ∧
      ∃ proxy, (after steps).proxies.find? (VideoRequest.parseUrl "rtsp://host/gb/1") = some proxy ∧
        (proxy.beforePlayClients.Nonempty ∨ proxy.playingClients.Nonempty →
          proxy.sourceSdp ≠ "" ∧ proxy.registered = true) ∧
        registrations (machine.trace initial steps) proxy.identity ≤ 1 :=
  ⟨by decide, _, (Option.some_get (by decide)).symm,
    (proxy_invariant _ (by decide) (VideoRequest.parseUrl "rtsp://host/gb/1") _
      (Option.some_get (by decide)).symm).2.2⟩

end Ffvms.Concrete.RtspService
