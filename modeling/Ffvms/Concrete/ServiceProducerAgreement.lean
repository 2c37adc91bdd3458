/-
Service and producer agree on what is registered, as long as no proxy is erased
while the producer still holds callbacks bound to it.

What the producer holds under a key is bound to the proxy that the service has
under the same key, and that proxy has asked for its SDP.  Every step but one
keeps this by itself.  The exception is a `Close` that erases the proxy: it calls
`UnregisterVideo` only if the SDP has arrived, and that call does not reach a
running `RegisterFileVideo` task.
-/

import Ffvms.Concrete.RtspServiceInvariant
import Ffvms.Concrete.ServiceProducer

namespace Ffvms.Concrete

variable {Client : Type} [DecidableEq Client]

namespace RtpProducer

variable {Target : Type}

/-! ### What the producer holds under a key -/

/-- `Registered`, with the request under which the callbacks are kept. -/
inductive Keyed (producer : RtpProducer Target) (video : VideoRequest)
    (registration : Registration Target) : Prop
  | file (context : FileVideoContext Target)
      (found : producer.fileVideoContextMap.find? video = some context)
      (own : context.registration = registration)
  | task (serial : Nat) (task : FileTask Target)
      (queued : producer.fileTasks.find? serial = some task) (key : task.video = video)
      (own : task.registration = registration)
  | rtp (address : Nat) (cell : SharedCell (RtpVideoContext Target))
      (found : producer.heap.cell? address = some cell)
      (key : cell.object.videoRequest = video) (own : cell.object.registration = registration)

theorem registered_iff_keyed {producer : RtpProducer Target}
    {registration : Registration Target} :
    producer.Registered registration ↔ ∃ video, producer.Keyed video registration := by
  constructor
  · intro registered
    cases registered with
    | file video context found own => exact ⟨video, .file context found own⟩
    | task serial task queued own => exact ⟨task.video, .task serial task queued rfl own⟩
    | rtp address cell found own =>
        exact ⟨cell.object.videoRequest, .rtp address cell found rfl own⟩
  · rintro ⟨video, keyed⟩
    cases keyed with
    | file context found own => exact .file video context found own
    | task serial task queued key own => exact .task serial task queued own
    | rtp address cell found key own => exact .rtp address cell found own

theorem keyed_former {producer : RtpProducer Target} {step : Step Target} {video : VideoRequest}
    {registration : Registration Target}
    (owned : Owned producer.rtpVideoContextMap producer.heap)
    (keyed : (machine.next producer step).Keyed video registration) :
    producer.Keyed video registration ∨
      ∃ added, added.cmpStr = video.cmpStr ∧ Opens producer step added registration := by
  cases keyed with
  | file context found own =>
      rcases file_former found with ⟨old, located, same⟩ | ⟨⟨added, sameKey, _, opens⟩, _⟩
      · exact Or.inl (.file old located (same.symm.trans own))
      · rw [own] at opens
        exact Or.inr ⟨added, sameKey, opens⟩
  | task serial task queued key own =>
      rcases task_former queued with ⟨old, located, same, sameKey, _⟩ | ⟨_, opens, _⟩
      · exact Or.inl (.task serial old located (sameKey.symm.trans key) (same.symm.trans own))
      · rw [key, own] at opens
        exact Or.inr ⟨video, rfl, opens⟩
  | rtp address cell found key own =>
      rcases cell_former owned found with ⟨old, located, same, sameKey⟩ | ⟨_, opens, _⟩
      · exact Or.inl (.rtp address old located (sameKey.symm.trans key) (same.symm.trans own))
      · rw [key, own] at opens
        exact Or.inr ⟨video, rfl, opens⟩

theorem fileTasks_unregister (producer : RtpProducer Target) (video : VideoRequest) :
    (machine.next producer (.unregisterVideo video)).fileTasks = producer.fileTasks := by
  have moved := transition producer (.unregisterVideo video)
  change (producer.perform (.unregisterVideo video)).producer.fileTasks = _
  generalize producer.perform (.unregisterVideo video) = result at moved
  cases moved with
  | idle | fileRemoved | gbRemoved => rfl

theorem file_unregister (producer : RtpProducer Target) {video : VideoRequest}
    (isFile : video.useFile = true) :
    (machine.next producer (.unregisterVideo video)).fileVideoContextMap.find? video = none := by
  change (producer.unregisterVideo video).producer.fileVideoContextMap.find? video = none
  simp only [unregisterVideo, isFile, if_true]
  exact OrderedMap.find?_erase_self _ _

theorem rtp_unregister (producer : RtpProducer Target) {video : VideoRequest}
    (noFile : video.useFile = false) (isGb : video.useGb = true) :
    (machine.next producer (.unregisterVideo video)).rtpVideoContextMap.find? video = none := by
  change (producer.unregisterVideo video).producer.rtpVideoContextMap.find? video = none
  cases located : producer.rtpVideoContextMap.find? video with
  | none => simp only [unregisterVideo, noFile, isGb, Bool.false_eq_true, if_false, if_true, located]
  | some address =>
      simp only [unregisterVideo, noFile, isGb, Bool.false_eq_true, if_false, if_true, located]
      exact OrderedMap.find?_erase_self _ _

/-- `UnregisterVideo` leaves nothing under its key but tasks. -/
theorem task_of_keyed_unregister {producer : RtpProducer Target} {video key : VideoRequest}
    {registration : Registration Target} (consistent : producer.Consistent)
    (keyed : (machine.next producer (.unregisterVideo video)).Keyed key registration)
    (same : key.cmpStr = video.cmpStr) :
    ∃ serial task, producer.fileTasks.find? serial = some task ∧
      task.registration = registration := by
  have later := consistent_step (.unregisterVideo video) consistent
  cases keyed with
  | file context found own =>
      have isFile := (VideoRequest.useFile_congr same).symm.trans (later.fileKind key context found)
      rw [OrderedMap.find?_congr _ same, file_unregister producer isFile] at found
      cases found
  | task serial task queued _ own =>
      rw [fileTasks_unregister] at queued
      exact ⟨serial, task, queued, own⟩
  | rtp address cell found keyEq own =>
      obtain ⟨noFile, isGb⟩ := later.gbKind address cell found
      have mapped := later.owned.mapped address cell found
      rw [keyEq] at noFile isGb mapped
      have noFileHere := (VideoRequest.useFile_congr same).symm.trans noFile
      have isGbHere := (VideoRequest.useGb_congr same noFile).symm.trans isGb
      rw [OrderedMap.find?_congr _ same, rtp_unregister producer noFileHere isGbHere] at mapped
      cases mapped

theorem keyed_of_refused {producer : RtpProducer Target} {video : VideoRequest} {target : Target}
    {registration : Registration Target} (consistent : producer.Consistent)
    (emitted : Effect.callback registration (.processError .tooManyFilesOpen) ∈
      machine.emit producer (.registerVideo video target)) :
    ∃ key other, key.cmpStr = video.cmpStr ∧ producer.Keyed key other := by
  have moved := transition producer (.registerVideo video target)
  change _ ∈ (producer.perform (.registerVideo video target)).effects at emitted
  generalize producer.perform (.registerVideo video target) = result at moved emitted
  cases moved with
  | idle | ignored | fileQueued | gbInvited => simp at emitted
  | gbUnnamed => simp [Registration.invoke] at emitted
  | refused _ _ taken =>
      rcases taken with ⟨context, found⟩ | ⟨address, located⟩
      · exact ⟨video, context.registration, rfl, .file context found rfl⟩
      · obtain ⟨context, alive, key⟩ := consistent.owned.held video address located
        exact ⟨context.videoRequest, context.registration, key, .rtp address _ alive rfl rfl⟩

/-! ### No SDP is empty -/

private theorem append_ne_empty {left right : String} (text : left ≠ "") :
    left ++ right ≠ "" := by
  intro empty
  exact text (String.append_eq_empty_iff.mp empty).1

theorem gbSdp_ne_empty (video : VideoRequest) (gb : GbInviteVideoResponse) :
    gbSdp video gb ≠ "" := by
  unfold gbSdp
  iterate 15 apply append_ne_empty
  decide

theorem Probe.run_spoken {probe : Probe} {way : ProbeExit} {sdp : String}
    (exit : probe.run = (way, some sdp)) : sdp = probe.sdp := by
  unfold Probe.run at exit
  repeat
    rcases ite_eq_iff.mp exit with ⟨_, other⟩ | ⟨_, exit⟩
    · cases other
      try rfl
  cases exit
  rfl

theorem sdp_ne_empty {producer : RtpProducer Target} {step : Step Target}
    {registration : Registration Target} {sdp : String}
    (emitted : Effect.callback registration (.processSdp sdp) ∈ machine.emit producer step) :
    sdp ≠ "" := by
  have moved := transition producer step
  change _ ∈ (producer.perform step).effects at emitted
  generalize producer.perform step = result at moved emitted
  cases moved with
  | idle | ignored | fileQueued | gbInvited | probeLost | probeCrashed | reportedNobody
  | inviteLost => simp at emitted
  | fileRemoved | cleaned => cases mem_destroyFile emitted
  | refused | gbUnnamed | reported | framed | frameFailed | inviteFailed | received =>
      simp [Registration.invoke] at emitted
  | gbRemoved video address noFile isGb located =>
      obtain ⟨context, _alive, _named, same⟩ := mem_tearDownOf emitted
      cases same
  | probeStarted serial probe task said context queued phase found exit =>
      cases List.mem_singleton.mp emitted
      rw [Probe.run_spoken exit]
      exact probe.sdpText
  | probeBroke serial probe task ret spoken context queued phase found exit =>
      cases spoken with
      | none => cases emitted
      | some said =>
          cases List.mem_singleton.mp emitted
          rw [Probe.run_spoken exit]
          exact probe.sdpText
  | inviteAccepted serial completion invite context gb calling alive accepted =>
      rcases List.mem_cons.mp emitted with same | others
      · cases same
        exact gbSdp_ne_empty invite.video gb
      · simp at others

end RtpProducer

namespace RtspService

/-! ### Proxies that stay -/

/-- Each proxy is still under its key, and has not forgotten its SDP. -/
def Carries (service later : RtspService Client) : Prop :=
  ∀ video proxy, service.proxies.find? video = some proxy →
    ∃ changed, later.proxies.find? video = some changed ∧
      changed.identity = proxy.identity ∧ (proxy.Asked → changed.Asked)

omit [DecidableEq Client] in
theorem Carries.refl (service : RtspService Client) : Carries service service :=
  fun _ proxy located => ⟨proxy, located, rfl, id⟩

omit [DecidableEq Client] in
theorem Carries.trans {first second third : RtspService Client} (front : Carries first second)
    (back : Carries second third) : Carries first third := by
  intro video proxy located
  obtain ⟨middle, found, same, keeps⟩ := front video proxy located
  obtain ⟨last, foundLast, sameLast, keepsLast⟩ := back video middle found
  exact ⟨last, foundLast, sameLast.trans same, fun asked => keepsLast (keeps asked)⟩

theorem carries_options (service : RtspService Client) (client : Client) (uri : String) :
    Carries service (service.onOptions client uri).service := by
  intro video proxy located
  rw [onOptions_find?]
  by_cases same : video.cmpStr = keyOf uri
  · have here : service.optionsProxy uri = proxy := by
      unfold optionsProxy
      rw [← OrderedMap.find?_congr service.proxies same, located]
      rfl
    rw [if_pos same, here]
    exact ⟨_, rfl, ProxyInfo.identity_insertClient _ _ _, id⟩
  · rw [if_neg same]
    exact ⟨proxy, located, rfl, id⟩

theorem carries_describe (service : RtspService Client) (client : Client) (uri : String) :
    Carries service (service.onDescribe client uri).service := by
  intro video proxy located
  rw [onDescribe_find?, located]
  split_ifs
  · exact ⟨_, rfl, ProxyInfo.identity_described _ _, fun _ => ProxyInfo.asked_described _ client⟩
  · exact ⟨proxy, rfl, rfl, id⟩

theorem carries_play (service : RtspService Client) (client : Client) (uri : String)
    (npt : Option Int) : Carries service (service.onPlay client uri npt).service := by
  intro video proxy located
  rw [onPlay_find?, located]
  split_ifs
  · exact ⟨_, rfl, ProxyInfo.identity_played _ _, fun asked => asked.played client⟩
  · exact ⟨proxy, rfl, rfl, id⟩

theorem carries_close {service : RtspService Client} {client : Client}
    (consistent : service.Consistent)
    (attended : ∀ video proxy, service.holder client = some (video, proxy) →
      ¬proxy.Unattended client) :
    Carries service (service.close client).service := by
  intro video proxy located
  cases lookup : (service.close client).service.proxies.find? video with
  | none =>
      obtain ⟨key, held, unattended⟩ := holder_of_close_erases located lookup
      exact absurd unattended (attended key proxy held)
  | some changed =>
      obtain ⟨former, found, change⟩ := close_former lookup
      cases located.symm.trans found
      refine ⟨changed, rfl, ?_⟩
      rcases change with same | ⟨leaves, needed⟩
      · rw [same]
        exact ⟨rfl, id⟩
      · have speaks : changed.Speaks :=
          ProxyInfo.Speaks.left (consistent.sound video proxy located).speaks leaves
        obtain ⟨phase, _held, leftEq, _first⟩ := ProxyInfo.leave_eq_some leaves
        refine ⟨?_, fun _ => speaks.asked needed⟩
        rw [leftEq, ProxyInfo.identity_eraseClient]

theorem close_calls_of_attended {service : RtspService Client} {client : Client}
    (attended : ∀ video proxy, service.holder client = some (video, proxy) →
      ¬proxy.Unattended client) :
    (service.close client).calls = [] := by
  unfold close
  rw [closeScan_eq]
  cases held : service.holder client with
  | none => rfl
  | some entry =>
      cases leaves : entry.2.leave client with
      | none => simp only [Option.bind_some, leaves, Option.map_none]
      | some left =>
          have needed : ¬left.needUnregistered := fun unneeded =>
            attended entry.1 entry.2 held
              ((ProxyInfo.needUnregistered_leave_iff leaves).mp unneeded)
          simp only [Option.bind_some, leaves, Option.map_some]
          rw [if_neg needed]

theorem close_of_unattended {service : RtspService Client} {client : Client}
    {video : VideoRequest} {proxy : ProxyInfo Client}
    (held : service.holder client = some (video, proxy)) (unattended : proxy.Unattended client) :
    service.close client =
      ⟨{ service with proxies := service.proxies.erase video }, .code 0,
        if proxy.registered then [.unregisterVideo video] else []⟩ := by
  obtain ⟨_located, inside⟩ := holder_eq_some held
  unfold close
  rw [closeScan_eq, held]
  cases leaves : proxy.leave client with
  | none => exact absurd (ProxyInfo.leave_eq_none_iff.mp leaves) inside
  | some left =>
      obtain ⟨phase, _held, leftEq, _first⟩ := ProxyInfo.leave_eq_some leaves
      have flag : left.registered = proxy.registered := by
        rw [leftEq, ProxyInfo.registered_eraseClient]
      simp only [Option.bind_some, leaves, Option.map_some]
      rw [if_pos ((ProxyInfo.needUnregistered_leave_iff leaves).mpr unattended), flag]

/-! ### Callbacks -/

def Worded (effects : List (Effect Nat)) : Prop :=
  ∀ registration sdp, .callback registration (.processSdp sdp) ∈ effects → sdp ≠ ""

theorem Worded.split {effect : Effect Nat} {rest : List (Effect Nat)}
    (worded : Worded (effect :: rest)) : Worded [effect] ∧ Worded rest := by
  constructor
  · intro registration sdp member
    rw [List.mem_singleton] at member
    exact worded registration sdp (member ▸ List.mem_cons_self)
  · intro registration sdp member
    exact worded registration sdp (List.mem_cons_of_mem effect member)

theorem carries_processSdp (service : RtspService Client) (identity : Nat) {sdp : String}
    (text : sdp ≠ "") : Carries service (service.processSdpFunction identity sdp) := by
  intro video proxy located
  rw [processSdpFunction_find?, located]
  refine ⟨_, rfl, ?_⟩
  dsimp only
  split_ifs
  · exact ⟨rfl, fun _ => Or.inr text⟩
  · exact ⟨rfl, id⟩

theorem live_processSdp (service : RtspService Client) (proxy identity : Nat) (sdp : String) :
    (service.processSdpFunction proxy sdp).Live identity ↔ service.Live identity := by
  have kept (info : ProxyInfo Client) :
      (if info.identity = proxy then info.acceptSdp sdp else info).identity = info.identity := by
    split_ifs <;> rfl
  rw [live_iff, live_iff]
  constructor
  · rintro ⟨video, changed, located, same⟩
    rw [processSdpFunction_find?] at located
    obtain ⟨former, found, rfl⟩ := Option.map_eq_some_iff.mp located
    exact ⟨video, former, found, (kept former).symm.trans same⟩
  · rintro ⟨video, former, found, same⟩
    refine ⟨video, _, ?_, (kept former).trans same⟩
    rw [processSdpFunction_find?, found]
    rfl

theorem carries_callback (service : RtspService Client) {effect : Effect Nat}
    (worded : Worded [effect]) : Carries service (service.callback effect) := by
  cases effect with
  | callback registration call =>
      cases call with
      | processSdp sdp =>
          exact carries_processSdp service registration.target
            (worded registration sdp List.mem_cons_self)
      | consumePkt data => exact Carries.refl service
      | processError code => exact Carries.refl service
  | _ => exact Carries.refl service

theorem consistent_callback {service : RtspService Client} {effect : Effect Nat}
    (consistent : service.Consistent) (worded : Worded [effect]) :
    (service.callback effect).Consistent := by
  cases effect with
  | callback registration call =>
      cases call with
      | processSdp sdp =>
          exact consistent_processSdp consistent (worded registration sdp List.mem_cons_self)
      | consumePkt data =>
          exact ⟨consistent.sound, consistent.distinct, consistent.fresh, consistent.pendingFresh,
            consistent.pendingNodup⟩
      | processError code =>
          exact ⟨consistent.sound, consistent.distinct, consistent.fresh, consistent.pendingFresh,
            consistent.pendingNodup⟩
  | _ => exact consistent

theorem live_callback (service : RtspService Client) (effect : Effect Nat) (identity : Nat) :
    (service.callback effect).Live identity ↔ service.Live identity := by
  cases effect with
  | callback registration call =>
      cases call with
      | processSdp sdp => exact live_processSdp service registration.target identity sdp
      | consumePkt data => exact Iff.rfl
      | processError code => exact Iff.rfl
  | _ => exact Iff.rfl

theorem carries_deliver (service : RtspService Client) {effects : List (Effect Nat)}
    (worded : Worded effects) : Carries service (service.deliver effects) := by
  induction effects generalizing service with
  | nil => exact Carries.refl service
  | cons effect rest ih =>
      obtain ⟨first, others⟩ := worded.split
      exact (carries_callback service first).trans (ih _ others)

theorem consistent_deliver {service : RtspService Client} {effects : List (Effect Nat)}
    (consistent : service.Consistent) (worded : Worded effects) :
    (service.deliver effects).Consistent := by
  induction effects generalizing service with
  | nil => exact consistent
  | cons effect rest ih =>
      obtain ⟨first, others⟩ := worded.split
      exact ih (consistent_callback consistent first) others

theorem live_deliver (service : RtspService Client) (effects : List (Effect Nat))
    (identity : Nat) : (service.deliver effects).Live identity ↔ service.Live identity := by
  induction effects generalizing service with
  | nil => exact Iff.rfl
  | cons effect rest ih => exact (ih _).trans (live_callback service effect identity)

end RtspService

namespace ServiceProducer

/-! ### The joint invariant -/

/-- The callbacks are bound to the proxy under the key, which has asked for its
SDP. -/
def BoundAt (service : RtspService Client) (video : VideoRequest)
    (registration : Registration Nat) : Prop :=
  ∃ proxy, service.proxies.find? video = some proxy ∧ proxy.identity = registration.target ∧
    proxy.Asked

structure Joined (system : ServiceProducer Client) : Prop where
  service : system.service.Consistent
  producer : system.producer.Consistent
  bound : ∀ video registration, system.producer.Keyed video registration →
    BoundAt system.service video registration

omit [DecidableEq Client] in
theorem BoundAt.carry {service later : RtspService Client} {video : VideoRequest}
    {registration : Registration Nat} (bound : BoundAt service video registration)
    (carries : service.Carries later) : BoundAt later video registration := by
  obtain ⟨proxy, located, own, asked⟩ := bound
  obtain ⟨changed, found, same, keeps⟩ := carries video proxy located
  exact ⟨changed, found, same.trans own, keeps asked⟩

omit [DecidableEq Client] in
theorem BoundAt.live {service : RtspService Client} {video : VideoRequest}
    {registration : Registration Nat} (bound : BoundAt service video registration) :
    service.Live registration.target := by
  obtain ⟨proxy, located, own, _asked⟩ := bound
  exact RtspService.live_iff.mpr ⟨video, proxy, located, own⟩

omit [DecidableEq Client] in
/-- Two keys under which callbacks of one proxy are kept are the same key. -/
theorem BoundAt.key {service : RtspService Client} {video key : VideoRequest}
    {registration : Registration Nat} {proxy : ProxyInfo Client}
    (bound : BoundAt service key registration) (consistent : service.Consistent)
    (located : service.proxies.find? video = some proxy)
    (own : registration.target = proxy.identity) : key.cmpStr = video.cmpStr := by
  obtain ⟨other, found, same, _asked⟩ := bound
  exact consistent.distinct key video other proxy found located (same.trans own)

theorem joined_initial (config : ProducerConfig) :
    (initial config : ServiceProducer Client).Joined := by
  refine
    { service := @RtspService.consistent_after Client _ [] trivial
      producer := RtpProducer.consistent_initial config
      bound := ?_ }
  intro video registration keyed
  cases keyed with
  | file context found own => cases found
  | task serial task queued key own => cases queued
  | rtp address cell found key own => cases found

theorem worded_effects (system : ServiceProducer Client) (step : Step Client) :
    RtspService.Worded (system.effects step) := by
  intro registration sdp member
  obtain ⟨before, call, _later, _split, emitted⟩ := LabelledMachine.mem_trace_iff.mp member
  exact RtpProducer.sdp_ne_empty emitted

/-- What a handler and its calls on the producer have to leave behind, before the
callbacks are invoked. -/
structure Settles (system : ServiceProducer Client) (step : Step Client) : Prop where
  kept : (system.handled step).Consistent
  bound : ∀ video registration,
    (RtpProducer.machine.run system.producer (system.calls step)).Keyed video registration →
      BoundAt (system.handled step) video registration
  alive : ∀ registration call, .callback registration call ∈ system.effects step →
    (system.handled step).Live registration.target
  accepted : ∀ client uri, step = .request (.describe client uri) →
    ∀ registration, .callback registration (.processError .tooManyFilesOpen) ∉
      system.effects step

theorem Settles.joined {system : ServiceProducer Client} {step : Step Client}
    (settles : system.Settles step) (joined : system.Joined) :
    (machine.next system step).Joined :=
  { service := RtspService.consistent_deliver settles.kept (worded_effects system step)
    producer := LabelledMachine.run_invariant RtpProducer.Consistent
      (fun _ step consistent => RtpProducer.consistent_step step consistent) joined.producer _
    bound := fun video registration keyed =>
      (settles.bound video registration keyed).carry
        (RtspService.carries_deliver _ (worded_effects system step)) }

theorem Settles.agrees {system : ServiceProducer Client} {step : Step Client}
    (settles : system.Settles step) : system.Agrees step := by
  refine
    { bound := ?_
      alive := ?_
      accepted := settles.accepted }
  · intro registration registered
    obtain ⟨video, keyed⟩ := RtpProducer.registered_iff_keyed.mp registered
    exact (RtspService.live_deliver _ _ _).mpr (settles.bound video registration keyed).live
  · intro before registration call later split
    apply (RtspService.live_deliver _ _ _).mpr
    apply settles.alive registration call
    rw [split]
    exact List.mem_append_right before List.mem_cons_self

/-! ### One step -/

theorem effects_of_silent {system : ServiceProducer Client} {step : Step Client}
    (silent : system.calls step = []) : system.effects step = [] := by
  unfold effects
  rw [silent]
  rfl

theorem settles_of_silent {system : ServiceProducer Client} {step : Step Client}
    (joined : system.Joined) (silent : system.calls step = [])
    (kept : (system.handled step).Consistent)
    (carries : system.service.Carries (system.handled step)) : system.Settles step := by
  have quiet := effects_of_silent silent
  refine
    { kept := kept
      bound := ?_
      alive := ?_
      accepted := ?_ }
  · intro video registration keyed
    rw [silent] at keyed
    exact (joined.bound video registration keyed).carry carries
  · intro registration call member
    rw [quiet] at member
    cases member
  · intro client uri _ registration member
    rw [quiet] at member
    cases member

theorem effects_of_single {system : ServiceProducer Client} {step : Step Client}
    {call : RtpProducer.Step Nat} (single : system.calls step = [call]) :
    system.effects step = RtpProducer.machine.emit system.producer call := by
  unfold effects
  rw [single]
  exact List.append_nil _

theorem settles_work {system : ServiceProducer Client} {step : RtpProducer.Step Nat}
    (joined : system.Joined) (work : IsWork step) : system.Settles (.work step) := by
  have single : system.calls (.work step) = [step] := if_pos work
  refine
    { kept := joined.service
      bound := ?_
      alive := ?_
      accepted := fun _ _ other => nomatch other }
  · intro video registration keyed
    rw [single] at keyed
    rcases RtpProducer.keyed_former joined.producer.owned keyed with older | ⟨added, _, opens⟩
    · exact joined.bound video registration older
    · rw [opens.1] at work
      exact work.elim
  · intro registration call member
    rw [effects_of_single single] at member
    rcases (RtpProducer.speaks_of_emitted member).registered with registered | ⟨video, opens⟩
    · obtain ⟨video, keyed⟩ := RtpProducer.registered_iff_keyed.mp registered
      exact (joined.bound video registration keyed).live
    · rw [opens.1] at work
      exact work.elim

omit [DecidableEq Client] in
/-- The proxy that a description registers has asked for nothing yet, so the
producer holds nothing under its key. -/
theorem unkeyed_of_registers {system : ServiceProducer Client} {video : VideoRequest}
    {found : ProxyInfo Client} (joined : system.Joined)
    (located : system.service.proxies.find? video = some found)
    (registers : found.sourceSdp = "" ∧ found.waitingSdpClients = ∅) :
    ∀ key registration, key.cmpStr = video.cmpStr →
      ¬system.producer.Keyed key registration := by
  intro key registration same keyed
  obtain ⟨proxy, here, _own, asked⟩ := joined.bound key registration keyed
  rw [OrderedMap.find?_congr _ same, located] at here
  cases here
  rcases asked with waiting | heard
  · rw [registers.2] at waiting
    exact Finset.not_nonempty_empty waiting
  · exact heard registers.1

theorem calls_options (system : ServiceProducer Client) (client : Client) (uri : String) :
    system.calls (.request (.options client uri)) = [] := by
  change (system.service.onOptions client uri).calls.map _ = []
  rw [RtspService.onOptions_calls]
  rfl

theorem calls_play (system : ServiceProducer Client) (client : Client) (uri : String)
    (npt : Option Int) : system.calls (.request (.play client uri npt)) = [] := by
  change (system.service.onPlay client uri npt).calls.map _ = []
  rw [RtspService.onPlay_calls]
  rfl

theorem calls_describe_of_none {system : ServiceProducer Client} {uri : String} (client : Client)
    (missing : system.service.proxies.find? (VideoRequest.parseUrl uri) = none) :
    system.calls (.request (.describe client uri)) = [] := by
  change (system.service.onDescribe client uri).calls.map _ = []
  rw [RtspService.onDescribe_of_none missing]
  rfl

theorem calls_describe {system : ServiceProducer Client} {uri : String}
    {found : ProxyInfo Client} (client : Client)
    (located : system.service.proxies.find? (VideoRequest.parseUrl uri) = some found) :
    system.calls (.request (.describe client uri)) =
      if found.sourceSdp = "" ∧ found.waitingSdpClients = ∅ then
        [.registerVideo (VideoRequest.parseUrl uri) found.identity]
      else [] := by
  change (system.service.onDescribe client uri).calls.map _ = _
  rw [RtspService.onDescribe_of_some located]
  dsimp only
  split_ifs <;> rfl

theorem settles_describe {system : ServiceProducer Client} (joined : system.Joined)
    (client : Client) (uri : String) : system.Settles (.request (.describe client uri)) := by
  have kept := RtspService.consistent_describe joined.service client uri
  have carries := RtspService.carries_describe system.service client uri
  cases located : system.service.proxies.find? (VideoRequest.parseUrl uri) with
  | none => exact settles_of_silent joined (calls_describe_of_none client located) kept carries
  | some found =>
      have single := calls_describe client located
      by_cases registers : found.sourceSdp = "" ∧ found.waitingSdpClients = ∅
      · rw [if_pos registers] at single
        -- What the call makes is bound to the proxy that now waits.
        have asks {key : VideoRequest} {registration : Registration Nat}
            (same : (VideoRequest.parseUrl uri).cmpStr = key.cmpStr)
            (own : found.identity = registration.target) :
            BoundAt (system.service.onDescribe client uri).service key registration := by
          refine ⟨found.described client, ?_, ?_, ProxyInfo.asked_described _ client⟩
          · have here : key.cmpStr = RtspService.keyOf uri := same.symm
            rw [RtspService.onDescribe_find?, if_pos here, OrderedMap.find?_congr _ here, located]
            rfl
          · rw [ProxyInfo.identity_described, own]
        refine
          { kept := kept
            bound := ?_
            alive := ?_
            accepted := ?_ }
        · intro key registration keyed
          rw [single] at keyed
          rcases RtpProducer.keyed_former joined.producer.owned keyed with
            older | ⟨added, same, opens⟩
          · exact (joined.bound key registration older).carry carries
          · obtain ⟨rfl, own⟩ := RtpProducer.Step.registerVideo.inj opens.1
            exact asks same own
        · intro registration call member
          rw [effects_of_single single] at member
          rcases (RtpProducer.speaks_of_emitted member).registered with
            registered | ⟨video, opens⟩
          · obtain ⟨video, keyed⟩ := RtpProducer.registered_iff_keyed.mp registered
            exact ((joined.bound video registration keyed).carry carries).live
          · exact (asks rfl (RtpProducer.Step.registerVideo.inj opens.1).2).live
        · intro _ _ _ registration member
          rw [effects_of_single single] at member
          obtain ⟨key, other, same, keyed⟩ := RtpProducer.keyed_of_refused joined.producer member
          exact unkeyed_of_registers joined located registers key other same keyed
      · rw [if_neg registers] at single
        exact settles_of_silent joined single kept carries

theorem calls_close_of_attended {system : ServiceProducer Client} {client : Client}
    (attended : ∀ video proxy, system.service.holder client = some (video, proxy) →
      ¬proxy.Unattended client) : system.calls (.request (.close client)) = [] := by
  change (system.service.close client).calls.map _ = []
  rw [RtspService.close_calls_of_attended attended]
  rfl

theorem calls_close {system : ServiceProducer Client} {client : Client} {video : VideoRequest}
    {proxy : ProxyInfo Client} (held : system.service.holder client = some (video, proxy))
    (unattended : proxy.Unattended client) :
    system.calls (.request (.close client)) =
      if proxy.registered then [.unregisterVideo video] else [] := by
  change (system.service.close client).calls.map _ = _
  rw [RtspService.close_of_unattended held unattended]
  dsimp only
  split_ifs <;> rfl

/-- What the producer still holds after a settled close that erases the proxy is
bound to other proxies, and was held before. -/
theorem keyed_close {system : ServiceProducer Client} {client : Client} {video key : VideoRequest}
    {proxy : ProxyInfo Client} {registration : Registration Nat} (joined : system.Joined)
    (settled : system.CloseSettled (.request (.close client)))
    (held : system.service.holder client = some (video, proxy))
    (unattended : proxy.Unattended client)
    (keyed : (RtpProducer.machine.run system.producer
      (system.calls (.request (.close client)))).Keyed key registration) :
    system.producer.Keyed key registration ∧ registration.target ≠ proxy.identity := by
  obtain ⟨located, _inside⟩ := RtspService.holder_eq_some held
  obtain ⟨noTask, noContext⟩ := settled video proxy held unattended
  rw [calls_close held unattended] at keyed
  cases flag : proxy.registered with
  | false =>
      simp only [flag, Bool.false_eq_true, if_false] at keyed
      exact ⟨keyed, noContext flag registration
        (RtpProducer.registered_iff_keyed.mpr ⟨key, keyed⟩)⟩
  | true =>
      simp only [flag, if_true] at keyed
      change (RtpProducer.machine.next system.producer (.unregisterVideo video)).Keyed key
        registration at keyed
      rcases RtpProducer.keyed_former joined.producer.owned keyed with older | ⟨_, _, opens⟩
      · refine ⟨older, ?_⟩
        intro own
        have same := (joined.bound key registration older).key joined.service located own
        obtain ⟨serial, task, queued, taskOwn⟩ :=
          RtpProducer.task_of_keyed_unregister joined.producer keyed same
        exact noTask serial task queued (by rw [taskOwn, own])
      · cases opens.1

theorem settles_close {system : ServiceProducer Client} {client : Client}
    (joined : system.Joined) (settled : system.CloseSettled (.request (.close client))) :
    system.Settles (.request (.close client)) := by
  have kept := RtspService.consistent_close joined.service client
  by_cases erases : ∃ video proxy, system.service.holder client = some (video, proxy) ∧
      proxy.Unattended client
  · obtain ⟨video, proxy, held, unattended⟩ := erases
    have closed := RtspService.close_of_unattended held unattended
    obtain ⟨located, _inside⟩ := RtspService.holder_eq_some held
    refine
      { kept := kept
        bound := ?_
        alive := ?_
        accepted := fun _ _ other => nomatch other }
    · intro key registration keyed
      obtain ⟨older, apart⟩ := keyed_close joined settled held unattended keyed
      obtain ⟨other, found, own, asked⟩ := joined.bound key registration older
      refine ⟨other, ?_, own, asked⟩
      change (system.service.close client).service.proxies.find? key = some other
      have different : key.cmpStr ≠ video.cmpStr := by
        intro same
        rw [OrderedMap.find?_congr _ same, located] at found
        cases found
        exact apart own.symm
      rw [closed]
      change (system.service.proxies.erase video).find? key = some other
      rw [OrderedMap.find?_erase, if_neg different]
      exact found
    · intro registration call member
      obtain ⟨before, step, _later, split, emitted⟩ := LabelledMachine.mem_trace_iff.mp member
      have unregisters : step ∈ system.calls (.request (.close client)) := by
        rw [split]
        exact List.mem_append_right before List.mem_cons_self
      rw [calls_close held unattended] at unregisters
      split_ifs at unregisters
      · cases List.mem_singleton.mp unregisters
        cases RtpProducer.speaks_of_emitted emitted
      · cases unregisters
  · have attended : ∀ video proxy, system.service.holder client = some (video, proxy) →
        ¬proxy.Unattended client :=
      fun video proxy held unattended => erases ⟨video, proxy, held, unattended⟩
    exact settles_of_silent joined (calls_close_of_attended attended) kept
      (RtspService.carries_close joined.service attended)

theorem settles_step {system : ServiceProducer Client} {step : Step Client}
    (joined : system.Joined) (settled : system.CloseSettled step) : system.Settles step := by
  cases step with
  | work step =>
      by_cases work : IsWork step
      · exact settles_work joined work
      · exact settles_of_silent joined (if_neg work) joined.service (.refl _)
  | request step =>
      cases step with
      | options client uri =>
          exact settles_of_silent joined (system.calls_options client uri)
            (RtspService.consistent_options joined.service client uri)
            (RtspService.carries_options system.service client uri)
      | describe client uri => exact settles_describe joined client uri
      | play client uri npt =>
          exact settles_of_silent joined (system.calls_play client uri npt)
            (RtspService.consistent_play joined.service client uri npt)
            (RtspService.carries_play system.service client uri npt)
      | close client => exact settles_close joined settled
      | processSdp | consumePkt | processError =>
          exact settles_of_silent joined rfl joined.service (.refl _)

/-! ### What an unsettled close leaves behind -/

/-- An erased proxy is not found again: no other proxy has its identity. -/
theorem not_live_of_erased {system : ServiceProducer Client} {client : Client}
    {video : VideoRequest} {proxy : ProxyInfo Client} (joined : system.Joined)
    (held : system.service.holder client = some (video, proxy))
    (unattended : proxy.Unattended client) :
    ¬(machine.next system (.request (.close client))).service.Live proxy.identity := by
  obtain ⟨located, _inside⟩ := RtspService.holder_eq_some held
  intro live
  have before := (RtspService.live_deliver _ _ _).mp live
  change (system.service.close client).service.Live proxy.identity at before
  rw [RtspService.close_of_unattended held unattended] at before
  obtain ⟨key, other, found, same⟩ := RtspService.live_iff.mp before
  change (system.service.proxies.erase video).find? key = some other at found
  rw [OrderedMap.find?_erase] at found
  split_ifs at found with sameKey
  exact sameKey (joined.service.distinct key video other proxy found located same)

theorem settled_of_agrees {system : ServiceProducer Client} {step : Step Client}
    (joined : system.Joined) (agrees : system.Agrees step) : system.CloseSettled step := by
  cases step with
  | work step => trivial
  | request step =>
      cases step with
      | options | describe | play | processSdp | consumePkt | processError => trivial
      | close client =>
          intro video proxy held unattended
          have dead := not_live_of_erased joined held unattended
          have bound := agrees.bound
          change ∀ registration, (RtpProducer.machine.run system.producer
            (system.calls (.request (.close client)))).Registered registration → _ at bound
          rw [calls_close held unattended] at bound
          constructor
          · intro serial task queued own
            apply dead
            rw [← own]
            apply bound task.registration
            cases flag : proxy.registered with
            | false =>
                simp only [Bool.false_eq_true, if_false]
                exact .task serial task queued rfl
            | true =>
                simp only [if_true]
                apply RtpProducer.Registered.task serial task _ rfl
                exact (congrArg (·.find? serial)
                  (RtpProducer.fileTasks_unregister system.producer video)).trans queued
          · intro flag registration registered own
            apply dead
            rw [← own]
            apply bound registration
            simp only [flag, Bool.false_eq_true, if_false]
            exact registered

/-! ### Every run -/

/-- In every interleaving, service and producer agree at every step exactly when
every close that erases a proxy finds nothing left in the producer that its
`UnregisterVideo` would not remove. -/
theorem agrees_iff (config : ProducerConfig) (steps : List (Step Client)) :
    machine.Along Agrees (initial config) steps ↔
      machine.Along CloseSettled (initial config) steps := by
  constructor
  · apply LabelledMachine.Along.strengthen
    · intro system step joined agrees
      exact (settles_step joined (settled_of_agrees joined agrees)).joined joined
    · intro system step joined agrees
      exact settled_of_agrees joined agrees
    · exact joined_initial config
  · apply LabelledMachine.Along.strengthen
    · intro system step joined settled
      exact (settles_step joined settled).joined joined
    · intro system step joined settled
      exact (settles_step joined settled).agrees
    · exact joined_initial config

/-- The only client of a file leaves while the file is being probed: the task goes
on with callbacks of the erased proxy and invokes one, and the next description
of the file has its registration refused. -/
theorem left_while_probed :
    let config : ProducerConfig := ⟨"127.0.0.1:8086", 2000, 4, 0, zeroedMemory⟩
    let probe : Probe := ⟨0, 0, 0, 0, true, 0, true, 0, "v=0", by decide, 0, true, 0⟩
    let uri := "rtsp://host/file/a"
    let left : List (Step Nat) :=
      [.request (.options 0 uri), .request (.describe 0 uri), .request (.close 0)]
    let back : List (Step Nat) := left ++ [.request (.options 1 uri)]
    ((after config left).producer.fileTasks.find? 0).map (fun task => task.registration) =
        some ⟨0, 0⟩ ∧
      ¬(after config left).service.Live 0 ∧
      (after config left).effects (.work (.probeFile 0 probe)) =
        [.callback ⟨0, 0⟩ (.processSdp "v=0")] ∧
      (after config back).effects (.request (.describe 1 uri)) =
        [.callback ⟨1, 1⟩ (.processError .tooManyFilesOpen)] := by
  intro config probe uri left back
  exact ⟨by decide, by decide, by decide, by decide⟩

end ServiceProducer

end Ffvms.Concrete
