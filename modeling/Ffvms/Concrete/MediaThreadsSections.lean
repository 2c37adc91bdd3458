/-
What the sections of the media threads do.

To the map of the proxies they do what the sections of `ServiceThreads` do.  What serves
a proxy is a context of the producer, a context of a file that has not been destroyed, a
task in the queue or a section that has the task or the context in hand; new ones come
from a registration only.
-/

import Ffvms.Concrete.MediaThreads

namespace Ffvms.Concrete

variable {Client : Type} [DecidableEq Client]

namespace MediaStage

def registers? : MediaStage Client → Option Nat
  | .service stage => stage.registers?
  | .registerFile _ target => target
  | _ => none

def Targets : MediaStage Client → Nat → Prop
  | .service stage, proxy => stage.target? = some proxy
  | .probeFile task _, proxy | .startFile task _, proxy | .replaceEvent _ task _, proxy
  | .reportFile task, proxy | .cleanFile task, proxy =>
      task.registration.target = some proxy
  | .fileSdp task _ own, proxy => own = proxy ∨ task.registration.target = some proxy
  | .framePkt _ own _ _ _, proxy => own = proxy
  | _, _ => False

def closes? : MediaStage Client → Option VideoRequest
  | .service stage => stage.closes?
  | .unregisterFile video true | .deleteEvent _ (some video) | .eraseClosed video => some video
  | _ => none

def erases? : MediaStage Client → Option VideoRequest
  | .service stage => stage.erases?
  | .eraseClosed video => some video
  | _ => none

def Erases (stage : MediaStage Client) (video : VideoRequest) : Prop :=
  ∃ key, stage.erases? = some key ∧ video.cmpStr = key.cmpStr

def Closes (stage : MediaStage Client) (video : VideoRequest) : Prop :=
  ∃ key, stage.closes? = some key ∧ key.cmpStr = video.cmpStr

omit [DecidableEq Client] in
theorem not_erases {stage : MediaStage Client} (none : stage.erases? = none)
    (video : VideoRequest) : ¬stage.Erases video := by
  rintro ⟨key, own, _⟩
  cases none.symm.trans own

end MediaStage

namespace RtspService

omit [DecidableEq Client] in
theorem Succeeds.mono {service later : RtspService Client}
    {excused pardoned lost : VideoRequest → Prop} (succeeds : Succeeds service later excused lost)
    (wider : ∀ video, excused video → pardoned video) : Succeeds service later pardoned lost :=
  { succeeds with
    former := by
      intro video proxy located
      rcases succeeds.former video proxy located with ⟨old, found, same, keeps⟩ | new
      · refine Or.inl ⟨old, found, same, fun speaks => ?_⟩
        obtain ⟨still, asked⟩ := keeps speaks
        exact ⟨still, fun before => (asked before).imp_right (wider video)⟩
      · exact Or.inr new }

end RtspService

namespace MediaData

open RtspService

omit [DecidableEq Client] in
theorem embed_next? (data : MediaData Client)
    (result : SharedData Client × StageExit (ServiceStage Client)) :
    (data.embed result).2.next? = result.2.next?.map MediaStage.service := by
  obtain ⟨shared, exit⟩ := result
  cases exit <;> rfl

/-! ### The map of the proxies -/

section Proxies

variable {data : MediaData Client}

omit [DecidableEq Client] in
theorem embed_succeeds {stage : ServiceStage Client}
    {result : SharedData Client × StageExit (ServiceStage Client)}
    (succeeds : Succeeds data.service result.1.service
      (fun video => ∃ next, result.2.next? = some next ∧ next.Closes video) stage.Erases) :
    Succeeds data.service (data.embed result).1.service
      (fun video => ∃ next, (data.embed result).2.next? = some next ∧ next.Closes video)
      (MediaStage.service stage).Erases := by
  refine succeeds.mono ?_
  rintro video ⟨next, follows, closes⟩
  refine ⟨.service next, ?_, closes⟩
  rw [embed_next?, follows]
  rfl

theorem describeMedia_succeeds (client : Client) (video : VideoRequest) (proxy : Nat)
    (found : ProxyInfo Client) {excused lost : VideoRequest → Prop}
    (spares : ∀ video, ¬lost video) :
    Succeeds data.service (data.describeMedia client video proxy found).1.service excused
      lost := by
  unfold describeMedia
  split_ifs
  · have stored : Succeeds data.service
        (data.service.writeProxy proxy (fun info => info.described client)) excused lost :=
      succeeds_writeProxy data.service proxy (fun info => info.identity_described client)
        (fun info speaks => ⟨speaks.described client, fun _ => info.asked_described client⟩) spares
    exact stored.congr rfl rfl
  · exact data.describeFound_succeeds client video proxy found spares

theorem closeMedia_succeeds {client : Client} {video : VideoRequest} {left : ProxyInfo Client}
    {lost : VideoRequest → Prop} (scan : data.service.closeScan client = some (video, left))
    (spares : ∀ video, ¬lost video) :
    Succeeds data.service (data.closeMedia video left).1.service
      (fun other => ∃ next, (data.closeMedia video left).2.next? = some next ∧
        next.Closes other) lost := by
  unfold closeMedia
  split_ifs
  · refine succeeds_leave scan ?_ spares
    exact fun _ other same => ⟨.unregisterFile video true, rfl, video, rfl, same⟩
  · refine (SharedData.closeFound_succeeds scan spares).mono ?_
    rintro other ⟨next, follows, closes⟩
    refine ⟨.service next, ?_, closes⟩
    rw [embed_next?, follows]
    rfl

/-- The sections on the files leave the service alone, apart from its sockets. -/
structure SameProxies (data later : MediaData Client) : Prop where
  proxies : later.service.proxies = data.service.proxies
  nextIdentity : later.service.nextIdentity = data.service.nextIdentity

omit [DecidableEq Client] in
theorem SameProxies.of_service {later : MediaData Client} (same : later.service = data.service) :
    SameProxies data later :=
  ⟨congrArg RtspService.proxies same, congrArg RtspService.nextIdentity same⟩

omit [DecidableEq Client] in
theorem sameProxies_eraseEntry (video : VideoRequest) (closing : Option VideoRequest)
    (rest : StageExit (MediaStage Client)) :
    SameProxies data (data.eraseEntry video closing rest).1 := by
  unfold eraseEntry
  split <;> exact .of_service rfl

omit [DecidableEq Client] in
theorem sameProxies_setTimer (task : FileTask (Option Nat)) (probe : Probe) :
    SameProxies data (data.setTimer task probe) := by
  unfold setTimer
  split <;> exact .of_service rfl

theorem sameProxies_callError (registration : Registration (Option Nat)) :
    SameProxies data (data.callError registration) :=
  ⟨(SharedData.callErrors_unchanged _ _).1, (SharedData.callErrors_unchanged _ _).2⟩

/-- What the body of a section does to the map: only `Close` erases a proxy, and the
section that follows says which proxy everyone has left. -/
theorem body_succeeds (data : MediaData Client) (stage : MediaStage Client) :
    Succeeds data.service (data.body stage).1.service
      (fun video => ∃ next, (data.body stage).2.next? = some next ∧ next.Closes video)
      stage.Erases := by
  have same {stage : MediaStage Client} {later : MediaData Client}
      {excused : VideoRequest → Prop} (none : stage.erases? = none)
      (kept : SameProxies data later) :
      Succeeds data.service later.service excused stage.Erases :=
    (Succeeds.refl data.service (MediaStage.not_erases none)).congr kept.proxies kept.nextIdentity
  cases stage with
  | service stage =>
      cases stage with
      | onDescribeClients client video proxy =>
          simp only [body]
          split
          next => exact same rfl (.of_service rfl)
          next found _ =>
            exact describeMedia_succeeds client video proxy found (MediaStage.not_erases rfl)
      | close client =>
          simp only [body]
          split
          next => exact same rfl (.of_service rfl)
          next video left scan => exact closeMedia_succeeds scan (MediaStage.not_erases rfl)
      | _ => exact embed_succeeds (data.toSharedData.body_succeeds _)
  | registerFile video target =>
      exact same rfl
        ⟨(SharedData.callErrors_unchanged _ _).1, (SharedData.callErrors_unchanged _ _).2⟩
  | eraseClosed video =>
      refine succeeds_erase data.service (fun other => ?_)
      constructor
      · rintro ⟨key, own, sameKey⟩
        cases own
        exact sameKey
      · exact fun sameKey => ⟨video, rfl, sameKey⟩
  | fileSdp task probe proxy =>
      have text := probe.sdpText
      have told {excused lost : VideoRequest → Prop} (spares : ∀ video, ¬lost video) :
          Succeeds data.service (data.service.writeProxy proxy
            (fun info => info.acceptSdp probe.sdp)) excused lost :=
        succeeds_writeProxy data.service proxy (fun _ => rfl)
          (fun info _ => ⟨fun _ _ => text, fun _ => Or.inr text⟩) spares
      exact (told (MediaStage.not_erases rfl)).congr rfl rfl
  | deleteEvent context closing => exact same rfl (.of_service rfl)
  | getFrame | framePkt => exact same rfl ⟨rfl, rfl⟩
  | probeFile task probe =>
      simp only [body, probeFile]
      repeat' split
      all_goals exact same rfl (.of_service rfl)
  | unregisterFile video inClose =>
      cases inClose <;> exact same rfl (sameProxies_eraseEntry _ _ _)
  | cleanFile task => exact same rfl (sameProxies_eraseEntry _ _ _)
  | replaceEvent context task probe => exact same rfl (sameProxies_setTimer task probe)
  | startFile task probe =>
      simp only [body, startFile]
      split
      · exact same rfl (.of_service rfl)
      · exact same rfl (sameProxies_setTimer task probe)
  | reportFile task =>
      simp only [body, reportFile]
      split
      · exact same rfl (.of_service rfl)
      · exact same rfl (sameProxies_callError _)
  | frameEnd context ret =>
      simp only [body, frameEnd]
      split
      · exact same rfl (.of_service rfl)
      next found _ =>
        split_ifs
        · have told : SameProxies (data.setError context ret)
              ((data.setError context ret).callError found.registration) := sameProxies_callError _
          exact same rfl ⟨told.proxies, told.nextIdentity⟩
        · exact same rfl (.of_service rfl)

end Proxies

/-! ### Contexts and tasks -/

omit [DecidableEq Client] in
theorem mem_contexts {data : MediaData Client} {found : FileVideoContext (Option Nat)} :
    found ∈ data.contexts ↔
      (∃ video, data.producer.fileVideoContextMap.find? video = some found) ∨
        found ∈ data.unlinked := by
  rw [contexts, List.mem_append, OrderedMap.mem_values_iff]

/-- Every context has been there before, with its registration, or is that of the registration
that has been given the next number, which is for the target. -/
structure ContextsFrom (data later : MediaData Client) (target : Option Nat) : Prop where
  serial : data.producer.nextSerial ≤ later.producer.nextSerial
  former : ∀ found ∈ later.contexts,
    (∃ old ∈ data.contexts, old.registration = found.registration) ∨
      (found.registration = ⟨data.producer.nextSerial, target⟩ ∧
        data.producer.nextSerial < later.producer.nextSerial)

/-- The files are as before; a number may have been given out. -/
structure SameFiles (producer later : RtpProducer (Option Nat)) : Prop where
  contexts : later.fileVideoContextMap = producer.fileVideoContextMap
  tasks : later.fileTasks = producer.fileTasks
  serial : producer.nextSerial ≤ later.nextSerial

theorem SameFiles.refl (producer : RtpProducer (Option Nat)) : SameFiles producer producer :=
  ⟨rfl, rfl, Nat.le_refl _⟩

section Contexts

variable {data later : MediaData Client} {target : Option Nat}

omit [DecidableEq Client] in
theorem ContextsFrom.of_contexts (same : later.contexts = data.contexts)
    (serial : data.producer.nextSerial ≤ later.producer.nextSerial) :
    ContextsFrom data later target :=
  ⟨serial, fun found member => Or.inl ⟨found, same ▸ member, rfl⟩⟩

omit [DecidableEq Client] in
theorem contexts_of_sameFiles (same : SameFiles data.producer later.producer)
    (unlinked : later.unlinked = data.unlinked) : later.contexts = data.contexts := by
  rw [contexts, contexts, same.contexts, unlinked]

omit [DecidableEq Client] in
theorem ContextsFrom.of_sameFiles (same : SameFiles data.producer later.producer)
    (unlinked : later.unlinked = data.unlinked) : ContextsFrom data later target :=
  .of_contexts (contexts_of_sameFiles same unlinked) same.serial

omit [DecidableEq Client] in
theorem contextsFrom_eraseFile (video : VideoRequest) :
    ContextsFrom data (data.eraseFile video) target := by
  refine ⟨Nat.le_refl _, fun found member => Or.inl ⟨found, ?_, rfl⟩⟩
  rcases mem_contexts.mp member with ⟨key, located⟩ | unlinked
  · change (data.producer.fileVideoContextMap.erase video).find? key = some found at located
    rw [OrderedMap.find?_erase] at located
    split_ifs at located
    exact mem_contexts.mpr (Or.inl ⟨key, located⟩)
  · exact mem_contexts.mpr (Or.inr unlinked)

omit [DecidableEq Client] in
theorem contextsFrom_eraseEntry (video : VideoRequest) (closing : Option VideoRequest)
    (rest : StageExit (MediaStage Client)) :
    ContextsFrom data (data.eraseEntry video closing rest).1 target := by
  unfold eraseEntry
  split
  next context armed =>
    -- The context goes from the map to those that are unlinked.
    have located := (Option.filter_eq_some_iff.mp armed).1
    refine ⟨Nat.le_refl _, fun found member => ?_⟩
    rcases mem_contexts.mp member with inMap | unlinked
    · exact (contextsFrom_eraseFile video).former found (mem_contexts.mpr (Or.inl inMap))
    · rcases List.mem_cons.mp unlinked with rfl | before
      · exact Or.inl ⟨found, mem_contexts.mpr (Or.inl ⟨video, located⟩), rfl⟩
      · exact Or.inl ⟨found, mem_contexts.mpr (Or.inr before), rfl⟩
  next => exact contextsFrom_eraseFile video

omit [DecidableEq Client] in
theorem contextsFrom_destroy (context : Nat) : ContextsFrom data (data.destroy context) target := by
  refine ⟨Nat.le_refl _, fun found member => Or.inl ⟨found, ?_, rfl⟩⟩
  exact mem_contexts.mpr ((mem_contexts.mp member).imp_right (List.mem_filter.mp · |>.1))

omit [DecidableEq Client] in
theorem contextsFrom_modify (video : VideoRequest)
    (change : FileVideoContext (Option Nat) → FileVideoContext (Option Nat))
    (contexts : later.producer.fileVideoContextMap =
      data.producer.fileVideoContextMap.modify video change)
    (same : ∀ context, (change context).registration = context.registration)
    (unlinked : later.unlinked = data.unlinked)
    (serial : later.producer.nextSerial = data.producer.nextSerial) :
    ContextsFrom data later target := by
  refine ⟨Nat.le_of_eq serial.symm, fun found member => Or.inl ?_⟩
  rcases mem_contexts.mp member with ⟨key, located⟩ | inHand
  · rw [contexts, OrderedMap.find?_modify] at located
    split_ifs at located
    · obtain ⟨old, there, rfl⟩ := Option.map_eq_some_iff.mp located
      exact ⟨old, mem_contexts.mpr (Or.inl ⟨key, there⟩), (same old).symm⟩
    · exact ⟨found, mem_contexts.mpr (Or.inl ⟨key, located⟩), rfl⟩
  · exact ⟨found, mem_contexts.mpr (Or.inr (unlinked ▸ inHand)), rfl⟩

omit [DecidableEq Client] in
theorem contextsFrom_setTimer (task : FileTask (Option Nat)) (probe : Probe) :
    ContextsFrom data (data.setTimer task probe) target := by
  unfold setTimer
  split
  · exact contextsFrom_modify task.video
      (fun context => { context.setFormats probe with fileEvent := false }) rfl (fun _ => rfl) rfl
      rfl
  all_goals exact contextsFrom_modify task.video FileVideoContext.arm rfl (fun _ => rfl) rfl rfl

omit [DecidableEq Client] in
theorem contexts_setError (context : Nat) (ret : Int) :
    (data.setError context ret).contexts = data.contexts.map (fun found =>
      if found.registration.serial = context then { found with error := ret } else found) := by
  simp [contexts, setError, OrderedMap.mapValues]

omit [DecidableEq Client] in
theorem contextsFrom_setError (context : Nat) (ret : Int) :
    ContextsFrom data (data.setError context ret) target := by
  refine ⟨Nat.le_refl _, fun found member => ?_⟩
  rw [contexts_setError] at member
  obtain ⟨old, there, rfl⟩ := List.mem_map.mp member
  refine Or.inl ⟨old, there, ?_⟩
  split_ifs <;> rfl

theorem sameFiles_registerVideo (producer : RtpProducer (Option Nat)) {video : VideoRequest}
    (target : Option Nat) (other : video.useFile = false) :
    SameFiles producer (producer.registerVideo video target).producer := by
  unfold RtpProducer.registerVideo
  rw [other]
  simp only [Bool.false_eq_true, if_false]
  split_ifs
  · unfold RtpProducer.registerGb
    split
    · exact ⟨rfl, rfl, Nat.le_succ _⟩
    · dsimp only
      split <;> exact ⟨rfl, rfl, Nat.le_succ _⟩
  · exact ⟨rfl, rfl, Nat.le_succ _⟩

theorem sameFiles_unregisterVideo (producer : RtpProducer (Option Nat)) {video : VideoRequest}
    (other : video.useFile = false) :
    SameFiles producer (producer.unregisterVideo video).producer := by
  unfold RtpProducer.unregisterVideo
  rw [other]
  simp only [Bool.false_eq_true, if_false]
  split_ifs
  · split <;> exact ⟨rfl, rfl, Nat.le_refl _⟩
  · exact .refl _

theorem contextsFrom_registerVideo (video : VideoRequest) (target : Option Nat) :
    ContextsFrom data (data.registerVideo video target) target := by
  cases isFile : video.useFile with
  | false => exact .of_sameFiles (sameFiles_registerVideo data.producer target isFile) rfl
  | true =>
      unfold registerVideo SharedData.registerVideo RtpProducer.registerVideo
        RtpProducer.registerFile
      simp only [isFile, if_true]
      split
      · exact .of_contexts rfl (Nat.le_succ _)
      · refine ⟨Nat.le_succ _, fun found member => ?_⟩
        rcases mem_contexts.mp member with ⟨key, located⟩ | unlinked
        · change (data.producer.fileVideoContextMap.insert video _).find? key = _ at located
          rw [OrderedMap.find?_insert] at located
          split_ifs at located
          · cases located
            exact Or.inr ⟨rfl, Nat.lt_succ_self _⟩
          · exact Or.inl ⟨found, mem_contexts.mpr (Or.inl ⟨key, located⟩), rfl⟩
        · exact Or.inl ⟨found, mem_contexts.mpr (Or.inr unlinked), rfl⟩

theorem sameFiles_describeMedia (data : MediaData Client) (client : Client) (video : VideoRequest)
    (proxy : Nat) (found : ProxyInfo Client) :
    SameFiles data.producer (data.describeMedia client video proxy found).1.producer := by
  unfold describeMedia
  split_ifs with silent
  · exact .refl _
  · change SameFiles _ (data.describeFound client video proxy found).1.producer
    unfold SharedData.describeFound
    dsimp only
    split_ifs with registers
    · exact .refl _
    · exact sameFiles_registerVideo data.producer (some proxy)
        (Bool.eq_false_iff.mpr (fun isFile => silent ⟨isFile, registers⟩))
    · exact .refl _
    · exact .refl _

theorem sameFiles_closeMedia (data : MediaData Client) (video : VideoRequest)
    (left : ProxyInfo Client) :
    SameFiles data.producer (data.closeMedia video left).1.producer := by
  unfold closeMedia
  split_ifs with ours
  · exact .refl _
  · change SameFiles _ (data.closeFound video left).1.producer
    unfold SharedData.closeFound
    dsimp only
    split_ifs with unneeded registered
    · exact .refl _
    · exact sameFiles_unregisterVideo data.producer
        (Bool.eq_false_iff.mpr (fun isFile => ours ⟨isFile, unneeded, registered⟩))
    · exact .refl _
    · exact .refl _

theorem sameFiles_body (data : SharedData Client) {stage : ServiceStage Client}
    (describes : ∀ client video proxy, stage ≠ .onDescribeClients client video proxy)
    (closes : ∀ client, stage ≠ .close client)
    (registers : ∀ video target, stage ≠ .registerVideo video target)
    (unregisters : ∀ video closing, stage ≠ .unregisterVideo video closing) :
    SameFiles data.producer (data.body stage).1.producer := by
  cases stage with
  | onDescribeClients client video proxy => exact absurd rfl (describes client video proxy)
  | close client => exact absurd rfl (closes client)
  | registerVideo video target => exact absurd rfl (registers video target)
  | unregisterVideo video closing => exact absurd rfl (unregisters video closing)
  | accept | onOptionsClients | eraseProxy | processSdp | consumePkt => exact .refl _
  | registerPeer => exact ⟨rfl, rfl, Nat.le_refl _⟩
  | readcb client request =>
      simp only [SharedData.body]
      split_ifs
      · cases request <;> exact .refl _
      · exact .refl _
  | errorcb | onOptions | onDescribe | onPlay | onPlayClients | datagram | handlePacket =>
      simp only [SharedData.body]
      repeat' split
      all_goals exact .refl _
  | inviteCallback invite completion =>
      simp only [SharedData.body]
      split
      · exact .refl _
      · unfold SharedData.acceptInvite
        dsimp only
        split <;> exact ⟨rfl, rfl, Nat.le_refl _⟩

theorem sameFiles_service (data : MediaData Client) {stage : ServiceStage Client}
    (registers : ∀ video target, stage ≠ .registerVideo video target)
    (unregisters : ∀ video closing, stage ≠ .unregisterVideo video closing) :
    SameFiles data.producer (data.body (.service stage)).1.producer ∧
      (data.body (.service stage)).1.unlinked = data.unlinked := by
  cases stage with
  | onDescribeClients client video proxy =>
      simp only [body]
      split
      · exact ⟨.refl _, rfl⟩
      · refine ⟨data.sameFiles_describeMedia client video proxy _, ?_⟩
        unfold describeMedia
        split_ifs <;> rfl
  | close client =>
      simp only [body]
      split
      · exact ⟨.refl _, rfl⟩
      · refine ⟨data.sameFiles_closeMedia _ _, ?_⟩
        unfold closeMedia
        split_ifs <;> rfl
  | registerVideo video target => exact absurd rfl (registers video target)
  | unregisterVideo video closing => exact absurd rfl (unregisters video closing)
  | _ => exact ⟨sameFiles_body data.toSharedData (by simp) (by simp) (by simp) (by simp), rfl⟩

omit [DecidableEq Client] in
theorem contextsFrom_unregisterVideo (video : VideoRequest) :
    ContextsFrom data { data with toSharedData := data.toSharedData.unregisterVideo video }
      target := by
  cases isFile : video.useFile with
  | false => exact .of_sameFiles (sameFiles_unregisterVideo data.producer isFile) rfl
  | true =>
      unfold SharedData.unregisterVideo RtpProducer.unregisterVideo
      simp only [isFile, if_true]
      exact contextsFrom_eraseFile video

theorem body_contextsFrom (data : MediaData Client) (stage : MediaStage Client) :
    ContextsFrom data (data.body stage).1 stage.registers? := by
  cases stage with
  | service stage =>
      by_cases registers : ∃ video target, stage = .registerVideo video target
      · obtain ⟨video, target, rfl⟩ := registers
        exact contextsFrom_registerVideo video target
      · by_cases unregisters : ∃ video closing, stage = .unregisterVideo video closing
        · obtain ⟨video, closing, rfl⟩ := unregisters
          exact contextsFrom_unregisterVideo video
        · simp only [not_exists] at registers unregisters
          obtain ⟨same, unlinked⟩ := data.sameFiles_service registers unregisters
          exact .of_sameFiles same unlinked
  | registerFile video target => exact contextsFrom_registerVideo video target
  | unregisterFile video inClose => cases inClose <;> exact contextsFrom_eraseEntry _ _ _
  | cleanFile task => exact contextsFrom_eraseEntry _ _ _
  | deleteEvent context closing => exact contextsFrom_destroy context
  | eraseClosed | fileSdp | getFrame | framePkt => exact .of_contexts rfl (Nat.le_refl _)
  | probeFile task probe =>
      simp only [body, probeFile]
      split
      · exact .of_contexts rfl (Nat.le_refl _)
      · split
        · exact .of_contexts rfl (Nat.le_refl _)
        · exact .of_contexts rfl (Nat.le_refl _)
        · exact contextsFrom_modify task.video (FileVideoContext.setFormats probe) rfl
            (fun _ => rfl) rfl rfl
        · exact .of_contexts rfl (Nat.le_refl _)
  | startFile task probe =>
      simp only [body, startFile]
      split
      · exact .of_contexts rfl (Nat.le_refl _)
      · exact contextsFrom_setTimer task probe
  | replaceEvent context task probe => exact contextsFrom_setTimer task probe
  | reportFile task =>
      simp only [body, reportFile]
      split <;> exact .of_contexts rfl (Nat.le_refl _)
  | frameEnd context ret =>
      simp only [body, frameEnd]
      split
      · exact .of_contexts rfl (Nat.le_refl _)
      next found _ =>
        split_ifs
        · have marked : ContextsFrom data (data.setError context ret) none :=
            contextsFrom_setError context ret
          exact ⟨marked.serial, marked.former⟩
        · exact .of_contexts rfl (Nat.le_refl _)

end Contexts

/-! ### What serves a proxy -/

def TaskFor (data : MediaData Client) (proxy : Nat) : Prop :=
  ∃ serial task, data.producer.fileTasks.find? serial = some task ∧
    task.registration.target = some proxy

def Serves (data : MediaData Client) (proxy : Nat) : Prop :=
  data.ContextFor proxy ∨ (∃ found ∈ data.contexts, found.registration.target = some proxy) ∨
    data.TaskFor proxy

section Serving

variable {data later : MediaData Client} {proxy : Nat} {stage : MediaStage Client}

omit [DecidableEq Client] in
theorem TaskFor.of_same (bound : later.TaskFor proxy)
    (tasks : later.producer.fileTasks = data.producer.fileTasks) : data.TaskFor proxy := by
  unfold TaskFor at bound ⊢
  rwa [tasks] at bound

omit [DecidableEq Client] in
theorem taskFor_of_insert {task : FileTask (Option Nat)} {serial : Nat}
    (bound : later.TaskFor proxy)
    (tasks : later.producer.fileTasks = data.producer.fileTasks.insert serial task) :
    data.TaskFor proxy ∨ task.registration.target = some proxy := by
  obtain ⟨number, found, located, own⟩ := bound
  rw [tasks, OrderedMap.find?_insert] at located
  split_ifs at located
  · cases located
    exact Or.inr own
  · exact Or.inl ⟨number, found, located, own⟩

theorem taskFor_of_registerVideo {video : VideoRequest} {target : Option Nat}
    (bound : (data.registerVideo video target).TaskFor proxy) :
    data.TaskFor proxy ∨ target = some proxy := by
  cases isFile : video.useFile with
  | false =>
      exact Or.inl (bound.of_same (sameFiles_registerVideo data.producer target isFile).tasks)
  | true =>
      unfold registerVideo SharedData.registerVideo RtpProducer.registerVideo
        RtpProducer.registerFile at bound
      simp only [isFile, if_true] at bound
      split at bound
      · exact Or.inl (bound.of_same rfl)
      · exact taskFor_of_insert bound rfl

omit [DecidableEq Client] in
theorem taskFor_of_setTimer {task : FileTask (Option Nat)} {probe : Probe}
    (bound : (data.setTimer task probe).TaskFor proxy) :
    data.TaskFor proxy ∨ task.registration.target = some proxy := by
  unfold setTimer at bound
  split at bound
  next ret _ =>
    -- The task goes back under its number with another phase.
    let again : FileTask (Option Nat) :=
      { task with phase := if ret ≠ 0 then .reporting ret else .cleaning }
    exact (taskFor_of_insert bound rfl :
      data.TaskFor proxy ∨ again.registration.target = some proxy)
  all_goals exact Or.inl (bound.of_same rfl)

omit [DecidableEq Client] in
theorem taskFor_of_eraseEntry {video : VideoRequest} {closing : Option VideoRequest}
    {rest : StageExit (MediaStage Client)}
    (bound : (data.eraseEntry video closing rest).1.TaskFor proxy) : data.TaskFor proxy := by
  unfold eraseEntry at bound
  split at bound <;> exact bound.of_same rfl

theorem body_taskFor (bound : (data.body stage).1.TaskFor proxy) :
    data.TaskFor proxy ∨ stage.registers? = some proxy ∨ stage.Targets proxy := by
  cases stage with
  | service stage =>
      by_cases registers : ∃ video target, stage = .registerVideo video target
      · obtain ⟨video, target, rfl⟩ := registers
        exact (taskFor_of_registerVideo bound).imp_right Or.inl
      · by_cases unregisters : ∃ video closing, stage = .unregisterVideo video closing
        · obtain ⟨video, closing, rfl⟩ := unregisters
          refine Or.inl (bound.of_same ?_)
          change ((data.producer.unregisterVideo video).producer).fileTasks = _
          unfold RtpProducer.unregisterVideo
          repeat' split
          all_goals rfl
        · simp only [not_exists] at registers unregisters
          exact Or.inl (bound.of_same (data.sameFiles_service registers unregisters).1.tasks)
  | registerFile video target => exact (taskFor_of_registerVideo bound).imp_right Or.inl
  | unregisterFile video inClose =>
      cases inClose <;> exact Or.inl (taskFor_of_eraseEntry bound)
  | cleanFile task => exact Or.inl (taskFor_of_eraseEntry bound)
  | deleteEvent | eraseClosed | fileSdp | getFrame | framePkt => exact Or.inl (bound.of_same rfl)
  | probeFile task probe =>
      simp only [body, probeFile] at bound
      left
      split at bound
      · exact bound
      · split at bound <;> exact bound.of_same rfl
  | startFile task probe =>
      simp only [body, startFile] at bound
      split at bound
      · exact Or.inl bound
      · exact (taskFor_of_setTimer bound).imp_right Or.inr
  | replaceEvent context task probe => exact (taskFor_of_setTimer bound).imp_right Or.inr
  | reportFile task =>
      simp only [body, reportFile] at bound
      split at bound <;> exact Or.inl (bound.of_same rfl)
  | frameEnd context ret =>
      simp only [body, frameEnd] at bound
      left
      split at bound
      · exact bound
      · split_ifs at bound <;> exact bound.of_same rfl

theorem contextFor_of_describeMedia {client : Client} {video : VideoRequest} {own : Nat}
    {found : ProxyInfo Client}
    (context : (data.describeMedia client video own found).1.ContextFor proxy) :
    data.ContextFor proxy := by
  unfold describeMedia at context
  split_ifs at context
  · exact context.of_same rfl
  · exact context.of_same (data.heap_describeFound client video own found)

theorem contextFor_of_closeMedia {video : VideoRequest} {left : ProxyInfo Client}
    (context : (data.closeMedia video left).1.ContextFor proxy) : data.ContextFor proxy := by
  unfold closeMedia at context
  split_ifs at context
  · exact context.of_same rfl
  · exact SharedData.contextFor_of_closeFound context

omit [DecidableEq Client] in
theorem contextFor_of_eraseEntry {video : VideoRequest} {closing : Option VideoRequest}
    {rest : StageExit (MediaStage Client)}
    (context : (data.eraseEntry video closing rest).1.ContextFor proxy) :
    data.ContextFor proxy := by
  unfold eraseEntry at context
  split at context <;> exact context.of_same rfl

theorem body_contextFor (context : (data.body stage).1.ContextFor proxy) :
    data.ContextFor proxy ∨ stage.registers? = some proxy := by
  cases stage with
  | service stage =>
      cases stage with
      | onDescribeClients client video own =>
          left
          simp only [body] at context
          split at context
          · exact context
          · exact contextFor_of_describeMedia context
      | close client =>
          left
          simp only [body] at context
          split at context
          · exact context
          · exact contextFor_of_closeMedia context
      | _ => exact SharedData.body_contextFor context
  | registerFile video target =>
      obtain ⟨address, cell, found, own⟩ := context
      rcases RtpProducer.cell?_registerVideo found with before | new
      · exact Or.inl ⟨address, cell, before, own⟩
      · exact Or.inr (new.symm.trans own)
  | unregisterFile video inClose =>
      cases inClose <;> exact Or.inl (contextFor_of_eraseEntry context)
  | cleanFile task => exact Or.inl (contextFor_of_eraseEntry context)
  | deleteEvent | eraseClosed | fileSdp | getFrame | framePkt => exact Or.inl (context.of_same rfl)
  | probeFile task probe =>
      left
      simp only [body, probeFile] at context
      split at context
      · exact context
      · split at context <;> exact context.of_same rfl
  | startFile | replaceEvent =>
      left
      simp only [body, startFile, setTimer] at context
      repeat' split at context
      all_goals exact context.of_same rfl
  | reportFile task =>
      left
      simp only [body, reportFile] at context
      split at context <;> exact context.of_same rfl
  | frameEnd serial ret =>
      left
      simp only [body, frameEnd] at context
      split at context
      · exact context
      · split_ifs at context <;> exact context.of_same rfl

/-- Whatever serves a proxy after a section did so before, or the section had it in
hand, or it is the registration. -/
theorem body_serves (served : (data.body stage).1.Serves proxy) :
    data.Serves proxy ∨ stage.registers? = some proxy ∨ stage.Targets proxy := by
  rcases served with context | ⟨found, member, own⟩ | task
  · exact (body_contextFor context).imp Or.inl Or.inl
  · rcases (data.body_contextsFrom stage).former found member with ⟨old, there, same⟩ | ⟨new, _⟩
    · exact Or.inl (Or.inr (Or.inl ⟨old, there, by rw [same]; exact own⟩))
    · rw [new] at own
      exact Or.inr (Or.inl own)
  · exact (body_taskFor task).imp_left (fun before => Or.inr (Or.inr before))

end Serving

/-! ### The section that follows -/

inductive MediaNext (data : MediaData Client) : MediaStage Client → MediaStage Client → Prop
  | service (stage next : ServiceStage Client)
      (follows : SharedData.NextStage data.toSharedData stage next) :
      MediaNext data (.service stage) (.service next)
  | register (client : Client) (video : VideoRequest) (proxy : Nat) (found : ProxyInfo Client)
      (located : data.service.proxyAt? proxy = some found) (silent : ¬found.Asked)
      (isFile : video.useFile = true) :
      MediaNext data (.service (.onDescribeClients client video proxy))
        (.registerFile video (some proxy))
  | unregister (client : Client) (video : VideoRequest) (isFile : video.useFile = true) :
      MediaNext data (.service (.close client)) (.unregisterFile video true)
  | delete (video : VideoRequest) (inClose : Bool) (found : FileVideoContext (Option Nat))
      (armed : data.producer.timer? video = some found) :
      MediaNext data (.unregisterFile video inClose)
        (.deleteEvent found.registration.serial (if inClose then some video else none))
  | unregistered (video : VideoRequest) :
      MediaNext data (.unregisterFile video true) (.service (.eraseProxy video))
  | deleted (context : Nat) (video : VideoRequest) :
      MediaNext data (.deleteEvent context (some video)) (.eraseClosed video)
  | leave (task : FileTask (Option Nat)) (probe : Probe) :
      MediaNext data (.probeFile task probe) (.cleanFile task)
  | report (task : FileTask (Option Nat)) (probe : Probe) :
      MediaNext data (.probeFile task probe) (.reportFile task)
  | sdp (task : FileTask (Option Nat)) (probe : Probe) (proxy : Nat)
      (found : FileVideoContext (Option Nat))
      (located : data.producer.fileVideoContextMap.find? task.video = some found)
      (own : task.registration.target = some proxy) :
      MediaNext data (.probeFile task probe) (.fileSdp task probe proxy)
  | start (task : FileTask (Option Nat)) (probe : Probe)
      (found : FileVideoContext (Option Nat))
      (located : data.producer.fileVideoContextMap.find? task.video = some found) :
      MediaNext data (.probeFile task probe) (.startFile task probe)
  | told (task : FileTask (Option Nat)) (probe : Probe) (proxy : Nat) :
      MediaNext data (.fileSdp task probe proxy) (.startFile task probe)
  | replace (task : FileTask (Option Nat)) (probe : Probe)
      (found : FileVideoContext (Option Nat))
      (armed : data.producer.timer? task.video = some found) :
      MediaNext data (.startFile task probe)
        (.replaceEvent found.registration.serial task probe)
  | reported (task : FileTask (Option Nat)) :
      MediaNext data (.reportFile task) (.cleanFile task)
  | clean (task : FileTask (Option Nat)) (found : FileVideoContext (Option Nat))
      (armed : data.producer.timer? task.video = some found) :
      MediaNext data (.cleanFile task) (.deleteEvent found.registration.serial none)
  | packet (context : Nat) (ret : Int) (proxy : Nat) (packet : List UInt8)
      (rest : List (List UInt8)) (found : FileVideoContext (Option Nat))
      (armed : data.eventAt? context = some found) (fine : found.error = 0)
      (own : found.registration.target = some proxy) :
      MediaNext data (.getFrame context (packet :: rest) ret)
        (.framePkt context proxy packet rest ret)
  | frame (context : Nat) (packets : List (List UInt8)) (ret : Int)
      (found : FileVideoContext (Option Nat)) (armed : data.eventAt? context = some found)
      (fine : found.error = 0) :
      MediaNext data (.getFrame context packets ret) (.frameEnd context ret)
  | more (context : Nat) (proxy : Nat) (packet next : List UInt8)
      (later : List (List UInt8)) (ret : Int) :
      MediaNext data (.framePkt context proxy packet (next :: later) ret)
        (.framePkt context proxy next later ret)
  | last (context : Nat) (proxy : Nat) (packet : List UInt8) (ret : Int) :
      MediaNext data (.framePkt context proxy packet [] ret) (.frameEnd context ret)

section Following

variable {data : MediaData Client} {stage next : MediaStage Client}

omit [DecidableEq Client] in
theorem embed_next_some {result : SharedData Client × StageExit (ServiceStage Client)}
    (follows : (data.embed result).2.next? = some next) :
    ∃ inner, next = .service inner ∧ result.2.next? = some inner := by
  rw [embed_next?] at follows
  obtain ⟨inner, found, rfl⟩ := Option.map_eq_some_iff.mp follows
  exact ⟨inner, rfl, found⟩

theorem media_next_of_body {stage : ServiceStage Client}
    (follows : (data.embed (data.toSharedData.body stage)).2.next? = some next) :
    MediaNext data (.service stage) next := by
  obtain ⟨inner, rfl, found⟩ := embed_next_some follows
  exact .service stage inner (SharedData.next_stage found)

omit [DecidableEq Client] in
theorem eraseEntry_next {video : VideoRequest} {closing : Option VideoRequest}
    {rest : StageExit (MediaStage Client)}
    (follows : (data.eraseEntry video closing rest).2.next? = some next) :
    (∃ found, data.producer.timer? video = some found ∧
        next = .deleteEvent found.registration.serial closing) ∨ rest.next? = some next := by
  unfold eraseEntry at follows
  split at follows
  next found armed => exact Or.inl ⟨found, armed, (Option.some.inj follows).symm⟩
  next => exact Or.inr follows

theorem media_next (follows : (data.body stage).2.next? = some next) :
    MediaNext data stage next := by
  cases stage with
  | service stage =>
      cases stage with
      | onDescribeClients client video proxy =>
          cases located : data.service.proxyAt? proxy with
          | none =>
              simp only [body, located] at follows
              cases follows
          | some found =>
              simp only [body, located, describeMedia] at follows
              split_ifs at follows with silent
              · cases follows
                refine .register client video proxy found located ?_ silent.1
                rintro (waiting | spoken)
                · exact Finset.nonempty_iff_ne_empty.mp waiting silent.2.2
                · exact spoken silent.2.1
              · refine media_next_of_body ?_
                simp only [SharedData.body, located]
                exact follows
      | close client =>
          cases scan : data.service.closeScan client with
          | none =>
              simp only [body, scan] at follows
              cases follows
          | some found =>
              obtain ⟨video, left⟩ := found
              simp only [body, scan, closeMedia] at follows
              split_ifs at follows with ours
              · cases follows
                exact .unregister client video ours.1
              · refine media_next_of_body ?_
                simp only [SharedData.body, scan]
                exact follows
      | _ => exact media_next_of_body follows
  | registerFile | eraseClosed | replaceEvent | frameEnd => cases follows
  | unregisterFile video inClose =>
      cases inClose with
      | true =>
          rcases eraseEntry_next follows with ⟨found, armed, rfl⟩ | left
          · exact .delete video true found armed
          · cases left
            exact .unregistered video
      | false =>
          rcases eraseEntry_next follows with ⟨found, armed, rfl⟩ | left
          · exact .delete video false found armed
          · cases left
  | deleteEvent context closing =>
      cases closing <;> cases follows
      exact .deleted context _
  | probeFile task probe =>
      simp only [body, probeFile] at follows
      split at follows
      next =>
        cases follows
        exact .leave task probe
      next found located =>
        split at follows
        next proxy _ own =>
          cases follows
          exact .sdp task probe proxy found located own
        next =>
          cases follows
          exact .start task probe found located
        next =>
          cases follows
          split_ifs
          · exact .report task probe
          · exact .leave task probe
        next => cases follows
  | fileSdp task probe proxy =>
      cases follows
      exact .told task probe proxy
  | startFile task probe =>
      simp only [body, startFile] at follows
      split at follows
      next found armed =>
        cases follows
        exact .replace task probe found armed
      next => cases follows
  | reportFile task =>
      cases follows
      exact .reported task
  | cleanFile task =>
      rcases eraseEntry_next follows with ⟨found, armed, rfl⟩ | left
      · exact .clean task found armed
      · cases left
  | getFrame context packets ret =>
      simp only [body, getFrame] at follows
      split at follows
      next => cases follows
      next found armed =>
        split_ifs at follows with fine
        · split at follows
          next packet rest proxy bound =>
            cases follows
            exact .packet context ret proxy packet rest found armed fine bound
          next =>
            cases follows
            exact .frame context _ ret found armed fine
        · cases follows
  | framePkt context proxy packet rest ret =>
      cases rest with
      | nil =>
          cases follows
          exact .last context proxy packet ret
      | cons next later =>
          cases follows
          exact .more context proxy packet next later ret

omit [DecidableEq Client] in
theorem MediaNext.registers {proxy : Nat} (follows : MediaNext data stage next)
    (registers : next.registers? = some proxy) :
    ∃ client video found, stage = .service (.onDescribeClients client video proxy) ∧
      data.service.proxyAt? proxy = some found ∧ ¬found.Asked := by
  cases follows with
  | service stage next follows =>
      obtain ⟨client, video, found, rfl, located, silent⟩ := follows.registers registers
      exact ⟨client, video, found, rfl, located, silent⟩
  | register client video own found located silent isFile =>
      cases registers
      exact ⟨client, video, found, rfl, located, silent⟩
  | _ => cases registers

omit [DecidableEq Client] in
theorem mem_of_eventAt {context : Nat} {found : FileVideoContext (Option Nat)}
    (armed : data.eventAt? context = some found) :
    found ∈ data.contexts ∧ found.registration.serial = context ∧ found.fileEvent = true := by
  obtain ⟨located, timer⟩ := Option.filter_eq_some_iff.mp armed
  refine ⟨List.mem_of_find?_eq_some located, ?_, timer⟩
  simpa using List.find?_some located

omit [DecidableEq Client] in
theorem MediaNext.targets {proxy : Nat} (follows : MediaNext data stage next)
    (targets : next.Targets proxy) : data.Serves proxy ∨ stage.Targets proxy := by
  cases follows with
  | service stage next follows =>
      exact (follows.target targets).imp_left Or.inl
  | leave | report | start | replace | reported => exact Or.inr targets
  | told => exact Or.inr (Or.inr targets)
  | sdp task probe own found located bound =>
      rcases targets with rfl | same
      · exact Or.inr bound
      · exact Or.inr same
  | packet context ret own packet rest found armed fine bound =>
      cases targets
      exact Or.inl (Or.inr (Or.inl ⟨found, (mem_of_eventAt armed).1, bound⟩))
  | more => exact Or.inr targets
  | unregistered => cases targets
  | register | unregister | delete | deleted | clean | frame | last => exact targets.elim

theorem media_next_closes {key : VideoRequest} (closes : stage.closes? = some key) :
    (∃ next, (data.body stage).2.next? = some next ∧ next.closes? = some key) ∨
      stage.erases? = some key := by
  cases stage with
  | service stage =>
      cases stage with
      | eraseProxy video => exact Or.inr closes
      | unregisterVideo video inClose =>
          cases inClose with
          | false => cases closes
          | true => exact Or.inl ⟨.service (.eraseProxy video), rfl, closes⟩
      | _ => cases closes
  | unregisterFile video inClose =>
      cases inClose with
      | false => cases closes
      | true =>
          left
          simp only [body, eraseEntry]
          split
          · exact ⟨_, rfl, closes⟩
          · exact ⟨_, rfl, closes⟩
  | deleteEvent context closing =>
      cases closing with
      | none => cases closes
      | some video => exact Or.inl ⟨_, rfl, closes⟩
  | eraseClosed video => exact Or.inr closes
  | _ => cases closes

omit [DecidableEq Client] in
/-- A call begins with a section that registers and erases nothing and leaves the service
alone; what it has in hand has served the proxy. -/
theorem enter_neutral {later : MediaData Client} {call : MediaCall Client}
    (enters : data.enter call = some (later, stage)) :
    stage.registers? = none ∧ stage.closes? = none ∧ later.service = data.service ∧
      (∀ proxy, later.Serves proxy ∨ stage.Targets proxy → data.Serves proxy) := by
  cases call with
  | service call =>
      obtain ⟨⟨reached, begun⟩, found, same⟩ := Option.map_eq_some_iff.mp enters
      cases same
      have neutral : begun.registers? = none ∧ begun.target? = none ∧ begun.closes? = none ∧
          reached.service = data.service ∧ reached.producer.heap = data.producer.heap ∧
          reached.producer.fileVideoContextMap = data.producer.fileVideoContextMap ∧
          reached.producer.fileTasks = data.producer.fileTasks := by
        cases call with
        | accept | readcb | errorcb | datagram =>
            cases found
            exact ⟨rfl, rfl, rfl, rfl, rfl, rfl, rfl⟩
        | registerVideo video | unregisterVideo video =>
            simp only [SharedData.enter] at found
            split_ifs at found
            cases found
            exact ⟨rfl, rfl, rfl, rfl, rfl, rfl, rfl⟩
        | inviteCallback serial completion =>
            obtain ⟨invite, _, same⟩ := Option.map_eq_some_iff.mp found
            cases same
            exact ⟨rfl, rfl, rfl, rfl, rfl, rfl, rfl⟩
      obtain ⟨registers, target, closes, service, heap, contexts, tasks⟩ := neutral
      refine ⟨registers, closes, service, ?_⟩
      rintro proxy ((context | ⟨held, member, own⟩ | task) | targets)
      · exact Or.inl (context.of_same heap)
      · have same : MediaData.contexts { data with toSharedData := reached } = data.contexts :=
          congrArg (fun map => map.entries.map Prod.snd ++ data.unlinked) contexts
        exact Or.inr (Or.inl ⟨held, same ▸ member, own⟩)
      · exact Or.inr (Or.inr (task.of_same tasks))
      · cases target.symm.trans targets
  | registerFile video | unregisterFile video =>
      simp only [enter] at enters
      split_ifs at enters
      cases enters
      exact ⟨rfl, rfl, rfl, fun proxy served => served.elim id False.elim⟩
  | frame context packets ret =>
      obtain ⟨found, _, same⟩ := Option.map_eq_some_iff.mp enters
      cases same
      exact ⟨rfl, rfl, rfl, fun proxy served => served.elim id False.elim⟩
  | fileTask serial probe =>
      obtain ⟨task, queued, same⟩ := Option.map_eq_some_iff.mp enters
      cases same
      have fewer (proxy : Nat) (served : MediaData.Serves
          { data with producer := data.producer.endTask serial } proxy) : data.Serves proxy := by
        rcases served with context | contexts | ⟨number, found, located, own⟩
        · exact Or.inl (context.of_same rfl)
        · exact Or.inr (Or.inl contexts)
        · change (data.producer.fileTasks.erase serial).find? number = some found at located
          rw [OrderedMap.find?_erase] at located
          split_ifs at located
          exact Or.inr (Or.inr ⟨number, found, located, own⟩)
      have hand (proxy : Nat) (own : task.registration.target = some proxy) : data.Serves proxy :=
        Or.inr (Or.inr ⟨serial, task, queued, own⟩)
      cases task.phase <;>
        exact ⟨rfl, rfl, rfl, fun proxy served => served.elim (fewer proxy) (hand proxy)⟩

end Following

end MediaData

end Ffvms.Concrete
