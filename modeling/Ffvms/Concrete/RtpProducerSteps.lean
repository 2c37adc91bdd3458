/-
What one step of the producer can do.

`Transition` lists the outcomes of a step with the facts under which each of
them occurs; the later modules take a step apart by its cases and do not unfold
the handlers again.
-/

import Ffvms.Concrete.RtpProducer

namespace Ffvms.Concrete.RtpProducer

variable {Target : Type}

inductive Transition (producer : RtpProducer Target) : Step Target → Produced Target → Prop
  | idle (step : Step Target) : Transition producer step ⟨producer, []⟩
  | ignored (video : VideoRequest) (target : Target) (noFile : video.useFile = false)
      (noGb : video.useGb = false) :
      Transition producer (.registerVideo video target) ⟨producer.takeSerial, []⟩
  | refused (video : VideoRequest) (target : Target)
      (taken : (∃ context, producer.fileVideoContextMap.find? video = some context) ∨
        ∃ address, producer.rtpVideoContextMap.find? video = some address) :
      Transition producer (.registerVideo video target) ⟨producer.takeSerial,
        [Registration.invoke ⟨producer.nextSerial, target⟩ (.processError .tooManyFilesOpen)]⟩
  | fileQueued (video : VideoRequest) (target : Target) (isFile : video.useFile = true)
      (free : producer.fileVideoContextMap.find? video = none) :
      Transition producer (.registerVideo video target)
        ⟨producer.takeSerial.addFileContext video ⟨producer.nextSerial, target⟩, []⟩
  | gbUnnamed (video : VideoRequest) (target : Target) (noFile : video.useFile = false)
      (isGb : video.useGb = true) (free : producer.rtpVideoContextMap.find? video = none)
      (mode : video.gbStreamingMode.transmission? = none) :
      Transition producer (.registerVideo video target)
        ⟨producer.takeSerial.addRtpContext video ⟨producer.nextSerial, target⟩,
          [Registration.invoke ⟨producer.nextSerial, target⟩ (.processError .invalidArgument)]⟩
  | gbInvited (video : VideoRequest) (target : Target) (transmission : Transmission)
      (noFile : video.useFile = false) (isGb : video.useGb = true)
      (free : producer.rtpVideoContextMap.find? video = none)
      (mode : video.gbStreamingMode.transmission? = some transmission) :
      Transition producer (.registerVideo video target)
        ⟨(producer.takeSerial.addRtpContext video ⟨producer.nextSerial, target⟩).startCall
            producer.nextSerial ⟨video, producer.heap.next⟩,
          [.inviteVideo producer.nextSerial
            ⟨video.gbid, producer.config.networkReceiveHost, transmission⟩
            producer.config.rpcTimeoutInMs]⟩
  | fileRemoved (video : VideoRequest) (isFile : video.useFile = true) :
      Transition producer (.unregisterVideo video)
        ⟨producer.eraseFile video, producer.destroyFile video⟩
  | gbRemoved (video : VideoRequest) (address : Nat) (noFile : video.useFile = false)
      (isGb : video.useGb = true) (located : producer.rtpVideoContextMap.find? video = some address) :
      Transition producer (.unregisterVideo video)
        ⟨producer.eraseRtp video address, producer.tearDownOf address⟩
  | probeLost (serial : Nat) (probe : Probe) (task : FileTask Target)
      (queued : producer.fileTasks.find? serial = some task) (phase : task.phase = .probing)
      (missing : producer.fileVideoContextMap.find? task.video = none) :
      Transition producer (.probeFile serial probe)
        ⟨producer.leaveProbe task.registration.serial 0, []⟩
  | probeStarted (serial : Nat) (probe : Probe) (task : FileTask Target) (sdp : String)
      (context : FileVideoContext Target) (queued : producer.fileTasks.find? serial = some task)
      (phase : task.phase = .probing)
      (found : producer.fileVideoContextMap.find? task.video = some context)
      (exit : probe.run = (.started, some sdp)) (set : context.iFmtCtx ≠ .wild) :
      Transition producer (.probeFile serial probe)
        ⟨(producer.armFileEvent task.video).endTask task.registration.serial,
          [task.registration.invoke (.processSdp sdp)]⟩
  | probeBroke (serial : Nat) (probe : Probe) (task : FileTask Target) (ret : Int)
      (spoken : Option String) (context : FileVideoContext Target)
      (queued : producer.fileTasks.find? serial = some task) (phase : task.phase = .probing)
      (found : producer.fileVideoContextMap.find? task.video = some context)
      (exit : probe.run = (.broke ret, spoken)) (set : context.iFmtCtx ≠ .wild) :
      Transition producer (.probeFile serial probe)
        ⟨(producer.setFormats task.video probe).leaveProbe task.registration.serial ret,
          (spoken.map (fun sdp => task.registration.invoke (.processSdp sdp))).toList⟩
  | probeCrashed {kind : Fault} (serial : Nat) (probe : Probe) (task : FileTask Target)
      (context : FileVideoContext Target) (queued : producer.fileTasks.find? serial = some task)
      (phase : task.phase = .probing)
      (found : producer.fileVideoContextMap.find? task.video = some context)
      (exit : probeExit context probe = (.crashed kind, none)) :
      Transition producer (.probeFile serial probe)
        ⟨producer.endTask task.registration.serial, [.fault kind]⟩
  | reported (serial : Nat) (task : FileTask Target) (ret : Int)
      (context : FileVideoContext Target) (queued : producer.fileTasks.find? serial = some task)
      (phase : task.phase = .reporting ret)
      (found : producer.fileVideoContextMap.find? task.video = some context) :
      Transition producer (.reportFile serial)
        ⟨producer.setPhase task.registration.serial .cleaning,
          [context.registration.invoke (.processError .invalidArgument)]⟩
  | reportedNobody (serial : Nat) (task : FileTask Target) (ret : Int)
      (queued : producer.fileTasks.find? serial = some task) (phase : task.phase = .reporting ret)
      (missing : producer.fileVideoContextMap.find? task.video = none) :
      Transition producer (.reportFile serial)
        ⟨producer.setPhase task.registration.serial .cleaning, [.fault .endIterator]⟩
  | cleaned (serial : Nat) (task : FileTask Target)
      (queued : producer.fileTasks.find? serial = some task) (phase : task.phase = .cleaning) :
      Transition producer (.cleanFile serial)
        ⟨(producer.eraseFile task.video).endTask task.registration.serial,
          producer.destroyFile task.video⟩
  | framed (video : VideoRequest) (packets : List (List UInt8)) (context : FileVideoContext Target)
      (found : producer.fileVideoContextMap.find? video = some context)
      (armed : context.fileEvent = true) :
      Transition producer (.getFrame video packets 0)
        ⟨producer, packets.map (fun data => context.registration.invoke (.consumePkt data))⟩
  | frameFailed (video : VideoRequest) (packets : List (List UInt8)) (ret : Int)
      (context : FileVideoContext Target)
      (found : producer.fileVideoContextMap.find? video = some context)
      (armed : context.fileEvent = true) :
      Transition producer (.getFrame video packets ret)
        ⟨producer.markError video ret,
          packets.map (fun data => context.registration.invoke (.consumePkt data)) ++
            [context.registration.invoke (.processError .invalidArgument)]⟩
  | inviteLost (serial : Nat) (completion : Completion) (invite : Invite)
      (calling : producer.invites.find? serial = some invite)
      (dead : producer.heap.get? invite.context = none) :
      Transition producer (.inviteCallback serial completion) ⟨producer.completeCall serial, []⟩
  | inviteFailed (serial : Nat) (completion : Completion) (invite : Invite)
      (context : RtpVideoContext Target) (calling : producer.invites.find? serial = some invite)
      (alive : producer.heap.get? invite.context = some context)
      (rejected : (context.accept producer.config completion).2 = none) :
      Transition producer (.inviteCallback serial completion)
        ⟨(producer.completeCall serial).unlock
            ((producer.heap.share invite.context).update invite.context
              (context.accept producer.config completion).1) invite.context,
          [context.registration.invoke (.processError .invalidArgument)]⟩
  | inviteAccepted (serial : Nat) (completion : Completion) (invite : Invite)
      (context : RtpVideoContext Target) (gb : GbInviteVideoResponse)
      (calling : producer.invites.find? serial = some invite)
      (alive : producer.heap.get? invite.context = some context)
      (accepted : (context.accept producer.config completion).2 = some gb) :
      Transition producer (.inviteCallback serial completion)
        ⟨((producer.completeCall serial).unlock
            ((producer.heap.share invite.context).update invite.context
              (context.accept producer.config completion).1) invite.context).registerPeer
            gb.peerInfo invite.context,
          [context.registration.invoke (.processSdp (gbSdp invite.video gb)),
            .registerPeer gb.peerInfo invite.context,
            .sendAck (context.accept producer.config completion).1.inviteId]⟩
  | received (peer : String) (data : List UInt8) (packets : List (List UInt8)) (weak : Nat)
      (context : RtpVideoContext Target)
      (registered : producer.registeredPeers.find? peer = some weak)
      (alive : producer.heap.get? weak = some context) :
      Transition producer (.receiveDatagram peer data packets)
        ⟨producer.unlock (producer.heap.share weak) weak,
          .demuxerInput weak data ::
            packets.map (fun packet => context.registration.invoke (.consumePkt packet))⟩

/-! ### Every step is one of them -/

theorem transition_registerVideo (producer : RtpProducer Target) (video : VideoRequest)
    (target : Target) :
    Transition producer (.registerVideo video target) (producer.registerVideo video target) := by
  unfold registerVideo
  cases isFile : video.useFile with
  | true =>
      simp only [if_true]
      unfold registerFile
      cases found : producer.fileVideoContextMap.find? video with
      | none =>
          have free : producer.takeSerial.fileVideoContextMap.find? video = none := found
          simp only [free]
          exact .fileQueued video target isFile found
      | some context =>
          have taken : producer.takeSerial.fileVideoContextMap.find? video = some context := found
          simp only [taken]
          exact .refused video target (Or.inl ⟨context, found⟩)
  | false =>
      cases isGb : video.useGb with
      | false =>
          simp only [Bool.false_eq_true, if_false]
          exact .ignored video target isFile isGb
      | true =>
          simp only [Bool.false_eq_true, if_false, if_true]
          unfold registerGb
          cases found : producer.rtpVideoContextMap.find? video with
          | some address =>
              have taken : producer.takeSerial.rtpVideoContextMap.find? video = some address := found
              simp only [taken]
              exact .refused video target (Or.inr ⟨address, found⟩)
          | none =>
              have free : producer.takeSerial.rtpVideoContextMap.find? video = none := found
              simp only [free]
              cases mode : video.gbStreamingMode.transmission? with
              | none => exact .gbUnnamed video target isFile isGb found mode
              | some transmission =>
                  exact .gbInvited video target transmission isFile isGb found mode

theorem transition_unregisterVideo (producer : RtpProducer Target) (video : VideoRequest) :
    Transition producer (.unregisterVideo video) (producer.unregisterVideo video) := by
  unfold unregisterVideo
  cases isFile : video.useFile with
  | true => exact .fileRemoved video isFile
  | false =>
      cases isGb : video.useGb with
      | false => exact .idle _
      | true =>
          cases located : producer.rtpVideoContextMap.find? video with
          | none => exact .idle _
          | some address => exact .gbRemoved video address isFile isGb located

theorem Probe.run_started {probe : Probe} {spoken : Option String}
    (exit : probe.run = (.started, spoken)) : spoken = some probe.sdp := by
  unfold Probe.run at exit
  -- Every branch but the last ends in a break or in the crash.
  repeat
    rcases ite_eq_iff.mp exit with ⟨_, other⟩ | ⟨_, exit⟩
    · cases other
  cases exit
  rfl

theorem Probe.run_crashed {probe : Probe} {kind : Fault} {spoken : Option String}
    (exit : probe.run = (.crashed kind, spoken)) : spoken = none := by
  unfold Probe.run at exit
  repeat
    rcases ite_eq_iff.mp exit with ⟨_, other⟩ | ⟨_, exit⟩
    · cases other
      try rfl
  cases exit

theorem crashed_ne_endIterator {context : FileVideoContext Target} {probe : Probe} {kind : Fault}
    {spoken : Option String} (exit : probeExit context probe = (.crashed kind, spoken)) :
    kind ≠ .endIterator := by
  unfold probeExit Probe.run at exit
  repeat
    rcases ite_eq_iff.mp exit with ⟨_, other⟩ | ⟨_, exit⟩
    · cases other
      try exact Fault.noConfusion
  cases exit

theorem probeExit_of_set {context : FileVideoContext Target} {probe : Probe}
    (set : context.iFmtCtx ≠ .wild) : probeExit context probe = probe.run :=
  if_neg set

theorem transition_probeFile {producer : RtpProducer Target} {serial : Nat}
    {task : FileTask Target} (probe : Probe) (queued : producer.fileTasks.find? serial = some task)
    (phase : task.phase = .probing) :
    Transition producer (.probeFile serial probe) (producer.probeFile task probe) := by
  unfold probeFile
  cases found : producer.fileVideoContextMap.find? task.video with
  | none => exact .probeLost serial probe task queued phase found
  | some context =>
      dsimp only
      by_cases wild : context.iFmtCtx = .wild
      · have crash : probeExit context probe = (.crashed .wildPointer, none) := if_pos wild
        rw [crash]
        exact .probeCrashed serial probe task context queued phase found crash
      · rw [probeExit_of_set wild]
        rcases exit : probe.run with ⟨way, spoken⟩
        cases way with
        | started =>
            have said := Probe.run_started exit
            subst spoken
            exact .probeStarted serial probe task probe.sdp context queued phase found exit wild
        | broke ret =>
            exact .probeBroke serial probe task ret spoken context queued phase found exit wild
        | crashed kind =>
            have silent := Probe.run_crashed exit
            subst spoken
            exact .probeCrashed serial probe task context queued phase found
              ((probeExit_of_set wild).trans exit)

theorem transition_getFrame (producer : RtpProducer Target) (video : VideoRequest)
    (packets : List (List UInt8)) (ret : Int) :
    Transition producer (.getFrame video packets ret) (producer.getFrame video packets ret) := by
  unfold getFrame
  cases found : producer.fileVideoContextMap.find? video with
  | none => exact .idle _
  | some context =>
      dsimp only
      split_ifs with stopped failed
      · exact .idle _
      · have armed : context.fileEvent = true := by simpa using fun off => stopped (Or.inl off)
        exact .frameFailed video packets ret context found armed
      · have armed : context.fileEvent = true := by simpa using fun off => stopped (Or.inl off)
        have zero : ret = 0 := not_not.mp failed
        subst ret
        exact .framed video packets context found armed

theorem lock_eq (heap : SharedHeap (RtpVideoContext Target)) {address : Nat}
    {context : RtpVideoContext Target} (alive : heap.get? address = some context) :
    heap.lock address = some (heap.share address, context) := by
  unfold SharedHeap.lock
  rw [alive]
  rfl

theorem transition_inviteCallback {producer : RtpProducer Target} {serial : Nat} {invite : Invite}
    (completion : Completion) (calling : producer.invites.find? serial = some invite) :
    Transition producer (.inviteCallback serial completion)
      ((producer.completeCall serial).inviteCallback invite completion) := by
  unfold inviteCallback
  cases alive : producer.heap.get? invite.context with
  | none =>
      have dead : (producer.completeCall serial).heap.lock invite.context = none := by
        unfold SharedHeap.lock
        change (producer.heap.get? invite.context).map _ = none
        rw [alive]
        rfl
      simp only [dead]
      exact .inviteLost serial completion invite calling alive
  | some context =>
      have locked : (producer.completeCall serial).heap.lock invite.context =
          some (producer.heap.share invite.context, context) := lock_eq producer.heap alive
      simp only [locked]
      cases outcome : (context.accept producer.config completion).2 with
      | none =>
          have rejected : (context.accept (producer.completeCall serial).config completion).2 =
              none := outcome
          simp only [rejected]
          exact .inviteFailed serial completion invite context calling alive outcome
      | some gb =>
          have accepted : (context.accept (producer.completeCall serial).config completion).2 =
              some gb := outcome
          simp only [accepted]
          exact .inviteAccepted serial completion invite context gb calling alive outcome

theorem transition_receiveDatagram (producer : RtpProducer Target) (peer : String)
    (data : List UInt8) (packets : List (List UInt8)) :
    Transition producer (.receiveDatagram peer data packets)
      (producer.receiveDatagram peer data packets) := by
  unfold receiveDatagram
  cases registered : producer.registeredPeers.find? peer with
  | none => exact .idle _
  | some weak =>
      cases alive : producer.heap.get? weak with
      | none =>
          have dead : producer.heap.lock weak = none := by
            unfold SharedHeap.lock
            rw [alive]
            rfl
          simp only [dead]
          exact .idle _
      | some context =>
          simp only [lock_eq producer.heap alive]
          exact .received peer data packets weak context registered alive

theorem transition (producer : RtpProducer Target) (step : Step Target) :
    Transition producer step (producer.perform step) := by
  cases step with
  | registerVideo video target => exact transition_registerVideo producer video target
  | unregisterVideo video => exact transition_unregisterVideo producer video
  | probeFile serial probe =>
      cases queued : producer.fileTasks.find? serial with
      | none =>
          simp only [perform, queued]
          exact .idle _
      | some task =>
          simp only [perform, queued]
          split_ifs with phase
          · exact transition_probeFile probe queued phase
          · exact .idle _
  | reportFile serial =>
      cases queued : producer.fileTasks.find? serial with
      | none =>
          simp only [perform, queued]
          exact .idle _
      | some task =>
          cases phase : task.phase with
          | probing =>
              simp only [perform, queued, phase]
              exact .idle _
          | cleaning =>
              simp only [perform, queued, phase]
              exact .idle _
          | reporting ret =>
              simp only [perform, queued, phase, reportFile]
              cases found : producer.fileVideoContextMap.find? task.video with
              | none => exact .reportedNobody serial task ret queued phase found
              | some context => exact .reported serial task ret context queued phase found
  | cleanFile serial =>
      cases queued : producer.fileTasks.find? serial with
      | none =>
          simp only [perform, queued]
          exact .idle _
      | some task =>
          simp only [perform, queued]
          split_ifs with phase
          · exact .cleaned serial task queued phase
          · exact .idle _
  | getFrame video packets ret => exact transition_getFrame producer video packets ret
  | inviteCallback serial completion =>
      cases calling : producer.invites.find? serial with
      | none =>
          simp only [perform, calling]
          exact .idle _
      | some invite =>
          simp only [perform, calling]
          exact transition_inviteCallback completion calling
  | receiveDatagram peer data packets =>
      exact transition_receiveDatagram producer peer data packets

/-! ### Who speaks -/

theorem mem_tearDownOf {producer : RtpProducer Target} {address : Nat} {effect : Effect Target}
    (member : effect ∈ producer.tearDownOf address) :
    ∃ context, producer.heap.get? address = some context ∧ context.inviteId ≠ "" ∧
      effect = .tearDown context.inviteId := by
  unfold tearDownOf at member
  cases alive : producer.heap.get? address with
  | none =>
      simp only [alive] at member
      cases member
  | some context =>
      simp only [alive] at member
      split_ifs at member with unnamed
      · cases member
      · exact ⟨context, rfl, unnamed, List.mem_singleton.mp member⟩

theorem mem_destroyFile {producer : RtpProducer Target} {video : VideoRequest}
    {effect : Effect Target} (member : effect ∈ producer.destroyFile video) :
    effect = .fault .wildPointer := by
  unfold destroyFile at member
  cases found : producer.fileVideoContextMap.find? video with
  | none =>
      simp only [found] at member
      cases member
  | some context =>
      simp only [found, FileVideoContext.destroy] at member
      split_ifs at member with wild
      · exact List.mem_singleton.mp member
      · cases member

/-- The callbacks a step can invoke, and where it finds them. -/
inductive Speaks (producer : RtpProducer Target) :
    Step Target → Registration Target → Callback → Prop
  | newcomer (video : VideoRequest) (target : Target) (code : ErrorCode) :
      Speaks producer (.registerVideo video target) ⟨producer.nextSerial, target⟩
        (.processError code)
  | task (serial : Nat) (probe : Probe) (task : FileTask Target) (sdp : String)
      (queued : producer.fileTasks.find? serial = some task) :
      Speaks producer (.probeFile serial probe) task.registration (.processSdp sdp)
  | report (serial : Nat) (task : FileTask Target) (context : FileVideoContext Target)
      (queued : producer.fileTasks.find? serial = some task)
      (found : producer.fileVideoContextMap.find? task.video = some context) :
      Speaks producer (.reportFile serial) context.registration (.processError .invalidArgument)
  | frame (video : VideoRequest) (packets : List (List UInt8)) (ret : Int)
      (context : FileVideoContext Target) (call : Callback)
      (found : producer.fileVideoContextMap.find? video = some context)
      (armed : context.fileEvent = true) :
      Speaks producer (.getFrame video packets ret) context.registration call
  | invite (serial : Nat) (completion : Completion) (invite : Invite)
      (context : RtpVideoContext Target) (call : Callback)
      (calling : producer.invites.find? serial = some invite)
      (alive : producer.heap.get? invite.context = some context) :
      Speaks producer (.inviteCallback serial completion) context.registration call
  | datagram (peer : String) (data : List UInt8) (packets : List (List UInt8)) (weak : Nat)
      (context : RtpVideoContext Target) (packet : List UInt8)
      (registered : producer.registeredPeers.find? peer = some weak)
      (alive : producer.heap.get? weak = some context) :
      Speaks producer (.receiveDatagram peer data packets) context.registration
        (.consumePkt packet)

theorem speaks_of_emitted {producer : RtpProducer Target} {step : Step Target}
    {registration : Registration Target} {call : Callback}
    (emitted : Effect.callback registration call ∈ machine.emit producer step) :
    Speaks producer step registration call := by
  have moved := transition producer step
  change Effect.callback registration call ∈ (producer.perform step).effects at emitted
  generalize producer.perform step = result at moved emitted
  have only {other : Registration Target} {said : Callback}
      (member : Effect.callback registration call ∈ [other.invoke said]) :
      registration = other ∧ call = said := by
    simpa only [Registration.invoke, List.mem_singleton, Effect.callback.injEq] using member
  cases moved with
  | idle | ignored | fileQueued | gbInvited | probeLost | probeCrashed | reportedNobody
  | inviteLost => simp at emitted
  | fileRemoved | cleaned => cases mem_destroyFile emitted
  | gbRemoved video address noFile isGb located =>
      obtain ⟨context, _alive, _named, same⟩ := mem_tearDownOf emitted
      cases same
  | refused video target taken =>
      obtain ⟨rfl, rfl⟩ := only emitted
      exact .newcomer video target _
  | gbUnnamed video target noFile isGb free mode =>
      obtain ⟨rfl, rfl⟩ := only emitted
      exact .newcomer video target _
  | probeStarted serial probe task sdp context queued phase found exit =>
      obtain ⟨rfl, rfl⟩ := only emitted
      exact .task serial probe task sdp queued
  | probeBroke serial probe task ret spoken context queued phase found exit =>
      cases spoken with
      | none => cases emitted
      | some sdp =>
          obtain ⟨rfl, rfl⟩ := only emitted
          exact .task serial probe task sdp queued
  | reported serial task ret context queued phase found =>
      obtain ⟨rfl, rfl⟩ := only emitted
      exact .report serial task context queued found
  | framed video packets context found armed =>
      obtain ⟨data, _member, same⟩ := List.mem_map.mp emitted
      cases same
      exact .frame video packets 0 context _ found armed
  | frameFailed video packets ret context found armed =>
      rcases List.mem_append.mp emitted with written | reported
      · obtain ⟨data, _member, same⟩ := List.mem_map.mp written
        cases same
        exact .frame video packets ret context _ found armed
      · obtain ⟨rfl, rfl⟩ := only reported
        exact .frame video packets ret context _ found armed
  | inviteFailed serial completion invite context calling alive rejected =>
      obtain ⟨rfl, rfl⟩ := only emitted
      exact .invite serial completion invite context _ calling alive
  | inviteAccepted serial completion invite context gb calling alive accepted =>
      rcases List.mem_cons.mp emitted with same | others
      · cases same
        exact .invite serial completion invite context _ calling alive
      · simp at others
  | received peer data packets weak context registered alive =>
      rcases List.mem_cons.mp emitted with other | packet
      · cases other
      · obtain ⟨bytes, _member, same⟩ := List.mem_map.mp packet
        cases same
        exact .datagram peer data packets weak context bytes registered alive

/-- The effects that are not callbacks, with the step that each of them comes
from. -/
inductive Signals (producer : RtpProducer Target) : Step Target → Effect Target → Prop
  | inviting (video : VideoRequest) (target : Target) (transmission : Transmission)
      (noFile : video.useFile = false) (isGb : video.useGb = true)
      (free : producer.rtpVideoContextMap.find? video = none)
      (mode : video.gbStreamingMode.transmission? = some transmission) :
      Signals producer (.registerVideo video target)
        (.inviteVideo producer.nextSerial
          ⟨video.gbid, producer.config.networkReceiveHost, transmission⟩
          producer.config.rpcTimeoutInMs)
  | tearingDown (video : VideoRequest) (address : Nat) (context : RtpVideoContext Target)
      (located : producer.rtpVideoContextMap.find? video = some address)
      (alive : producer.heap.get? address = some context) (named : context.inviteId ≠ "") :
      Signals producer (.unregisterVideo video) (.tearDown context.inviteId)
  | registering (serial : Nat) (completion : Completion) (invite : Invite)
      (context : RtpVideoContext Target) (gb : GbInviteVideoResponse)
      (calling : producer.invites.find? serial = some invite)
      (alive : producer.heap.get? invite.context = some context)
      (accepted : (context.accept producer.config completion).2 = some gb) :
      Signals producer (.inviteCallback serial completion)
        (.registerPeer gb.peerInfo invite.context)
  | acknowledging (serial : Nat) (completion : Completion) (invite : Invite)
      (context : RtpVideoContext Target) (gb : GbInviteVideoResponse)
      (calling : producer.invites.find? serial = some invite)
      (alive : producer.heap.get? invite.context = some context)
      (accepted : (context.accept producer.config completion).2 = some gb) :
      Signals producer (.inviteCallback serial completion)
        (.sendAck (context.accept producer.config completion).1.inviteId)
  | feeding (peer : String) (data : List UInt8) (packets : List (List UInt8)) (weak : Nat)
      (context : RtpVideoContext Target)
      (registered : producer.registeredPeers.find? peer = some weak)
      (alive : producer.heap.get? weak = some context) :
      Signals producer (.receiveDatagram peer data packets) (.demuxerInput weak data)
  | failing (step : Step Target) (kind : Fault) : Signals producer step (.fault kind)

theorem signals_of_emitted {producer : RtpProducer Target} {step : Step Target}
    {effect : Effect Target} (emitted : effect ∈ machine.emit producer step)
    (noCallback : ∀ registration call, effect ≠ .callback registration call) :
    Signals producer step effect := by
  have moved := transition producer step
  change effect ∈ (producer.perform step).effects at emitted
  generalize producer.perform step = result at moved emitted
  have unspoken {other : Registration Target} {said : Callback}
      (member : effect ∈ [other.invoke said]) : False :=
    noCallback other said (List.mem_singleton.mp member)
  have unwritten {other : Registration Target} {packets : List (List UInt8)}
      (member : effect ∈ packets.map (fun data => other.invoke (.consumePkt data))) : False := by
    obtain ⟨data, _member, same⟩ := List.mem_map.mp member
    exact noCallback other _ same.symm
  cases moved with
  | idle | ignored | fileQueued | probeLost | inviteLost => cases emitted
  | fileRemoved | cleaned =>
      rw [mem_destroyFile emitted]
      exact .failing _ _
  | refused | gbUnnamed | probeStarted | reported | inviteFailed =>
      exact (unspoken emitted).elim
  | gbInvited video target transmission noFile isGb free mode =>
      rw [List.mem_singleton.mp emitted]
      exact .inviting video target transmission noFile isGb free mode
  | gbRemoved video address noFile isGb located =>
      obtain ⟨context, alive, named, rfl⟩ := mem_tearDownOf emitted
      exact .tearingDown video address context located alive named
  | probeBroke serial probe task ret spoken context queued phase found exit =>
      cases spoken with
      | none => cases emitted
      | some sdp => exact (unspoken emitted).elim
  | probeCrashed | reportedNobody =>
      rw [List.mem_singleton.mp emitted]
      exact .failing _ _
  | framed video packets context found armed => exact (unwritten emitted).elim
  | frameFailed video packets ret context found armed =>
      rcases List.mem_append.mp emitted with written | reported
      · exact (unwritten written).elim
      · exact (unspoken reported).elim
  | inviteAccepted serial completion invite context gb calling alive accepted =>
      rcases List.mem_cons.mp emitted with spoken | others
      · exact (noCallback _ _ spoken).elim
      · rcases List.mem_cons.mp others with rfl | last
        · exact .registering serial completion invite context gb calling alive accepted
        · rw [List.mem_singleton.mp last]
          exact .acknowledging serial completion invite context gb calling alive accepted
  | received peer data packets weak context registered alive =>
      rcases List.mem_cons.mp emitted with rfl | packet
      · exact .feeding peer data packets weak context registered alive
      · exact (unwritten packet).elim

/-! ### Registering a video that is not registered -/

section Register

variable {producer : RtpProducer Target} {video : VideoRequest} (target : Target)

theorem next_registerFile (isFile : video.useFile = true)
    (free : producer.fileVideoContextMap.find? video = none) :
    producer.perform (.registerVideo video target) =
      ⟨producer.takeSerial.addFileContext video ⟨producer.nextSerial, target⟩, []⟩ := by
  have freeNow : producer.takeSerial.fileVideoContextMap.find? video = none := free
  simp only [perform, registerVideo, isFile, if_true, registerFile, freeNow]

theorem next_registerGb {transmission : Transmission} (noFile : video.useFile = false)
    (isGb : video.useGb = true) (free : producer.rtpVideoContextMap.find? video = none)
    (mode : video.gbStreamingMode.transmission? = some transmission) :
    producer.perform (.registerVideo video target) =
      ⟨(producer.takeSerial.addRtpContext video ⟨producer.nextSerial, target⟩).startCall
          producer.nextSerial ⟨video, producer.heap.next⟩,
        [.inviteVideo producer.nextSerial
          ⟨video.gbid, producer.config.networkReceiveHost, transmission⟩
          producer.config.rpcTimeoutInMs]⟩ := by
  have freeNow : producer.takeSerial.rtpVideoContextMap.find? video = none := free
  simp only [perform, registerVideo, noFile, isGb, Bool.false_eq_true, if_false, if_true,
    registerGb, freeNow, mode]
  rfl

theorem next_registerUnnamed (noFile : video.useFile = false) (isGb : video.useGb = true)
    (free : producer.rtpVideoContextMap.find? video = none)
    (mode : video.gbStreamingMode.transmission? = none) :
    producer.perform (.registerVideo video target) =
      ⟨producer.takeSerial.addRtpContext video ⟨producer.nextSerial, target⟩,
        [Registration.invoke ⟨producer.nextSerial, target⟩ (.processError .invalidArgument)]⟩ := by
  have freeNow : producer.takeSerial.rtpVideoContextMap.find? video = none := free
  simp only [perform, registerVideo, noFile, isGb, Bool.false_eq_true, if_false, if_true,
    registerGb, freeNow, mode]

theorem next_registerNeither (noFile : video.useFile = false) (noGb : video.useGb = false) :
    producer.perform (.registerVideo video target) = ⟨producer.takeSerial, []⟩ := by
  simp only [perform, registerVideo, noFile, noGb, Bool.false_eq_true, if_false]

end Register

/-! ### Steps of a task in its place -/

theorem next_probeFile {producer : RtpProducer Target} {serial : Nat} {task : FileTask Target}
    (probe : Probe) (queued : producer.fileTasks.find? serial = some task)
    (phase : task.phase = .probing) :
    producer.perform (.probeFile serial probe) = producer.probeFile task probe := by
  simp only [perform, queued, phase, if_true]

theorem next_reportFile {producer : RtpProducer Target} {serial : Nat} {task : FileTask Target}
    {ret : Int} (queued : producer.fileTasks.find? serial = some task)
    (phase : task.phase = .reporting ret) :
    producer.perform (.reportFile serial) = producer.reportFile task := by
  simp only [perform, queued, phase]

theorem next_cleanFile {producer : RtpProducer Target} {serial : Nat} {task : FileTask Target}
    (queued : producer.fileTasks.find? serial = some task) (phase : task.phase = .cleaning) :
    producer.perform (.cleanFile serial) = producer.cleanFile task := by
  simp only [perform, queued, phase, if_true]

theorem next_inviteLost {producer : RtpProducer Target} {serial : Nat} {invite : Invite}
    (completion : Completion) (calling : producer.invites.find? serial = some invite)
    (dead : producer.heap.get? invite.context = none) :
    producer.perform (.inviteCallback serial completion) = ⟨producer.completeCall serial, []⟩ := by
  have unlocked : (producer.completeCall serial).heap.lock invite.context = none := by
    unfold SharedHeap.lock
    change (producer.heap.get? invite.context).map _ = none
    rw [dead]
    rfl
  simp only [perform, calling, inviteCallback, unlocked]

theorem next_inviteCallback {producer : RtpProducer Target} {serial : Nat} {invite : Invite}
    {context : RtpVideoContext Target} (completion : Completion)
    (calling : producer.invites.find? serial = some invite)
    (alive : producer.heap.get? invite.context = some context) :
    producer.perform (.inviteCallback serial completion) =
      let accepted := context.accept producer.config completion
      let changed := (producer.completeCall serial).unlock
        ((producer.heap.share invite.context).update invite.context accepted.1) invite.context
      match accepted.2 with
      | none => ⟨changed, [context.registration.invoke (.processError .invalidArgument)]⟩
      | some gb =>
          ⟨changed.registerPeer gb.peerInfo invite.context,
            [context.registration.invoke (.processSdp (gbSdp invite.video gb)),
              .registerPeer gb.peerInfo invite.context, .sendAck accepted.1.inviteId]⟩ := by
  have locked : (producer.completeCall serial).heap.lock invite.context =
      some (producer.heap.share invite.context, context) := lock_eq producer.heap alive
  simp only [perform, calling, inviteCallback, locked]
  rfl

end Ffvms.Concrete.RtpProducer
