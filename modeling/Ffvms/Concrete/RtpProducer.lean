/-
The RTP producer: registration and removal of file and GB28181 videos, the
queued file tasks, the invite callback and the datagram handler of a peer.

Every section that the producer runs under one of its two mutexes is one step.
A file task has three of them.  What FFmpeg, libevent, gRPC and the RTP library
return is part of the label of the step that calls them.  A callback is not run
here: a step returns the calls it makes, in order, as effects.
-/

import Ffvms.LabelledRun
import Ffvms.SharedHeap
import Ffvms.Concrete.VideoRequest

namespace Ffvms.Concrete

/-- What the memory that `new FileVideoContext` gets holds where its two format pointers are,
which the constructor does not set. -/
structure UnsetPointers where
  iFmtCtxNull : Bool
  oFmtCtxNull : Bool
  deriving DecidableEq, Repr

/-- The fields of the configuration that registration reads.  The last one is none of them: it
is the memory that the registration with each number finds. -/
structure ProducerConfig where
  networkReceiveHost : String
  rtpJitterInMs : Int
  maxBandwidthInMb : Int
  rpcTimeoutInMs : Int
  unsetPointers : Nat → UnsetPointers

def zeroedMemory : Nat → UnsetPointers := fun _ => ⟨true, true⟩

/-- The three function objects that one `RegisterVideo` call hands over.  The
target is what the caller bound them to; the serial number tells the call from
every other one. -/
structure Registration (Target : Type) where
  serial : Nat
  target : Target
  deriving DecidableEq, Repr

inductive ErrorCode where
  | tooManyFilesOpen
  | invalidArgument
  deriving DecidableEq, Repr

inductive Callback where
  | processSdp (sdp : String)
  | consumePkt (data : List UInt8)
  | processError (code : ErrorCode)
  deriving DecidableEq, Repr

/-! ### Messages of the sipper service -/

inductive Transmission where
  | tcp
  | udp
  deriving DecidableEq, Repr

structure GbInviteRequest where
  cameraId : String
  receiveInfo : String
  transmission : Transmission
  deriving DecidableEq, Repr

structure GbInviteVideoResponse where
  peerInfo : String
  frequency : Nat
  payload : Nat
  encoding : String
  deriving DecidableEq, Repr

/-- The response is a `oneof` with a single case, which may be left unset. -/
structure InviteVideoResponse where
  inviteId : String
  gbInviteResponse : Option GbInviteVideoResponse
  deriving DecidableEq, Repr

/-- What the invite callback gets from `rand` and from the RTP library. -/
structure Creation where
  ssrc : Nat
  demuxer : Bool
  payloadEncoder : Bool
  deriving DecidableEq, Repr

inductive Completion where
  | failed
  | answered (response : InviteVideoResponse) (creation : Creation)
  deriving DecidableEq, Repr

/-! ### Contexts -/

structure Demuxer where
  jitterInMs : Int
  frequency : Nat
  payload : Nat
  encoding : String
  deriving DecidableEq, Repr

structure PayloadEncoder where
  payload : Nat
  encoding : String
  sequence : Nat
  ssrc : Nat
  deriving DecidableEq, Repr

structure RtpSession where
  ssrc : Nat
  timestamp : Nat
  frequency : Nat
  bandwidth : Int
  deriving DecidableEq, Repr

structure RtpVideoContext (Target : Type) where
  videoRequest : VideoRequest
  registration : Registration Target
  inviteId : String
  packet : Option Nat
  payloadBuf : Option Int
  demuxer : Option Demuxer
  payloadEncoder : Option PayloadEncoder
  rtp : Option RtpSession

/-- A pointer to an `AVFormatContext`.  A `wild` one is neither null nor set. -/
inductive FormatPointer where
  | null
  | wild
  | made
  deriving DecidableEq, Repr

/-- `fileEvent` says whether the frame timer has been armed. -/
structure FileVideoContext (Target : Type) where
  videoRequest : VideoRequest
  registration : Registration Target
  iFmtCtx : FormatPointer
  oFmtCtx : FormatPointer
  fileEvent : Bool
  error : Int

inductive TaskPhase where
  | probing
  | reporting (ret : Int)
  | cleaning
  deriving DecidableEq, Repr

structure FileTask (Target : Type) where
  video : VideoRequest
  registration : Registration Target
  phase : TaskPhase

/-- An `InviteVideo` call in flight; the callback holds a weak pointer. -/
structure Invite where
  video : VideoRequest
  context : Nat

inductive Fault where
  | nullIoContext
  | endIterator
  | wildPointer
  deriving DecidableEq, Repr

inductive Effect (Target : Type) where
  | callback (registration : Registration Target) (call : Callback)
  | inviteVideo (serial : Nat) (request : GbInviteRequest) (timeoutInMs : Int)
  | sendAck (inviteId : String)
  | tearDown (inviteId : String)
  | registerPeer (peer : String) (context : Nat)
  | demuxerInput (context : Nat) (data : List UInt8)
  | fault (kind : Fault)
  deriving DecidableEq, Repr

/-- `registeredPeers` is the peer table of the network server; of a handler the
weak pointer it captures is kept. -/
structure RtpProducer (Target : Type) where
  config : ProducerConfig
  fileVideoContextMap : RequestMap (FileVideoContext Target)
  rtpVideoContextMap : RequestMap Nat
  heap : SharedHeap (RtpVideoContext Target)
  fileTasks : OrderedMap (fun serial : Nat => serial) (FileTask Target)
  invites : OrderedMap (fun serial : Nat => serial) Invite
  registeredPeers : OrderedMap (fun peer : String => peer) Nat
  nextSerial : Nat

structure Produced (Target : Type) where
  producer : RtpProducer Target
  effects : List (Effect Target)

variable {Target : Type}

/-! ### The file probe -/

/-- The results of the library calls of one `RegisterFileVideo` run, in the
order of the calls.  A session description that could be created is not empty. -/
structure Probe where
  openInput : Int
  findStreamInfo : Int
  findBestStream : Int
  allocOutputContext : Int
  newStream : Bool
  parametersCopy : Int
  allocIoContext : Bool
  sdpCreate : Int
  sdp : String
  sdpText : sdp ≠ ""
  writeHeader : Int
  eventNew : Bool
  eventAdd : Int

inductive ProbeExit where
  | started
  | broke (ret : Int)
  | crashed (kind : Fault)
  deriving DecidableEq, Repr

/-- The loop body of `RegisterFileVideo` once the context has been found: the
exit with the value `ret` has there, and the SDP if it was handed over.  Three
failing calls do not assign `ret`. -/
def Probe.run (probe : Probe) : ProbeExit × Option String :=
  if probe.openInput < 0 then (.broke probe.openInput, none)
  else if probe.findStreamInfo < 0 then (.broke probe.findStreamInfo, none)
  else if probe.findBestStream < 0 then (.broke probe.findBestStream, none)
  else if probe.allocOutputContext < 0 then (.broke probe.allocOutputContext, none)
  else if probe.newStream = false then (.broke probe.allocOutputContext, none)
  else if probe.parametersCopy < 0 then (.broke probe.parametersCopy, none)
  else if probe.allocIoContext = false then (.crashed .nullIoContext, none)
  else if probe.sdpCreate < 0 then (.broke probe.sdpCreate, none)
  else if probe.writeHeader < 0 then (.broke probe.writeHeader, none)
  else if probe.eventNew = false ∨ probe.eventAdd < 0 then
    (.broke probe.writeHeader, some probe.sdp)
  else (.started, some probe.sdp)

/-- `avformat_open_input` leaves a null pointer when it fails. -/
def Probe.iFmtCtx (probe : Probe) : FormatPointer :=
  if probe.openInput < 0 then .null else .made

/-- `avformat_alloc_output_context2` is the fourth call and sets the pointer in any case. -/
def Probe.oFmtCtx (probe : Probe) (unset : FormatPointer) : FormatPointer :=
  if probe.openInput < 0 ∨ probe.findStreamInfo < 0 ∨ probe.findBestStream < 0 then unset
  else if probe.allocOutputContext < 0 then .null
  else .made

/-! ### The invite callback -/

def Registration.invoke (registration : Registration Target) (call : Callback) : Effect Target :=
  .callback registration call

namespace RtpVideoContext

def create (video : VideoRequest) (registration : Registration Target) : RtpVideoContext Target :=
  { videoRequest := video
    registration := registration
    inviteId := ""
    packet := none
    payloadBuf := none
    demuxer := none
    payloadEncoder := none
    rtp := none }

/-- The `do … while (false)` block of the invite callback on the context it
locked, and the response body if the block got as far as `succ = true`. -/
def accept (config : ProducerConfig) (context : RtpVideoContext Target) :
    Completion → RtpVideoContext Target × Option GbInviteVideoResponse
  | .failed => (context, none)
  | .answered response creation =>
      match response.gbInviteResponse with
      | none => (context, none)
      | some gb =>
          let invited :=
            { context with
              packet := some 1600
              payloadBuf :=
                if gb.encoding = "H264" then some (config.maxBandwidthInMb * 1024 * 1024)
                else context.payloadBuf
              inviteId := response.inviteId
              demuxer :=
                if creation.demuxer then
                  some ⟨config.rtpJitterInMs, gb.frequency, gb.payload, gb.encoding⟩
                else none }
          if creation.demuxer = false then (invited, none)
          else
            let encoding :=
              { invited with
                payloadEncoder :=
                  if creation.payloadEncoder then
                    some ⟨gb.payload, gb.encoding, creation.ssrc % 2 ^ 16, creation.ssrc⟩
                  else none }
            if creation.payloadEncoder = false then (encoding, none)
            else
              ({ encoding with
                 rtp := some ⟨creation.ssrc, creation.ssrc, gb.frequency,
                   config.maxBandwidthInMb * 1024 * 1024⟩ },
                some gb)

end RtpVideoContext

def FormatPointer.unset (isNull : Bool) : FormatPointer :=
  if isNull then .null else .wild

namespace FileVideoContext

def create (video : VideoRequest) (registration : Registration Target) (unset : UnsetPointers) :
    FileVideoContext Target :=
  { videoRequest := video
    registration := registration
    iFmtCtx := .unset unset.iFmtCtxNull
    oFmtCtx := .unset unset.oFmtCtxNull
    fileEvent := false
    error := 0 }

def Wild (context : FileVideoContext Target) : Prop :=
  context.iFmtCtx = .wild ∨ context.oFmtCtx = .wild

instance (context : FileVideoContext Target) : Decidable context.Wild :=
  inferInstanceAs (Decidable (_ ∨ _))

def setFormats (probe : Probe) (context : FileVideoContext Target) : FileVideoContext Target :=
  { context with iFmtCtx := probe.iFmtCtx, oFmtCtx := probe.oFmtCtx context.oFmtCtx }

/-- A probe that gets as far as the timer has made both format contexts. -/
def arm (context : FileVideoContext Target) : FileVideoContext Target :=
  { context with iFmtCtx := .made, oFmtCtx := .made, fileEvent := true }

/-- `~FileVideoContext` closes what the pointers point to if they are not null. -/
def destroy (context : FileVideoContext Target) : List (Effect Target) :=
  if context.Wild then [.fault .wildPointer] else []

end FileVideoContext

def gbSdp (video : VideoRequest) (gb : GbInviteVideoResponse) : String :=
  "v=0\n" ++ "o=- 0 0 IN IP4 127.0.0.1\n" ++ "s=gb:" ++ video.gbid ++ "\n" ++
    "c=IN IP4 127.0.0.1\n" ++ "m=video 0 RTP/AVP " ++ toString gb.payload ++ "\n" ++ "t=0 0\n" ++
    "a=rtpmap:" ++ toString gb.payload ++ " " ++ gb.encoding ++ "/" ++ toString gb.frequency

def StreamingMode.transmission? : StreamingMode → Option Transmission
  | .tcp => some .tcp
  | .udp => some .udp
  | .unnamed _ => none

namespace RtpProducer

def initial (config : ProducerConfig) : RtpProducer Target :=
  { config := config
    fileVideoContextMap := OrderedMap.empty
    rtpVideoContextMap := OrderedMap.empty
    heap := SharedHeap.empty
    fileTasks := OrderedMap.empty
    invites := OrderedMap.empty
    registeredPeers := OrderedMap.empty
    nextSerial := 0 }

/-- The memory that the next registration finds. -/
def nextMemory (producer : RtpProducer Target) : UnsetPointers :=
  producer.config.unsetPointers producer.nextSerial

/-- `NetworkServer::registerPeer`: the first handler of a peer stays. -/
def registerPeer (producer : RtpProducer Target) (peer : String) (context : Nat) :
    RtpProducer Target :=
  { producer with
    registeredPeers :=
      match producer.registeredPeers.find? peer with
      | none => producer.registeredPeers.insert peer context
      | some _ => producer.registeredPeers }

/-! ### Registration -/

def addFileContext (producer : RtpProducer Target) (video : VideoRequest)
    (registration : Registration Target) : RtpProducer Target :=
  { producer with
    fileVideoContextMap := producer.fileVideoContextMap.insert video
      (FileVideoContext.create video registration
        (producer.config.unsetPointers registration.serial))
    fileTasks := producer.fileTasks.insert registration.serial ⟨video, registration, .probing⟩ }

def registerFile (producer : RtpProducer Target) (video : VideoRequest)
    (registration : Registration Target) : Produced Target :=
  match producer.fileVideoContextMap.find? video with
  | some _ => ⟨producer, [registration.invoke (.processError .tooManyFilesOpen)]⟩
  | none => ⟨producer.addFileContext video registration, []⟩

def addRtpContext (producer : RtpProducer Target) (video : VideoRequest)
    (registration : Registration Target) : RtpProducer Target :=
  let made := producer.heap.makeShared (RtpVideoContext.create video registration)
  { producer with
    heap := (made.1.share made.2).release made.2
    rtpVideoContextMap := producer.rtpVideoContextMap.insert video made.2 }

def startCall (producer : RtpProducer Target) (serial : Nat) (invite : Invite) :
    RtpProducer Target :=
  { producer with invites := producer.invites.insert serial invite }

def registerGb (producer : RtpProducer Target) (video : VideoRequest)
    (registration : Registration Target) : Produced Target :=
  match producer.rtpVideoContextMap.find? video with
  | some _ => ⟨producer, [registration.invoke (.processError .tooManyFilesOpen)]⟩
  | none =>
      let held := producer.addRtpContext video registration
      match video.gbStreamingMode.transmission? with
      | none => ⟨held, [registration.invoke (.processError .invalidArgument)]⟩
      | some transmission =>
          ⟨held.startCall registration.serial ⟨video, producer.heap.next⟩,
            [.inviteVideo registration.serial
              ⟨video.gbid, producer.config.networkReceiveHost, transmission⟩
              producer.config.rpcTimeoutInMs]⟩

def takeSerial (producer : RtpProducer Target) : RtpProducer Target :=
  { producer with nextSerial := producer.nextSerial + 1 }

def registerVideo (producer : RtpProducer Target) (video : VideoRequest) (target : Target) :
    Produced Target :=
  if video.useFile then producer.takeSerial.registerFile video ⟨producer.nextSerial, target⟩
  else if video.useGb then producer.takeSerial.registerGb video ⟨producer.nextSerial, target⟩
  else ⟨producer.takeSerial, []⟩

/-! ### The sections of a file task -/

def setPhase (producer : RtpProducer Target) (serial : Nat) (phase : TaskPhase) :
    RtpProducer Target :=
  { producer with
    fileTasks := producer.fileTasks.modify serial (fun task => { task with phase := phase }) }

def endTask (producer : RtpProducer Target) (serial : Nat) : RtpProducer Target :=
  { producer with fileTasks := producer.fileTasks.erase serial }

def armFileEvent (producer : RtpProducer Target) (video : VideoRequest) : RtpProducer Target :=
  { producer with
    fileVideoContextMap := producer.fileVideoContextMap.modify video FileVideoContext.arm }

def setFormats (producer : RtpProducer Target) (video : VideoRequest) (probe : Probe) :
    RtpProducer Target :=
  { producer with
    fileVideoContextMap :=
      producer.fileVideoContextMap.modify video (FileVideoContext.setFormats probe) }

/-- `if (ret != 0)` after the loop: a task that left with 0 goes to the erase. -/
def leaveProbe (producer : RtpProducer Target) (serial : Nat) (ret : Int) : RtpProducer Target :=
  producer.setPhase serial (if ret ≠ 0 then .reporting ret else .cleaning)

/-- How the loop of `RegisterFileVideo` ends for a context: `avformat_open_input` takes a pointer
that is not null for a context of the caller and reads from it. -/
def probeExit (context : FileVideoContext Target) (probe : Probe) : ProbeExit × Option String :=
  if context.iFmtCtx = .wild then (.crashed .wildPointer, none) else probe.run

def probeFile (producer : RtpProducer Target) (task : FileTask Target) (probe : Probe) :
    Produced Target :=
  match producer.fileVideoContextMap.find? task.video with
  | none => ⟨producer.leaveProbe task.registration.serial 0, []⟩
  | some context =>
      let exit := probeExit context probe
      let spoken := (exit.2.map (fun sdp => task.registration.invoke (.processSdp sdp))).toList
      match exit.1 with
      | .started =>
          ⟨(producer.armFileEvent task.video).endTask task.registration.serial, spoken⟩
      | .broke ret =>
          ⟨(producer.setFormats task.video probe).leaveProbe task.registration.serial ret, spoken⟩
      | .crashed kind => ⟨producer.endTask task.registration.serial, [.fault kind]⟩

/-- The second section: the error goes to the context that the second lookup
finds.  A missing one is logged and dereferenced all the same. -/
def reportFile (producer : RtpProducer Target) (task : FileTask Target) : Produced Target :=
  match producer.fileVideoContextMap.find? task.video with
  | some context =>
      ⟨producer.setPhase task.registration.serial .cleaning,
        [context.registration.invoke (.processError .invalidArgument)]⟩
  | none => ⟨producer.setPhase task.registration.serial .cleaning, [.fault .endIterator]⟩

def eraseFile (producer : RtpProducer Target) (video : VideoRequest) : RtpProducer Target :=
  { producer with fileVideoContextMap := producer.fileVideoContextMap.erase video }

def destroyFile (producer : RtpProducer Target) (video : VideoRequest) : List (Effect Target) :=
  match producer.fileVideoContextMap.find? video with
  | none => []
  | some context => context.destroy

def cleanFile (producer : RtpProducer Target) (task : FileTask Target) : Produced Target :=
  ⟨(producer.eraseFile task.video).endTask task.registration.serial,
    producer.destroyFile task.video⟩

def markError (producer : RtpProducer Target) (video : VideoRequest) (ret : Int) :
    RtpProducer Target :=
  { producer with
    fileVideoContextMap := producer.fileVideoContextMap.modify video
      (fun context => { context with error := ret }) }

/-- One run of `FFGetFrame` on the context of the video: the packets that the
muxer wrote, and the value of `ret` after the loop. -/
def getFrame (producer : RtpProducer Target) (video : VideoRequest)
    (packets : List (List UInt8)) (ret : Int) : Produced Target :=
  match producer.fileVideoContextMap.find? video with
  | none => ⟨producer, []⟩
  | some context =>
      if context.fileEvent = false ∨ context.error ≠ 0 then ⟨producer, []⟩
      else
        let written := packets.map (fun data => context.registration.invoke (.consumePkt data))
        if ret ≠ 0 then
          ⟨producer.markError video ret,
            written ++ [context.registration.invoke (.processError .invalidArgument)]⟩
        else ⟨producer, written⟩

/-! ### GB28181 callbacks -/

def unlock (producer : RtpProducer Target) (locked : SharedHeap (RtpVideoContext Target))
    (address : Nat) : RtpProducer Target :=
  { producer with heap := locked.release address }

def inviteCallback (producer : RtpProducer Target) (invite : Invite) (completion : Completion) :
    Produced Target :=
  match producer.heap.lock invite.context with
  | none => ⟨producer, []⟩
  | some (locked, context) =>
      let accepted := context.accept producer.config completion
      let changed := producer.unlock (locked.update invite.context accepted.1) invite.context
      match accepted.2 with
      | none => ⟨changed, [context.registration.invoke (.processError .invalidArgument)]⟩
      | some gb =>
          ⟨changed.registerPeer gb.peerInfo invite.context,
            [context.registration.invoke (.processSdp (gbSdp invite.video gb)),
              .registerPeer gb.peerInfo invite.context, .sendAck accepted.1.inviteId]⟩

/-- A datagram from a peer, under the shared lock of the handler.  The packets
are what comes out of the demuxer and the payload encoder for this input. -/
def receiveDatagram (producer : RtpProducer Target) (peer : String) (data : List UInt8)
    (packets : List (List UInt8)) : Produced Target :=
  match producer.registeredPeers.find? peer with
  | none => ⟨producer, []⟩
  | some weak =>
      match producer.heap.lock weak with
      | none => ⟨producer, []⟩
      | some (locked, context) =>
          ⟨producer.unlock locked weak,
            .demuxerInput weak data ::
              packets.map (fun packet => context.registration.invoke (.consumePkt packet))⟩

def tearDownOf (producer : RtpProducer Target) (address : Nat) : List (Effect Target) :=
  match producer.heap.get? address with
  | none => []
  | some context => if context.inviteId = "" then [] else [.tearDown context.inviteId]

def eraseRtp (producer : RtpProducer Target) (video : VideoRequest) (address : Nat) :
    RtpProducer Target :=
  { producer with
    rtpVideoContextMap := producer.rtpVideoContextMap.erase video
    heap := producer.heap.release address }

def unregisterVideo (producer : RtpProducer Target) (video : VideoRequest) : Produced Target :=
  if video.useFile then
    ⟨producer.eraseFile video, producer.destroyFile video⟩
  else if video.useGb then
    match producer.rtpVideoContextMap.find? video with
    | none => ⟨producer, []⟩
    | some address => ⟨producer.eraseRtp video address, producer.tearDownOf address⟩
  else ⟨producer, []⟩

/-! ### Steps and runs -/

inductive Step (Target : Type) where
  | registerVideo (video : VideoRequest) (target : Target)
  | unregisterVideo (video : VideoRequest)
  | probeFile (serial : Nat) (probe : Probe)
  | reportFile (serial : Nat)
  | cleanFile (serial : Nat)
  | getFrame (video : VideoRequest) (packets : List (List UInt8)) (ret : Int)
  | inviteCallback (serial : Nat) (completion : Completion)
  | receiveDatagram (peer : String) (data : List UInt8) (packets : List (List UInt8))

def completeCall (producer : RtpProducer Target) (serial : Nat) : RtpProducer Target :=
  { producer with invites := producer.invites.erase serial }

def perform (producer : RtpProducer Target) : Step Target → Produced Target
  | .registerVideo video target => producer.registerVideo video target
  | .unregisterVideo video => producer.unregisterVideo video
  | .probeFile serial probe =>
      match producer.fileTasks.find? serial with
      | some task => if task.phase = .probing then producer.probeFile task probe else ⟨producer, []⟩
      | none => ⟨producer, []⟩
  | .reportFile serial =>
      match producer.fileTasks.find? serial with
      | some task =>
          match task.phase with
          | .reporting _ => producer.reportFile task
          | .probing | .cleaning => ⟨producer, []⟩
      | none => ⟨producer, []⟩
  | .cleanFile serial =>
      match producer.fileTasks.find? serial with
      | some task => if task.phase = .cleaning then producer.cleanFile task else ⟨producer, []⟩
      | none => ⟨producer, []⟩
  | .getFrame video packets ret => producer.getFrame video packets ret
  | .inviteCallback serial completion =>
      match producer.invites.find? serial with
      | some invite => (producer.completeCall serial).inviteCallback invite completion
      | none => ⟨producer, []⟩
  | .receiveDatagram peer data packets => producer.receiveDatagram peer data packets

def machine : LabelledMachine (RtpProducer Target) (Step Target) (Effect Target) :=
  { next := fun producer step => (producer.perform step).producer
    emit := fun producer step => (producer.perform step).effects }

def after (config : ProducerConfig) (steps : List (Step Target)) : RtpProducer Target :=
  machine.run (initial config) steps

end RtpProducer

end Ffvms.Concrete
