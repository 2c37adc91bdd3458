/-
The threads of the service and the locks they take.

An event thread runs `readcb`, `errorcb` or the accept callback, a thread of the
RPC client the callback of an invite, and a worker of the network server the
delivery of a datagram; `RegisterVideo` and `UnregisterVideo` may also be called
from outside, with callbacks that take none of these locks.  Each acquisition,
each release and each section of code between two of them is a step.  The lock of
the file contexts is not among the locks here, so what the producer does for a
file video belongs to the section that calls it.
-/

import Ffvms.LockProgram
import Ffvms.Concrete.RtpProducer
import Ffvms.Concrete.RtspServiceSteps

namespace Ffvms.Concrete

variable {Client : Type} [DecidableEq Client]

namespace RtspService

def proxyAt? (service : RtspService Client) (identity : Nat) : Option (ProxyInfo Client) :=
  (service.proxies.entries.find? (fun entry => entry.2.identity = identity)).map Prod.snd

def writeProxy (service : RtspService Client) (identity : Nat)
    (change : ProxyInfo Client → ProxyInfo Client) : RtspService Client :=
  { service with
    proxies := service.proxies.mapValues
      (fun _ info => if info.identity = identity then change info else info) }

end RtspService

/-- `mRtspServerMutex`, `mProxyInfoMutex`, the `mClientMutex` of a proxy,
`mRtpContextMutex` and `NetworkServer::mMutex`. -/
inductive ServiceLock where
  | rtspServer
  | proxyInfo
  | client (proxy : Nat)
  | rtpContext
  | network
  deriving DecidableEq, Repr

/-- A request that the RTSP library hands to a handler.  The other handlers take
no lock. -/
inductive RtspRequest where
  | options (uri : String)
  | describe (uri : String)
  | play (uri : String) (npt : Option Int)
  | other

/-- A registration from outside is bound to no proxy. -/
structure SharedData (Client : Type) where
  connected : Finset Client
  service : RtspService Client
  producer : RtpProducer (Option Nat)

inductive ThreadCall (Client : Type) where
  | accept (client : Client)
  | readcb (client : Client) (request : RtspRequest)
  | errorcb (client : Client)
  | registerVideo (video : VideoRequest)
  | unregisterVideo (video : VideoRequest)
  | inviteCallback (serial : Nat) (completion : Completion)
  | datagram (peer : String) (packets : List (List UInt8))

/-- The sections of the code, named after their functions.  A pointer to a proxy
that a lookup returned, or that a callback is bound to, is part of the stage. -/
inductive ServiceStage (Client : Type) where
  | accept (client : Client)
  | readcb (client : Client) (request : RtspRequest)
  | onOptions (client : Client) (uri : String)
  | onOptionsClients (client : Client) (proxy : Nat)
  | onDescribe (client : Client) (uri : String)
  | onDescribeClients (client : Client) (video : VideoRequest) (proxy : Nat)
  | onPlay (client : Client) (uri : String) (npt : Option Int)
  | onPlayClients (client : Client) (proxy : Nat) (npt : Option Int)
  | errorcb (client : Client)
  | close (client : Client)
  | eraseProxy (video : VideoRequest)
  | registerVideo (video : VideoRequest) (target : Option Nat)
  | unregisterVideo (video : VideoRequest) (closing : Bool)
  | inviteCallback (invite : Invite) (completion : Completion)
  | processSdp (proxy : Nat) (video : VideoRequest) (gb : GbInviteVideoResponse) (context : Nat)
  | registerPeer (peer : String) (context : Nat)
  | datagram (peer : String) (packets : List (List UInt8))
  | handlePacket (context : Nat) (packets : List (List UInt8))
  | consumePkt (proxy : Nat) (packet : List UInt8) (rest : List (List UInt8))

def VideoRequest.TakesContextLock (video : VideoRequest) : Prop :=
  video.useFile = false ∧ video.useGb = true

instance (video : VideoRequest) : Decidable video.TakesContextLock :=
  inferInstanceAs (Decidable (_ ∧ _))

namespace SharedData

def initial (config : ProducerConfig) : SharedData Client :=
  { connected := ∅
    service := RtspService.initial
    producer := RtpProducer.initial config }

/-- `processErrorFunc` of the registrations that a section of the producer gives
up.  It takes no lock. -/
def callErrors (service : RtspService Client) (effects : List (Effect (Option Nat))) :
    RtspService Client :=
  effects.foldl (fun service effect =>
    match effect with
    | .callback ⟨_, some proxy⟩ (.processError _) => service.processErrorFunction proxy
    | _ => service) service

def registerVideo (data : SharedData Client) (video : VideoRequest) (target : Option Nat) :
    SharedData Client :=
  let produced := data.producer.registerVideo video target
  { data with
    service := callErrors data.service produced.effects
    producer := produced.producer }

def unregisterVideo (data : SharedData Client) (video : VideoRequest) : SharedData Client :=
  { data with producer := (data.producer.unregisterVideo video).producer }

def closeFound (data : SharedData Client) (video : VideoRequest) (left : ProxyInfo Client) :
    SharedData Client × StageExit (ServiceStage Client) :=
  let stored := { data with service := data.service.storeProxy video left }
  if left.needUnregistered then
    if left.registered then
      if video.TakesContextLock then (stored, .nest (.unregisterVideo video true))
      else (stored.unregisterVideo video, .nest (.eraseProxy video))
    else (stored, .nest (.eraseProxy video))
  else (stored, .finish)

def describeFound (data : SharedData Client) (client : Client) (video : VideoRequest)
    (proxy : Nat) (found : ProxyInfo Client) :
    SharedData Client × StageExit (ServiceStage Client) :=
  let service := data.service.writeProxy proxy (fun info => info.described client)
  if found.sourceSdp = "" ∧ found.waitingSdpClients = ∅ then
    let waiting :=
      { data with service := { service with pendingSdp := proxy :: service.pendingSdp } }
    if video.TakesContextLock then (waiting, .nest (.registerVideo video (some proxy)))
    else (waiting.registerVideo video (some proxy), .finish)
  else if found.sourceSdp ≠ "" then
    ({ data with service := service.reply client (.describe 200 found.sourceSdp) }, .finish)
  else ({ data with service := service }, .finish)

/-- The callback of an invite on the context it has locked.  The strong pointer it
holds meanwhile is not the last one, because no context is erased under the shared
lock. -/
def acceptInvite (data : SharedData Client) (invite : Invite) (completion : Completion)
    (locked : SharedHeap (RtpVideoContext (Option Nat)))
    (context : RtpVideoContext (Option Nat)) :
    SharedData Client × StageExit (ServiceStage Client) :=
  let accepted := context.accept data.producer.config completion
  let changed :=
    { data with
      producer := data.producer.unlock (locked.update invite.context accepted.1) invite.context }
  match accepted.2, context.registration.target with
  | none, _ =>
      ({ changed with
         service := callErrors changed.service
           [context.registration.invoke (.processError .invalidArgument)] }, .finish)
  | some gb, none => (changed, .nest (.registerPeer gb.peerInfo invite.context))
  | some gb, some proxy => (changed, .nest (.processSdp proxy invite.video gb invite.context))

def body (data : SharedData Client) :
    ServiceStage Client → SharedData Client × StageExit (ServiceStage Client)
  | .accept client => ({ data with connected := insert client data.connected }, .finish)
  | .readcb client request =>
      if client ∈ data.connected then
        match request with
        | .options uri => (data, .nest (.onOptions client uri))
        | .describe uri => (data, .nest (.onDescribe client uri))
        | .play uri npt => (data, .nest (.onPlay client uri npt))
        | .other => (data, .finish)
      else (data, .finish)
  | .onOptions client uri =>
      match data.service.proxies.find? (VideoRequest.parseUrl uri) with
      | none => ({ data with service := (data.service.onOptions client uri).service }, .finish)
      | some found => (data, .nest (.onOptionsClients client found.identity))
  | .onOptionsClients client proxy =>
      let joined := data.service.writeProxy proxy (fun info => info.insertClient client .beforeDescribe)
      ({ data with service := joined.reply client (.options 200) }, .finish)
  | .onDescribe client uri =>
      let video := VideoRequest.parseUrl uri
      match data.service.proxies.find? video with
      | none => (data, .finish)
      | some found => (data, .nest (.onDescribeClients client video found.identity))
  | .onDescribeClients client video proxy =>
      match data.service.proxyAt? proxy with
      | none => (data, .finish)
      | some found => data.describeFound client video proxy found
  | .onPlay client uri npt =>
      -- The search is made without the lock of the map.
      match data.service.proxies.find? (VideoRequest.parseUrl uri) with
      | none => (data, .finish)
      | some found => (data, .nest (.onPlayClients client found.identity npt))
  | .onPlayClients client proxy npt =>
      match data.service.proxyAt? proxy with
      | none => (data, .finish)
      | some found =>
          if client ∈ found.beforePlayClients then
            let playing := data.service.writeProxy proxy (fun info => info.played client)
            ({ data with service := playing.reply client (.play 200 npt) }, .finish)
          else ({ data with service := data.service.reply client (.play 454 none) }, .finish)
  | .errorcb client =>
      -- The destructor of the erased server calls `Close`.
      if client ∈ data.connected then
        ({ data with connected := data.connected.erase client }, .nest (.close client))
      else (data, .finish)
  | .close client =>
      match data.service.closeScan client with
      | none => (data, .finish)
      | some (video, left) => data.closeFound video left
  | .eraseProxy video =>
      ({ data with
         service := { data.service with proxies := data.service.proxies.erase video } }, .finish)
  | .registerVideo video target => (data.registerVideo video target, .finish)
  | .unregisterVideo video closing =>
      (data.unregisterVideo video, if closing then .leave (.eraseProxy video) else .finish)
  | .inviteCallback invite completion =>
      match data.producer.heap.lock invite.context with
      | none => (data, .finish)
      | some (locked, context) => data.acceptInvite invite completion locked context
  | .processSdp proxy video gb context =>
      ({ data with service := data.service.processSdpFunction proxy (gbSdp video gb) },
        .leave (.registerPeer gb.peerInfo context))
  | .registerPeer peer context =>
      ({ data with producer := data.producer.registerPeer peer context }, .finish)
  | .datagram peer packets =>
      match data.producer.registeredPeers.find? peer with
      | none => (data, .finish)
      | some context => (data, .nest (.handlePacket context packets))
  | .handlePacket context packets =>
      match data.producer.heap.get? context, packets with
      | some found, packet :: rest =>
          match found.registration.target with
          | some proxy => (data, .nest (.consumePkt proxy packet rest))
          | none => (data, .finish)
      | _, _ => (data, .finish)
  | .consumePkt proxy packet rest =>
      ({ data with service := data.service.consumePktFunction proxy packet },
        match rest with
        | [] => .finish
        | next :: later => .leave (.consumePkt proxy next later))

/-- A callback of an invite is taken from the completion queue once. -/
def enter (data : SharedData Client) :
    ThreadCall Client → Option (SharedData Client × ServiceStage Client)
  | .accept client => some (data, .accept client)
  | .readcb client request => some (data, .readcb client request)
  | .errorcb client => some (data, .errorcb client)
  | .registerVideo video =>
      if video.TakesContextLock then some (data, .registerVideo video none) else none
  | .unregisterVideo video =>
      if video.TakesContextLock then some (data, .unregisterVideo video false) else none
  | .inviteCallback serial completion =>
      (data.producer.invites.find? serial).map (fun invite =>
        ({ data with producer := data.producer.completeCall serial },
          .inviteCallback invite completion))
  | .datagram peer packets => some (data, .datagram peer packets)

end SharedData

def ServiceStage.lock? : ServiceStage Client → Option (ServiceLock × LockMode)
  | .readcb _ _ => some (.rtspServer, .shared)
  | .accept _ | .errorcb _ => some (.rtspServer, .exclusive)
  | .onOptions _ _ | .onDescribe _ _ | .close _ => some (.proxyInfo, .exclusive)
  | .onOptionsClients _ proxy | .onDescribeClients _ _ proxy | .onPlayClients _ proxy _
  | .processSdp proxy _ _ _ => some (.client proxy, .exclusive)
  | .consumePkt proxy _ _ => some (.client proxy, .shared)
  | .registerVideo _ _ | .unregisterVideo _ _ => some (.rtpContext, .exclusive)
  | .inviteCallback _ _ | .handlePacket _ _ => some (.rtpContext, .shared)
  | .registerPeer _ _ => some (.network, .exclusive)
  | .datagram _ _ => some (.network, .shared)
  | .onPlay _ _ _ | .eraseProxy _ => none

def serviceProgram : LockProgram (SharedData Client) (ThreadCall Client) (ServiceStage Client)
    ServiceLock :=
  { lock? := ServiceStage.lock?
    enter := SharedData.enter
    body := SharedData.body }

abbrev ServiceThreads (Thread Client : Type) : Type :=
  ThreadState Thread (SharedData Client) (ServiceStage Client) ServiceLock

namespace ServiceThreads

variable {Thread : Type} [Fintype Thread] [DecidableEq Thread]

def initial (config : ProducerConfig) : ServiceThreads Thread Client :=
  ThreadState.initial (SharedData.initial config)

def machine : LabelledMachine (ServiceThreads Thread Client)
    (ThreadStep Thread (ThreadCall Client)) Unit :=
  serviceProgram.machine

def after (config : ProducerConfig) (steps : List (ThreadStep Thread (ThreadCall Client))) :
    ServiceThreads Thread Client :=
  machine.run (initial config) steps

end ServiceThreads

end Ffvms.Concrete
