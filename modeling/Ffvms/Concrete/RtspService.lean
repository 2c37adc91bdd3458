/-
The RTSP service: the map from requests to proxies, the request handlers and
the three callbacks that a proxy hands to the producer.

A handler runs under the locks of the service, a callback under the client lock
of its proxy, so each is one step here.  `OnPlay` is the exception: it searches
the map without the lock of the map, and the step takes the search and what
follows as one.  The producer is not part of this module: a handler returns the
calls it makes on the producer, and a callback is a step of its own which names
the proxy object it is bound to.
-/

import Mathlib.Data.Finset.Basic
import Mathlib.Data.Finset.Union
import Ffvms.LabelledRun
import Ffvms.Concrete.VideoRequest

namespace Ffvms.Concrete

/-- The four client sets of a proxy, in the order in which `Close` tests them. -/
inductive Phase where
  | beforeDescribe
  | waitingSdp
  | beforePlay
  | playing
  deriving DecidableEq, Repr

/-- The identity is the address of the heap object.  Addresses of erased
proxies are never handed out again, so a bound pointer names one creation. -/
structure ProxyInfo (Client : Type) where
  identity : Nat
  beforeDescribeClients : Finset Client
  waitingSdpClients : Finset Client
  beforePlayClients : Finset Client
  playingClients : Finset Client
  registered : Bool
  sourceSdp : String

inductive Reply where
  | options (code : Nat)
  | describe (code : Nat) (sdp : String)
  | play (code : Nat) (npt : Option Int)
  | interleaved (bytes : List UInt8)
  deriving DecidableEq, Repr

/-- A call of the service on the producer.  The callbacks of a registration are
bound to one proxy object. -/
inductive ProducerCall where
  | registerVideo (video : VideoRequest) (proxy : Nat)
  | unregisterVideo (video : VideoRequest)
  deriving DecidableEq, Repr

/-- `pendingSdp` lists the bound `processSdpFunc` objects that were handed to
the producer and have not been invoked. -/
structure RtspService (Client : Type) where
  proxies : RequestMap (ProxyInfo Client)
  nextIdentity : Nat
  pendingSdp : List Nat
  sent : Client → List Reply
  closedSockets : Finset Client

/-- A handler returns a number of its own, or passes on what the reply call
returned. -/
inductive HandlerResult where
  | code (value : Int)
  | ofReply
  deriving DecidableEq, Repr

structure Handled (Client : Type) where
  service : RtspService Client
  result : HandlerResult
  calls : List ProducerCall

variable {Client : Type} [DecidableEq Client]

namespace ProxyInfo

def clients (proxy : ProxyInfo Client) : Phase → Finset Client
  | .beforeDescribe => proxy.beforeDescribeClients
  | .waitingSdp => proxy.waitingSdpClients
  | .beforePlay => proxy.beforePlayClients
  | .playing => proxy.playingClients

def create (identity : Nat) : ProxyInfo Client :=
  { identity := identity
    beforeDescribeClients := ∅
    waitingSdpClients := ∅
    beforePlayClients := ∅
    playingClients := ∅
    registered := false
    sourceSdp := "" }

def insertClient (proxy : ProxyInfo Client) (client : Client) : Phase → ProxyInfo Client
  | .beforeDescribe =>
      { proxy with beforeDescribeClients := insert client proxy.beforeDescribeClients }
  | .waitingSdp => { proxy with waitingSdpClients := insert client proxy.waitingSdpClients }
  | .beforePlay => { proxy with beforePlayClients := insert client proxy.beforePlayClients }
  | .playing => { proxy with playingClients := insert client proxy.playingClients }

def eraseClient (proxy : ProxyInfo Client) (client : Client) : Phase → ProxyInfo Client
  | .beforeDescribe =>
      { proxy with beforeDescribeClients := proxy.beforeDescribeClients.erase client }
  | .waitingSdp => { proxy with waitingSdpClients := proxy.waitingSdpClients.erase client }
  | .beforePlay => { proxy with beforePlayClients := proxy.beforePlayClients.erase client }
  | .playing => { proxy with playingClients := proxy.playingClients.erase client }

/-- The `else if` chain of `Close`: the client leaves the first set it is in. -/
def leave (proxy : ProxyInfo Client) (client : Client) : Option (ProxyInfo Client) :=
  if client ∈ proxy.beforeDescribeClients then some (proxy.eraseClient client .beforeDescribe)
  else if client ∈ proxy.waitingSdpClients then some (proxy.eraseClient client .waitingSdp)
  else if client ∈ proxy.beforePlayClients then some (proxy.eraseClient client .beforePlay)
  else if client ∈ proxy.playingClients then some (proxy.eraseClient client .playing)
  else none

/-- The test that `Close` makes after a client has left.  It does not look at
the clients that have not described yet. -/
def needUnregistered (proxy : ProxyInfo Client) : Prop :=
  proxy.waitingSdpClients = ∅ ∧ proxy.beforePlayClients = ∅ ∧ proxy.playingClients = ∅

instance (proxy : ProxyInfo Client) : Decidable proxy.needUnregistered :=
  inferInstanceAs (Decidable (_ ∧ _ ∧ _))

def acceptSdp (proxy : ProxyInfo Client) (sdp : String) : ProxyInfo Client :=
  { proxy with
    registered := true
    beforePlayClients := proxy.beforePlayClients ∪ proxy.waitingSdpClients
    waitingSdpClients := ∅
    sourceSdp := sdp }

end ProxyInfo

/-- The frame that `consumePktFunction` builds in the send buffer: the marker,
the channel, the length in two bytes, the packet. -/
def interleavedFrame (data : List UInt8) : List UInt8 :=
  let payload := data.getD 1 0 &&& 0x7f
  let interleaved : UInt8 := if 72 ≤ payload ∧ payload ≤ 76 then 1 else 0
  [0x24, interleaved, UInt8.ofNat (data.length >>> 8), UInt8.ofNat (data.length &&& 0xff)] ++ data

namespace RtspService

def initial : RtspService Client :=
  { proxies := OrderedMap.empty
    nextIdentity := 0
    pendingSdp := []
    sent := fun _ => []
    closedSockets := ∅ }

def reply (service : RtspService Client) (client : Client) (message : Reply) :
    RtspService Client :=
  { service with
    sent := fun other =>
      if other = client then service.sent other ++ [message] else service.sent other }

/-- Whether a client is in one of the sets of the proxy object, found by the
pointer that a callback is bound to. -/
def boundTo (service : RtspService Client) (proxy : Nat) (phase : Phase) (client : Client) : Bool :=
  service.proxies.entries.any
    (fun entry => decide (entry.2.identity = proxy ∧ client ∈ entry.2.clients phase))

def storeProxy (service : RtspService Client) (video : VideoRequest) (proxy : ProxyInfo Client) :
    RtspService Client :=
  { service with proxies := service.proxies.modify video (fun _ => proxy) }

def onOptions (service : RtspService Client) (client : Client) (uri : String) :
    Handled Client :=
  let video := VideoRequest.parseUrl uri
  match service.proxies.find? video with
  | none =>
      let proxy := (ProxyInfo.create service.nextIdentity).insertClient client .beforeDescribe
      let opened :=
        { service with
          proxies := service.proxies.insert video proxy
          nextIdentity := service.nextIdentity + 1 }
      ⟨opened.reply client (.options 200), .code 0, []⟩
  | some proxy =>
      let joined := service.storeProxy video (proxy.insertClient client .beforeDescribe)
      ⟨joined.reply client (.options 200), .code 0, []⟩

def onDescribe (service : RtspService Client) (client : Client) (uri : String) :
    Handled Client :=
  let video := VideoRequest.parseUrl uri
  match service.proxies.find? video with
  | none => ⟨service, .code (-1), []⟩
  | some found =>
      let proxy := found.eraseClient client .beforeDescribe
      if proxy.sourceSdp = "" ∧ proxy.waitingSdpClients = ∅ then
        let waiting := service.storeProxy video (proxy.insertClient client .waitingSdp)
        ⟨{ waiting with pendingSdp := proxy.identity :: waiting.pendingSdp }, .code 0,
          [.registerVideo video proxy.identity]⟩
      else if proxy.sourceSdp ≠ "" then
        let answered := service.storeProxy video (proxy.insertClient client .beforePlay)
        ⟨answered.reply client (.describe 200 proxy.sourceSdp), .code 0, []⟩
      else ⟨service.storeProxy video proxy, .code 0, []⟩

def onPlay (service : RtspService Client) (client : Client) (uri : String)
    (npt : Option Int) : Handled Client :=
  let video := VideoRequest.parseUrl uri
  match service.proxies.find? video with
  | none => ⟨service, .code (-1), []⟩
  | some proxy =>
      if client ∉ proxy.beforePlayClients then
        ⟨service.reply client (.play 454 none), .ofReply, []⟩
      else
        let playing := service.storeProxy video
          ((proxy.eraseClient client .beforePlay).insertClient client .playing)
        ⟨playing.reply client (.play 200 npt), .ofReply, []⟩

/-- The first proxy, in key order, that the client could be removed from, after
the removal. -/
def closeScan (service : RtspService Client) (client : Client) :
    Option (VideoRequest × ProxyInfo Client) :=
  service.proxies.entries.findSome? (fun entry => (entry.2.leave client).map (entry.1, ·))

def close (service : RtspService Client) (client : Client) : Handled Client :=
  match service.closeScan client with
  | none => ⟨service, .code 0, []⟩
  | some (video, proxy) =>
      if proxy.needUnregistered then
        ⟨{ service with proxies := service.proxies.erase video }, .code 0,
          if proxy.registered then [.unregisterVideo video] else []⟩
      else ⟨service.storeProxy video proxy, .code 0, []⟩

/-! ### Callbacks

A callback whose proxy is no longer in the map dereferences a dangling pointer.
Such a call leaves the modelled state alone; that none happens is a property of
the composed system. -/

def processSdpFunction (service : RtspService Client) (proxy : Nat) (sdp : String) :
    RtspService Client :=
  { service with
    proxies := service.proxies.mapValues
      (fun _ info => if info.identity = proxy then info.acceptSdp sdp else info)
    pendingSdp := service.pendingSdp.erase proxy
    sent := fun client =>
      if service.boundTo proxy .waitingSdp client then
        service.sent client ++ [.describe 200 sdp]
      else service.sent client }

def consumePktFunction (service : RtspService Client) (proxy : Nat) (data : List UInt8) :
    RtspService Client :=
  { service with
    sent := fun client =>
      if service.boundTo proxy .playing client then
        service.sent client ++ [.interleaved (interleavedFrame data)]
      else service.sent client }

/-- Every socket of the proxy is closed.  The library then closes the clients,
which is a step of its own. -/
def processErrorFunction (service : RtspService Client) (proxy : Nat) : RtspService Client :=
  { service with
    closedSockets := service.closedSockets ∪
      (service.proxies.entries.filter (fun entry => entry.2.identity = proxy)).foldr
        (fun entry sockets => entry.2.beforeDescribeClients ∪ entry.2.waitingSdpClients ∪
          entry.2.beforePlayClients ∪ entry.2.playingClients ∪ sockets) ∅ }

/-! ### Steps and runs -/

inductive Step (Client : Type) where
  | options (client : Client) (uri : String)
  | describe (client : Client) (uri : String)
  | play (client : Client) (uri : String) (npt : Option Int)
  | close (client : Client)
  | processSdp (proxy : Nat) (sdp : String)
  | consumePkt (proxy : Nat) (data : List UInt8)
  | processError (proxy : Nat)

def perform (service : RtspService Client) : Step Client → Handled Client
  | .options client uri => service.onOptions client uri
  | .describe client uri => service.onDescribe client uri
  | .play client uri npt => service.onPlay client uri npt
  | .close client => service.close client
  | .processSdp proxy sdp => ⟨service.processSdpFunction proxy sdp, .code 0, []⟩
  | .consumePkt proxy data => ⟨service.consumePktFunction proxy data, .code 0, []⟩
  | .processError proxy => ⟨service.processErrorFunction proxy, .code 0, []⟩

def machine : LabelledMachine (RtspService Client) (Step Client) ProducerCall :=
  { next := fun service step => (service.perform step).service
    emit := fun service step => (service.perform step).calls }

def after (steps : List (Step Client)) : RtspService Client := machine.run initial steps

end RtspService

end Ffvms.Concrete
