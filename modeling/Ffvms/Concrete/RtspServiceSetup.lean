/-
The channels that SETUP agrees on and those that packets are sent on.

`OnSetup` answers with the pair of channels that the client asked for and keeps
nothing of it; `consumePktFunction` writes one frame for all playing clients, on
channel 0 or 1.  Here the service remembers the pair of each session, which the code
does not, so that the frames of a client can be compared with it.
-/

import Ffvms.Concrete.RtspServiceStream

namespace Ffvms.Concrete

variable {Client : Type} [DecidableEq Client]

/-! ### SETUP -/

inductive Transport where
  | rtpTcp
  | other (value : Nat)
  deriving DecidableEq, Repr

structure TransportHeader where
  transport : Transport
  interleaved1 : Int
  interleaved2 : Int
  deriving DecidableEq, Repr

structure SetupReply where
  code : Nat
  session : Option String
  transport : Option String
  deriving DecidableEq, Repr

/-- `OnSetup` with the first of the headers.  `rtsp` is the text of the pointer, which
becomes the name of the session. -/
def onSetup (rtsp : String) (session : Option String) (transports : TransportHeader) :
    SetupReply :=
  if transports.transport = .rtpTcp then
    let transportStr := "RTP/AVP/TCP;interleaved=" ++ toString transports.interleaved1 ++ "-" ++
      toString transports.interleaved2
    match session with
    | none => ⟨200, some rtsp, some transportStr⟩
    | some _ => ⟨461, none, none⟩
  else ⟨461, none, none⟩

def agreedChannels (rtsp : String) (session : Option String) (transports : TransportHeader) :
    Option (Int × Int) :=
  if (onSetup rtsp session transports).code = 200 then
    some (transports.interleaved1, transports.interleaved2)
  else none

theorem onSetup_answered_iff (rtsp : String) (session : Option String)
    (transports : TransportHeader) :
    (onSetup rtsp session transports).code = 200 ↔
      transports.transport = .rtpTcp ∧ session = none := by
  unfold onSetup
  by_cases tcp : transports.transport = .rtpTcp
  · rw [if_pos tcp]
    cases session <;> simp [tcp]
  · rw [if_neg tcp]
    simp [tcp]

theorem onSetup_transport {rtsp : String} {session : Option String}
    {transports : TransportHeader} (answered : (onSetup rtsp session transports).code = 200) :
    (onSetup rtsp session transports).transport =
      some ("RTP/AVP/TCP;interleaved=" ++ toString transports.interleaved1 ++ "-" ++
        toString transports.interleaved2) := by
  obtain ⟨tcp, rfl⟩ := (onSetup_answered_iff rtsp session transports).mp answered
  unfold onSetup
  rw [if_pos tcp]

/-! ### Packets and channels -/

inductive PacketKind where
  | rtp
  | rtcp
  deriving DecidableEq, Repr

def packetType (data : List UInt8) : Nat := (data.getD 1 0).toNat

/-- RTCP uses the types 192 to 223; every other packet is RTP.  So may be a packet with
the marker bit and a payload type from 64 on, which the octet does not tell from RTCP. -/
def packetKind (data : List UInt8) : PacketKind :=
  if 192 ≤ packetType data ∧ packetType data ≤ 223 then .rtcp else .rtp

/-- A frame that was sent to a client for a packet, and the channels of its session. -/
structure Framing where
  packet : List UInt8
  frame : List UInt8
  channels : Int × Int
  deriving DecidableEq, Repr

def PacketKind.channel (channels : Int × Int) : PacketKind → Int
  | .rtp => channels.1
  | .rtcp => channels.2

namespace Framing

def channel (framing : Framing) : Int := (framing.frame.getD 1 0).toNat

/-- `kind` is what the packets were made as. -/
def OnNegotiated (kind : List UInt8 → PacketKind) (framing : Framing) : Prop :=
  framing.channel = (kind framing.packet).channel framing.channels

instance (kind : List UInt8 → PacketKind) (framing : Framing) :
    Decidable (framing.OnNegotiated kind) :=
  inferInstanceAs (Decidable (_ = _))

end Framing

/-- The channels under which the packet is sent as agreed.  A payload type of 72 to 76,
the marker bit left aside, is sent on channel 1 and any other one on channel 0. -/
def SuitableChannels (kind : List UInt8 → PacketKind) (data : List UInt8) (channels : Int × Int) :
    Prop :=
  (kind data).channel channels =
    if 72 ≤ packetType data % 128 ∧ packetType data % 128 ≤ 76 then 1 else 0

instance (kind : List UInt8 → PacketKind) (data : List UInt8) (channels : Int × Int) :
    Decidable (SuitableChannels kind data channels) :=
  inferInstanceAs (Decidable (_ = _))

theorem interleavedChannel_eq (data : List UInt8) :
    interleavedChannel data =
      if 72 ≤ packetType data % 128 ∧ packetType data % 128 ≤ 76 then 1 else 0 := by
  have payload : (data.getD 1 0 &&& 0x7f).toNat = packetType data % 128 := by
    rw [UInt8.toNat_and]
    exact Nat.and_two_pow_sub_one_eq_mod _ 7
  simp only [interleavedChannel, UInt8.le_iff_toNat_le, payload]
  rfl

/-- The channel field of the frame that is built for a packet. -/
theorem onNegotiated_iff (kind : List UInt8 → PacketKind) (data : List UInt8)
    (channels : Int × Int) :
    (Framing.mk data (interleavedFrame data) channels).OnNegotiated kind ↔
      SuitableChannels kind data channels := by
  have channel : (Framing.mk data (interleavedFrame data) channels).channel =
      ((interleavedChannel data).toNat : Int) := rfl
  unfold Framing.OnNegotiated SuitableChannels
  rw [channel, interleavedChannel_eq, eq_comm]
  split_ifs <;> rfl

/-! ### Sessions -/

/-- The service with the pair of channels that each session was answered with. -/
structure SessionService (Client : Type) where
  streaming : StreamingService Client
  negotiated : Client → Option (Int × Int)

inductive SessionStep (Client : Type) where
  | setup (client : Client) (rtsp : String) (session : Option String)
      (transports : TransportHeader)
  | serve (step : RtspService.Step Client)

def SessionStep.served? : SessionStep Client → Option (RtspService.Step Client)
  | .setup _ _ _ _ => none
  | .serve step => some step

namespace SessionService

def initial (sendBuffers : ByteMemory Nat) : SessionService Client :=
  { streaming := StreamingService.initial sendBuffers
    negotiated := fun _ => none }

/-- A session that is set up again is answered with new channels, one that is refused
keeps its own, and one that is closed has none. -/
def perform (state : SessionService Client) : SessionStep Client → SessionService Client
  | .setup client rtsp session transports =>
      { state with
        negotiated := fun other =>
          if other = client then
            (agreedChannels rtsp session transports).or (state.negotiated client)
          else state.negotiated other }
  | .serve step =>
      { streaming := state.streaming.perform step
        negotiated :=
          match step with
          | .close client =>
              fun other => if other = client then none else state.negotiated other
          | _ => state.negotiated }

def framing (state : SessionService Client) (client : Client) (proxy : Nat) (data : List UInt8) :
    List Framing :=
  if state.streaming.service.boundTo proxy .playing client then
    match state.negotiated client with
    | some channels =>
        [⟨data, (fillSendBuffer state.streaming.sendBuffers proxy data).read proxy 0
          (data.length + 4), channels⟩]
    | none => []
  else []

def machine (client : Client) :
    LabelledMachine (SessionService Client) (SessionStep Client) Framing :=
  { next := perform
    emit := fun state step =>
      match step with
      | .serve (.consumePkt proxy data) => state.framing client proxy data
      | _ => [] }

/-- A packet that is consumed while the client plays suits the channels of its session. -/
def Suitable (kind : List UInt8 → PacketKind) (client : Client) (state : SessionService Client) :
    SessionStep Client → Prop
  | .serve (.consumePkt proxy data) =>
      state.streaming.service.boundTo proxy .playing client = true →
        ∀ channels ∈ state.negotiated client, SuitableChannels kind data channels
  | _ => True

theorem emit_onNegotiated_iff (kind : List UInt8 → PacketKind) (client : Client)
    (state : SessionService Client) (step : SessionStep Client) :
    (∀ framing ∈ (machine client).emit state step, framing.OnNegotiated kind) ↔
      Suitable kind client state step := by
  cases step with
  | setup => exact iff_of_true (fun _ member => absurd member List.not_mem_nil) trivial
  | serve inner =>
      cases inner with
      | consumePkt proxy data =>
          simp only [machine, framing, Suitable, StreamingService.read_fillSendBuffer]
          by_cases playing : state.streaming.service.boundTo proxy .playing client = true
          · cases agreed : state.negotiated client with
            | none => simp [playing]
            | some channels => simp [playing, onNegotiated_iff]
          · simp [playing]
      | options | describe | play | close | processSdp | processError =>
          exact iff_of_true (fun _ member => absurd member List.not_mem_nil) trivial

/-- In every run, with any number of clients and whatever the packets are, a client gets
every RTP and RTCP packet on the channels of its session exactly when every packet that is
consumed while it plays suits these channels. -/
theorem channels_negotiated_iff (kind : List UInt8 → PacketKind) (buffers : ByteMemory Nat)
    (steps : List (SessionStep Client)) (client : Client) :
    (∀ framing ∈ (machine client).trace (initial buffers) steps, framing.OnNegotiated kind) ↔
      (machine client).Along (Suitable kind client) (initial buffers) steps := by
  apply (machine client).trace_good_iff_along (fun _ => True) _ _ trivial
  · exact fun _ _ _ _ => trivial
  · exact fun state step _ => emit_onNegotiated_iff kind client state step

/-- One client asks for channels 2 and 3, another for 0 and 1, on the same proxy. -/
theorem channels_two_three_ignored :
    let url := "rtsp://host/gb/1"
    let steps : List (SessionStep Nat) :=
      [.serve (.options 0 url), .serve (.describe 0 url), .serve (.options 1 url),
        .serve (.processSdp 0 "v=0"), .serve (.describe 1 url),
        .setup 0 "0x10" none ⟨.rtpTcp, 2, 3⟩, .setup 1 "0x20" none ⟨.rtpTcp, 0, 1⟩,
        .serve (.play 0 url none), .serve (.play 1 url none),
        .serve (.consumePkt 0 [0x80, 96, 1]), .serve (.consumePkt 0 [0x80, 200, 2])]
    onSetup "0x10" none ⟨.rtpTcp, 2, 3⟩ =
        ⟨200, some "0x10", some "RTP/AVP/TCP;interleaved=2-3"⟩ ∧
      (machine 0).trace (initial (fun _ _ => 0)) steps =
        [⟨[0x80, 96, 1], [0x24, 0, 0, 3, 0x80, 96, 1], (2, 3)⟩,
          ⟨[0x80, 200, 2], [0x24, 1, 0, 3, 0x80, 200, 2], (2, 3)⟩] ∧
      (∀ framing ∈ (machine 0).trace (initial (fun _ _ => 0)) steps,
        ¬framing.OnNegotiated packetKind) ∧
      ∀ framing ∈ (machine 1).trace (initial (fun _ _ => 0)) steps,
        framing.OnNegotiated packetKind := by
  decide

/-! ### The service below -/

theorem streaming_run (client : Client) (state : SessionService Client)
    (steps : List (SessionStep Client)) :
    ((machine client).run state steps).streaming =
      (StreamingService.machine client).run state.streaming
        (steps.filterMap SessionStep.served?) := by
  induction steps generalizing state with
  | nil => rfl
  | cons step rest ih =>
      rw [LabelledMachine.run_cons, ih]
      cases step with
      | setup => rfl
      | serve inner =>
          rw [List.filterMap_cons_some (by rfl), LabelledMachine.run_cons]
          rfl

/-- The frames are among those that were sent to the client, in order. -/
def Sent (client : Client) (state : SessionService Client) (framings : List Framing) : Prop :=
  (framings.map Framing.frame).Sublist
    ((state.streaming.service.sent client).filterMap Reply.interleaved?)

theorem framing_sublist (client : Client) (state : SessionService Client) (proxy : Nat)
    (data : List UInt8) :
    ((state.framing client proxy data).map Framing.frame).Sublist
      ((state.streaming.service.replies client (.consumePkt proxy data)).filterMap
        Reply.interleaved?) := by
  rw [StreamingService.interleaved_replies _ _ _ state.streaming.sendBuffers]
  simp only [framing, StreamingService.machine, StreamingService.read_fillSendBuffer]
  split_ifs
  · split
    · exact List.Sublist.refl _
    · exact List.nil_sublist _
  · exact List.nil_sublist _

theorem sent_step {client : Client} {state : SessionService Client} {framings : List Framing}
    (step : SessionStep Client) (sent : Sent client state framings) :
    Sent client ((machine client).next state step)
      (framings ++ (machine client).emit state step) := by
  unfold Sent at *
  rw [List.map_append]
  cases step with
  | setup => exact (List.append_nil _).symm ▸ sent
  | serve inner =>
      have next : ((machine client).next state (.serve inner)).streaming.service =
          RtspService.machine.next state.streaming.service inner :=
        StreamingService.service_perform state.streaming inner
      rw [next, RtspService.sent_next, List.filterMap_append]
      apply sent.append
      cases inner with
      | consumePkt proxy data => exact framing_sublist client state proxy data
      | options | describe | play | close | processSdp | processError =>
          exact List.nil_sublist _

theorem framings_sent (client : Client) (buffers : ByteMemory Nat)
    (steps : List (SessionStep Client)) :
    Sent client ((machine client).run (initial buffers) steps)
      ((machine client).trace (initial buffers) steps) := by
  have start : Sent client (initial buffers) [] := List.nil_sublist _
  have kept : Sent client ((machine client).run (initial buffers) steps)
      ([] ++ (machine client).trace (initial buffers) steps) :=
    (machine client).trace_invariant (Sent client) (fun _ _ step => sent_step step) start steps
  exact kept

end SessionService

end Ffvms.Concrete
