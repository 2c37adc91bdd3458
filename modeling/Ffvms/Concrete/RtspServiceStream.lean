/-
What a playing client receives.

`consumePktFunction` builds each frame in the send buffer of the proxy, which is
used again for the next packet, and hands the buffer to every playing client.
The model below has the buffers; its runs are those of the service.  The main
result says that a client receives the packets consumed while it was playing,
after its PLAY was answered, in frames that decode to these packets.
-/

import Ffvms.ByteMemory
import Ffvms.InterleavedFraming
import Ffvms.Concrete.RtspServiceCleanup

namespace Ffvms.Concrete

variable {Client : Type} [DecidableEq Client]

def interleavedChannel (data : List UInt8) : UInt8 :=
  let payload := data.getD 1 0 &&& 0x7f
  if 72 ≤ payload ∧ payload ≤ 76 then 1 else 0

theorem interleavedFrame_eq_encode (data : List UInt8) :
    interleavedFrame data = (InterleavedFrame.mk (interleavedChannel data) data).encode := rfl

def sendBufferSize : Nat := 1600

def fillSendBuffer (buffers : ByteMemory Nat) (proxy : Nat) (data : List UInt8) :
    ByteMemory Nat :=
  ((((buffers.write proxy 0 [0x24]).write proxy 1 [interleavedChannel data]).write proxy 2
    [UInt8.ofNat (data.length >>> 8)]).write proxy 3 [UInt8.ofNat (data.length &&& 0xff)]).write
      proxy 4 data

def Reply.interleaved? : Reply → Option (List UInt8)
  | .interleaved bytes => some bytes
  | .options _ | .describe _ _ | .play _ _ => none

structure StreamingService (Client : Type) where
  service : RtspService Client
  sendBuffers : ByteMemory Nat

namespace StreamingService

def initial (sendBuffers : ByteMemory Nat) : StreamingService Client :=
  { service := RtspService.initial
    sendBuffers := sendBuffers }

/-- The frame is written, then `len + 4` bytes of the buffer are sent to each
playing client. -/
def consumePktFunction (state : StreamingService Client) (proxy : Nat) (data : List UInt8) :
    StreamingService Client :=
  let buffers := fillSendBuffer state.sendBuffers proxy data
  { service :=
      { state.service with
        sent := fun client =>
          if state.service.boundTo proxy .playing client then
            state.service.sent client ++ [.interleaved (buffers.read proxy 0 (data.length + 4))]
          else state.service.sent client }
    sendBuffers := buffers }

def perform (state : StreamingService Client) : RtspService.Step Client → StreamingService Client
  | .consumePkt proxy data => state.consumePktFunction proxy data
  | step => { state with service := RtspService.machine.next state.service step }

/-- The output of a step are the packets that are consumed in it while `client` is
in the playing set. -/
def machine (client : Client) :
    LabelledMachine (StreamingService Client) (RtspService.Step Client) (List UInt8) :=
  { next := perform
    emit := fun state step =>
      match step with
      | .consumePkt proxy data =>
          if state.service.boundTo proxy .playing client then [data] else []
      | _ => [] }

/-! ### The send buffer -/

theorem fillSendBuffer_eq (buffers : ByteMemory Nat) (proxy : Nat) (data : List UInt8) :
    fillSendBuffer buffers proxy data = buffers.write proxy 0 (interleavedFrame data) := by
  have parts : interleavedFrame data = [(0x24 : UInt8)] ++ [interleavedChannel data] ++
      [UInt8.ofNat (data.length >>> 8)] ++ [UInt8.ofNat (data.length &&& 0xff)] ++ data := rfl
  rw [parts, ← ByteMemory.write_append, ← ByteMemory.write_append, ← ByteMemory.write_append,
    ← ByteMemory.write_append]
  rfl

theorem read_fillSendBuffer (buffers : ByteMemory Nat) (proxy : Nat) (data : List UInt8) :
    (fillSendBuffer buffers proxy data).read proxy 0 (data.length + 4) = interleavedFrame data := by
  have size : data.length + 4 = (interleavedFrame data).length := by
    change data.length + 4 = (_ :: _ :: _ :: _ :: data).length
    rw [List.length_cons, List.length_cons, List.length_cons, List.length_cons]
  rw [fillSendBuffer_eq, size, ByteMemory.read_write_self]

/-- A packet of at most 1596 bytes does not write past the end of the buffer. -/
theorem fillSendBuffer_within (buffers : ByteMemory Nat) (proxy : Nat) {data : List UInt8}
    (short : data.length ≤ 1596) (other : Nat) {offset : Nat} (outside : sendBufferSize ≤ offset) :
    fillSendBuffer buffers proxy data other offset = buffers other offset := by
  have size : (interleavedFrame data).length = data.length + 4 := by
    change (_ :: _ :: _ :: _ :: data).length = data.length + 4
    rw [List.length_cons, List.length_cons, List.length_cons, List.length_cons]
  rw [fillSendBuffer_eq]
  unfold ByteMemory.write sendBufferSize at *
  rw [size, if_neg (by omega)]

/-! ### The service below -/

theorem service_perform (state : StreamingService Client) (step : RtspService.Step Client) :
    (state.perform step).service = RtspService.machine.next state.service step := by
  cases step with
  | consumePkt proxy data =>
      change (state.consumePktFunction proxy data).service =
        state.service.consumePktFunction proxy data
      simp only [consumePktFunction, RtspService.consumePktFunction, read_fillSendBuffer]
  | options | describe | play | close | processSdp | processError => rfl

/-- The runs with buffers are the runs of the service. -/
theorem service_run (client : Client) (state : StreamingService Client)
    (steps : List (RtspService.Step Client)) :
    ((machine client).run state steps).service = RtspService.machine.run state.service steps := by
  induction steps generalizing state with
  | nil => rfl
  | cons step rest ih =>
      rw [LabelledMachine.run_cons, LabelledMachine.run_cons, ih]
      exact congrArg (fun service => RtspService.machine.run service rest)
        (service_perform state step)

/-! ### What is sent -/

def Answered (replies : List Reply) : Prop := ∃ npt, .play 200 npt ∈ replies

def AfterPlay (front : List Reply) (reply : Reply) : Prop :=
  reply.interleaved? ≠ none → Answered front

theorem interleaved_replies (service : RtspService Client) (client : Client)
    (step : RtspService.Step Client) (buffers : ByteMemory Nat) :
    (service.replies client step).filterMap Reply.interleaved? =
      ((machine client).emit ⟨service, buffers⟩ step).map interleavedFrame := by
  cases step with
  | consumePkt proxy data =>
      simp only [RtspService.replies, machine]
      split_ifs <;> rfl
  | options sender uri =>
      simp only [RtspService.replies, machine]
      split_ifs <;> rfl
  | processSdp proxy sdp =>
      simp only [RtspService.replies, machine]
      split_ifs <;> rfl
  | describe sender uri =>
      simp only [RtspService.replies, machine]
      split
      · rfl
      · split_ifs <;> rfl
  | play sender uri npt =>
      simp only [RtspService.replies, machine]
      split
      · rfl
      · split_ifs <;> rfl
  | close | processError => rfl

/-- A client that enters the playing set is answered 200 in the same step. -/
theorem playing_former {service : RtspService Client} {step : RtspService.Step Client}
    {client : Client} {video : VideoRequest}
    (placed : (RtspService.machine.next service step).Placed client video .playing) :
    service.Placed client video .playing ∨ Answered (service.replies client step) := by
  cases step with
  | options sender uri =>
      rcases RtspService.placed_options.mp placed with older | ⟨_, _, other⟩
      · exact Or.inl older
      · cases other
  | describe sender uri =>
      rcases RtspService.placed_describe.mp placed with ⟨older, _⟩ | ⟨_, _, proxy, _, target, _⟩
      · exact Or.inl older
      · unfold ProxyInfo.describeTarget at target
        split_ifs at target
  | play sender uri npt =>
      rcases RtspService.placed_play.mp placed with ⟨older, _⟩ | ⟨rfl, key, _, proxy, located, ready⟩
      · exact Or.inl older
      · have found : service.proxies.find? (VideoRequest.parseUrl uri) = some proxy :=
          (OrderedMap.find?_congr _ key).symm.trans located
        have member : client ∈ proxy.beforePlayClients := ready
        refine Or.inr ⟨npt, ?_⟩
        simp [RtspService.replies, found, member]
  | close sender => exact Or.inl (RtspService.placed_of_close placed)
  | processSdp identity sdp =>
      obtain ⟨proxy, former, located, member, moved⟩ := RtspService.placed_processSdp placed
      split_ifs at moved
      rw [← moved] at member
      exact Or.inl ⟨proxy, located, member⟩
  | consumePkt | processError => exact Or.inl placed

theorem afterPlay_replies {service : RtspService Client} {client : Client}
    (step : RtspService.Step Client)
    (playing : ∀ video, service.Placed client video .playing → Answered (service.sent client)) :
    EachAfter (fun front reply => AfterPlay (service.sent client ++ front) reply)
      (service.replies client step) := by
  apply EachAfter.of_forall
  intro reply member front data
  have answered : Answered (service.sent client) := by
    cases step with
    | consumePkt proxy bytes =>
        simp only [RtspService.replies] at member
        split_ifs at member with bound
        · obtain ⟨video, info, located, _own, inside⟩ := RtspService.boundTo_iff.mp bound
          exact playing video ⟨info, located, inside⟩
        · cases member
    | options | describe | play | close | processSdp | processError =>
        -- No other step sends interleaved data.
        have none := List.filterMap_eq_nil_iff.mp
          (interleaved_replies service client _ (fun _ _ => 0)) reply member
        exact absurd none data
  obtain ⟨npt, inside⟩ := answered
  exact ⟨npt, List.mem_append_left front inside⟩

structure Streamed (client : Client) (state : StreamingService Client)
    (packets : List (List UInt8)) : Prop where
  frames : (state.service.sent client).filterMap Reply.interleaved? = packets.map interleavedFrame
  playing : ∀ video, state.service.Placed client video .playing →
    Answered (state.service.sent client)
  ordered : EachAfter AfterPlay (state.service.sent client)

omit [DecidableEq Client] in
theorem streamed_initial (client : Client) (buffers : ByteMemory Nat) :
    Streamed client (initial buffers) [] :=
  { frames := rfl
    playing := by
      intro video placed
      obtain ⟨proxy, located, _⟩ := placed
      cases located
    ordered := EachAfter.nil }

theorem streamed_step {client : Client} {state : StreamingService Client}
    {packets : List (List UInt8)} (step : RtspService.Step Client)
    (streamed : Streamed client state packets) :
    Streamed client ((machine client).next state step)
      (packets ++ (machine client).emit state step) := by
  have next : ((machine client).next state step).service =
      RtspService.machine.next state.service step := service_perform state step
  have sent := RtspService.sent_next state.service step client
  refine
    { frames := ?_
      playing := ?_
      ordered := ?_ }
  · rw [next, sent, List.filterMap_append, List.map_append, streamed.frames,
      interleaved_replies state.service client step state.sendBuffers]
  · intro video placed
    rw [next] at placed
    rw [next, sent]
    rcases playing_former placed with older | ⟨npt, now⟩
    · obtain ⟨npt, member⟩ := streamed.playing video older
      exact ⟨npt, List.mem_append_left _ member⟩
    · exact ⟨npt, List.mem_append_right _ now⟩
  · rw [next, sent]
    exact streamed.ordered.append (afterPlay_replies step streamed.playing)

theorem mem_steps_of_mem_trace {client : Client} {state : StreamingService Client}
    {steps : List (RtspService.Step Client)} {data : List UInt8}
    (consumed : data ∈ (machine client).trace state steps) :
    ∃ proxy, .consumePkt proxy data ∈ steps := by
  obtain ⟨before, step, later, rfl, emitted⟩ := LabelledMachine.mem_trace_iff.mp consumed
  cases step with
  | consumePkt proxy bytes =>
      simp only [machine] at emitted
      split_ifs at emitted
      · cases List.mem_singleton.mp emitted
        exact ⟨proxy, List.mem_append_right before List.mem_cons_self⟩
      · cases emitted
  | options | describe | play | close | processSdp | processError => cases emitted

theorem sendBuffers_within (client : Client) (state : StreamingService Client)
    {steps : List (RtspService.Step Client)}
    (short : ∀ proxy data, .consumePkt proxy data ∈ steps → data.length ≤ 1596) (proxy : Nat)
    {offset : Nat} (outside : sendBufferSize ≤ offset) :
    ((machine client).run state steps).sendBuffers proxy offset =
      state.sendBuffers proxy offset := by
  induction steps generalizing state with
  | nil => rfl
  | cons step rest ih =>
      rw [LabelledMachine.run_cons, ih _ (fun other data member =>
        short other data (List.mem_cons_of_mem step member))]
      cases step with
      | consumePkt other data =>
          exact fillSendBuffer_within state.sendBuffers other
            (short other data List.mem_cons_self) proxy outside
      | options | describe | play | close | processSdp | processError => rfl

/-- In every run with packets of 2 to 1596 bytes, the interleaved data of a client
are the frames of the packets consumed while it was playing, in order and once
each, after its PLAY was answered 200; they decode to these packets on their
channels; and no send buffer is overrun. -/
theorem playing_client_receives_stream (buffers : ByteMemory Nat)
    (steps : List (RtspService.Step Client))
    (sized : ∀ proxy data, .consumePkt proxy data ∈ steps → 2 ≤ data.length ∧ data.length ≤ 1596)
    (client : Client) :
    let state := (machine client).run (initial buffers) steps
    let packets := (machine client).trace (initial buffers) steps
    let bytes := (state.service.sent client).filterMap Reply.interleaved?
    bytes = packets.map interleavedFrame ∧
      EachAfter AfterPlay (state.service.sent client) ∧
      InterleavedFrame.decode bytes.flatten =
        some (packets.map (fun data => ⟨interleavedChannel data, data⟩)) ∧
      ∀ proxy offset, sendBufferSize ≤ offset →
        state.sendBuffers proxy offset = buffers proxy offset := by
  intro state packets bytes
  have streamed : Streamed client state ([] ++ packets) :=
    (machine client).trace_invariant (Streamed client) (fun _ _ step => streamed_step step)
      (streamed_initial client buffers) steps
  rw [List.nil_append] at streamed
  refine ⟨streamed.frames, streamed.ordered, ?_, ?_⟩
  · have frames : bytes.flatten =
        (packets.map (fun data => InterleavedFrame.mk (interleavedChannel data) data)).flatMap
          InterleavedFrame.encode := by
      rw [show bytes = packets.map interleavedFrame from streamed.frames, List.flatMap_map,
        List.flatMap_def]
      exact congrArg List.flatten
        (List.map_congr_left (fun data _ => interleavedFrame_eq_encode data))
    rw [frames]
    apply InterleavedFrame.decode_flatMap_encode
    intro frame member
    obtain ⟨data, consumed, rfl⟩ := List.mem_map.mp member
    obtain ⟨proxy, inSteps⟩ := mem_steps_of_mem_trace consumed
    have short := (sized proxy data inSteps).2
    change data.length < 2 ^ 16
    omega
  · intro proxy offset outside
    exact sendBuffers_within client (initial buffers)
      (fun other data member => (sized other data member).2) proxy outside

/-- An RTP and an RTCP packet arrive while the client plays. -/
theorem playing_client_receives_two_packets :
    let steps : List (RtspService.Step Nat) :=
      [.options 0 "rtsp://host/gb/1", .describe 0 "rtsp://host/gb/1", .processSdp 0 "v=0",
        .consumePkt 0 [0x80, 96], .play 0 "rtsp://host/gb/1" none,
        .consumePkt 0 [0x80, 96, 1], .consumePkt 0 [0x80, 200, 2]]
    let state := (machine 0).run (initial (fun _ _ => 0)) steps
    (machine 0).trace (initial (fun _ _ => 0)) steps = [[0x80, 96, 1], [0x80, 200, 2]] ∧
      (state.service.sent 0).filterMap Reply.interleaved? =
        [[0x24, 0, 0, 3, 0x80, 96, 1], [0x24, 1, 0, 3, 0x80, 200, 2]] := by
  intro steps state
  have sized : ∀ proxy data, .consumePkt proxy data ∈ steps →
      2 ≤ data.length ∧ data.length ≤ 1596 := by
    intro proxy data member
    simp only [steps, List.mem_cons, List.not_mem_nil, reduceCtorEq, false_or, or_false,
      RtspService.Step.consumePkt.injEq] at member
    rcases member with ⟨_, rfl⟩ | ⟨_, rfl⟩ | ⟨_, rfl⟩ <;> decide
  have packets : (machine 0).trace (initial (fun _ _ => 0)) steps =
      [[0x80, 96, 1], [0x80, 200, 2]] := by decide
  obtain ⟨frames, _⟩ := playing_client_receives_stream (fun _ _ => 0) steps sized 0
  refine ⟨packets, frames.trans ?_⟩
  rw [packets]
  decide

end StreamingService

end Ffvms.Concrete
