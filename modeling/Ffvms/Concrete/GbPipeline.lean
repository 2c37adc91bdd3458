/-
The buffers on the way of a GB28181 frame to the clients.

The demuxer hands a frame to `RtpOnPacket`, which puts a start code before it for
H264; the payload encoder cuts it into packets, each in the one packet buffer of the
context; the consumer of the registration puts an interleaved header before the packet
in the send buffer of the proxy.  No function looks at the size of the buffer it writes
to.  The result says for which frames and packets every store stays in its buffer.
-/

import Ffvms.Concrete.RtpProducer
import Ffvms.Concrete.RtspServiceStream

namespace Ffvms.Concrete

variable {Target : Type}

inductive PipelineBuffer where
  | payloadBuf
  | packet
  | sendBuffer
  deriving DecidableEq, Repr

/-- A packet of the payload encoder, which is no larger than what was asked for. -/
structure EncodedPacket where
  requested : Nat
  data : List UInt8
  fits : data.length ≤ requested

/-- What `rtp_payload_encode_input` does with its input, and what it returns. -/
structure Encoding where
  packets : List EncodedPacket
  ret : Int

/-- A frame of the demuxer, with the state of the encoder that it meets. -/
structure DemuxedFrame where
  frame : List UInt8
  encode : List UInt8 → Encoding

/-- A context that was invited, its counters and the buffers.  `aborted` is set when a
fatal check ends the process. -/
structure GbPipeline (Target : Type) where
  context : RtpVideoContext Target
  memory : ByteMemory PipelineBuffer
  remuxed : Nat
  produced : Nat
  aborted : Bool

/-- The sizes of the allocations.  A buffer that was not allocated has no room. -/
def RtpVideoContext.bufferSize (context : RtpVideoContext Target) : PipelineBuffer → Int
  | .payloadBuf => context.payloadBuf.getD 0
  | .packet => (context.packet.getD 0 : Nat)
  | .sendBuffer => sendBufferSize

namespace GbPipeline

def alloc (bytes : Nat) : Option PipelineBuffer :=
  if bytes > 1600 then none else some .packet

def free (buffer : PipelineBuffer) : Bool := buffer = .packet

def sendStores (data : List UInt8) : List (ByteMemory.Store PipelineBuffer) :=
  [⟨.sendBuffer, 0, [0x24]⟩, ⟨.sendBuffer, 1, [interleavedChannel data]⟩,
    ⟨.sendBuffer, 2, [UInt8.ofNat (data.length >>> 8)]⟩,
    ⟨.sendBuffer, 3, [UInt8.ofNat (data.length &&& 0xff)]⟩, ⟨.sendBuffer, 4, data⟩]

def packetStores (packet : EncodedPacket) : List (ByteMemory.Store PipelineBuffer) :=
  match alloc packet.requested with
  | none => []
  | some buffer => ⟨buffer, 0, packet.data⟩ :: sendStores packet.data

/-- The functions of `RtpPayloadFunc` in the order in which the encoder calls them for
one packet: `alloc`, `packet`, and `free` with the buffer that `alloc` gave. -/
def emitPacket (pipeline : GbPipeline Target) (packet : EncodedPacket) : GbPipeline Target :=
  match alloc packet.requested with
  | none => { pipeline with aborted := true }
  | some buffer =>
      { pipeline with
        memory := pipeline.memory.storeAll (packetStores packet)
        produced := pipeline.produced + packet.data.length
        aborted := !free buffer }

def payloadFunc :
    LabelledMachine (GbPipeline Target) EncodedPacket (ByteMemory.Store PipelineBuffer) :=
  { next := fun pipeline packet =>
      if pipeline.aborted then pipeline else pipeline.emitPacket packet
    emit := fun pipeline packet => if pipeline.aborted then [] else packetStores packet }

def frameStores (context : RtpVideoContext Target) (frame : List UInt8) :
    List (ByteMemory.Store PipelineBuffer) :=
  match context.payloadBuf with
  | some _ =>
      [⟨.payloadBuf, 0, [0]⟩, ⟨.payloadBuf, 1, [0]⟩, ⟨.payloadBuf, 2, [1]⟩,
        ⟨.payloadBuf, 3, frame⟩]
  | none => []

def payloadInput (pipeline : GbPipeline Target) (frame : List UInt8) : List UInt8 :=
  match pipeline.context.payloadBuf with
  | some _ => pipeline.memory.read .payloadBuf 0 (frame.length + 3)
  | none => frame

def prepare (pipeline : GbPipeline Target) (frame : List UInt8) : GbPipeline Target :=
  { pipeline with
    remuxed := pipeline.remuxed + frame.length
    memory := pipeline.memory.storeAll (frameStores pipeline.context frame) }

def encoding (pipeline : GbPipeline Target) (demuxed : DemuxedFrame) : Encoding :=
  demuxed.encode ((pipeline.prepare demuxed.frame).payloadInput demuxed.frame)

def rtpOnPacket (pipeline : GbPipeline Target) (demuxed : DemuxedFrame) :
    GbPipeline Target × Int :=
  (payloadFunc.run (pipeline.prepare demuxed.frame) (pipeline.encoding demuxed).packets,
    (pipeline.encoding demuxed).ret)

def machine : LabelledMachine (GbPipeline Target) DemuxedFrame (ByteMemory.Store PipelineBuffer) :=
  { next := fun pipeline demuxed =>
      if pipeline.aborted then pipeline else (pipeline.rtpOnPacket demuxed).1
    emit := fun pipeline demuxed =>
      if pipeline.aborted then []
      else
        frameStores pipeline.context demuxed.frame ++
          payloadFunc.trace (pipeline.prepare demuxed.frame) (pipeline.encoding demuxed).packets }

def start (context : RtpVideoContext Target) (memory : ByteMemory PipelineBuffer) :
    GbPipeline Target :=
  { context := context
    memory := memory
    remuxed := 0
    produced := 0
    aborted := false }

def acceptedPackets (packets : List EncodedPacket) : List EncodedPacket :=
  packets.takeWhile (fun packet => packet.requested ≤ 1600)

def marked (gb : GbInviteVideoResponse) (frame : List UInt8) : List UInt8 :=
  if gb.encoding = "H264" then [0, 0, 1] ++ frame else frame

/-- The frame and its packets are small enough. -/
def FitsBuffers (config : ProducerConfig) (gb : GbInviteVideoResponse)
    (pipeline : GbPipeline Target) (demuxed : DemuxedFrame) : Prop :=
  pipeline.aborted = false →
    (gb.encoding = "H264" →
      (demuxed.frame.length : Int) + 3 ≤ config.maxBandwidthInMb * 1024 * 1024) ∧
    ∀ packet ∈ acceptedPackets (demuxed.encode (marked gb demuxed.frame)).packets,
      packet.data.length ≤ 1596

instance (config : ProducerConfig) (gb : GbInviteVideoResponse) (pipeline : GbPipeline Target)
    (demuxed : DemuxedFrame) : Decidable (FitsBuffers config gb pipeline demuxed) :=
  inferInstanceAs (Decidable (_ → _))

structure Allocated (config : ProducerConfig) (gb : GbInviteVideoResponse)
    (context : RtpVideoContext Target) : Prop where
  packet : context.packet = some 1600
  payloadBuf : context.payloadBuf =
    if gb.encoding = "H264" then some (config.maxBandwidthInMb * 1024 * 1024) else none

theorem allocated_of_accept {config : ProducerConfig} {video : VideoRequest}
    {registration : Registration Target} {completion : Completion} {gb : GbInviteVideoResponse}
    (accepted :
      ((RtpVideoContext.create video registration).accept config completion).2 = some gb) :
    Allocated config gb
      ((RtpVideoContext.create video registration).accept config completion).1 := by
  cases completion with
  | failed => cases accepted
  | answered response creation =>
      unfold RtpVideoContext.accept at accepted ⊢
      dsimp only at accepted ⊢
      split at accepted
      · cases accepted
      · by_cases noDemuxer : creation.demuxer = false
        · rw [if_pos noDemuxer] at accepted
          cases accepted
        · rw [if_neg noDemuxer] at accepted ⊢
          by_cases noEncoder : creation.payloadEncoder = false
          · rw [if_pos noEncoder] at accepted
            cases accepted
          · rw [if_neg noEncoder] at accepted ⊢
            cases accepted
            exact ⟨rfl, rfl⟩

/-! ### The stores of a packet -/

theorem sendStores_within_iff (context : RtpVideoContext Target) (data : List UInt8) :
    (∀ store ∈ sendStores data, store.Within context.bufferSize) ↔ data.length ≤ 1596 := by
  simp only [sendStores, List.forall_mem_cons, List.not_mem_nil, false_implies, implies_true,
    and_true, ByteMemory.Store.Within, RtpVideoContext.bufferSize, sendBufferSize,
    List.length_singleton]
  omega

theorem packetStores_within_iff {context : RtpVideoContext Target}
    (room : context.packet = some 1600) {packet : EncodedPacket} (small : packet.requested ≤ 1600) :
    (∀ store ∈ packetStores packet, store.Within context.bufferSize) ↔
      packet.data.length ≤ 1596 := by
  have filled : ByteMemory.Store.Within context.bufferSize ⟨.packet, 0, packet.data⟩ := by
    have fits := packet.fits
    simp only [ByteMemory.Store.Within, RtpVideoContext.bufferSize, room, Option.getD_some]
    omega
  rw [packetStores, alloc, if_neg (Nat.not_lt.mpr small), List.forall_mem_cons,
    sendStores_within_iff]
  exact and_iff_right filled

theorem payloadFunc_aborted {pipeline : GbPipeline Target} (aborted : pipeline.aborted = true)
    (packets : List EncodedPacket) : payloadFunc.trace pipeline packets = [] := by
  induction packets with
  | nil => rfl
  | cons packet rest ih =>
      rw [LabelledMachine.trace_cons]
      simp only [payloadFunc, aborted, if_true, List.nil_append]
      exact ih

/-- The packets of a frame stay in their buffers exactly when those that are accepted
leave room for the interleaved header. -/
theorem payloadFunc_within_iff {pipeline : GbPipeline Target} {context : RtpVideoContext Target}
    (room : context.packet = some 1600) (running : pipeline.aborted = false)
    (packets : List EncodedPacket) :
    (∀ store ∈ payloadFunc.trace pipeline packets, store.Within context.bufferSize) ↔
      ∀ packet ∈ acceptedPackets packets, packet.data.length ≤ 1596 := by
  induction packets generalizing pipeline with
  | nil => exact iff_of_true (fun _ member => nomatch member) (fun _ member => nomatch member)
  | cons packet rest ih =>
      rw [LabelledMachine.trace_cons, List.forall_mem_append, acceptedPackets]
      by_cases small : packet.requested ≤ 1600
      · have emitted : payloadFunc.emit pipeline packet = packetStores packet := by
          simp only [payloadFunc, running, Bool.false_eq_true, if_false]
        have next : (payloadFunc.next pipeline packet).aborted = false := by
          simp only [payloadFunc, running, Bool.false_eq_true, if_false, emitPacket, alloc,
            Nat.not_lt.mpr small]
          rfl
        rw [List.takeWhile_cons_of_pos (by simpa using small), List.forall_mem_cons, emitted,
          packetStores_within_iff room small, ih next, acceptedPackets]
      · -- The fatal check ends the process before anything is written.
        have large : packet.requested > 1600 := by omega
        have emitted : payloadFunc.emit pipeline packet = [] := by
          simp only [payloadFunc, running, Bool.false_eq_true, if_false, packetStores, alloc,
            large, if_true]
        have next : (payloadFunc.next pipeline packet).aborted = true := by
          simp only [payloadFunc, running, Bool.false_eq_true, if_false, emitPacket, alloc,
            large, if_true]
        rw [List.takeWhile_cons_of_neg (by simpa using small), emitted, payloadFunc_aborted next]
        simp only [List.not_mem_nil, false_implies, implies_true, and_self]

/-! ### The stores of a frame -/

theorem context_payloadFunc (pipeline : GbPipeline Target) (packets : List EncodedPacket) :
    (payloadFunc.run pipeline packets).context = pipeline.context := by
  apply payloadFunc.run_invariant (fun reached => reached.context = pipeline.context) _ rfl
  intro state packet same
  simp only [payloadFunc, emitPacket]
  split_ifs
  · exact same
  · split <;> exact same

theorem context_next (pipeline : GbPipeline Target) (demuxed : DemuxedFrame) :
    (machine.next pipeline demuxed).context = pipeline.context := by
  simp only [machine, rtpOnPacket]
  split_ifs
  · rfl
  · exact context_payloadFunc _ _

theorem frameStores_within_iff {config : ProducerConfig} {gb : GbInviteVideoResponse}
    {context : RtpVideoContext Target} (positive : 0 < config.maxBandwidthInMb)
    (allocated : Allocated config gb context) (frame : List UInt8) :
    (∀ store ∈ frameStores context frame, store.Within context.bufferSize) ↔
      (gb.encoding = "H264" →
        (frame.length : Int) + 3 ≤ config.maxBandwidthInMb * 1024 * 1024) := by
  have size := allocated.payloadBuf
  by_cases coded : gb.encoding = "H264"
  · rw [if_pos coded] at size
    simp only [frameStores, size, List.forall_mem_cons, List.not_mem_nil, false_implies,
      implies_true, and_true, ByteMemory.Store.Within, RtpVideoContext.bufferSize,
      Option.getD_some, List.length_singleton, coded, forall_const]
    omega
  · rw [if_neg coded] at size
    simp only [frameStores, size, List.not_mem_nil, coded, false_implies, implies_true]

theorem payloadInput_prepare {config : ProducerConfig} {gb : GbInviteVideoResponse}
    {pipeline : GbPipeline Target} (allocated : Allocated config gb pipeline.context)
    (frame : List UInt8) : (pipeline.prepare frame).payloadInput frame = marked gb frame := by
  have size := allocated.payloadBuf
  unfold payloadInput marked
  by_cases coded : gb.encoding = "H264"
  · rw [if_pos coded] at size
    have stored : (pipeline.prepare frame).memory =
        pipeline.memory.write .payloadBuf 0 ([0, 0, 1] ++ frame) := by
      have parts : ([0, 0, 1] ++ frame : List UInt8) = [0] ++ [0] ++ [1] ++ frame := rfl
      rw [parts, ← ByteMemory.write_append, ← ByteMemory.write_append, ← ByteMemory.write_append]
      simp only [prepare, frameStores, size, ByteMemory.storeAll]
      rfl
    have length : frame.length + 3 = ([0, 0, 1] ++ frame).length := by simp
    rw [if_pos coded, stored, length]
    simp only [prepare, size, ByteMemory.read_write_self]
  · rw [if_neg coded] at size
    rw [if_neg coded]
    simp only [prepare, size]

theorem emit_within_iff {config : ProducerConfig} {gb : GbInviteVideoResponse}
    {pipeline : GbPipeline Target} (positive : 0 < config.maxBandwidthInMb)
    (allocated : Allocated config gb pipeline.context) (demuxed : DemuxedFrame) :
    (∀ store ∈ machine.emit pipeline demuxed, store.Within pipeline.context.bufferSize) ↔
      FitsBuffers config gb pipeline demuxed := by
  unfold FitsBuffers
  cases aborted : pipeline.aborted with
  | true => simp [machine, aborted]
  | false =>
      have running : (pipeline.prepare demuxed.frame).aborted = false := aborted
      have packets := payloadFunc_within_iff allocated.packet running
        (pipeline.encoding demuxed).packets
      rw [encoding, payloadInput_prepare allocated] at packets
      simp only [machine, aborted, Bool.false_eq_true, if_false, List.forall_mem_append,
        forall_const]
      rw [frameStores_within_iff positive allocated, encoding, payloadInput_prepare allocated,
        packets]

/-! ### Runs -/

/-- Every store of a run stays in its buffer exactly when every frame of the run and
every packet of it that the encoder gets room for is small enough. -/
theorem stores_within_iff (config : ProducerConfig) (positive : 0 < config.maxBandwidthInMb)
    (video : VideoRequest) (registration : Registration Target) (completion : Completion)
    (gb : GbInviteVideoResponse)
    (accepted :
      ((RtpVideoContext.create video registration).accept config completion).2 = some gb)
    (memory : ByteMemory PipelineBuffer) (frames : List DemuxedFrame) :
    let context := ((RtpVideoContext.create video registration).accept config completion).1
    (∀ store ∈ machine.trace (start context memory) frames, store.Within context.bufferSize) ↔
      machine.Along (FitsBuffers config gb) (start context memory) frames := by
  intro context
  have allocated : Allocated config gb context := allocated_of_accept accepted
  apply machine.trace_good_iff_along (fun reached => reached.context = context) _ _ rfl
  · intro pipeline demuxed same _
    exact (context_next pipeline demuxed).trans same
  · intro pipeline demuxed same
    rw [← same]
    rw [← same] at allocated
    exact emit_within_iff positive allocated demuxed

/-- Two frames pass, the first in one packet and the second in two. -/
theorem small_frames_within :
    let config : ProducerConfig := ⟨"127.0.0.1:8086", 2000, 4, 0, zeroedMemory⟩
    let completion : Completion :=
      .answered ⟨"1", some ⟨"peer", 90000, 96, "H264"⟩⟩ ⟨7, true, true⟩
    let context := ((RtpVideoContext.create .unset ⟨0, 0⟩ : RtpVideoContext Nat).accept config
      completion).1
    let whole : DemuxedFrame := ⟨[0x65, 1], fun input => ⟨[⟨input.length, input, by simp⟩], 0⟩⟩
    let halves : DemuxedFrame :=
      ⟨[0x41, 2, 3], fun _ => ⟨[⟨1456, [0x80, 96, 0x41], by decide⟩,
        ⟨1456, [0x80, 224, 2, 3], by decide⟩], 0⟩⟩
    ∀ store ∈ machine.trace (start context (fun _ _ => 0)) [whole, halves],
      store.Within context.bufferSize := by
  intro config completion context whole halves
  apply (stores_within_iff config (by decide) .unset ⟨0, 0⟩ completion
    ⟨"peer", 90000, 96, "H264"⟩ (by decide) (fun _ _ => 0) [whole, halves]).mpr
  decide

/-- With one megabyte for the payload, a frame of 1048574 bytes is written past the end
of its buffer, and a packet of 1597 bytes, which `alloc` accepts, past the end of the
send buffer. -/
theorem large_sizes_overrun :
    let config : ProducerConfig := ⟨"127.0.0.1:8086", 2000, 1, 0, zeroedMemory⟩
    let completion : Completion :=
      .answered ⟨"1", some ⟨"peer", 90000, 96, "H264"⟩⟩ ⟨7, true, true⟩
    let context := ((RtpVideoContext.create .unset ⟨0, 0⟩ : RtpVideoContext Nat).accept config
      completion).1
    let packet : EncodedPacket := ⟨1597, List.replicate 1597 0, List.length_replicate.le⟩
    let large : DemuxedFrame := ⟨List.replicate 1048574 0, fun _ => ⟨[], 0⟩⟩
    let ordinary : DemuxedFrame := ⟨[0x65], fun _ => ⟨[packet], 0⟩⟩
    alloc packet.requested = some .packet ∧
      (¬∀ store ∈ machine.trace (start context (fun _ _ => 0)) [large],
        store.Within context.bufferSize) ∧
      ¬∀ store ∈ machine.trace (start context (fun _ _ => 0)) [ordinary],
        store.Within context.bufferSize := by
  intro config completion context packet large ordinary
  have allocated : Allocated config ⟨"peer", 90000, 96, "H264"⟩ context :=
    allocated_of_accept (by decide)
  have judged (demuxed : DemuxedFrame) :
      (∀ store ∈ machine.trace (start context (fun _ _ => 0)) [demuxed],
        store.Within context.bufferSize) ↔
        FitsBuffers config ⟨"peer", 90000, 96, "H264"⟩ (start context (fun _ _ => 0)) demuxed := by
    rw [LabelledMachine.trace_cons, LabelledMachine.trace_nil, List.append_nil]
    exact emit_within_iff (by decide) allocated demuxed
  refine ⟨by decide, ?_, ?_⟩
  · intro within
    have room := ((judged large).mp within rfl).1 rfl
    change ((List.replicate 1048574 (0 : UInt8)).length : Int) + 3 ≤ 1 * 1024 * 1024 at room
    rw [List.length_replicate] at room
    omega
  · intro within
    have room := ((judged ordinary).mp within rfl).2 packet List.mem_cons_self
    change (List.replicate 1597 (0 : UInt8)).length ≤ 1596 at room
    rw [List.length_replicate] at room
    omega

theorem memory_payloadFunc (pipeline : GbPipeline Target) (packets : List EncodedPacket) :
    (payloadFunc.run pipeline packets).memory =
      pipeline.memory.storeAll (payloadFunc.trace pipeline packets) := by
  induction packets generalizing pipeline with
  | nil => rfl
  | cons packet rest ih =>
      rw [LabelledMachine.run_cons, LabelledMachine.trace_cons, ByteMemory.storeAll_append, ih]
      congr 1
      simp only [payloadFunc, emitPacket, packetStores]
      split_ifs
      · rfl
      · split <;> rfl

theorem memory_run (pipeline : GbPipeline Target) (frames : List DemuxedFrame) :
    (machine.run pipeline frames).memory =
      pipeline.memory.storeAll (machine.trace pipeline frames) := by
  induction frames generalizing pipeline with
  | nil => rfl
  | cons demuxed rest ih =>
      rw [LabelledMachine.run_cons, LabelledMachine.trace_cons, ByteMemory.storeAll_append, ih]
      congr 1
      simp only [machine, rtpOnPacket]
      split_ifs
      · rfl
      · rw [ByteMemory.storeAll_append, memory_payloadFunc]
        rfl

/-- No byte behind a buffer changes when no store leaves its buffer. -/
theorem memory_outside {size : PipelineBuffer → Int} {pipeline : GbPipeline Target}
    {frames : List DemuxedFrame}
    (within : ∀ store ∈ machine.trace pipeline frames, store.Within size)
    {buffer : PipelineBuffer} {offset : Nat} (outside : size buffer ≤ offset) :
    (machine.run pipeline frames).memory buffer offset = pipeline.memory buffer offset := by
  rw [memory_run]
  exact ByteMemory.storeAll_outside within pipeline.memory outside

/-- The send buffer is filled as in the stream of a proxy. -/
theorem storeAll_sendStores (memory : ByteMemory PipelineBuffer) (data : List UInt8)
    (proxy : Nat) :
    memory.storeAll (sendStores data) .sendBuffer =
      fillSendBuffer (fun _ => memory .sendBuffer) proxy data proxy := by
  funext offset
  simp only [sendStores, ByteMemory.storeAll, fillSendBuffer, ByteMemory.write, true_and]

end GbPipeline

end Ffvms.Concrete
