/-
`FFGetFrame`: one video packet is read, its timestamps are rewritten where they
would not grow, and the packet goes to the muxer.

A packet whose presentation time is past the last one written passes unchanged.
Any other packet gets new timestamps, both equal to the last one plus its
duration, which may lie ahead of what the file says next.  The main results say
for which streams the decoding times that reach the muxer never go backwards, and
for which the presentation times grow.  The first is about sums in `int64_t`, the
second about times without a bound.
-/

import Ffvms.LabelledRun
import Ffvms.Concrete.FileVideoRate
import Ffvms.Concrete.RtpProducer

namespace Ffvms.Concrete

/-- The fields of a packet that `FFGetFrame` reads or writes.  A missing time
stamp is `AV_NOPTS_VALUE`. -/
structure AVPacket where
  streamIndex : Int
  pos : Int
  pts : Option Int
  dts : Option Int
  duration : Int
  deriving DecidableEq, Repr

/-- What `av_read_frame` brings.  At the end of the file, `seek` is what the seeks
to the start would return: the first negative value, or the last one. -/
inductive ReadFrame where
  | packet (packet : AVPacket)
  | endOfFile (seek : Int)
  | failed (ret : Int) (negative : ret < 0)

def averrorEof : Int := -541478725

abbrev TimeSum : Type := Int → Int → Except ArithmeticFault Int

def int64Sum : TimeSum := CheckedInt.add int64Limit

def unboundedSum : TimeSum := fun first second => .ok (first + second)

/-- A missing duration is that of one frame at the rate of the stream, computed in `int`. -/
def AVPacket.withDuration (rate : FrameRate) (base : TimeBase) (packet : AVPacket) :
    Except ArithmeticFault AVPacket :=
  if packet.duration = 0 then
    (rate.fallbackDuration base).map (fun duration => { packet with duration := duration })
  else .ok packet

def AVPacket.Lasts (rate : FrameRate) (base : TimeBase) (packet : AVPacket) : Prop :=
  match packet.withDuration rate base with
  | .ok lasting => 0 < lasting.duration
  | .error _ => False

instance (rate : FrameRate) (base : TimeBase) (packet : AVPacket) :
    Decidable (packet.Lasts rate base) := by
  unfold AVPacket.Lasts
  split <;> infer_instance

/-- The fields of `FileVideoContext` and of its input stream that `FFGetFrame`
works on. -/
structure FrameContext where
  repeatedly : Bool
  videoStreamId : Int
  fps : FrameRate
  timeBase : TimeBase
  pts : Int
  prePts : Int
  error : Int
  deriving DecidableEq, Repr

/-- How the reading loop ends.  It is `blocked` when the reads given are used up
and no video packet was among them. -/
inductive ReadExit where
  | video (packet : AVPacket)
  | stopped (ret : Int)
  | blocked
  deriving DecidableEq, Repr

/-- A packet as it was read and rescaled, and as it was handed to the muxer. -/
structure Frame where
  read : AVPacket
  written : Except ArithmeticFault AVPacket
  deriving DecidableEq, Repr

/-- The reads of one call, and what `av_interleaved_write_frame` returns in it. -/
structure FrameCall where
  reads : List ReadFrame
  muxed : Int

/-- `ret` is the value after the loop. -/
structure FrameOutcome where
  context : FrameContext
  frame : Option Frame
  ret : Int
  deriving DecidableEq, Repr

namespace FrameContext

def create (repeatedly : Bool) (videoStreamId : Int) (fps : FrameRate) (timeBase : TimeBase) :
    FrameContext :=
  { repeatedly := repeatedly
    videoStreamId := videoStreamId
    fps := fps
    timeBase := timeBase
    pts := 0
    prePts := 0
    error := 0 }

/-- Packets of other streams are dropped; the end of a repeated file is answered
by a seek to its start. -/
def readVideo (context : FrameContext) : List ReadFrame → ReadExit
  | [] => .blocked
  | .packet packet :: rest =>
      if packet.streamIndex ≠ context.videoStreamId then readVideo context rest
      else .video packet
  | .endOfFile seek :: rest =>
      if context.repeatedly then
        if seek < 0 then .stopped seek else readVideo context rest
      else .stopped averrorEof
  | .failed ret _ :: _ => .stopped ret

def Stale (context : FrameContext) (packet : AVPacket) : Prop :=
  match packet.pts with
  | none => True
  | some pts => pts ≤ context.prePts

instance (context : FrameContext) (packet : AVPacket) : Decidable (context.Stale packet) := by
  unfold Stale
  split <;> infer_instance

def stampAt (context : FrameContext) (packet : AVPacket) (time : Int) : FrameContext × AVPacket :=
  ({ context with pts := time, prePts := time },
    { packet with pts := some time, dts := some time })

def restamp (sum : TimeSum) (context : FrameContext) (packet : AVPacket) :
    Except ArithmeticFault (FrameContext × AVPacket) :=
  if context.Stale packet then
    match packet.dts with
    | none => (sum context.pts packet.duration).map (context.stampAt packet)
    | some dts =>
        if dts ≤ context.prePts then
          (sum context.prePts packet.duration).map (context.stampAt packet)
        else .ok ({ context with prePts := dts }, { packet with pts := some dts })
  else .ok ({ context with prePts := packet.pts.getD context.prePts }, packet)

def stamp (sum : TimeSum) (context : FrameContext) (read : AVPacket) :
    Except ArithmeticFault (FrameContext × AVPacket) := do
  let lasting ← read.withDuration context.fps context.timeBase
  context.restamp sum lasting

/-- `rescale` is `av_packet_rescale_ts` from the time base of the input stream to
that of the output stream.  After arithmetic that has no result nothing is written, and
what follows is not defined: the context is left as it was. -/
def ffGetFrame (sum : TimeSum) (rescale : AVPacket → AVPacket) (context : FrameContext)
    (call : FrameCall) : FrameOutcome :=
  if context.error ≠ 0 then ⟨context, none, 0⟩
  else
    match context.readVideo call.reads with
    | .blocked => ⟨context, none, 0⟩
    | .stopped ret => ⟨{ context with error := ret }, none, ret⟩
    | .video packet =>
        let read := rescale { packet with streamIndex := 0, pos := -1 }
        match context.stamp sum read with
        | .ok (later, written) =>
            ⟨{ later with error := call.muxed }, some ⟨read, .ok written⟩, call.muxed⟩
        | .error fault => ⟨context, some ⟨read, .error fault⟩, 0⟩

def machine (sum : TimeSum) (rescale : AVPacket → AVPacket) :
    LabelledMachine FrameContext FrameCall Frame :=
  { next := fun context call => (context.ffGetFrame sum rescale call).context
    emit := fun context call => (context.ffGetFrame sum rescale call).frame.toList }

end FrameContext

/-! ### Timestamps -/

def Ordered (dts pts : Option Int) : Prop :=
  match dts, pts with
  | some dts, some pts => dts ≤ pts
  | _, _ => False

def DecodedBefore (first second : Option Int) : Prop :=
  match first, second with
  | some one, some two => one ≤ two
  | _, _ => False

instance (dts pts : Option Int) : Decidable (Ordered dts pts) := by
  unfold Ordered
  split <;> infer_instance

instance (first second : Option Int) : Decidable (DecodedBefore first second) := by
  unfold DecodedBefore
  split <;> infer_instance

theorem ordered_iff {dts pts : Option Int} :
    Ordered dts pts ↔ ∃ decoded shown, dts = some decoded ∧ pts = some shown ∧ decoded ≤ shown := by
  unfold Ordered
  cases dts <;> cases pts <;> simp

theorem decodedBefore_iff {first second : Option Int} :
    DecodedBefore first second ↔ ∃ one two, first = some one ∧ second = some two ∧ one ≤ two := by
  unfold DecodedBefore
  cases first <;> cases second <;> simp

namespace Frame

def writtenDts (frame : Frame) : Option Int :=
  match frame.written with
  | .ok packet => packet.dts
  | .error _ => none

def writtenPts (frame : Frame) : Option Int :=
  match frame.written with
  | .ok packet => packet.pts
  | .error _ => none

end Frame

/-- What the muxer requires of the packets it is given, with these times. -/
def WellTimed (dts pts : Frame → Option Int) (frames : List Frame) : Prop :=
  (∀ frame ∈ frames, Ordered (dts frame) (pts frame)) ∧
    frames.Pairwise (fun first second => DecodedBefore (dts first) (dts second))

instance (dts pts : Frame → Option Int) (frames : List Frame) :
    Decidable (WellTimed dts pts frames) :=
  inferInstanceAs (Decidable (_ ∧ _))

def Steady (frames : List Frame) : Prop :=
  WellTimed (fun frame => frame.read.dts) (fun frame => frame.read.pts) frames ∧
    ∀ frame ∈ frames, 0 < frame.read.duration

instance (frames : List Frame) : Decidable (Steady frames) :=
  inferInstanceAs (Decidable (_ ∧ _))

/-- The packets that were written.  Where the arithmetic has no result there is no packet,
and so no times. -/
def WrittenWellTimed (frames : List Frame) : Prop :=
  WellTimed Frame.writtenDts Frame.writtenPts frames

instance (frames : List Frame) : Decidable (WrittenWellTimed frames) :=
  inferInstanceAs (Decidable (WellTimed _ _ _))

section WellTimed

variable {dts pts : Frame → Option Int} {first second : List Frame} {next : Frame}

theorem WellTimed.front (timed : WellTimed dts pts (first ++ second)) : WellTimed dts pts first :=
  ⟨fun frame member => timed.1 frame (List.mem_append_left second member),
    (List.pairwise_append.mp timed.2).1⟩

theorem WellTimed.across (timed : WellTimed dts pts (first ++ [next])) :
    Ordered (dts next) (pts next) ∧ ∀ frame ∈ first, DecodedBefore (dts frame) (dts next) := by
  refine ⟨timed.1 next (List.mem_append_right first List.mem_cons_self), ?_⟩
  intro frame member
  exact (List.pairwise_append.mp timed.2).2.2 frame member next List.mem_cons_self

theorem WellTimed.concat (timed : WellTimed dts pts first) (ordered : Ordered (dts next) (pts next))
    (later : ∀ frame ∈ first, DecodedBefore (dts frame) (dts next)) :
    WellTimed dts pts (first ++ [next]) := by
  constructor
  · intro frame member
    rcases List.mem_append.mp member with older | new
    · exact timed.1 frame older
    · rw [List.mem_singleton.mp new]
      exact ordered
  · rw [List.pairwise_append]
    refine ⟨timed.2, List.pairwise_singleton _ _, ?_⟩
    intro frame member other new
    rw [List.mem_singleton.mp new]
    exact later frame member

theorem Steady.front (steady : Steady (first ++ second)) : Steady first :=
  ⟨steady.1.front, fun frame member => steady.2 frame (List.mem_append_left second member)⟩

end WellTimed

namespace FrameContext

variable {sum : TimeSum} {rescale : AVPacket → AVPacket}

/-- Right after a rewritten packet, one that passes unchanged is not decoded before it; and
the time of a packet that is rewritten is in the range of `int64_t`.  The packet written
last was rewritten exactly when `pts` equals `prePts` and neither is 0. -/
def KeepsUp (rescale : AVPacket → AVPacket) (context : FrameContext) (call : FrameCall) : Prop :=
  context.error = 0 → ∀ packet, context.readVideo call.reads = .video packet →
    let read := rescale { packet with streamIndex := 0, pos := -1 }
    ∀ dts pts, read.dts = some dts → read.pts = some pts →
      (context.prePts < pts → context.pts = context.prePts → context.prePts ≠ 0 →
          context.prePts ≤ dts) ∧
        (pts ≤ context.prePts → context.prePts + read.duration < int64Limit)

/-! ### One call -/

theorem withDuration_of_pos (rate : FrameRate) (base : TimeBase) {packet : AVPacket}
    (lasting : 0 < packet.duration) : packet.withDuration rate base = .ok packet := by
  unfold AVPacket.withDuration
  rw [if_neg (by omega)]

theorem withDuration_dts {rate : FrameRate} {base : TimeBase} {packet lasting : AVPacket}
    (timed : packet.withDuration rate base = .ok lasting) : lasting.dts = packet.dts := by
  unfold AVPacket.withDuration at timed
  split at timed
  · cases fallback : rate.fallbackDuration base with
    | error fault =>
        rw [fallback] at timed
        cases timed
    | ok duration =>
        rw [fallback] at timed
        cases timed
        rfl
  · cases timed
    rfl

/-- With both times present and in order, the packet passes or gets new times;
the branch that copies the decoding time is never taken. -/
theorem stamp_ordered (sum : TimeSum) (context : FrameContext) {read : AVPacket} {dts pts : Int}
    (decoded : read.dts = some dts) (shown : read.pts = some pts) (ordered : dts ≤ pts)
    (lasting : 0 < read.duration) :
    context.stamp sum read =
      if context.prePts < pts then .ok ({ context with prePts := pts }, read)
      else (sum context.prePts read.duration).map (context.stampAt read) := by
  have stale : context.Stale read ↔ pts ≤ context.prePts := by
    unfold Stale
    rw [shown]
  unfold stamp
  rw [withDuration_of_pos _ _ lasting]
  change context.restamp sum read = _
  unfold restamp
  by_cases past : context.prePts < pts
  · rw [if_pos past, if_neg (by rw [stale]; omega), shown]
    rfl
  · rw [if_neg past, if_pos (by rw [stale]; omega), decoded]
    dsimp only
    rw [if_pos (by omega)]

/-- A call hands nothing to the muxer and leaves the times alone, or hands it the one packet
that it read and stamped. -/
theorem call_cases (sum : TimeSum) (rescale : AVPacket → AVPacket) (context : FrameContext)
    (call : FrameCall) :
    ((machine sum rescale).emit context call = [] ∧
        ((machine sum rescale).next context call).pts = context.pts ∧
        ((machine sum rescale).next context call).prePts = context.prePts) ∨
      ∃ packet read, context.error = 0 ∧ context.readVideo call.reads = .video packet ∧
        read = rescale { packet with streamIndex := 0, pos := -1 } ∧
        ((∃ later written, context.stamp sum read = .ok (later, written) ∧
            (machine sum rescale).emit context call = [⟨read, .ok written⟩] ∧
            ((machine sum rescale).next context call).pts = later.pts ∧
            ((machine sum rescale).next context call).prePts = later.prePts) ∨
          ∃ fault, context.stamp sum read = .error fault ∧
            (machine sum rescale).emit context call = [⟨read, .error fault⟩]) := by
  simp only [machine, ffGetFrame]
  by_cases broken : context.error = 0
  · rw [if_neg (not_not_intro broken)]
    cases exit : context.readVideo call.reads with
    | blocked => exact Or.inl ⟨rfl, rfl, rfl⟩
    | stopped ret => exact Or.inl ⟨rfl, rfl, rfl⟩
    | video packet =>
        refine Or.inr ⟨packet, _, broken, rfl, rfl, ?_⟩
        dsimp only
        cases context.stamp sum (rescale { packet with streamIndex := 0, pos := -1 }) with
        | error fault => exact Or.inr ⟨fault, rfl, rfl⟩
        | ok result => exact Or.inl ⟨result.1, result.2, rfl, rfl, rfl, rfl⟩
  · rw [if_pos broken]
    exact Or.inl ⟨rfl, rfl, rfl⟩

theorem emit_ne_nil (sum : TimeSum) (rescale : AVPacket → AVPacket) {context : FrameContext}
    {call : FrameCall} {packet : AVPacket}
    (sane : context.error = 0) (exit : context.readVideo call.reads = .video packet) :
    (machine sum rescale).emit context call ≠ [] := by
  simp only [machine, ffGetFrame, sane, exit, ne_eq, not_true_eq_false, if_false]
  cases context.stamp sum (rescale { packet with streamIndex := 0, pos := -1 }) with
  | error fault => exact List.cons_ne_nil _ _
  | ok result => exact List.cons_ne_nil _ _

/-! ### Runs -/

structure Followed (context : FrameContext) (frames : List Frame) : Prop where
  nonneg : 0 ≤ context.pts
  le : context.pts ≤ context.prePts
  started : context.prePts = 0 → frames = []
  ordered : ∀ frame ∈ frames, Ordered frame.writtenDts frame.writtenPts
  bounded : ∀ frame ∈ frames, ∀ dts, frame.writtenDts = some dts → dts ≤ context.prePts
  rewritten : context.pts = context.prePts → context.prePts ≠ 0 →
    ∃ frame ∈ frames, frame.writtenDts = some context.prePts

theorem followed_create (repeatedly : Bool) (videoStreamId : Int) (fps : FrameRate)
    (timeBase : TimeBase) : (create repeatedly videoStreamId fps timeBase).Followed [] :=
  { nonneg := le_refl 0
    le := le_refl 0
    started := fun _ => rfl
    ordered := fun _ member => nomatch member
    bounded := fun _ member => nomatch member
    rewritten := fun _ moved => absurd rfl moved }

section Call

variable {context : FrameContext} {frames : List Frame} {read : AVPacket} {dts pts : Int}

theorem Followed.concat (followed : context.Followed frames) (frame : Frame) (bound : Int)
    (decoded : frame.writtenDts = some dts) (shown : frame.writtenPts = some pts)
    (ordered : dts ≤ pts) (below : pts ≤ bound) (grows : context.prePts ≤ bound) :
    (∀ other ∈ frames ++ [frame], Ordered other.writtenDts other.writtenPts) ∧
      ∀ other ∈ frames ++ [frame], ∀ time, other.writtenDts = some time → time ≤ bound := by
  constructor
  · intro other member
    rcases List.mem_append.mp member with older | new
    · exact followed.ordered other older
    · rw [List.mem_singleton.mp new]
      exact ordered_iff.mpr ⟨dts, pts, decoded, shown, ordered⟩
  · intro other member time timeEq
    rcases List.mem_append.mp member with older | new
    · have earlier := followed.bounded other older time timeEq
      omega
    · rw [List.mem_singleton.mp new, decoded] at timeEq
      cases timeEq
      omega

theorem followed_passed {later : FrameContext} (followed : context.Followed frames)
    (decoded : read.dts = some dts) (shown : read.pts = some pts) (ordered : dts ≤ pts)
    (past : context.prePts < pts) (ptsEq : later.pts = context.pts)
    (prePtsEq : later.prePts = pts) : later.Followed (frames ++ [⟨read, .ok read⟩]) := by
  have nonneg := followed.nonneg
  have le := followed.le
  obtain ⟨inOrder, bounded⟩ := followed.concat ⟨read, .ok read⟩ later.prePts decoded shown
    ordered (by omega) (by omega)
  exact
    { nonneg := by omega
      le := by omega
      started := by omega
      ordered := inOrder
      bounded := bounded
      rewritten := by omega }

theorem followed_rewritten {later : FrameContext} {written : AVPacket} {time : Int}
    (followed : context.Followed frames) (above : context.prePts < time)
    (decoded : written.dts = some time) (shown : written.pts = some time)
    (ptsEq : later.pts = time) (prePtsEq : later.prePts = time) :
    later.Followed (frames ++ [⟨read, .ok written⟩]) := by
  have nonneg := followed.nonneg
  have le := followed.le
  obtain ⟨inOrder, bounded⟩ := followed.concat ⟨read, .ok written⟩ later.prePts decoded shown
    (le_refl time) (by omega) (by omega)
  refine
    { nonneg := by omega
      le := by omega
      started := by omega
      ordered := inOrder
      bounded := bounded
      rewritten := ?_ }
  intro _ _
  refine ⟨⟨read, .ok written⟩, List.mem_append_right frames List.mem_cons_self, ?_⟩
  rw [prePtsEq]
  exact decoded

end Call

/-- A call on a steady stream, in the terms of the running times: nothing is written, or the
packet passes, or it gets the next time, or there is no next time. -/
inductive Advance (rescale : AVPacket → AVPacket) (context : FrameContext) (call : FrameCall)
    (later : FrameContext) : List Frame → Prop
  | idle (ptsEq : later.pts = context.pts) (prePtsEq : later.prePts = context.prePts) :
      Advance rescale context call later []
  | passed (packet read : AVPacket) (dts pts : Int) (sane : context.error = 0)
      (exit : context.readVideo call.reads = .video packet)
      (rescaled : read = rescale { packet with streamIndex := 0, pos := -1 })
      (decoded : read.dts = some dts) (shown : read.pts = some pts) (ordered : dts ≤ pts)
      (past : context.prePts < pts) (ptsEq : later.pts = context.pts)
      (prePtsEq : later.prePts = pts) :
      Advance rescale context call later [⟨read, .ok read⟩]
  | rewritten (packet read written : AVPacket) (dts pts time : Int) (sane : context.error = 0)
      (exit : context.readVideo call.reads = .video packet)
      (rescaled : read = rescale { packet with streamIndex := 0, pos := -1 })
      (readDts : read.dts = some dts) (readPts : read.pts = some pts)
      (old : pts ≤ context.prePts) (timeEq : time = context.prePts + read.duration)
      (fits : time < int64Limit) (above : context.prePts < time)
      (decoded : written.dts = some time) (shown : written.pts = some time)
      (ptsEq : later.pts = time) (prePtsEq : later.prePts = time) :
      Advance rescale context call later [⟨read, .ok written⟩]
  | overflowed (packet read : AVPacket) (dts pts : Int) (fault : ArithmeticFault)
      (sane : context.error = 0) (exit : context.readVideo call.reads = .video packet)
      (rescaled : read = rescale { packet with streamIndex := 0, pos := -1 })
      (readDts : read.dts = some dts) (readPts : read.pts = some pts)
      (old : pts ≤ context.prePts) (leaves : int64Limit ≤ context.prePts + read.duration) :
      Advance rescale context call later [⟨read, .error fault⟩]

theorem advance_of_steady {context : FrameContext} {call : FrameCall} {frames : List Frame}
    (followed : context.Followed frames)
    (steady : Steady (frames ++ (machine int64Sum rescale).emit context call)) :
    Advance rescale context call ((machine int64Sum rescale).next context call)
      ((machine int64Sum rescale).emit context call) := by
  have nonneg := followed.nonneg
  have le := followed.le
  rcases call_cases int64Sum rescale context call with
    ⟨none, ptsEq, prePtsEq⟩ | ⟨packet, read, sane, exit, rescaled, stamped⟩
  · rw [none]
    exact .idle ptsEq prePtsEq
  · have single : ∃ frame, (machine int64Sum rescale).emit context call = [frame] ∧
        frame.read = read := by
      rcases stamped with ⟨later, written, _, emitted, _⟩ | ⟨fault, _, emitted⟩
      · exact ⟨_, emitted, rfl⟩
      · exact ⟨_, emitted, rfl⟩
    obtain ⟨frame, emitted, rfl⟩ := single
    rw [emitted] at steady
    obtain ⟨dts, pts, decoded, shown, ordered⟩ := ordered_iff.mp steady.1.across.1
    have lasting : 0 < frame.read.duration :=
      steady.2 _ (List.mem_append_right frames List.mem_cons_self)
    have stampEq := stamp_ordered int64Sum context decoded shown ordered lasting
    by_cases past : context.prePts < pts
    · rw [if_pos past] at stampEq
      rcases stamped with ⟨later, written, result, only, ptsEq, prePtsEq⟩ | ⟨fault, result, _⟩
      · cases stampEq.symm.trans result
        rw [only]
        exact .passed packet frame.read dts pts sane exit rescaled decoded shown ordered past ptsEq
          prePtsEq
      · cases stampEq.symm.trans result
    · rw [if_neg past] at stampEq
      by_cases fits : context.prePts + frame.read.duration < int64Limit
      · have total : int64Sum context.prePts frame.read.duration =
            .ok (context.prePts + frame.read.duration) :=
          CheckedInt.add_eq_ok_iff.mpr
            ⟨(CheckedInt.fits_of_nonneg (by omega)).mpr fits, rfl⟩
        rw [total] at stampEq
        rcases stamped with ⟨later, written, result, only, ptsEq, prePtsEq⟩ | ⟨fault, result, _⟩
        · cases stampEq.symm.trans result
          rw [only]
          exact .rewritten packet frame.read _ dts pts _ sane exit rescaled decoded shown (by omega)
            rfl fits (by omega) rfl rfl ptsEq prePtsEq
        · cases stampEq.symm.trans result
      · rcases stamped with ⟨later, written, result, _⟩ | ⟨fault, _, only⟩
        · -- The sum would have a value.
          exfalso
          cases total : int64Sum context.prePts frame.read.duration with
          | error fault =>
              rw [total] at stampEq
              cases stampEq.symm.trans result
          | ok time =>
              have inside := (CheckedInt.add_eq_ok_iff.mp total).1
              exact fits ((CheckedInt.fits_of_nonneg (by omega)).mp inside)
        · rw [only]
          exact .overflowed packet frame.read dts pts fault sane exit rescaled decoded shown
            (by omega) (by omega)

theorem followed_step {context : FrameContext} {frames : List Frame} {call : FrameCall}
    (followed : context.Followed frames)
    (steady : Steady (frames ++ (machine int64Sum rescale).emit context call))
    (keeps : context.KeepsUp rescale call) :
    ((machine int64Sum rescale).next context call).Followed
      (frames ++ (machine int64Sum rescale).emit context call) := by
  have advance := advance_of_steady followed steady
  generalize (machine int64Sum rescale).next context call = later at advance
  generalize (machine int64Sum rescale).emit context call = emitted at advance
  cases advance with
  | idle ptsEq prePtsEq =>
      rw [List.append_nil]
      refine ⟨?_, ?_, ?_, followed.ordered, ?_, ?_⟩
      · rw [ptsEq]
        exact followed.nonneg
      · rw [ptsEq, prePtsEq]
        exact followed.le
      · rw [prePtsEq]
        exact followed.started
      · rw [prePtsEq]
        exact followed.bounded
      · rw [ptsEq, prePtsEq]
        exact followed.rewritten
  | passed packet read dts pts sane exit rescaled decoded shown ordered past ptsEq prePtsEq =>
      exact followed_passed followed decoded shown ordered past ptsEq prePtsEq
  | rewritten packet read written dts pts time sane exit rescaled readDts readPts old timeEq fits
      above decoded shown ptsEq prePtsEq =>
      exact followed_rewritten followed above decoded shown ptsEq prePtsEq
  | overflowed packet read dts pts fault sane exit rescaled readDts readPts old leaves =>
      rw [rescaled] at readDts readPts leaves
      have fits := (keeps sane packet exit dts pts readDts readPts).2 old
      omega

/-- As long as the last packet passed, everything written so far is decoded no
later than some packet that was read. -/
structure Paced (context : FrameContext) (frames : List Frame) : Prop where
  timed : WrittenWellTimed frames
  covered : context.pts ≠ context.prePts → ∀ frame ∈ frames, ∃ other ∈ frames,
    DecodedBefore frame.writtenDts other.read.dts

theorem paced_passed {context later : FrameContext} {frames : List Frame} {read : AVPacket}
    {dts pts : Int} (followed : context.Followed frames) (paced : context.Paced frames)
    (steady : Steady (frames ++ [⟨read, .ok read⟩])) (decoded : read.dts = some dts)
    (shown : read.pts = some pts) (ordered : dts ≤ pts)
    (keeps : context.pts = context.prePts → context.prePts ≠ 0 → context.prePts ≤ dts) :
    later.Paced (frames ++ [⟨read, .ok read⟩]) := by
  have earlier : ∀ frame ∈ frames, DecodedBefore frame.writtenDts read.dts := by
    intro frame member
    obtain ⟨time, _, timeEq, _, _⟩ := ordered_iff.mp (followed.ordered frame member)
    by_cases last : context.pts = context.prePts
    · -- The last packet was rewritten, so all times are below the running one.
      have moved : context.prePts ≠ 0 := fun zero => by
        rw [followed.started zero] at member
        cases member
      have below := followed.bounded frame member time timeEq
      have reached := keeps last moved
      exact decodedBefore_iff.mpr ⟨time, dts, timeEq, decoded, by omega⟩
    · obtain ⟨other, inside, before⟩ := paced.covered last frame member
      have after := steady.1.across.2 other inside
      obtain ⟨one, two, oneEq, twoEq, first⟩ := decodedBefore_iff.mp before
      obtain ⟨three, four, threeEq, fourEq, second⟩ := decodedBefore_iff.mp after
      rw [twoEq] at threeEq
      cases threeEq
      exact decodedBefore_iff.mpr ⟨one, four, oneEq, fourEq, by omega⟩
  constructor
  · exact paced.timed.concat (ordered_iff.mpr ⟨dts, pts, decoded, shown, ordered⟩) earlier
  · intro _ frame member
    refine ⟨⟨read, .ok read⟩, List.mem_append_right frames List.mem_cons_self, ?_⟩
    rcases List.mem_append.mp member with older | new
    · exact earlier frame older
    · rw [List.mem_singleton.mp new]
      exact decodedBefore_iff.mpr ⟨dts, dts, decoded, decoded, le_refl dts⟩

theorem paced_rewritten {context later : FrameContext} {frames : List Frame}
    {read written : AVPacket} {time : Int} (followed : context.Followed frames)
    (paced : context.Paced frames) (above : context.prePts < time)
    (decoded : written.dts = some time) (shown : written.pts = some time)
    (ptsEq : later.pts = time) (prePtsEq : later.prePts = time) :
    later.Paced (frames ++ [⟨read, .ok written⟩]) := by
  constructor
  · refine paced.timed.concat (ordered_iff.mpr ⟨time, time, decoded, shown, le_refl time⟩) ?_
    intro frame inside
    obtain ⟨other, _, otherEq, _, _⟩ := ordered_iff.mp (followed.ordered frame inside)
    have below := followed.bounded frame inside other otherEq
    exact decodedBefore_iff.mpr ⟨other, time, otherEq, decoded, by omega⟩
  · intro different
    exact absurd (ptsEq.trans prePtsEq.symm) different

theorem paced_step {context : FrameContext} {frames : List Frame} {call : FrameCall}
    (followed : context.Followed frames) (paced : context.Paced frames)
    (steady : Steady (frames ++ (machine int64Sum rescale).emit context call))
    (keeps : context.KeepsUp rescale call) :
    ((machine int64Sum rescale).next context call).Paced
      (frames ++ (machine int64Sum rescale).emit context call) := by
  have advance := advance_of_steady followed steady
  generalize (machine int64Sum rescale).next context call = later at advance
  generalize (machine int64Sum rescale).emit context call = emitted at advance steady
  cases advance with
  | idle ptsEq prePtsEq =>
      rw [List.append_nil]
      refine ⟨paced.timed, ?_⟩
      rw [ptsEq, prePtsEq]
      exact paced.covered
  | passed packet read dts pts sane exit rescaled decoded shown ordered past ptsEq prePtsEq =>
      refine paced_passed followed paced steady decoded shown ordered ?_
      rw [rescaled] at decoded shown
      exact (keeps sane packet exit dts pts decoded shown).1 past
  | rewritten packet read written dts pts time sane exit rescaled readDts readPts old timeEq fits
      above decoded shown ptsEq prePtsEq =>
      exact paced_rewritten followed paced above decoded shown ptsEq prePtsEq
  | overflowed packet read dts pts fault sane exit rescaled readDts readPts old leaves =>
      rw [rescaled] at readDts readPts leaves
      have fits := (keeps sane packet exit dts pts readDts readPts).2 old
      omega

/-- A packet that falls behind is seen in what was written: it comes after the rewritten
packet and is decoded before it.  One without a next time is not written at all. -/
theorem keepsUp_of_timed {context : FrameContext} {frames : List Frame} {call : FrameCall}
    (followed : context.Followed frames)
    (steady : Steady (frames ++ (machine int64Sum rescale).emit context call))
    (timed : WrittenWellTimed (frames ++ (machine int64Sum rescale).emit context call)) :
    context.KeepsUp rescale call := by
  intro sane packet exit read dts pts decoded shown
  have advance := advance_of_steady followed steady
  have written := emit_ne_nil int64Sum rescale sane exit
  generalize (machine int64Sum rescale).next context call = later at advance
  generalize (machine int64Sum rescale).emit context call = emitted at advance timed written
  cases advance with
  | idle => exact absurd rfl written
  | passed other own time pts' _ exitEq rescaled ownDts ownPts _ past _ _ =>
      cases exit.symm.trans exitEq
      subst rescaled
      cases decoded.symm.trans ownDts
      cases shown.symm.trans ownPts
      refine ⟨fun _ last moved => ?_, by omega⟩
      obtain ⟨frame, member, timeEq⟩ := followed.rewritten last moved
      obtain ⟨first, second, firstEq, secondEq, le⟩ :=
        decodedBefore_iff.mp (timed.across.2 frame member)
      cases timeEq.symm.trans firstEq
      cases ownDts.symm.trans secondEq
      exact le
  | rewritten other own _ time pts' next _ exitEq rescaled ownDts ownPts old timeEq fits =>
      cases exit.symm.trans exitEq
      subst rescaled
      cases shown.symm.trans ownPts
      exact ⟨by omega, fun _ => timeEq ▸ fits⟩
  | overflowed other own _ _ fault => exact (timed.across.1 : False).elim

theorem wellTimed_iff_from {context : FrameContext} {frames : List Frame} (calls : List FrameCall)
    (followed : context.Followed frames) (paced : context.Paced frames)
    (steady : Steady (frames ++ (machine int64Sum rescale).trace context calls)) :
    WrittenWellTimed (frames ++ (machine int64Sum rescale).trace context calls) ↔
      (machine int64Sum rescale).Along (KeepsUp rescale) context calls := by
  induction calls generalizing context frames with
  | nil =>
      rw [LabelledMachine.trace_nil, List.append_nil]
      exact iff_of_true paced.timed trivial
  | cons call rest ih =>
      rw [LabelledMachine.trace_cons, ← List.append_assoc] at steady ⊢
      rw [LabelledMachine.along_cons]
      have here := steady.front
      have onward (keeps : context.KeepsUp rescale call) :=
        ih (followed_step followed here keeps) (paced_step followed paced here keeps) steady
      constructor
      · intro timed
        have keeps := keepsUp_of_timed followed here timed.front
        exact ⟨keeps, (onward keeps).mp timed⟩
      · rintro ⟨keeps, along⟩
        exact (onward keeps).mpr along

/-- On a steady stream of any length, what reaches the muxer is well timed exactly
when every packet that passes after a rewritten one keeps up with it, and every packet that
is rewritten finds a time in the range of `int64_t`. -/
theorem written_wellTimed_iff (rescale : AVPacket → AVPacket) (repeatedly : Bool)
    (videoStreamId : Int) (fps : FrameRate) (timeBase : TimeBase) (calls : List FrameCall)
    (steady : Steady
      ((machine int64Sum rescale).trace (create repeatedly videoStreamId fps timeBase) calls)) :
    WrittenWellTimed
        ((machine int64Sum rescale).trace (create repeatedly videoStreamId fps timeBase) calls) ↔
      (machine int64Sum rescale).Along (KeepsUp rescale)
        (create repeatedly videoStreamId fps timeBase) calls := by
  have paced : (create repeatedly videoStreamId fps timeBase).Paced [] :=
    { timed := ⟨List.forall_mem_nil _, List.Pairwise.nil⟩
      covered := fun _ => List.forall_mem_nil _ }
  have followed := followed_create repeatedly videoStreamId fps timeBase
  exact wellTimed_iff_from calls followed paced steady

def readOne (dts pts duration : Int) : FrameCall :=
  { reads := [.packet ⟨0, 0, some pts, some dts, duration⟩]
    muxed := 0 }

/-- Three frames in decoding order, the second one shown first. -/
theorem reordered_frames_wellTimed :
    let context := create false 0 palRate palBase
    let calls := [readOne 0 2 1, readOne 1 1 1, readOne 3 5 1]
    Steady ((machine int64Sum id).trace context calls) ∧
      WrittenWellTimed ((machine int64Sum id).trace context calls) := by
  intro context calls
  have steady : Steady ((machine int64Sum id).trace context calls) := by decide
  refine ⟨steady, (written_wellTimed_iff id false 0 palRate palBase calls steady).mpr ?_⟩
  have keeps : (machine int64Sum id).Along (KeepsUp id) context calls := by
    refine ⟨?_, ?_, ?_, trivial⟩
    all_goals
      intro _ packet exit read dts pts decoded shown
      cases exit
      cases decoded
      cases shown
      decide
  exact keeps

/-- The second frame is given the time 3, the third one passes with its own decoding time 2;
and after a frame shown at the last time of all there is no time for the next one. -/
theorem reordered_frames_backwards :
    let context := create false 0 palRate palBase
    let calls := [readOne 0 2 1, readOne 1 1 1, readOne 2 5 1]
    let last := [readOne 0 9223372036854775807 1, readOne 1 1 1]
    Steady ((machine int64Sum id).trace context calls) ∧
      ((machine int64Sum id).trace context calls).map Frame.writtenDts =
        [some 0, some 3, some 2] ∧
      ¬WrittenWellTimed ((machine int64Sum id).trace context calls) ∧
      Steady ((machine int64Sum id).trace context last) ∧
      ((machine int64Sum id).trace context last).map Frame.written =
        [.ok ⟨0, -1, some 9223372036854775807, some 0, 1⟩, .error .overflow] := by
  decide

/-- Without reordering there is nothing to fall behind. -/
theorem keepsUp_of_unreordered {context : FrameContext} {call : FrameCall}
    (same : ∀ packet, context.readVideo call.reads = .video packet →
      (rescale { packet with streamIndex := 0, pos := -1 }).pts =
        (rescale { packet with streamIndex := 0, pos := -1 }).dts)
    (fits : ∀ packet, context.readVideo call.reads = .video packet →
      context.prePts + (rescale { packet with streamIndex := 0, pos := -1 }).duration <
        int64Limit) : context.KeepsUp rescale call := by
  intro _ packet exit read dts pts decoded shown
  rw [same packet exit] at shown
  cases decoded.symm.trans shown
  exact ⟨by omega, fun _ => fits packet exit⟩

/-! ### Presentation times

From here on times have no bound. -/

def RisesFrom (time : Int) : List (Option Int) → Prop
  | [] => True
  | none :: _ => False
  | some pts :: rest => time < pts ∧ RisesFrom pts rest

instance RisesFrom.decidable (time : Int) : (times : List (Option Int)) →
    Decidable (RisesFrom time times)
  | [] => isTrue trivial
  | none :: _ => isFalse id
  | some pts :: rest =>
      have := RisesFrom.decidable pts rest
      inferInstanceAs (Decidable (time < pts ∧ RisesFrom pts rest))

/-- A packet with neither a new presentation time nor a decoding time is stamped by
counting on from `pts`, which stays behind when packets pass with times of their
own.  Such a packet must last longer than `pts` lags. -/
def Outlasts (rescale : AVPacket → AVPacket) (context : FrameContext) (call : FrameCall) : Prop :=
  match context.readVideo call.reads with
  | .video packet =>
      match (rescale { packet with streamIndex := 0, pos := -1 }).withDuration context.fps
        context.timeBase with
      | .ok read =>
          context.error = 0 → context.Stale read → read.dts = none →
            context.prePts - context.pts < read.duration
      | .error _ => True
  | _ => True

instance (rescale : AVPacket → AVPacket) (context : FrameContext) (call : FrameCall) :
    Decidable (context.Outlasts rescale call) := by
  unfold Outlasts
  split
  · split <;> infer_instance
  · infer_instance

/-- The packet passes, is shown when it is decoded, or is stamped by counting: on
from `pts` without a decoding time, on from `prePts` with an old one. -/
theorem restamp_cases (context : FrameContext) (packet : AVPacket) :
    (∃ time, ¬context.Stale packet ∧ context.prePts < time ∧ packet.pts = some time ∧
        context.restamp unboundedSum packet = .ok ({ context with prePts := time }, packet)) ∨
      (∃ time, packet.dts = some time ∧ context.prePts < time ∧
        context.restamp unboundedSum packet =
          .ok ({ context with prePts := time }, { packet with pts := some time })) ∨
      ∃ base, context.Stale packet ∧
        (packet.dts = none ∧ base = context.pts ∨
          packet.dts ≠ none ∧ base = context.prePts) ∧
        context.restamp unboundedSum packet =
          .ok (context.stampAt packet (base + packet.duration)) := by
  unfold restamp
  by_cases stale : context.Stale packet
  · rw [if_pos stale]
    cases decoded : packet.dts with
    | none => exact Or.inr (Or.inr ⟨context.pts, stale, Or.inl ⟨rfl, rfl⟩, rfl⟩)
    | some dts =>
        by_cases behind : dts ≤ context.prePts
        · simp only [if_pos behind]
          exact Or.inr (Or.inr ⟨context.prePts, stale, Or.inr ⟨Option.some_ne_none dts, rfl⟩, rfl⟩)
        · simp only [if_neg behind]
          exact Or.inr (Or.inl ⟨dts, rfl, by omega, rfl⟩)
  · rw [if_neg stale]
    have fresh := stale
    unfold Stale at fresh
    cases shown : packet.pts with
    | none =>
        rw [shown] at fresh
        exact absurd trivial fresh
    | some pts =>
        rw [shown] at fresh
        exact Or.inl ⟨pts, stale, not_le.mp fresh, rfl, rfl⟩

/-- What is written has a presentation time, which is the one remembered, and it is later than
the one before unless the count lags. -/
theorem restamp_shown (context : FrameContext) {packet : AVPacket}
    (lasting : 0 < packet.duration) :
    ∃ later written, context.restamp unboundedSum packet = .ok (later, written) ∧
      written.pts = some later.prePts ∧
      (context.prePts < later.prePts ↔
        (context.Stale packet → packet.dts = none →
          context.prePts - context.pts < packet.duration)) := by
  rcases restamp_cases context packet with
    ⟨time, fresh, past, shown, result⟩ | ⟨time, decoded, past, result⟩ |
      ⟨base, stale, ⟨undecoded, counted⟩ | ⟨decoded, counted⟩, result⟩
  · exact ⟨_, _, result, shown, iff_of_true past (fun stale => absurd stale fresh)⟩
  · refine ⟨_, _, result, rfl, iff_of_true past (fun _ undecoded => ?_)⟩
    rw [decoded] at undecoded
    exact absurd undecoded (Option.some_ne_none time)
  · refine ⟨_, _, result, rfl, ?_⟩
    simp only [stale, undecoded, forall_const, counted]
    omega
  · refine ⟨_, _, result, rfl, iff_of_true ?_ (fun _ undecoded => absurd undecoded decoded)⟩
    simp only [counted]
    omega

theorem stamp_shown {context : FrameContext} {call : FrameCall} {packet : AVPacket}
    (sane : context.error = 0) (exit : context.readVideo call.reads = .video packet)
    (lasting : (rescale { packet with streamIndex := 0, pos := -1 }).Lasts context.fps
      context.timeBase) :
    ∃ later written,
      context.stamp unboundedSum (rescale { packet with streamIndex := 0, pos := -1 }) =
        .ok (later, written) ∧
      written.pts = some later.prePts ∧
      (context.prePts < later.prePts ↔ context.Outlasts rescale call) := by
  unfold stamp Outlasts
  rw [exit]
  dsimp only
  unfold AVPacket.Lasts at lasting
  cases timed : (rescale { packet with streamIndex := 0, pos := -1 }).withDuration context.fps
      context.timeBase with
  | error fault =>
      rw [timed] at lasting
      exact lasting.elim
  | ok read =>
      rw [timed] at lasting
      obtain ⟨later, written, result, shown, rises⟩ := restamp_shown context lasting
      refine ⟨later, written, result, shown, rises.trans ?_⟩
      exact ⟨fun outlasts _ => outlasts, fun outlasts => outlasts sane⟩

theorem restamp_rate {context later : FrameContext} {packet written : AVPacket}
    (result : context.restamp sum packet = .ok (later, written)) :
    later.fps = context.fps ∧ later.timeBase = context.timeBase := by
  have stamped (total : Except ArithmeticFault Int)
      (mapped : total.map (context.stampAt packet) = .ok (later, written)) :
      later.fps = context.fps ∧ later.timeBase = context.timeBase := by
    cases total with
    | error fault => cases mapped
    | ok time =>
        cases mapped
        exact ⟨rfl, rfl⟩
  unfold restamp at result
  split at result
  · split at result
    · exact stamped _ result
    · split at result
      · exact stamped _ result
      · cases result
        exact ⟨rfl, rfl⟩
  · cases result
    exact ⟨rfl, rfl⟩

theorem next_rate (sum : TimeSum) (rescale : AVPacket → AVPacket) (context : FrameContext)
    (call : FrameCall) :
    ((machine sum rescale).next context call).fps = context.fps ∧
      ((machine sum rescale).next context call).timeBase = context.timeBase := by
  simp only [machine, ffGetFrame]
  split
  · exact ⟨rfl, rfl⟩
  · split
    · exact ⟨rfl, rfl⟩
    · exact ⟨rfl, rfl⟩
    · split
      · rename_i later written result
        unfold stamp at result
        cases timed : (rescale _).withDuration context.fps context.timeBase with
        | error fault =>
            rw [timed] at result
            cases result
        | ok read =>
            rw [timed] at result
            obtain ⟨fpsEq, baseEq⟩ := restamp_rate result
            exact ⟨fpsEq, baseEq⟩
      · exact ⟨rfl, rfl⟩

theorem risesFrom_iff_from {context : FrameContext} (calls : List FrameCall)
    (lasting : ∀ frame ∈ (machine unboundedSum rescale).trace context calls,
      frame.read.Lasts context.fps context.timeBase) :
    RisesFrom context.prePts
        (((machine unboundedSum rescale).trace context calls).map Frame.writtenPts) ↔
      (machine unboundedSum rescale).Along (Outlasts rescale) context calls := by
  induction calls generalizing context with
  | nil => exact iff_of_true trivial trivial
  | cons call rest ih =>
      rw [LabelledMachine.trace_cons] at lasting ⊢
      obtain ⟨fpsEq, baseEq⟩ := next_rate unboundedSum rescale context call
      have later := ih (fun frame member => by
        rw [fpsEq, baseEq]
        exact lasting frame (List.mem_append_right _ member))
      rw [LabelledMachine.along_cons, ← later]
      rcases call_cases unboundedSum rescale context call with
        ⟨none, ptsEq, prePtsEq⟩ | ⟨packet, read, sane, exit, rescaled, stamped⟩
      · have idle : context.Outlasts rescale call := by
          unfold Outlasts
          cases exit : context.readVideo call.reads with
          | blocked => trivial
          | stopped ret => trivial
          | video packet =>
              dsimp only
              split
              · intro sane
                exact absurd none (emit_ne_nil unboundedSum rescale sane exit)
              · trivial
        rw [none, List.nil_append, prePtsEq]
        exact (and_iff_right idle).symm
      · have reads : ∀ frame, (machine unboundedSum rescale).emit context call = [frame] →
            frame.read.Lasts context.fps context.timeBase := by
          intro frame only
          refine lasting frame (List.mem_append_left _ ?_)
          rw [only]
          exact List.mem_cons_self
        have lastingHere : read.Lasts context.fps context.timeBase := by
          rcases stamped with ⟨_, _, _, only, _⟩ | ⟨_, _, only⟩
          · exact reads _ only
          · exact reads _ only
        subst rescaled
        obtain ⟨after, written, result, shown, rises⟩ := stamp_shown sane exit lastingHere
        rcases stamped with ⟨_, _, same, only, _, prePtsEq⟩ | ⟨_, same, _⟩
        · cases result.symm.trans same
          rw [only, List.cons_append, List.nil_append, List.map_cons, prePtsEq, ← rises]
          simp only [Frame.writtenPts, shown, RisesFrom]
        · cases result.symm.trans same

/-- With lasting packets, whatever times they bring and over any number of passes,
the presentation times written grow strictly exactly when every packet stamped by
counting lasts longer than the count lags. -/
theorem written_rises_iff (rescale : AVPacket → AVPacket) (repeatedly : Bool)
    (videoStreamId : Int) (fps : FrameRate) (timeBase : TimeBase) (calls : List FrameCall)
    (lasting : ∀ frame ∈
      (machine unboundedSum rescale).trace (create repeatedly videoStreamId fps timeBase) calls,
        frame.read.Lasts fps timeBase) :
    RisesFrom 0
        (((machine unboundedSum rescale).trace (create repeatedly videoStreamId fps timeBase)
          calls).map Frame.writtenPts) ↔
      (machine unboundedSum rescale).Along (Outlasts rescale)
        (create repeatedly videoStreamId fps timeBase) calls :=
  risesFrom_iff_from calls lasting

def readUntimed (duration : Int) : FrameCall :=
  { reads := [.packet ⟨0, 0, none, none, duration⟩]
    muxed := 0 }

/-- Two untimed frames, one with its own times, and one more that lasts long enough. -/
theorem untimed_frames_rise :
    let context := create false 0 palRate palBase
    let calls := [readUntimed 1, readUntimed 0, readOne 5 5 1, readUntimed 4]
    (∀ frame ∈ (machine unboundedSum id).trace context calls, frame.read.Lasts palRate palBase) ∧
      RisesFrom 0 (((machine unboundedSum id).trace context calls).map Frame.writtenPts) := by
  intro context calls
  have lasting : ∀ frame ∈ (machine unboundedSum id).trace context calls,
      frame.read.Lasts palRate palBase := by
    decide
  exact ⟨lasting, (written_rises_iff id false 0 palRate palBase calls lasting).mpr (by decide)⟩

/-- A frame with the time 100 passes; the next one has no times and gets the time 1. -/
theorem untimed_frame_falls_back :
    let context := create false 0 palRate palBase
    let calls := [readOne 100 100 1, readUntimed 1]
    (∀ frame ∈ (machine unboundedSum id).trace context calls, frame.read.Lasts palRate palBase) ∧
      ((machine unboundedSum id).trace context calls).map Frame.writtenPts =
        [some 100, some 1] ∧
      ¬RisesFrom 0 (((machine unboundedSum id).trace context calls).map Frame.writtenPts) := by
  decide

/-- Packets with a decoding time are never stamped by counting. -/
theorem outlasts_of_decoded {context : FrameContext} {call : FrameCall}
    (decoded : ∀ packet, context.readVideo call.reads = .video packet →
      (rescale { packet with streamIndex := 0, pos := -1 }).dts ≠ none) :
    context.Outlasts rescale call := by
  unfold Outlasts
  cases exit : context.readVideo call.reads with
  | blocked => trivial
  | stopped ret => trivial
  | video packet =>
      dsimp only
      cases timed : (rescale { packet with streamIndex := 0, pos := -1 }).withDuration context.fps
          context.timeBase with
      | error fault => trivial
      | ok read =>
          intro _ _ untimed
          rw [withDuration_dts timed] at untimed
          exact absurd untimed (decoded packet exit)

/-! ### The producer's step

`getFrame` of the producer takes the packets and `ret` of a call as given.  The
call modelled here returns such a `ret`: the two agree about the error flag. -/

theorem error_next (sum : TimeSum) (rescale : AVPacket → AVPacket) (context : FrameContext)
    (call : FrameCall) :
    ((machine sum rescale).next context call).error =
      if context.error ≠ 0 then context.error else (context.ffGetFrame sum rescale call).ret := by
  simp only [machine, ffGetFrame]
  by_cases broken : context.error = 0
  · rw [if_neg (not_not_intro broken), if_neg (not_not_intro broken)]
    cases context.readVideo call.reads with
    | blocked => exact broken
    | stopped ret => rfl
    | video packet =>
        dsimp only
        cases context.stamp sum (rescale { packet with streamIndex := 0, pos := -1 }) with
        | error fault => exact broken
        | ok result => rfl
  · rw [if_pos broken, if_pos broken]

variable {Target : Type}

theorem getFrame_error {producer : RtpProducer Target} {video : VideoRequest}
    {file : FileVideoContext Target} {context : FrameContext} {call : FrameCall}
    (found : producer.fileVideoContextMap.find? video = some file) (armed : file.fileEvent = true)
    (same : file.error = context.error) (packets : List (List UInt8)) :
    let ret := (context.ffGetFrame sum rescale call).ret
    let later := (producer.getFrame video packets ret).producer
    (later.fileVideoContextMap.find? video).map FileVideoContext.error =
      some ((machine sum rescale).next context call).error := by
  intro ret later
  change (OrderedMap.find? (producer.getFrame video packets
    (context.ffGetFrame sum rescale call).ret).producer.fileVideoContextMap video).map _ = _
  rw [error_next]
  unfold RtpProducer.getFrame
  rw [found]
  dsimp only
  by_cases broken : context.error = 0
  · rw [if_neg (by simp [armed, same, broken]), if_neg (not_not_intro broken)]
    by_cases failed : (context.ffGetFrame sum rescale call).ret = 0
    · rw [if_neg (not_not_intro failed), found, failed]
      exact congrArg some (same.trans broken)
    · rw [if_pos failed]
      simp only [RtpProducer.markError]
      rw [OrderedMap.find?_modify, if_pos rfl, found]
      rfl
  · rw [if_pos (Or.inr (by rw [same]; exact broken)), found, if_pos broken]
    exact congrArg some same

end FrameContext

end Ffvms.Concrete
