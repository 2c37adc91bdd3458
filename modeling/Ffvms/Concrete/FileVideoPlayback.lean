/-
Playing a file: the calls of `FFGetFrame` on one file, the position in the file
kept from call to call.

A file is the list of its packets.  The reading loop of a call goes on until a
packet of the video stream comes, rewinding a repeated file at its end, and so it
need not end.  `fuel` bounds the calls of `av_read_frame` in it: a result under
some fuel is the result of the call, and a call that has none under any fuel does
not return.  Whether a call returns is said of times in `int64_t`, what a file shows of
times without a bound.
-/

import Ffvms.Concrete.FileVideoFrames

namespace Ffvms.Concrete

structure DataPacket (Payload : Type) where
  header : AVPacket
  data : Payload

structure PlayedFile (Payload : Type) where
  packets : List (DataPacket Payload)
  videoStreamId : Int
  repeatedly : Bool
  rate : FrameRate
  base : TimeBase

/-- `next` is the index of the packet that is read next. -/
structure Player where
  context : FrameContext
  next : Nat

/-- What the world returns during one call: the two seeks on each stream, for the
first rewind of the call, the second and so on, and the write of the packet. -/
structure Tick where
  seeks : Nat → List (Int × Int)
  muxed : Int

/-- What one call hands to the muxer, and whether it calls `processErrorFunc`. -/
structure TickResult (Payload : Type) where
  emitted : List (DataPacket Payload)
  reported : Bool

inductive LoopExit (Payload : Type) where
  | video (packet : DataPacket Payload) (next : Nat)
  | stopped (ret : Int)

/-- The seeks to the start, stream by stream up to the first that fails; that one's
result, if any. -/
def seekStart : List (Int × Int) → Option Int
  | [] => none
  | (io, stream) :: rest =>
      if io < 0 then some io
      else if stream < 0 then some stream
      else seekStart rest

def Tick.Smooth (tick : Tick) : Prop :=
  (∀ rewinds, seekStart (tick.seeks rewinds) = none) ∧ tick.muxed = 0

def TickResult.summary {Payload : Type} (result : TickResult Payload) : List Payload × Bool :=
  (result.emitted.map DataPacket.data, result.reported)

def DataPacket.summary {Payload : Type} (packet : DataPacket Payload) : List Payload × Bool :=
  ([packet.data], false)

namespace PlayedFile

variable {Payload : Type}

def IsVideo (file : PlayedFile Payload) (packet : DataPacket Payload) : Prop :=
  packet.header.streamIndex = file.videoStreamId

instance (file : PlayedFile Payload) : DecidablePred file.IsVideo :=
  fun packet => inferInstanceAs (Decidable (packet.header.streamIndex = _))

def videosFrom (file : PlayedFile Payload) (next : Nat) : List (DataPacket Payload) :=
  (file.packets.drop next).filter (fun packet => file.IsVideo packet)

def videos (file : PlayedFile Payload) : List (DataPacket Payload) :=
  file.videosFrom 0

def readLoop (file : PlayedFile Payload) (seeks : Nat → List (Int × Int)) :
    Nat → Nat → Nat → Option (LoopExit Payload)
  | 0, _, _ => none
  | fuel + 1, rewinds, next =>
      match file.packets[next]? with
      | none =>
          if file.repeatedly then
            match seekStart (seeks rewinds) with
            | none => readLoop file seeks fuel (rewinds + 1) 0
            | some ret => some (.stopped ret)
          else some (.stopped averrorEof)
      | some packet =>
          if ¬file.IsVideo packet then readLoop file seeks fuel rewinds (next + 1)
          else some (.video packet (next + 1))

def timed (file : PlayedFile Payload) (read : AVPacket) : Except ArithmeticFault AVPacket :=
  read.withDuration file.rate file.base

def ffGetFrame (sum : TimeSum) (rescale : AVPacket → AVPacket) (file : PlayedFile Payload)
    (fuel : Nat) (player : Player) (tick : Tick) :
    Option (Except ArithmeticFault (Player × TickResult Payload)) :=
  if player.context.error ≠ 0 then some (.ok (player, ⟨[], false⟩))
  else
    match file.readLoop tick.seeks fuel 0 player.next with
    | none => none
    | some (.stopped ret) =>
        some (.ok (⟨{ player.context with error := ret }, player.next⟩, ⟨[], ret ≠ 0⟩))
    | some (.video packet next) =>
        some (do
          let read ← file.timed (rescale { packet.header with streamIndex := 0, pos := -1 })
          let (context, written) ← player.context.restamp sum read
          return (⟨{ context with error := tick.muxed }, next⟩,
            ⟨[⟨written, packet.data⟩], tick.muxed ≠ 0⟩))

def start (file : PlayedFile Payload) : Player :=
  { context := FrameContext.create file.repeatedly file.videoStreamId file.rate file.base
    next := 0 }

/-- Each call is a step.  After a call that did not return there is no next one, and
the state is left as it was. -/
def machine (rescale : AVPacket → AVPacket) (file : PlayedFile Payload) (fuel : Nat) :
    LabelledMachine Player Tick (Option (Except ArithmeticFault (TickResult Payload))) :=
  { next := fun player tick =>
      match file.ffGetFrame unboundedSum rescale fuel player tick with
      | some (.ok (later, _)) => later
      | _ => player
    emit := fun player tick =>
      [(file.ffGetFrame unboundedSum rescale fuel player tick).map (Except.map Prod.snd)] }

/-! ### One pass over the file -/

section Pass

variable {file : PlayedFile Payload} {seeks : Nat → List (Int × Int)}

theorem videosFrom_of_end {next : Nat} (ended : file.packets[next]? = none) :
    file.videosFrom next = [] := by
  have past : file.packets.length ≤ next := List.getElem?_eq_none_iff.mp ended
  unfold videosFrom
  rw [List.drop_eq_nil_of_le past, List.filter_nil]

theorem videosFrom_of_packet {next : Nat} {packet : DataPacket Payload}
    (found : file.packets[next]? = some packet) :
    file.videosFrom next =
      if file.IsVideo packet then packet :: file.videosFrom (next + 1)
      else file.videosFrom (next + 1) := by
  obtain ⟨inside, same⟩ := List.getElem?_eq_some_iff.mp found
  unfold videosFrom
  rw [List.drop_eq_getElem_cons inside, same]
  by_cases video : file.IsVideo packet
  · rw [if_pos video, List.filter_cons_of_pos (by simp [video])]
  · rw [if_neg video, List.filter_cons_of_neg (by simp [video])]

theorem readLoop_video {packet : DataPacket Payload} {more : List (DataPacket Payload)}
    (fuel rewinds next : Nat) (ahead : file.videosFrom next = packet :: more)
    (enough : file.packets.length ≤ next + fuel) :
    ∃ later, file.readLoop seeks fuel rewinds next = some (.video packet later) ∧
      file.videosFrom later = more := by
  induction fuel generalizing next with
  | zero =>
      have ended : file.packets[next]? = none := List.getElem?_eq_none_iff.mpr enough
      rw [videosFrom_of_end ended] at ahead
      cases ahead
  | succ fuel ih =>
      unfold readLoop
      cases found : file.packets[next]? with
      | none =>
          rw [videosFrom_of_end found] at ahead
          cases ahead
      | some other =>
          rw [videosFrom_of_packet found] at ahead
          by_cases video : file.IsVideo other
          · rw [if_pos video] at ahead
            obtain ⟨rfl, rfl⟩ := List.cons.inj ahead
            simp only [video, not_true_eq_false, if_false]
            exact ⟨next + 1, rfl, rfl⟩
          · rw [if_neg video] at ahead
            simp only [video, not_false_eq_true, if_true]
            exact ih (next + 1) ahead (by omega)

theorem readLoop_end (fuel rewinds : Nat) {next left : Nat} (ahead : file.videosFrom next = [])
    (leftEq : file.packets.length - next = left) :
    file.readLoop seeks (left + (fuel + 1)) rewinds next =
      file.readLoop seeks (fuel + 1) rewinds file.packets.length := by
  induction left generalizing next with
  | zero =>
      have ended : file.packets[next]? = none := List.getElem?_eq_none_iff.mpr (by omega)
      have same : file.packets[file.packets.length]? = none :=
        List.getElem?_eq_none_iff.mpr (le_refl _)
      rw [Nat.zero_add]
      simp only [readLoop, ended, same]
  | succ left ih =>
      obtain ⟨packet, found⟩ : ∃ packet, file.packets[next]? = some packet :=
        ⟨_, List.getElem?_eq_getElem (by omega)⟩
      rw [videosFrom_of_packet found] at ahead
      by_cases video : file.IsVideo packet
      · rw [if_pos video] at ahead
        cases ahead
      · rw [if_neg video] at ahead
        have later := ih ahead (by omega)
        rw [Nat.succ_add]
        conv_lhs => unfold readLoop
        simp only [found, video, not_false_eq_true, if_true]
        exact later

theorem readLoop_length (fuel rewinds : Nat) :
    file.readLoop seeks (fuel + 1) rewinds file.packets.length =
      if file.repeatedly then
        match seekStart (seeks rewinds) with
        | none => file.readLoop seeks fuel (rewinds + 1) 0
        | some ret => some (.stopped ret)
      else some (.stopped averrorEof) := by
  have ended : file.packets[file.packets.length]? = none :=
    List.getElem?_eq_none_iff.mpr (le_refl _)
  conv_lhs => unfold readLoop
  simp only [ended]

end Pass

/-! ### One call -/

def lasting (file : PlayedFile Payload) (read : AVPacket) : Int :=
  if read.duration = 0 then file.base.den * file.rate.den / (file.rate.num * file.base.num)
  else read.duration

/-- A video packet without a duration finds a known rate, and the two products are in
the range of `int`. -/
def Timed (rescale : AVPacket → AVPacket) (file : PlayedFile Payload) : Prop :=
  ∀ packet ∈ file.packets, file.IsVideo packet →
    (rescale { packet.header with streamIndex := 0, pos := -1 }).duration = 0 →
      0 < file.rate.num ∧ file.base.den * file.rate.den < intLimit ∧
        file.rate.num * file.base.num < intLimit

section Call

variable {sum : TimeSum} {rescale : AVPacket → AVPacket} {file : PlayedFile Payload} {fuel : Nat}
  {player : Player} {tick : Tick}

theorem timed_eq_ok_iff {packet read : AVPacket} :
    file.timed packet = .ok read ↔
      (packet.duration = 0 →
        0 < file.rate.num ∧ file.base.den * file.rate.den < intLimit ∧
          file.rate.num * file.base.num < intLimit) ∧
      read = { packet with duration := file.lasting packet } := by
  unfold PlayedFile.timed AVPacket.withDuration lasting
  by_cases missing : packet.duration = 0
  · rw [if_pos missing, if_pos missing, forall_prop_of_true missing]
    cases fallback : file.rate.fallbackDuration file.base with
    | error fault =>
        constructor
        · intro impossible
          cases impossible
        · intro ⟨⟨known, dividendFits, divisorFits⟩, _⟩
          have found := (FrameRate.fallbackDuration_eq_ok_iff file.rate file.base).mpr
            ⟨known, dividendFits, divisorFits, rfl⟩
          rw [fallback] at found
          cases found
    | ok duration =>
        obtain ⟨known, dividendFits, divisorFits, result⟩ :=
          (FrameRate.fallbackDuration_eq_ok_iff file.rate file.base).mp fallback
        rw [← result, and_iff_right ⟨known, dividendFits, divisorFits⟩]
        constructor
        · intro same
          cases same
          rfl
        · intro same
          rw [same]
          rfl
  · rw [if_neg missing, if_neg missing, Except.ok.injEq]
    constructor
    · intro same
      exact ⟨fun absent => absurd absent missing, same.symm⟩
    · intro ⟨_, same⟩
      exact same.symm

theorem timed_ok (timed : file.Timed rescale) {packet : DataPacket Payload}
    (member : packet ∈ file.packets) (video : file.IsVideo packet) :
    ∃ read, file.timed (rescale { packet.header with streamIndex := 0, pos := -1 }) = .ok read :=
  ⟨_, timed_eq_ok_iff.mpr ⟨timed packet member video, rfl⟩⟩

theorem ffGetFrame_of_error (broken : player.context.error ≠ 0) :
    file.ffGetFrame sum rescale fuel player tick = some (.ok (player, ⟨[], false⟩)) := by
  unfold ffGetFrame
  rw [if_pos broken]

theorem ffGetFrame_of_unfinished (sane : player.context.error = 0)
    (exit : file.readLoop tick.seeks fuel 0 player.next = none) :
    file.ffGetFrame sum rescale fuel player tick = none := by
  unfold ffGetFrame
  rw [if_neg (not_not_intro sane), exit]

theorem ffGetFrame_of_stopped {ret : Int} (sane : player.context.error = 0)
    (exit : file.readLoop tick.seeks fuel 0 player.next = some (.stopped ret)) :
    file.ffGetFrame sum rescale fuel player tick =
      some (.ok (⟨{ player.context with error := ret }, player.next⟩, ⟨[], ret ≠ 0⟩)) := by
  unfold ffGetFrame
  rw [if_neg (not_not_intro sane), exit]

/-- With a video packet, the call comes back exactly when the arithmetic on it has a result. -/
theorem ffGetFrame_of_video {packet : DataPacket Payload} {next : Nat}
    {result : Player × TickResult Payload} (sane : player.context.error = 0)
    (exit : file.readLoop tick.seeks fuel 0 player.next = some (.video packet next)) :
    file.ffGetFrame sum rescale fuel player tick = some (.ok result) ↔
      ∃ read context written,
        file.timed (rescale { packet.header with streamIndex := 0, pos := -1 }) = .ok read ∧
        player.context.restamp sum read = .ok (context, written) ∧
        result = (⟨{ context with error := tick.muxed }, next⟩,
          ⟨[⟨written, packet.data⟩], tick.muxed ≠ 0⟩) := by
  unfold ffGetFrame
  rw [if_neg (not_not_intro sane), exit]
  simp only [Option.some.injEq, CheckedInt.bind_eq_ok_iff, Prod.exists]
  constructor
  · intro ⟨read, computed, context, written, stamped, same⟩
    exact ⟨read, context, written, computed, stamped, (Except.ok.inj same).symm⟩
  · intro ⟨read, context, written, computed, stamped, same⟩
    exact ⟨read, computed, context, written, stamped, congrArg Except.ok same.symm⟩

end Call

/-! ### When a call returns -/

def Returns (rescale : AVPacket → AVPacket) (file : PlayedFile Payload) (player : Player)
    (tick : Tick) : Prop :=
  ∃ fuel result, file.ffGetFrame int64Sum rescale fuel player tick = some (.ok result)

/-- The video packet that a call at this position comes to: the next one or, at the end of a
repeated file that the rewind takes back to its start, the first one. -/
def reached (file : PlayedFile Payload) (rewind : List (Int × Int)) (next : Nat) :
    Option (DataPacket Payload) :=
  match file.videosFrom next with
  | packet :: _ => some packet
  | [] => if file.repeatedly ∧ seekStart rewind = none then file.videos.head? else none

/-- The packet has a duration or can be given one in `int`, and the time that it is stamped
with, if it is stamped by counting, is in the range of `int64_t`. -/
def Stampable (file : PlayedFile Payload) (context : FrameContext) (read : AVPacket) : Prop :=
  (read.duration = 0 →
    0 < file.rate.num ∧ file.base.den * file.rate.den < intLimit ∧
      file.rate.num * file.base.num < intLimit) ∧
  (context.Stale read →
    match read.dts with
    | none => CheckedInt.Fits int64Limit (context.pts + file.lasting read)
    | some dts =>
        dts ≤ context.prePts → CheckedInt.Fits int64Limit (context.prePts + file.lasting read))

section Return

variable {rescale : AVPacket → AVPacket} {file : PlayedFile Payload}
  {seeks : Nat → List (Int × Int)} {player : Player} {tick : Tick}

theorem videos_eq_nil_iff : file.videos = [] ↔ ¬∃ packet ∈ file.packets, file.IsVideo packet := by
  unfold videos videosFrom
  rw [List.drop_zero, List.filter_eq_nil_iff]
  simp only [decide_eq_true_eq, not_exists, not_and]

theorem readLoop_video_mem {packet : DataPacket Payload} {later : Nat} (fuel rewinds next : Nat)
    (exit : file.readLoop seeks fuel rewinds next = some (.video packet later)) :
    packet ∈ file.packets ∧ file.IsVideo packet := by
  induction fuel generalizing rewinds next with
  | zero => cases exit
  | succ fuel ih =>
      unfold readLoop at exit
      cases found : file.packets[next]? with
      | none =>
          rw [found] at exit
          dsimp only at exit
          split at exit
          · split at exit
            · exact ih (rewinds + 1) 0 exit
            · cases exit
          · cases exit
      | some other =>
          rw [found] at exit
          dsimp only at exit
          by_cases video : file.IsVideo other
          · rw [if_neg (not_not_intro video)] at exit
            cases exit
            exact ⟨List.mem_of_getElem? found, video⟩
          · rw [if_pos video] at exit
            exact ih rewinds (next + 1) exit

def LoopExit.packet? : LoopExit Payload → Option (DataPacket Payload)
  | .video packet _ => some packet
  | .stopped _ => none

theorem readLoop_reached {exit : LoopExit Payload} (fuel rewinds next : Nat)
    (ended : file.readLoop seeks fuel rewinds next = some exit) :
    LoopExit.packet? exit = file.reached (seeks rewinds) next := by
  induction fuel generalizing rewinds next with
  | zero => cases ended
  | succ fuel ih =>
      unfold readLoop at ended
      unfold reached
      cases found : file.packets[next]? with
      | none =>
          rw [found] at ended
          dsimp only at ended
          rw [videosFrom_of_end found]
          by_cases repeated : file.repeatedly = true
          · rw [if_pos repeated] at ended
            cases failed : seekStart (seeks rewinds) with
            | none =>
                rw [failed] at ended
                have again := ih (rewinds + 1) 0 ended
                -- After the rewind it is the first video packet, or none at all.
                unfold reached at again
                simp only [repeated, true_and, if_true]
                rw [again]
                unfold videos
                cases file.videosFrom 0 with
                | nil => exact ite_self none
                | cons packet more => rfl
            | some ret =>
                rw [failed] at ended
                cases ended
                simp [LoopExit.packet?]
          · rw [if_neg repeated] at ended
            cases ended
            simp [LoopExit.packet?, repeated]
      | some other =>
          rw [found] at ended
          dsimp only at ended
          rw [videosFrom_of_packet found]
          by_cases video : file.IsVideo other
          · rw [if_neg (not_not_intro video)] at ended
            cases ended
            rw [if_pos video]
            rfl
          · rw [if_pos video] at ended
            rw [if_neg video]
            exact ih rewinds (next + 1) ended

/-- A pass over the file ends; what is left to show is that the loop ends after a
rewind, if there is one. -/
theorem readLoop_ends {rewinds : Nat} (next : Nat)
    (again : file.repeatedly = true → seekStart (seeks rewinds) = none →
      ∃ fuel exit, file.readLoop seeks fuel (rewinds + 1) 0 = some exit) :
    ∃ fuel exit, file.readLoop seeks fuel rewinds next = some exit := by
  cases ahead : file.videosFrom next with
  | cons packet more =>
      obtain ⟨later, exit, _⟩ :=
        readLoop_video file.packets.length rewinds next ahead (Nat.le_add_left _ _)
      exact ⟨_, _, exit⟩
  | nil =>
      by_cases repeated : file.repeatedly = true
      · cases failed : seekStart (seeks rewinds) with
        | none =>
            obtain ⟨fuel, exit, ended⟩ := again repeated failed
            refine ⟨_, exit, (readLoop_end fuel rewinds ahead rfl).trans ?_⟩
            rw [readLoop_length, if_pos repeated, failed]
            exact ended
        | some ret =>
            refine ⟨_, .stopped ret, (readLoop_end 0 rewinds ahead rfl).trans ?_⟩
            rw [readLoop_length, if_pos repeated, failed]
      · refine ⟨_, .stopped averrorEof, (readLoop_end 0 rewinds ahead rfl).trans ?_⟩
        rw [readLoop_length, if_neg repeated]

theorem readLoop_ends_of_seek (passes rewinds next : Nat)
    (failed : seekStart (seeks (rewinds + passes)) ≠ none) :
    ∃ fuel exit, file.readLoop seeks fuel rewinds next = some exit := by
  induction passes generalizing rewinds next with
  | zero =>
      apply readLoop_ends
      intro _ succeeded
      exact absurd succeeded failed
  | succ passes ih =>
      apply readLoop_ends
      intro _ _
      apply ih
      rw [Nat.add_right_comm, Nat.add_assoc]
      exact failed

theorem readLoop_endless (repeated : file.repeatedly = true)
    (silent : ∀ packet ∈ file.packets, ¬file.IsVideo packet)
    (succeeded : ∀ rewinds, seekStart (seeks rewinds) = none) (fuel rewinds next : Nat) :
    file.readLoop seeks fuel rewinds next = none := by
  induction fuel generalizing rewinds next with
  | zero => rfl
  | succ fuel ih =>
      unfold readLoop
      cases found : file.packets[next]? with
      | none =>
          simp only [repeated, if_true, succeeded]
          exact ih (rewinds + 1) 0
      | some packet =>
          simp only [silent packet (List.mem_of_getElem? found), not_false_eq_true, if_true]
          exact ih rewinds (next + 1)

theorem readLoop_ends_iff (tick : Tick) (next : Nat) :
    (∃ fuel exit, file.readLoop tick.seeks fuel 0 next = some exit) ↔
      file.repeatedly = false ∨ (∃ packet ∈ file.packets, file.IsVideo packet) ∨
        ∃ rewinds, seekStart (tick.seeks rewinds) ≠ none := by
  constructor
  · intro ⟨fuel, exit, ended⟩
    by_contra stuck
    simp only [not_or, not_exists, not_and, ne_eq, not_not, Bool.not_eq_false] at stuck
    obtain ⟨repeated, silent, succeeded⟩ := stuck
    rw [readLoop_endless repeated silent succeeded fuel 0 next] at ended
    cases ended
  · rintro (once | video | ⟨rewinds, failed⟩)
    · apply readLoop_ends
      intro repeated
      rw [once] at repeated
      cases repeated
    · apply readLoop_ends
      intro _ _
      -- The second pass starts at the first packet and meets the video.
      cases whole : file.videos with
      | nil => exact absurd video (videos_eq_nil_iff.mp whole)
      | cons packet more =>
          obtain ⟨later, exit, _⟩ :=
            readLoop_video file.packets.length 1 0 whole (Nat.le_add_left _ _)
          exact ⟨_, _, exit⟩
    · apply readLoop_ends_of_seek rewinds
      rwa [Nat.zero_add]

theorem restamp_int64_iff (context : FrameContext) (read : AVPacket) :
    (∃ result, context.restamp int64Sum read = .ok result) ↔
      (context.Stale read →
        match read.dts with
        | none => CheckedInt.Fits int64Limit (context.pts + read.duration)
        | some dts =>
            dts ≤ context.prePts →
              CheckedInt.Fits int64Limit (context.prePts + read.duration)) := by
  have counted (first : Int) :
      (∃ result, (int64Sum first read.duration).map (context.stampAt read) = .ok result) ↔
        CheckedInt.Fits int64Limit (first + read.duration) := by
    unfold int64Sum CheckedInt.add CheckedInt.check
    by_cases fits : CheckedInt.Fits int64Limit (first + read.duration)
    · rw [if_pos fits]
      exact iff_of_true ⟨_, rfl⟩ fits
    · rw [if_neg fits]
      refine iff_of_false ?_ fits
      intro ⟨result, impossible⟩
      cases impossible
  unfold FrameContext.restamp
  by_cases stale : context.Stale read
  · rw [if_pos stale, forall_prop_of_true stale]
    cases read.dts with
    | none => exact counted context.pts
    | some dts =>
        dsimp only
        by_cases behind : dts ≤ context.prePts
        · rw [if_pos behind, forall_prop_of_true behind]
          exact counted context.prePts
        · rw [if_neg behind]
          exact iff_of_true ⟨_, rfl⟩ (fun old => absurd old behind)
  · rw [if_neg stale]
    exact iff_of_true ⟨_, rfl⟩ (fun old => absurd old stale)

theorem stampable_iff (context : FrameContext) (packet : AVPacket) :
    (∃ read result, file.timed packet = .ok read ∧ context.restamp int64Sum read = .ok result) ↔
      file.Stampable context packet := by
  have stamped := restamp_int64_iff context { packet with duration := file.lasting packet }
  constructor
  · intro ⟨read, result, computed, restamped⟩
    obtain ⟨defined, readEq⟩ := timed_eq_ok_iff.mp computed
    subst readEq
    exact ⟨defined, stamped.mp ⟨result, restamped⟩⟩
  · intro ⟨defined, inRange⟩
    obtain ⟨result, restamped⟩ := stamped.mpr inRange
    exact ⟨_, result, timed_eq_ok_iff.mpr ⟨defined, rfl⟩, restamped⟩

/-- A call at any position of any file returns exactly when an error was met before, or the
loop ends, since the file is played once, has a video packet or one of the rewinds fails, and
the arithmetic on the packet that the loop ends with has a result. -/
theorem returns_iff (rescale : AVPacket → AVPacket) (file : PlayedFile Payload) (player : Player)
    (tick : Tick) :
    file.Returns rescale player tick ↔
      player.context.error ≠ 0 ∨
        (file.repeatedly = false ∨ (∃ packet ∈ file.packets, file.IsVideo packet) ∨
          ∃ rewinds, seekStart (tick.seeks rewinds) ≠ none) ∧
        ∀ packet, file.reached (tick.seeks 0) player.next = some packet →
          file.Stampable player.context
            (rescale { packet.header with streamIndex := 0, pos := -1 }) := by
  by_cases sane : player.context.error = 0
  · rw [← readLoop_ends_iff tick player.next, or_iff_right (not_not_intro sane)]
    constructor
    · intro ⟨fuel, result, returned⟩
      cases exit : file.readLoop tick.seeks fuel 0 player.next with
      | none =>
          rw [ffGetFrame_of_unfinished sane exit] at returned
          cases returned
      | some found =>
          refine ⟨⟨fuel, found, exit⟩, ?_⟩
          rw [← readLoop_reached fuel 0 player.next exit]
          intro packet only
          cases found with
          | stopped ret => cases only
          | video own next =>
              cases only
              obtain ⟨read, context, written, computed, stamped, _⟩ :=
                (ffGetFrame_of_video sane exit).mp returned
              exact (stampable_iff player.context _).mp ⟨read, _, computed, stamped⟩
    · intro ⟨⟨fuel, found, exit⟩, stampable⟩
      rw [← readLoop_reached fuel 0 player.next exit] at stampable
      cases found with
      | stopped ret => exact ⟨fuel, _, ffGetFrame_of_stopped sane exit⟩
      | video packet next =>
          obtain ⟨read, ⟨context, written⟩, computed, stamped⟩ :=
            (stampable_iff player.context _).mpr (stampable packet rfl)
          exact ⟨fuel, _, (ffGetFrame_of_video sane exit).mpr
            ⟨read, context, written, computed, stamped, rfl⟩⟩
  · exact iff_of_true ⟨0, _, ffGetFrame_of_error sane⟩ (Or.inl sane)

end Return

/-! ### Whole playbacks -/

section Play

variable {rescale : AVPacket → AVPacket} {file : PlayedFile Payload} {fuel : Nat} {player : Player}
  {tick : Tick}

theorem trace_of_returned {later : Player} {result : TickResult Payload}
    (returned : file.ffGetFrame unboundedSum rescale fuel player tick = some (.ok (later, result)))
    (rest : List Tick) :
    (file.machine rescale fuel).trace player (tick :: rest) =
      some (.ok result) :: (file.machine rescale fuel).trace later rest := by
  rw [LabelledMachine.trace_cons]
  simp only [machine, returned]
  rfl

theorem trace_length (ticks : List Tick) :
    ((file.machine rescale fuel).trace player ticks).length = ticks.length := by
  induction ticks generalizing player with
  | nil => rfl
  | cons tick rest ih =>
      rw [LabelledMachine.trace_cons, List.length_append, ih, List.length_cons, Nat.add_comm]
      rfl

theorem length_of_traced {ticks : List Tick} {results : List (TickResult Payload)}
    (traced : (file.machine rescale fuel).trace player ticks =
      results.map (fun result => some (.ok result))) : results.length = ticks.length := by
  have lengths := congrArg List.length traced
  rw [trace_length, List.length_map] at lengths
  exact lengths.symm

theorem readLoop_repeated {seeks : Nat → List (Int × Int)} (repeated : file.repeatedly = true)
    (hasVideo : file.videos ≠ []) (succeeded : ∀ rewinds, seekStart (seeks rewinds) = none)
    (enough : 2 * file.packets.length + 1 ≤ fuel) (next : Nat) :
    ∃ packet later, file.readLoop seeks fuel 0 next = some (.video packet later) ∧
      (file.videosFrom next = packet :: file.videosFrom later ∨
        file.videosFrom next = [] ∧ file.videos = packet :: file.videosFrom later) := by
  cases ahead : file.videosFrom next with
  | cons packet more =>
      obtain ⟨later, exit, rest⟩ := readLoop_video fuel 0 next ahead (by omega)
      exact ⟨packet, later, exit, Or.inl (by rw [rest])⟩
  | nil =>
      cases whole : file.videos with
      | nil => exact absurd whole hasVideo
      | cons packet more =>
          obtain ⟨left, leftEq⟩ : ∃ left, file.packets.length - next = left := ⟨_, rfl⟩
          obtain ⟨rest, fuelEq⟩ : ∃ rest, fuel = left + (rest + 1) :=
            ⟨fuel - left - 1, by omega⟩
          obtain ⟨later, (exit : file.readLoop seeks rest 1 0 = _), after⟩ :=
            readLoop_video rest 1 0 whole (by omega)
          refine ⟨packet, later, ?_, Or.inr ⟨rfl, by rw [after]⟩⟩
          rw [fuelEq, readLoop_end rest 0 ahead leftEq, readLoop_length, if_pos repeated,
            succeeded]
          exact exit

theorem readLoop_once {seeks : Nat → List (Int × Int)} (once : file.repeatedly = false)
    (enough : 2 * file.packets.length + 1 ≤ fuel) {next : Nat} (ahead : file.videosFrom next = []) :
    file.readLoop seeks fuel 0 next = some (.stopped averrorEof) := by
  obtain ⟨left, leftEq⟩ : ∃ left, file.packets.length - next = left := ⟨_, rfl⟩
  obtain ⟨rest, fuelEq⟩ : ∃ rest, fuel = left + (rest + 1) := ⟨fuel - left - 1, by omega⟩
  rw [fuelEq, readLoop_end rest 0 ahead leftEq, readLoop_length, once]
  rfl

theorem restamp_ok (context : FrameContext) (read : AVPacket) :
    ∃ later written, context.restamp unboundedSum read = .ok (later, written) := by
  rcases FrameContext.restamp_cases context read with
    ⟨_, _, _, _, result⟩ | ⟨_, _, _, result⟩ | ⟨_, _, _, result⟩
  · exact ⟨_, _, result⟩
  · exact ⟨_, _, result⟩
  · exact ⟨_, _, result⟩

theorem tick_of_video {packet : DataPacket Payload} {next : Nat} (timed : file.Timed rescale)
    (sane : player.context.error = 0) (smooth : tick.Smooth)
    (exit : file.readLoop tick.seeks fuel 0 player.next = some (.video packet next)) :
    ∃ later result, later.context.error = 0 ∧ later.next = next ∧
      result.summary = packet.summary ∧
      ∀ rest, (file.machine rescale fuel).trace player (tick :: rest) =
        some (.ok result) :: (file.machine rescale fuel).trace later rest := by
  obtain ⟨member, video⟩ := readLoop_video_mem fuel 0 player.next exit
  obtain ⟨read, computed⟩ := timed_ok timed member video
  obtain ⟨context, written, stamped⟩ := restamp_ok player.context read
  have returned := (ffGetFrame_of_video sane exit).mpr
    ⟨read, context, written, computed, stamped, rfl⟩
  refine ⟨_, _, smooth.2, rfl, ?_, trace_of_returned returned⟩
  rw [smooth.2]
  rfl

theorem take_replicate_succ {Item : Type} (front items : List Item) (nonempty : items ≠ [])
    (count : Nat) :
    (front ++ (List.replicate (count + 1) items).flatten).take count =
      (front ++ (List.replicate count items).flatten).take count := by
  have positive : 0 < items.length := List.length_pos_iff.mpr nonempty
  have long : count ≤ (front ++ (List.replicate count items).flatten).length := by
    rw [List.length_append, List.length_flatten, List.map_replicate, List.sum_replicate_nat]
    nlinarith
  rw [List.replicate_succ', List.flatten_append, List.flatten_singleton, ← List.append_assoc,
    List.take_append_of_le_length long]

theorem play_repeated (repeated : file.repeatedly = true) (hasVideo : file.videos ≠ [])
    (timed : file.Timed rescale) (enough : 2 * file.packets.length + 1 ≤ fuel)
    (sane : player.context.error = 0) (ticks : List Tick)
    (smooth : ∀ tick ∈ ticks, tick.Smooth) :
    ∃ results : List (TickResult Payload),
      (file.machine rescale fuel).trace player ticks =
        results.map (fun result => some (.ok result)) ∧
      results.map TickResult.summary =
        ((file.videosFrom player.next ++
            (List.replicate ticks.length file.videos).flatten).take ticks.length).map
          DataPacket.summary := by
  induction ticks generalizing player with
  | nil => exact ⟨[], rfl, rfl⟩
  | cons tick rest ih =>
      have smoothHere := smooth tick List.mem_cons_self
      obtain ⟨packet, next, exit, ahead⟩ :=
        readLoop_repeated repeated hasVideo smoothHere.1 enough player.next
      obtain ⟨later, result, saneLater, nextEq, summary, onward⟩ :=
        tick_of_video timed sane smoothHere exit
      obtain ⟨results, traced, summaries⟩ := ih saneLater
        (fun other member => smooth other (List.mem_cons_of_mem tick member))
      refine ⟨result :: results, ?_, ?_⟩
      · rw [onward, traced, List.map_cons]
      · rw [List.map_cons, summary, summaries, nextEq, List.length_cons]
        rcases ahead with here | ⟨ended, again⟩
        · rw [here, List.cons_append, List.take_succ_cons, List.map_cons,
            take_replicate_succ _ _ hasVideo]
        · rw [ended, List.nil_append, List.replicate_succ, List.flatten_cons, again,
            List.cons_append, List.take_succ_cons, List.map_cons]

theorem play_after_error (broken : player.context.error ≠ 0) (ticks : List Tick) :
    (file.machine rescale fuel).trace player ticks =
      (List.replicate ticks.length ⟨[], false⟩).map (fun result => some (.ok result)) := by
  induction ticks with
  | nil => rfl
  | cons tick rest ih =>
      have here : file.ffGetFrame unboundedSum rescale fuel player tick = _ :=
        ffGetFrame_of_error broken
      rw [trace_of_returned here, ih]
      rfl

/-- Each video packet that is left, then one report, then nothing. -/
theorem play_once (once : file.repeatedly = false) (timed : file.Timed rescale)
    (enough : 2 * file.packets.length + 1 ≤ fuel) (sane : player.context.error = 0)
    (ticks : List Tick) (smooth : ∀ tick ∈ ticks, tick.Smooth) :
    ∃ results : List (TickResult Payload),
      (file.machine rescale fuel).trace player ticks =
        results.map (fun result => some (.ok result)) ∧
      results.map TickResult.summary =
        ((file.videosFrom player.next).map DataPacket.summary ++
          ([], true) :: List.replicate ticks.length ([], false)).take ticks.length := by
  induction ticks generalizing player with
  | nil => exact ⟨[], rfl, rfl⟩
  | cons tick rest ih =>
      have smoothHere := smooth tick List.mem_cons_self
      cases ahead : file.videosFrom player.next with
      | cons packet more =>
          obtain ⟨next, exit, after⟩ := readLoop_video fuel 0 player.next ahead (by omega)
          obtain ⟨later, result, saneLater, nextEq, summary, onward⟩ :=
            tick_of_video timed sane smoothHere exit
          obtain ⟨results, traced, summaries⟩ := ih saneLater
            (fun other member => smooth other (List.mem_cons_of_mem tick member))
          refine ⟨result :: results, ?_, ?_⟩
          · rw [onward, traced, List.map_cons]
          · rw [List.map_cons, summary, summaries, nextEq, after, List.length_cons, List.map_cons,
              List.cons_append, List.take_succ_cons, List.replicate_succ', ← List.cons_append,
              ← List.append_assoc]
            congr 1
            apply (List.take_append_of_le_length _).symm
            rw [List.length_append, List.length_cons, List.length_replicate]
            omega
      | nil =>
          have exit : file.readLoop tick.seeks fuel 0 player.next = some (.stopped averrorEof) :=
            readLoop_once once enough ahead
          have returned : file.ffGetFrame unboundedSum rescale fuel player tick =
              some (.ok (_, _)) := ffGetFrame_of_stopped sane exit
          refine ⟨⟨[], true⟩ :: List.replicate rest.length ⟨[], false⟩, ?_, ?_⟩
          · have broken : averrorEof ≠ 0 := by decide
            rw [trace_of_returned returned, play_after_error broken]
            rfl
          · rw [List.length_cons, List.map_nil, List.nil_append, List.take_succ_cons,
              List.map_cons, List.map_replicate, List.take_replicate,
              Nat.min_eq_left (Nat.le_succ _)]
            rfl

def emittedData (results : List (TickResult Payload)) : List Payload :=
  (results.map TickResult.summary).flatMap Prod.fst

/-- A repeated file shows one video packet in each call, over and over in file order,
and no error.  A file played once shows each of them once; the call after the last
reports the end, and later calls do nothing. -/
def Faithful (file : PlayedFile Payload) (results : List (TickResult Payload)) : Prop :=
  if file.repeatedly then
    (∀ result ∈ results, result.emitted.length = 1 ∧ result.reported = false) ∧
      emittedData results =
        (List.replicate results.length (file.videos.map DataPacket.data)).flatten.take
          results.length
  else
    emittedData results = (file.videos.map DataPacket.data).take results.length ∧
      ∀ index result, results[index]? = some result →
        (result.reported = true ↔ index = file.videos.length) ∧
          (file.videos.length ≤ index → result.emitted = [])

theorem flatMap_summary (packets : List (DataPacket Payload)) :
    (packets.map DataPacket.summary).flatMap Prod.fst = packets.map DataPacket.data := by
  induction packets with
  | nil => rfl
  | cons packet rest ih =>
      rw [List.map_cons, List.flatMap_cons, ih]
      rfl

theorem faithful_repeated (repeated : file.repeatedly = true) (hasVideo : file.videos ≠ [])
    {results : List (TickResult Payload)}
    (summaries : results.map TickResult.summary =
      ((file.videos ++ (List.replicate results.length file.videos).flatten).take
        results.length).map DataPacket.summary) : file.Faithful results := by
  unfold Faithful
  rw [if_pos repeated]
  constructor
  · intro result member
    have inside : result.summary ∈ results.map TickResult.summary := List.mem_map_of_mem member
    rw [summaries] at inside
    obtain ⟨packet, _, same⟩ := List.mem_map.mp inside
    obtain ⟨data, reported⟩ := Prod.mk.inj same
    constructor
    · have lengths := congrArg List.length data
      rw [List.length_map] at lengths
      exact lengths.symm
    · exact reported.symm
  · have copies : file.videos ++ (List.replicate results.length file.videos).flatten =
        (List.replicate (results.length + 1) file.videos).flatten := by
      rw [List.replicate_succ, List.flatten_cons]
    have short := take_replicate_succ [] file.videos hasVideo results.length
    rw [List.nil_append, List.nil_append] at short
    unfold emittedData
    rw [summaries, flatMap_summary, copies, short, List.map_take, List.map_flatten,
      List.map_replicate]

theorem faithful_once (once : file.repeatedly = false) {results : List (TickResult Payload)}
    (summaries : results.map TickResult.summary =
      (file.videos.map DataPacket.summary ++
        ([], true) :: List.replicate results.length ([], false)).take results.length) :
    file.Faithful results := by
  unfold Faithful
  rw [if_neg (by rw [once]; exact Bool.false_ne_true)]
  constructor
  · -- Past the video packets nothing is handed over.
    have nothing : ∀ count, ((([], true) :: List.replicate results.length ([], false)).take
        count : List (List Payload × Bool)).flatMap Prod.fst = [] := by
      intro count
      apply List.flatMap_eq_nil_iff.mpr
      intro summary member
      rcases List.mem_cons.mp (List.mem_of_mem_take member) with report | idle
      · rw [report]
      · rw [(List.mem_replicate.mp idle).2]
    unfold emittedData
    rw [summaries, List.take_append, List.flatMap_append, nothing, List.append_nil,
      ← List.map_take, flatMap_summary, List.map_take]
  · intro index result found
    have inside : index < results.length := (List.getElem?_eq_some_iff.mp found).1
    have here : some result.summary = (file.videos.map DataPacket.summary ++
        ([], true) :: List.replicate results.length ([], false))[index]? := by
      rw [← List.getElem?_take_of_lt inside, ← summaries, List.getElem?_map, found]
      rfl
    rcases Nat.lt_trichotomy index file.videos.length with early | last | late
    · rw [List.getElem?_append_left (by rw [List.length_map]; exact early),
        List.getElem?_map, List.getElem?_eq_getElem early] at here
      have shown := (Prod.mk.inj (Option.some.inj here)).2
      rw [shown]
      exact ⟨iff_of_false Bool.false_ne_true (by omega), by omega⟩
    · rw [List.getElem?_append_right (by rw [List.length_map]; omega), List.length_map, last,
        Nat.sub_self] at here
      obtain ⟨data, reported⟩ := Prod.mk.inj (Option.some.inj here)
      exact ⟨iff_of_true reported last, fun _ => List.map_eq_nil_iff.mp data⟩
    · rw [List.getElem?_append_right (by rw [List.length_map]; omega), List.length_map,
        show index - file.videos.length = (index - file.videos.length - 1) + 1 by omega,
        List.getElem?_cons_succ, List.getElem?_replicate, if_pos (by omega)] at here
      obtain ⟨data, reported⟩ := Prod.mk.inj (Option.some.inj here)
      rw [reported]
      exact ⟨iff_of_false Bool.false_ne_true (by omega), fun _ => List.map_eq_nil_iff.mp data⟩

end Play

def reads (file : PlayedFile Payload) (seeks : Nat → List (Int × Int)) :
    Nat → Nat → Nat → List ReadFrame
  | 0, _, _ => []
  | fuel + 1, rewinds, next =>
      match file.packets[next]? with
      | none =>
          .endOfFile ((seekStart (seeks rewinds)).getD 0) :: reads file seeks fuel (rewinds + 1) 0
      | some packet => .packet packet.header :: reads file seeks fuel rewinds (next + 1)

structure Matches (file : PlayedFile Payload) (context : FrameContext) : Prop where
  repeatedly : context.repeatedly = file.repeatedly
  videoStreamId : context.videoStreamId = file.videoStreamId
  fps : context.fps = file.rate
  timeBase : context.timeBase = file.base

def LoopExit.toReadExit : Option (LoopExit Payload) → ReadExit
  | none => .blocked
  | some (.stopped ret) => .stopped ret
  | some (.video packet _) => .video packet.header

section Frames

variable {rescale : AVPacket → AVPacket} {file : PlayedFile Payload} {fuel : Nat} {player : Player}
  {tick : Tick} {context : FrameContext}

theorem matches_start : file.Matches file.start.context :=
  ⟨rfl, rfl, rfl, rfl⟩

theorem Matches.restamp (same : file.Matches context) {later : FrameContext}
    {packet written : AVPacket} (error : Int)
    (stamped : context.restamp unboundedSum packet = .ok (later, written)) :
    file.Matches { later with error := error } := by
  rcases FrameContext.restamp_cases context packet with
    ⟨_, _, _, _, result⟩ | ⟨_, _, _, result⟩ | ⟨_, _, _, result⟩
  all_goals
    cases result.symm.trans stamped
    exact ⟨same.repeatedly, same.videoStreamId, same.fps, same.timeBase⟩

theorem seekStart_neg {results : List (Int × Int)} {ret : Int}
    (failed : seekStart results = some ret) : ret < 0 := by
  induction results with
  | nil => cases failed
  | cons first rest ih =>
      unfold seekStart at failed
      split at failed
      · cases failed
        assumption
      · split at failed
        · cases failed
          assumption
        · exact ih failed

theorem readVideo_reads (same : file.Matches context) (seeks : Nat → List (Int × Int))
    (fuel rewinds next : Nat) :
    context.readVideo (file.reads seeks fuel rewinds next) =
      LoopExit.toReadExit (file.readLoop seeks fuel rewinds next) := by
  induction fuel generalizing rewinds next with
  | zero => rfl
  | succ fuel ih =>
      unfold reads readLoop
      cases found : file.packets[next]? with
      | none =>
          simp only [FrameContext.readVideo, same.repeatedly]
          by_cases repeated : file.repeatedly = true
          · rw [if_pos repeated, if_pos repeated]
            cases failed : seekStart (seeks rewinds) with
            | none => exact ih (rewinds + 1) 0
            | some ret => exact if_pos (seekStart_neg failed)
          · rw [if_neg repeated, if_neg repeated]
            rfl
      | some packet =>
          simp only [FrameContext.readVideo, same.videoStreamId]
          by_cases video : file.IsVideo packet
          · have own : packet.header.streamIndex = file.videoStreamId := video
            rw [if_neg (not_not_intro video), if_neg (not_not_intro own)]
            rfl
          · have other : packet.header.streamIndex ≠ file.videoStreamId := video
            rw [if_pos video, if_pos other]
            exact ih rewinds (next + 1)

theorem ffGetFrame_frames {later : Player} {result : TickResult Payload}
    (same : file.Matches player.context)
    (returned : file.ffGetFrame unboundedSum rescale fuel player tick =
      some (.ok (later, result))) :
    let call : FrameCall := ⟨file.reads tick.seeks fuel 0 player.next, tick.muxed⟩
    file.Matches later.context ∧
      (FrameContext.machine unboundedSum rescale).next player.context call = later.context ∧
      ((FrameContext.machine unboundedSum rescale).emit player.context call).map Frame.written =
        result.emitted.map (fun packet => .ok packet.header) := by
  intro call
  have exits : player.context.readVideo call.reads = _ :=
    readVideo_reads same tick.seeks fuel 0 player.next
  simp only [FrameContext.machine, FrameContext.ffGetFrame]
  by_cases sane : player.context.error = 0
  · rw [if_neg (not_not_intro sane)]
    cases exit : file.readLoop tick.seeks fuel 0 player.next with
    | none =>
        rw [ffGetFrame_of_unfinished sane exit] at returned
        cases returned
    | some found =>
        rw [exit] at exits
        cases found with
        | stopped ret =>
            rw [ffGetFrame_of_stopped sane exit] at returned
            cases returned
            rw [exits]
            exact ⟨⟨same.repeatedly, same.videoStreamId, same.fps, same.timeBase⟩, rfl, rfl⟩
        | video packet next =>
            rw [exits]
            obtain ⟨read, context, written, computed, stamped, resultEq⟩ :=
              (ffGetFrame_of_video sane exit).mp returned
            cases resultEq
            have together : player.context.stamp unboundedSum
                (rescale { packet.header with streamIndex := 0, pos := -1 }) =
                  .ok (context, written) := by
              unfold FrameContext.stamp
              rw [same.fps, same.timeBase]
              exact CheckedInt.bind_eq_ok_iff.mpr ⟨read, computed, stamped⟩
            refine ⟨same.restamp tick.muxed stamped, ?_, ?_⟩
            · simp only [LoopExit.toReadExit, together]
              rfl
            · simp only [LoopExit.toReadExit, together]
              rfl
  · rw [if_pos sane]
    rw [ffGetFrame_of_error sane] at returned
    cases returned
    exact ⟨same, rfl, rfl⟩

theorem playback_frames {results : List (TickResult Payload)} (ticks : List Tick)
    (same : file.Matches player.context)
    (returned : (file.machine rescale fuel).trace player ticks =
      results.map (fun result => some (.ok result))) :
    ∃ calls, ((FrameContext.machine unboundedSum rescale).trace player.context calls).map
        Frame.written =
      results.flatMap (fun result => result.emitted.map (fun packet => .ok packet.header)) := by
  induction ticks generalizing player results with
  | nil =>
      cases results with
      | nil => exact ⟨[], rfl⟩
      | cons result others => cases returned
  | cons tick rest ih =>
      cases results with
      | nil => cases returned
      | cons result others =>
          have here := (List.cons.inj returned).1
          obtain ⟨⟨later, own⟩, call, ownEq⟩ : ∃ outcome,
              file.ffGetFrame unboundedSum rescale fuel player tick = some (.ok outcome) ∧
                outcome.2 = result := by
            cases outcome : file.ffGetFrame unboundedSum rescale fuel player tick with
            | none =>
                rw [outcome] at here
                cases here
            | some fine =>
                rw [outcome] at here
                cases fine with
                | error fault => cases here
                | ok pair => exact ⟨pair, rfl, Except.ok.inj (Option.some.inj here)⟩
          cases ownEq
          obtain ⟨sameLater, nextEq, emitted⟩ := ffGetFrame_frames same call
          have onward := (trace_of_returned call rest).symm.trans returned
          obtain ⟨calls, traced⟩ := ih sameLater (List.cons.inj onward).2
          refine ⟨⟨file.reads tick.seeks fuel 0 player.next, tick.muxed⟩ :: calls, ?_⟩
          rw [LabelledMachine.trace_cons, List.map_append, emitted, nextEq, traced,
            List.flatMap_cons]

/-- Calls from the start of the file are a run of `FFGetFrame` on a new context. -/
theorem playback_from_start {results : List (TickResult Payload)} (ticks : List Tick)
    (returned : (file.machine rescale fuel).trace file.start ticks =
      results.map (fun result => some (.ok result))) :
    ∃ calls, ((FrameContext.machine unboundedSum rescale).trace
        (FrameContext.create file.repeatedly file.videoStreamId file.rate file.base) calls).map
          Frame.written =
      results.flatMap (fun result => result.emitted.map (fun packet => .ok packet.header)) :=
  playback_frames ticks matches_start returned

end Frames

/-! ### Files

Stream 0 is video, stream 1 is not. -/

def filePacket (streamIndex duration : Int) (data : Nat) : DataPacket Nat :=
  ⟨⟨streamIndex, 0, none, none, duration⟩, data⟩

def fileOf (repeatedly : Bool) (rate : FrameRate) (packets : List (DataPacket Nat)) :
    PlayedFile Nat :=
  { packets := packets
    videoStreamId := 0
    repeatedly := repeatedly
    rate := rate
    base := palBase }

def smoothTick : Tick := ⟨fun _ => [(0, 0), (0, 0)], 0⟩

theorem smoothTick_smooth : smoothTick.Smooth := ⟨fun _ => rfl, rfl⟩

/-- A repeated file without video: no number of reads is enough. -/
theorem audio_file_never_returns :
    let file := fileOf true palRate [filePacket 1 0 11]
    (∀ fuel, file.ffGetFrame int64Sum id fuel file.start smoothTick = none) ∧
      ¬file.Returns id file.start smoothTick := by
  intro file
  have silent : ∀ packet ∈ file.packets, ¬file.IsVideo packet := by decide
  have blocked : ∀ fuel, file.ffGetFrame int64Sum id fuel file.start smoothTick = none := by
    intro fuel
    exact ffGetFrame_of_unfinished rfl (readLoop_endless rfl silent smoothTick_smooth.1 fuel 0 0)
  refine ⟨blocked, ?_⟩
  intro ⟨fuel, result, returned⟩
  rw [blocked fuel] at returned
  cases returned

end PlayedFile

end Ffvms.Concrete
