/-
The first outcome of a registration.

A `RegisterVideo` call is followed until its file task or its invite call is
over, under any interleaving with other steps.  Its caller should have heard
exactly once by then, and of an error unless a stream was started.  The main
result says for which videos, states and library results that is so: some calls
of the probe fail without assigning `ret`, two get pointers that nobody checked or
set, one fails after the SDP has been handed over, and a task that an earlier
registration of the same video left behind takes the new context for its own.  A
camera whose peer is known to the network server, or that is not reached by the
acknowledgement, does not stream, and nobody is told.
-/

import Ffvms.Concrete.RtpProducerPeers

namespace Ffvms.Concrete

variable {Target : Type}

/-! ### Outcomes -/

def outcomes (serial : Nat) (effects : List (Effect Target)) : List Callback :=
  effects.filterMap (fun effect =>
    match effect with
    | .callback registration (.processSdp sdp) =>
        if registration.serial = serial then some (.processSdp sdp) else none
    | .callback registration (.processError code) =>
        if registration.serial = serial then some (.processError code) else none
    | _ => none)

@[simp] theorem outcomes_nil (serial : Nat) : outcomes serial ([] : List (Effect Target)) = [] :=
  rfl

@[simp] theorem outcomes_append (serial : Nat) (first second : List (Effect Target)) :
    outcomes serial (first ++ second) = outcomes serial first ++ outcomes serial second :=
  List.filterMap_append

theorem outcomes_of_others {serial : Nat} {effects : List (Effect Target)}
    (others : ∀ registration call, Effect.callback registration call ∈ effects →
      registration.serial ≠ serial ∨ ∃ data, call = .consumePkt data) :
    outcomes serial effects = [] := by
  apply List.filterMap_eq_nil_iff.mpr
  intro effect member
  cases effect with
  | callback registration call =>
      rcases others registration call member with apart | ⟨data, rfl⟩
      · cases call with
        | processSdp sdp => exact if_neg apart
        | processError code => exact if_neg apart
        | consumePkt data => rfl
      · rfl
  | inviteVideo | sendAck | tearDown | registerPeer | demuxerInput | fault => rfl

theorem outcomes_processSdp (registration : Registration Target) (sdp : String) :
    outcomes registration.serial [registration.invoke (.processSdp sdp)] = [.processSdp sdp] := by
  simp [outcomes, Registration.invoke]

theorem outcomes_processError (registration : Registration Target) (code : ErrorCode) :
    outcomes registration.serial [registration.invoke (.processError code)] =
      [.processError code] := by
  simp [outcomes, Registration.invoke]

namespace Probe

def ReachesOutput (probe : Probe) : Prop :=
  0 ≤ probe.openInput ∧ 0 ≤ probe.findStreamInfo ∧ 0 ≤ probe.findBestStream

def ReachesNewStream (probe : Probe) : Prop :=
  probe.ReachesOutput ∧ 0 ≤ probe.allocOutputContext

def ReachesIoContext (probe : Probe) : Prop :=
  probe.ReachesNewStream ∧ probe.newStream = true ∧ 0 ≤ probe.parametersCopy

def ReachesEvent (probe : Probe) : Prop :=
  probe.ReachesIoContext ∧ probe.allocIoContext = true ∧ 0 ≤ probe.sdpCreate ∧
    0 ≤ probe.writeHeader

/-- None of the calls whose failure is not reported fails: the output stream is
made, or `ret` happens to be positive from the call before; the I/O context is
made; and once the SDP has been handed over the timer is made and armed. -/
def Reports (probe : Probe) : Prop :=
  (probe.ReachesNewStream → probe.newStream = true ∨ probe.allocOutputContext ≠ 0) ∧
    (probe.ReachesIoContext → probe.allocIoContext = true) ∧
    (probe.ReachesEvent → probe.eventNew = true ∧ 0 ≤ probe.eventAdd)

end Probe

/-- The exits that leave the caller with one outcome: the started stream, and a
failure with a code to report before the SDP. -/
def OneExit (sdp : String) (exit : ProbeExit × Option String) : Prop :=
  exit = (.started, some sdp) ∨ ∃ ret, ret ≠ 0 ∧ exit = (.broke ret, none)

namespace OneExit

variable {sdp text : String} {flag : Bool} {ret code : Int} {rest : ProbeExit × Option String}

theorem assigned_iff :
    OneExit sdp (if ret < 0 then (.broke ret, none) else rest) ↔ (0 ≤ ret → OneExit sdp rest) := by
  by_cases negative : ret < 0
  · rw [if_pos negative]
    constructor
    · intro _ nonnegative
      omega
    · intro _
      exact Or.inr ⟨ret, ne_of_lt negative, rfl⟩
  · rw [if_neg negative]
    exact (imp_iff_right (not_lt.mp negative)).symm

theorem unassigned_iff :
    OneExit sdp (if flag = false then (.broke ret, none) else rest) ↔
      (flag = true ∨ ret ≠ 0) ∧ (flag = true → OneExit sdp rest) := by
  cases flag with
  | false => simp [OneExit]
  | true => simp

theorem unchecked_iff :
    OneExit sdp (if flag = false then (.crashed .nullIoContext, none) else rest) ↔
      flag = true ∧ OneExit sdp rest := by
  cases flag with
  | false => simp [OneExit]
  | true => simp

theorem late_iff :
    OneExit sdp (if flag = false ∨ code < 0 then (.broke ret, some text)
        else (.started, some sdp)) ↔ flag = true ∧ 0 ≤ code := by
  by_cases failed : flag = false ∨ code < 0
  · rw [if_pos failed]
    constructor
    · rintro (started | ⟨_, _, broke⟩)
      · cases started
      · cases broke
    · rintro ⟨made, added⟩
      rcases failed with missing | rejected
      · rw [missing] at made
        cases made
      · omega
  · rw [if_neg failed]
    refine iff_of_true (Or.inl rfl) ⟨?_, ?_⟩
    · simpa using fun off => failed (Or.inl off)
    · exact not_lt.mp (fun low => failed (Or.inr low))

end OneExit

theorem Probe.reports_iff (probe : Probe) : probe.Reports ↔ OneExit probe.sdp probe.run := by
  unfold Probe.run
  simp only [OneExit.assigned_iff, OneExit.unassigned_iff, OneExit.unchecked_iff, OneExit.late_iff]
  constructor
  · rintro ⟨stream, context, event⟩ opened informed chosen allocated
    have reached : probe.ReachesNewStream := ⟨⟨opened, informed, chosen⟩, allocated⟩
    refine ⟨stream reached, fun made copied => ?_⟩
    have reachedIo : probe.ReachesIoContext := ⟨reached, made, copied⟩
    refine ⟨context reachedIo, fun described headed => ?_⟩
    exact event ⟨reachedIo, context reachedIo, described, headed⟩
  · intro exits
    refine ⟨?_, ?_, ?_⟩
    · rintro ⟨⟨opened, informed, chosen⟩, allocated⟩
      exact (exits opened informed chosen allocated).1
    · rintro ⟨⟨⟨opened, informed, chosen⟩, allocated⟩, made, copied⟩
      exact ((exits opened informed chosen allocated).2 made copied).1
    · rintro ⟨⟨⟨⟨opened, informed, chosen⟩, allocated⟩, made, copied⟩, _, described, headed⟩
      exact ((exits opened informed chosen allocated).2 made copied).2 described headed

/-! ### The course of a registration -/

/-- What the libraries return to the registration that is followed.  `acknowledged` is how the
`SendAck` call of a GB video completes; its callback does no more than log that. -/
structure Environment where
  probe : Probe
  completion : Completion
  acknowledged : Bool

namespace RtpProducer

def Unregistered (producer : RtpProducer Target) (video : VideoRequest) : Prop :=
  producer.fileVideoContextMap.find? video = none ∧ producer.rtpVideoContextMap.find? video = none

def Finished (producer : RtpProducer Target) (serial : Nat) : Prop :=
  producer.fileTasks.find? serial = none ∧ producer.invites.find? serial = none

/-- It is over at the end of the run and not earlier. -/
def FinishesAt (serial : Nat) : RtpProducer Target → List (Step Target) → Prop
  | producer, [] => producer.Finished serial
  | producer, step :: rest =>
      ¬producer.Finished serial ∧ FinishesAt serial (machine.next producer step) rest

/-- The step does not unregister the video, and if it belongs to the
registration the libraries return what the environment says. -/
def Admissible (video : VideoRequest) (serial : Nat) (environment : Environment) :
    Step Target → Prop
  | .unregisterVideo other => other.cmpStr ≠ video.cmpStr
  | .probeFile other probe => other = serial → probe = environment.probe
  | .inviteCallback other completion => other = serial → completion = environment.completion
  | _ => True

/-- A run from the `RegisterVideo` call to the end of its task or call, with
any steps of others in between. -/
def Course (start : RtpProducer Target) (video : VideoRequest) (target : Target)
    (environment : Environment) (later : List (Step Target)) : Prop :=
  (∀ step ∈ later, Admissible video start.nextSerial environment step) ∧
    FinishesAt start.nextSerial (machine.next start (.registerVideo video target)) later

def Holds (producer : RtpProducer Target) (video : VideoRequest) (serial : Nat) : Prop :=
  (∃ context, producer.fileVideoContextMap.find? video = some context ∧
      context.registration.serial = serial) ∨
    ∃ address context, producer.rtpVideoContextMap.find? video = some address ∧
      producer.heap.get? address = some context ∧ context.registration.serial = serial

/-- Its frame timer is armed; or its camera has been sent the acknowledgement, which went
through, and the datagrams of the peer that the camera answered with lead to the context. -/
def Streams (producer : RtpProducer Target) (video : VideoRequest) (serial : Nat)
    (environment : Environment) (effects : List (Effect Target)) : Prop :=
  (∃ context, producer.fileVideoContextMap.find? video = some context ∧
      context.registration.serial = serial ∧ context.fileEvent = true) ∨
    ∃ address context gb, producer.rtpVideoContextMap.find? video = some address ∧
      producer.heap.get? address = some context ∧ context.registration.serial = serial ∧
      .sendAck context.inviteId ∈ effects ∧ environment.acknowledged = true ∧
      environment.completion.success? = some gb ∧
      producer.registeredPeers.find? gb.peerInfo = some address

/-- Exactly one outcome, and an error unless the context is there and streams. -/
structure OneOutcome (video : VideoRequest) (serial : Nat) (environment : Environment)
    (final : RtpProducer Target) (effects : List (Effect Target)) : Prop where
  once : (outcomes serial effects).length = 1
  told : ¬final.Holds video serial ∨ ¬final.Streams video serial environment effects →
    ∃ code, .processError code ∈ outcomes serial effects

/-- No task of an earlier registration of the video is still queued or running. -/
def NoLeftover (producer : RtpProducer Target) (video : VideoRequest) : Prop :=
  ∀ serial task, producer.fileTasks.find? serial = some task → task.video.cmpStr ≠ video.cmpStr

def OwnCall (serial : Nat) : Step Target → Prop
  | .inviteCallback other _ => other = serial
  | _ => False

/-- If the step is a successful answer to the call with this number, then its peer is new to
the network server, and the acknowledgement goes through. -/
def StartsStream (serial : Nat) (environment : Environment) (producer : RtpProducer Target)
    (step : Step Target) : Prop :=
  OwnCall serial step → ∀ peer address, Accepts producer step peer address →
    producer.registeredPeers.find? peer = none ∧ environment.acknowledged = true

end RtpProducer

end Ffvms.Concrete
