/-
After `UnregisterVideo` a GB registration is silent.

The invite callback and the handler in the peer table hold weak pointers, and
both lock them under the mutex under which the map entry is erased.  The entry
is the last strong pointer, so from the erase on nothing in the producer leads
to the callbacks of the registration: not a response in flight, not a handler
that stays in the table, not a new registration of the same video.
-/

import Ffvms.Concrete.RtpProducerInvariant

namespace Ffvms.Concrete.RtpProducer

variable {Target : Type}

/-- No callback with the serial number is left, and none will be made. -/
structure Silenced (serial : Nat) (producer : RtpProducer Target) : Prop where
  consistent : producer.Consistent
  past : serial < producer.nextSerial
  gone : ∀ registration, producer.Registered registration → registration.serial ≠ serial

theorem silenced_step {serial : Nat} {producer : RtpProducer Target} (step : Step Target)
    (silenced : Silenced serial producer) : Silenced serial (machine.next producer step) := by
  refine
    { consistent := consistent_step step silenced.consistent
      past := Nat.lt_of_lt_of_le silenced.past (nextSerial_le_step producer step)
      gone := ?_ }
  intro registration registered
  have past := silenced.past
  rcases registered_former silenced.consistent.owned registered with older | ⟨new, _took⟩
  · exact silenced.gone registration older
  · omega

theorem silenced_emit {serial : Nat} {producer : RtpProducer Target} (step : Step Target)
    (silenced : Silenced serial producer) {registration : Registration Target} {call : Callback}
    (emitted : Effect.callback registration call ∈ machine.emit producer step) :
    registration.serial ≠ serial := by
  have past := silenced.past
  rcases (speaks_of_emitted emitted).registered with older | ⟨video, opens⟩
  · exact silenced.gone registration older
  · have new := opens.2
    omega

theorem silenced_unregisterVideo {producer : RtpProducer Target} {video : VideoRequest}
    {address : Nat} {context : RtpVideoContext Target} (consistent : producer.Consistent)
    (noFile : video.useFile = false) (isGb : video.useGb = true)
    (located : producer.rtpVideoContextMap.find? video = some address)
    (alive : producer.heap.cell? address = some ⟨1, context⟩) :
    Silenced context.registration.serial (machine.next producer (.unregisterVideo video)) := by
  have removed : machine.next producer (.unregisterVideo video) =
      producer.eraseRtp video address := by
    change (producer.unregisterVideo video).producer = _
    simp only [unregisterVideo, noFile, isGb, located, Bool.false_eq_true, if_false, if_true]
  have kept := consistent_step (.unregisterVideo video) consistent
  rw [removed] at kept ⊢
  refine
    { consistent := kept
      past := consistent.below _ (.rtp address _ alive rfl)
      gone := ?_ }
  obtain ⟨files, tasks⟩ := consistent.apart address _ alive
  intro registration registered
  cases registered with
  | file other stored found own =>
      rw [← own]
      exact files other stored found
  | task serial task queued own =>
      rw [← own]
      exact tasks serial task queued
  | rtp other cell found own =>
      change (producer.heap.release address).cell? other = some cell at found
      rw [SharedHeap.cell?_release_last alive] at found
      split_ifs at found with different
      intro same
      rw [← own] at same
      exact different (consistent.unique other address cell _ found alive same)

/-- Once `UnregisterVideo` has removed the registration of a GB video, no step
of any later run invokes one of its callbacks. -/
theorem unregistered_gb_silent (config : ProducerConfig) (before : List (Step Target))
    (video : VideoRequest) (address : Nat) (noFile : video.useFile = false)
    (isGb : video.useGb = true)
    (located : (after config before).rtpVideoContextMap.find? video = some address) :
    ∃ context, (after config before).heap.get? address = some context ∧
      ∀ later call, Effect.callback context.registration call ∉
        machine.trace (machine.next (after config before) (.unregisterVideo video)) later := by
  have consistent := consistent_after config before
  obtain ⟨context, alive, _key⟩ := consistent.owned.held video address located
  refine ⟨context, get?_of_cell? alive, ?_⟩
  intro later call invoked
  have start := silenced_unregisterVideo consistent noFile isGb located alive
  obtain ⟨during, step, rest, _split, emitted⟩ := LabelledMachine.mem_trace_iff.mp invoked
  have reached := LabelledMachine.run_invariant _
    (fun _ step silenced => silenced_step step silenced) start during
  exact silenced_emit step reached emitted rfl

/-- The same camera is registered again with its old peer still in the table, and
a datagram of that peer arrives. -/
theorem unregistered_gb_silent_reinvited :
    let config : ProducerConfig := ⟨"127.0.0.1:8086", 2000, 4, 0, zeroedMemory⟩
    let video : VideoRequest := { VideoRequest.unset with useGb := true, gbid := "camera" }
    let answer : Completion := .answered ⟨"invite", some ⟨"10.0.0.1:5060", 90000, 96, "H264"⟩⟩
      ⟨1, true, true⟩
    let invited : RtpProducer Nat := after config [.registerVideo video 7, .inviteCallback 0 answer]
    ∃ context, invited.heap.get? 0 = some context ∧
      ∀ call, Effect.callback context.registration call ∉
        machine.trace (machine.next invited (.unregisterVideo video))
          [.registerVideo video 8, .receiveDatagram "10.0.0.1:5060" [0] [[1]]] := by
  intro config video answer invited
  obtain ⟨context, alive, silent⟩ := unregistered_gb_silent config
    [.registerVideo video 7, .inviteCallback 0 answer] video 0 rfl rfl (by decide)
  exact ⟨context, alive, silent _⟩

end Ffvms.Concrete.RtpProducer
