/-
A file task and the registration that queued it.

`RegisterFileVideo` keeps the key of its registration, not the context, and looks
the map up again in each of its three sections.  A file that was unregistered and
registered again while the first task is still queued has a new context under the
old key, and the first task works on it.  The main result says in which runs no
task can do so.
-/

import Ffvms.Concrete.RtpProducerInvariant

namespace Ffvms.Concrete.RtpProducer

variable {Target : Type}

/-- The context that a section of a task finds under the key and then opens,
reports on or erases. -/
inductive Touches (producer : RtpProducer Target) :
    Step Target → FileTask Target → FileVideoContext Target → Prop
  | opening (serial : Nat) (probe : Probe) (task : FileTask Target)
      (context : FileVideoContext Target) (queued : producer.fileTasks.find? serial = some task)
      (phase : task.phase = .probing)
      (found : producer.fileVideoContextMap.find? task.video = some context) :
      Touches producer (.probeFile serial probe) task context
  | reporting (serial : Nat) (task : FileTask Target) (ret : Int)
      (context : FileVideoContext Target) (queued : producer.fileTasks.find? serial = some task)
      (phase : task.phase = .reporting ret)
      (found : producer.fileVideoContextMap.find? task.video = some context) :
      Touches producer (.reportFile serial) task context
  | erasing (serial : Nat) (task : FileTask Target) (context : FileVideoContext Target)
      (queued : producer.fileTasks.find? serial = some task) (phase : task.phase = .cleaning)
      (found : producer.fileVideoContextMap.find? task.video = some context) :
      Touches producer (.cleanFile serial) task context

def Step.task? : Step Target → Option Nat
  | .probeFile serial _ | .reportFile serial | .cleanFile serial => some serial
  | .registerVideo _ _ | .unregisterVideo _ | .getFrame _ _ _ | .inviteCallback _ _
  | .receiveDatagram _ _ _ => none

/-- The section works on the context of its own registration only: it opens no
other one, changes or erases no other one and reports on no other one.  The SDP of
a registration is handed over only while its context is in the map. -/
structure ActsOwn (producer : RtpProducer Target) (step : Step Target) : Prop where
  touches : ∀ task context, Touches producer step task context →
    context.registration = task.registration
  changes : ∀ serial task, step.task? = some serial →
    producer.fileTasks.find? serial = some task →
    ∀ video context, producer.fileVideoContextMap.find? video = some context →
      (machine.next producer step).fileVideoContextMap.find? video ≠ some context →
        context.registration = task.registration
  reports : ∀ serial task, step.task? = some serial →
    producer.fileTasks.find? serial = some task →
    ∀ registration code, .callback registration (.processError code) ∈ machine.emit producer step →
      registration = task.registration
  present : ∀ registration sdp, step.task?.isSome = true →
    .callback registration (.processSdp sdp) ∈ machine.emit producer step →
    ∃ video context, producer.fileVideoContextMap.find? video = some context ∧
      context.registration = registration

/-- A file is registered anew only when no task of an earlier registration of the
file is left in the queue or in a thread. -/
def FileSettled (producer : RtpProducer Target) : Step Target → Prop
  | .registerVideo video _ => video.useFile = true →
      producer.fileVideoContextMap.find? video = none →
      ∀ serial task, producer.fileTasks.find? serial = some task →
        task.video.cmpStr ≠ video.cmpStr
  | _ => True

/-! ### What a task can reach -/

theorem Touches.queued {producer : RtpProducer Target} {step : Step Target}
    {task : FileTask Target} {context : FileVideoContext Target}
    (touches : Touches producer step task context) :
    ∃ serial, step.task? = some serial ∧ producer.fileTasks.find? serial = some task := by
  cases touches with
  | opening serial _ _ _ queued _ _ => exact ⟨serial, rfl, queued⟩
  | reporting serial _ _ _ queued _ _ => exact ⟨serial, rfl, queued⟩
  | erasing serial _ _ queued _ _ => exact ⟨serial, rfl, queued⟩

theorem Touches.found {producer : RtpProducer Target} {step : Step Target}
    {task : FileTask Target} {context : FileVideoContext Target}
    (touches : Touches producer step task context) :
    producer.fileVideoContextMap.find? task.video = some context := by
  cases touches with
  | opening _ _ _ _ _ _ found => exact found
  | reporting _ _ _ _ _ _ found => exact found
  | erasing _ _ _ _ _ found => exact found

theorem touches_of_changed {producer : RtpProducer Target} {step : Step Target}
    {video : VideoRequest} {context : FileVideoContext Target}
    (section? : step.task?.isSome = true)
    (found : producer.fileVideoContextMap.find? video = some context)
    (changed : (machine.next producer step).fileVideoContextMap.find? video ≠ some context) :
    ∃ task, Touches producer step task context := by
  have moved := transition producer step
  change (producer.perform step).producer.fileVideoContextMap.find? video ≠ some context at changed
  generalize producer.perform step = result at moved changed
  -- Only the probe and the erase write the map, both under the key of the task.
  cases moved with
  | idle | probeLost | probeCrashed | reported | reportedNobody =>
      exact absurd found changed
  | ignored | refused | fileQueued | gbUnnamed | gbInvited | fileRemoved | gbRemoved | framed
  | frameFailed | inviteLost | inviteFailed | inviteAccepted | received => cases section?
  | probeStarted serial probe task sdp other queued phase here exit
  | probeBroke serial probe task ret spoken other queued phase here exit =>
      change (producer.fileVideoContextMap.modify task.video _).find? video ≠ some context at changed
      rw [OrderedMap.find?_modify] at changed
      split_ifs at changed with same
      · rw [OrderedMap.find?_congr _ same] at found
        exact ⟨task, .opening serial probe task context queued phase found⟩
      · exact absurd found changed
  | cleaned serial task queued phase =>
      change (producer.fileVideoContextMap.erase task.video).find? video ≠ some context at changed
      rw [OrderedMap.find?_erase] at changed
      split_ifs at changed with same
      · rw [OrderedMap.find?_congr _ same] at found
        exact ⟨task, .erasing serial task context queued phase found⟩
      · exact absurd found changed

/-- A section of a task calls back with the context it touches at hand: an error is
reported to the context, the SDP is handed to the registration of the task. -/
theorem touches_of_callback {producer : RtpProducer Target} {step : Step Target}
    {registration : Registration Target} {call : Callback} (section? : step.task?.isSome = true)
    (emitted : .callback registration call ∈ machine.emit producer step) :
    ∃ task context, Touches producer step task context ∧
      (context.registration = registration ∨ task.registration = registration) := by
  have moved := transition producer step
  change _ ∈ (producer.perform step).effects at emitted
  generalize producer.perform step = result at moved emitted
  cases moved with
  | idle | probeLost | probeCrashed | reportedNobody => simp at emitted
  | cleaned => cases mem_destroyFile emitted
  | ignored | refused | fileQueued | gbUnnamed | gbInvited | fileRemoved | gbRemoved | framed
  | frameFailed | inviteLost | inviteFailed | inviteAccepted | received => cases section?
  | probeStarted serial probe task said context queued phase found exit =>
      cases List.mem_singleton.mp emitted
      exact ⟨task, context, .opening serial probe task context queued phase found, Or.inr rfl⟩
  | probeBroke serial probe task ret spoken context queued phase found exit =>
      cases spoken with
      | none => cases emitted
      | some said =>
          cases List.mem_singleton.mp emitted
          exact ⟨task, context, .opening serial probe task context queued phase found, Or.inr rfl⟩
  | reported serial task ret context queued phase found =>
      cases List.mem_singleton.mp emitted
      exact ⟨task, context, .reporting serial task ret context queued phase found, Or.inl rfl⟩

/-! ### Two registrations under one key -/

/-- No task has the context of another registration under its key. -/
def Unaliased (producer : RtpProducer Target) : Prop :=
  ∀ serial task context, producer.fileTasks.find? serial = some task →
    producer.fileVideoContextMap.find? task.video = some context →
      context.registration = task.registration

theorem touches_own {producer : RtpProducer Target} {step : Step Target} {task : FileTask Target}
    {context : FileVideoContext Target} (unaliased : producer.Unaliased)
    (touches : Touches producer step task context) :
    context.registration = task.registration := by
  obtain ⟨serial, _, queued⟩ := touches.queued
  exact unaliased serial task context queued touches.found

theorem actsOwn_of_unaliased {producer : RtpProducer Target} (unaliased : producer.Unaliased)
    (step : Step Target) : ActsOwn producer step := by
  have theTask {serial : Nat} {task other : FileTask Target} {context : FileVideoContext Target}
      (here : step.task? = some serial) (queued : producer.fileTasks.find? serial = some task)
      (touches : Touches producer step other context) : other = task := by
    obtain ⟨number, there, stored⟩ := touches.queued
    rw [here] at there
    cases there
    exact Option.some.inj (stored.symm.trans queued)
  refine
    { touches := fun _ _ touches => touches_own unaliased touches
      changes := ?_
      reports := ?_
      present := ?_ }
  · intro serial task here queued video context found changed
    obtain ⟨other, touches⟩ := touches_of_changed (by rw [here]; rfl) found changed
    rw [← theTask here queued touches]
    exact touches_own unaliased touches
  · intro serial task here queued registration code emitted
    obtain ⟨other, context, touches, same⟩ := touches_of_callback (by rw [here]; rfl) emitted
    have own := touches_own unaliased touches
    rw [← theTask here queued touches]
    rcases same with same | same
    · exact same.symm.trans own
    · exact same.symm
  · intro registration sdp section? emitted
    obtain ⟨task, context, touches, same⟩ := touches_of_callback section? emitted
    have own := touches_own unaliased touches
    refine ⟨task.video, context, touches.found, ?_⟩
    rcases same with same | same
    · exact same
    · exact own.trans same

/-- In each phase a task has a section to run, which finds what is under the key. -/
theorem unaliased_of_actsOwn {producer : RtpProducer Target}
    (acts : ∀ step, ActsOwn producer step) : producer.Unaliased := by
  intro serial task context queued found
  cases phase : task.phase with
  | probing =>
      -- Any probe will do; this one fails at the first call.
      let probe : Probe := ⟨-1, 0, 0, 0, false, 0, false, 0, "v=0", by decide, 0, false, 0⟩
      exact (acts (.probeFile serial probe)).touches task context
        (.opening serial probe task context queued phase found)
  | reporting ret =>
      exact (acts (.reportFile serial)).touches task context
        (.reporting serial task ret context queued phase found)
  | cleaning =>
      exact (acts (.cleanFile serial)).touches task context
        (.erasing serial task context queued phase found)

/-! ### Steps and runs -/

theorem unaliased_step {producer : RtpProducer Target} {step : Step Target}
    (consistent : producer.Consistent) (unaliased : producer.Unaliased)
    (settled : FileSettled producer step) : (machine.next producer step).Unaliased := by
  intro serial task context queued found
  rcases task_former queued with ⟨old, located, own, key, _⟩ | ⟨_, opens, _, free, _⟩
  · rw [key] at found
    rcases file_former found with ⟨former, here, same⟩ | ⟨⟨added, sameKey, isFile, opens⟩, _⟩
    · rw [same, own]
      exact unaliased serial old former located here
    · -- The context is new, so the call was not refused, and the task is a leftover.
      cases taken : producer.fileVideoContextMap.find? added with
      | none =>
          rw [opens.1] at settled
          exact absurd sameKey.symm (settled isFile taken serial old located)
      | some former =>
          have kept : machine.next producer step = producer.takeSerial := by
            rw [opens.1]
            have takenNow : producer.takeSerial.fileVideoContextMap.find? added = some former := taken
            change (producer.registerVideo added _).producer = _
            simp only [registerVideo, isFile, if_true, registerFile, takenNow]
          rw [kept] at found
          have below := consistent.below _ (.file old.video context found rfl)
          have number := opens.2
          omega
  · rcases file_former found with ⟨former, here, _⟩ | ⟨⟨added, _, _, opened⟩, _⟩
    · rw [free] at here
      cases here
    · have sameTarget := (Step.registerVideo.inj (opens.1.symm.trans opened.1)).2
      calc context.registration
          = ⟨producer.nextSerial, context.registration.target⟩ := by rw [← opened.2]
        _ = ⟨producer.nextSerial, task.registration.target⟩ := by rw [sameTarget]
        _ = task.registration := by rw [← opens.2]

/-- A leftover task and the new context under its key. -/
theorem fileSettled_of_unaliased {producer : RtpProducer Target} {step : Step Target}
    (consistent : producer.Consistent) (unaliased : (machine.next producer step).Unaliased) :
    FileSettled producer step := by
  cases step with
  | registerVideo video target =>
      intro isFile free serial task queued same
      have performed : machine.next producer (.registerVideo video target) =
          producer.takeSerial.addFileContext video ⟨producer.nextSerial, target⟩ := by
        change (producer.perform _).producer = _
        rw [next_registerFile target isFile free]
      rw [performed] at unaliased
      have below := consistent.below _ (.task serial task queued rfl)
      have number := consistent.taskKey serial task queued
      have older : serial ≠ producer.nextSerial := by omega
      have stays : (producer.takeSerial.addFileContext video
          ⟨producer.nextSerial, target⟩).fileTasks.find? serial = some task := by
        change (producer.fileTasks.insert producer.nextSerial _).find? serial = some task
        rw [OrderedMap.find?_insert, if_neg older]
        exact queued
      have made : (producer.takeSerial.addFileContext video
          ⟨producer.nextSerial, target⟩).fileVideoContextMap.find? task.video =
            some (.create video ⟨producer.nextSerial, target⟩ producer.nextMemory) := by
        change (producer.fileVideoContextMap.insert video _).find? task.video = _
        rw [OrderedMap.find?_insert, if_pos same]
        rfl
      have equal := congrArg Registration.serial (unaliased serial task _ stays made)
      change producer.nextSerial = task.registration.serial at equal
      omega
  | unregisterVideo | probeFile | reportFile | cleanFile | getFrame | inviteCallback
  | receiveDatagram => trivial

theorem unaliased_initial (config : ProducerConfig) :
    (initial config : RtpProducer Target).Unaliased := by
  intro serial task context queued
  cases queued

/-- In every state of the run, whatever task goes on next acts on its own
registration, exactly when every call of the run that registers a file finds the
tasks of its earlier registrations finished. -/
theorem tasks_act_own_iff (config : ProducerConfig) (steps : List (Step Target)) :
    (∀ before step, before <+: steps → ActsOwn (after config before) step) ↔
      machine.Along FileSettled (initial config) steps := by
  have judged (producer : RtpProducer Target) :
      (∀ step, ActsOwn producer step) ↔ producer.Unaliased :=
    ⟨unaliased_of_actsOwn, actsOwn_of_unaliased⟩
  rw [← LabelledMachine.states_good_iff_along (fun producer => ∀ step, ActsOwn producer step)
    Consistent Unaliased
    (fun _ step consistent => consistent_step step consistent)
    (fun _ _ consistent unaliased settled => unaliased_step consistent unaliased settled)
    (fun _ _ consistent unaliased => fileSettled_of_unaliased consistent unaliased)
    (fun producer _ => judged producer) (consistent_initial config) (unaliased_initial config)]
  constructor
  · intro acts before isPrefix step
    exact acts before step isPrefix
  · intro acts before step isPrefix
    exact acts before isPrefix step

/-- A file is registered, unregistered and registered again before its first task
runs.  The task then opens the context of the second registration, arms its timer
and hands the SDP to the caller of the first. -/
theorem leftover_task_opens_new_context :
    let config : ProducerConfig := ⟨"127.0.0.1:8086", 2000, 4, 0, zeroedMemory⟩
    let video : VideoRequest := { VideoRequest.unset with useFile := true, filename := "a" }
    let probe : Probe := ⟨0, 0, 0, 0, true, 0, true, 0, "v=0", by decide, 0, true, 0⟩
    let steps : List (Step Nat) :=
      [.registerVideo video 7, .unregisterVideo video, .registerVideo video 8]
    let task := (after config steps).fileTasks.find? 0
    let opened := (after config (steps ++ [.probeFile 0 probe])).fileVideoContextMap.find? video
    task.map FileTask.registration = some ⟨0, 7⟩ ∧
      opened.map (fun context => (context.registration, context.fileEvent)) =
        some (⟨1, 8⟩, true) ∧
      machine.emit (after config steps) (.probeFile 0 probe) =
        [.callback ⟨0, 7⟩ (.processSdp "v=0")] := by
  intro config video probe steps task opened
  exact ⟨by decide, by decide, by decide⟩

end Ffvms.Concrete.RtpProducer
