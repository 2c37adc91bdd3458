/-
The failure tail of a file task.

A task whose probe failed takes the lock twice more: to report the error to the
context that it looks up again, and to erase the entry.  A lookup that finds
nothing is logged, and its iterator is used all the same.  The entry can go in the
gap before the report: through an unregistration, or through the last section of
another task with the same key.
-/

import Ffvms.Concrete.RtpProducerTasks

namespace Ffvms.Concrete.RtpProducer

variable {Target : Type}

/-- The iterator past the last entry is not used, and a section of a task changes no
entry of another video. -/
structure SafeTail (producer : RtpProducer Target) (step : Step Target) : Prop where
  found : .fault .endIterator ∉ machine.emit producer step
  others : ∀ serial task, step.task? = some serial →
    producer.fileTasks.find? serial = some task →
    ∀ video, video.cmpStr ≠ task.video.cmpStr →
      (machine.next producer step).fileVideoContextMap.find? video =
        producer.fileVideoContextMap.find? video

inductive Erases (producer : RtpProducer Target) : Step Target → VideoRequest → Prop
  | unregistering (video : VideoRequest) (isFile : video.useFile = true) :
      Erases producer (.unregisterVideo video) video
  | cleaning (serial : Nat) (task : FileTask Target)
      (queued : producer.fileTasks.find? serial = some task) (phase : task.phase = .cleaning) :
      Erases producer (.cleanFile serial) task.video

/-- No entry is erased while a task with its key has an error to report. -/
def AwaitsReport (producer : RtpProducer Target) (step : Step Target) : Prop :=
  ∀ video, Erases producer step video → ∀ serial task ret,
    producer.fileTasks.find? serial = some task → task.phase = .reporting ret →
      task.video.cmpStr ≠ video.cmpStr

def EntriesAwait (producer : RtpProducer Target) : Prop :=
  ∀ serial task ret, producer.fileTasks.find? serial = some task → task.phase = .reporting ret →
    producer.fileVideoContextMap.find? task.video ≠ none

/-! ### One step -/

theorem missing_of_fault {producer : RtpProducer Target} {step : Step Target}
    (emitted : .fault .endIterator ∈ machine.emit producer step) :
    ∃ serial task ret, producer.fileTasks.find? serial = some task ∧
      task.phase = .reporting ret ∧ producer.fileVideoContextMap.find? task.video = none := by
  have moved := transition producer step
  change _ ∈ (producer.perform step).effects at emitted
  generalize producer.perform step = result at moved emitted
  cases moved with
  | reportedNobody serial task ret queued phase missing =>
      exact ⟨serial, task, ret, queued, phase, missing⟩
  | gbRemoved video address noFile isGb located =>
      obtain ⟨context, _, _, same⟩ := mem_tearDownOf emitted
      cases same
  | fileRemoved | cleaned => cases mem_destroyFile emitted
  | probeCrashed serial probe task context queued phase found exit =>
      cases List.mem_singleton.mp emitted
      exact absurd rfl (crashed_ne_endIterator exit)
  | idle | ignored | refused | fileQueued | gbUnnamed | gbInvited | probeLost | probeStarted
  | probeBroke | reported | framed | frameFailed | inviteLost | inviteFailed | inviteAccepted
  | received =>
      simp [Registration.invoke] at emitted

theorem others_unchanged {producer : RtpProducer Target} {step : Step Target} {serial : Nat}
    {task : FileTask Target} (here : step.task? = some serial)
    (queued : producer.fileTasks.find? serial = some task) {video : VideoRequest}
    (other : video.cmpStr ≠ task.video.cmpStr) :
    (machine.next producer step).fileVideoContextMap.find? video =
      producer.fileVideoContextMap.find? video := by
  have moved := transition producer step
  change (producer.perform step).producer.fileVideoContextMap.find? video = _
  generalize producer.perform step = result at moved
  cases moved with
  | idle | probeLost | probeCrashed | reported | reportedNobody => rfl
  | ignored | refused | fileQueued | gbUnnamed | gbInvited | fileRemoved | gbRemoved | framed
  | frameFailed | inviteLost | inviteFailed | inviteAccepted | received => cases here
  | probeStarted number probe owner sdp context located phase found exit
  | probeBroke number probe owner ret spoken context located phase found exit =>
      cases here
      cases located.symm.trans queued
      exact (OrderedMap.find?_modify _ _ _ _).trans (if_neg other)
  | cleaned number owner located phase =>
      cases here
      cases located.symm.trans queued
      exact (OrderedMap.find?_erase _ _ _).trans (if_neg other)

theorem safeTail_of_entriesAwait {producer : RtpProducer Target}
    (entriesAwait : producer.EntriesAwait) (step : Step Target) : SafeTail producer step := by
  refine ⟨?_, fun _ _ here queued _ other => others_unchanged here queued other⟩
  intro emitted
  obtain ⟨serial, task, ret, queued, phase, missing⟩ := missing_of_fault emitted
  exact entriesAwait serial task ret queued phase missing

theorem entriesAwait_of_safeTail {producer : RtpProducer Target}
    (safe : ∀ step, SafeTail producer step) : producer.EntriesAwait := by
  intro serial task ret queued phase missing
  apply (safe (.reportFile serial)).found
  simp only [machine, perform, queued, phase, reportFile, missing]
  exact List.mem_cons_self

theorem reporting_of_setPhase {producer : RtpProducer Target} {number serial : Nat}
    {left : TaskPhase} {task : FileTask Target} {ret : Int}
    (queued : (producer.setPhase number left).fileTasks.find? serial = some task)
    (phase : task.phase = .reporting ret) :
    producer.fileTasks.find? serial = some task ∨
      ∃ old, serial = number ∧ producer.fileTasks.find? serial = some old ∧
        task.video = old.video ∧ left = .reporting ret := by
  change (producer.fileTasks.modify number _).find? serial = some task at queued
  rw [OrderedMap.find?_modify] at queued
  split_ifs at queued with here
  · obtain ⟨old, located, rfl⟩ := Option.map_eq_some_iff.mp queued
    exact Or.inr ⟨old, here, located, rfl, phase⟩
  · exact Or.inl queued

theorem reporting_former {producer : RtpProducer Target} {step : Step Target} {serial : Nat}
    {task : FileTask Target} {ret : Int} (consistent : producer.Consistent)
    (queued : (machine.next producer step).fileTasks.find? serial = some task)
    (phase : task.phase = .reporting ret) :
    producer.fileTasks.find? serial = some task ∨
      (producer.fileVideoContextMap.find? task.video ≠ none ∧
        ∀ video, ¬Erases producer step video) := by
  have moved := transition producer step
  change (producer.perform step).producer.fileTasks.find? serial = some task at queued
  generalize producer.perform step = result at moved queued
  cases moved with
  | idle | ignored | refused | gbUnnamed | gbInvited | fileRemoved | gbRemoved | framed
  | frameFailed | inviteLost | inviteFailed | inviteAccepted | received => exact Or.inl queued
  | fileQueued video target isFile free =>
      change (producer.fileTasks.insert producer.nextSerial _).find? serial = some task at queued
      rw [OrderedMap.find?_insert] at queued
      split_ifs at queued
      · cases queued
        cases phase
      · exact Or.inl queued
  | probeStarted | probeCrashed | cleaned => exact Or.inl (task_former_of_endTask queued)
  | probeLost number probe owner located probing missing =>
      rcases reporting_of_setPhase queued phase with before | ⟨_, _, _, _, left⟩
      · exact Or.inl before
      · cases left
  | reported number owner code context located reporting found
  | reportedNobody number owner code located reporting missing =>
      rcases reporting_of_setPhase queued phase with before | ⟨_, _, _, _, left⟩
      · exact Or.inl before
      · cases left
  | probeBroke number probe owner code spoken context located probing found exit =>
      rcases reporting_of_setPhase queued phase with before | ⟨old, here, same, video, _⟩
      · exact Or.inl before
      · -- The task is the one that was probing, and it had found the context.
        change producer.fileTasks.find? serial = some old at same
        rw [here, consistent.taskKey number owner located, located] at same
        cases same
        rw [video, found]
        exact Or.inr ⟨Option.some_ne_none context, fun _ erases => nomatch erases⟩

theorem present_next {producer : RtpProducer Target} {step : Step Target} {video : VideoRequest}
    (present : producer.fileVideoContextMap.find? video ≠ none)
    (spared : ∀ erased, Erases producer step erased → video.cmpStr ≠ erased.cmpStr) :
    (machine.next producer step).fileVideoContextMap.find? video ≠ none := by
  have modified (key : VideoRequest)
      (change : FileVideoContext Target → FileVideoContext Target) :
      (producer.fileVideoContextMap.modify key change).find? video ≠ none := by
    rw [OrderedMap.find?_modify]
    split_ifs
    · simpa using present
    · exact present
  have moved := transition producer step
  change (producer.perform step).producer.fileVideoContextMap.find? video ≠ none
  generalize producer.perform step = result at moved
  cases moved with
  | idle | ignored | refused | gbUnnamed | gbInvited | gbRemoved | probeLost | probeCrashed
  | reported | reportedNobody | framed | inviteLost | inviteFailed | inviteAccepted
  | received => exact present
  | fileQueued added target isFile free =>
      change (producer.fileVideoContextMap.insert added _).find? video ≠ none
      rw [OrderedMap.find?_insert]
      split_ifs
      · exact Option.some_ne_none _
      · exact present
  | probeStarted serial probe task sdp context queued phase found exit
  | probeBroke serial probe task ret spoken context queued phase found exit =>
      exact modified task.video _
  | frameFailed shown packets ret context found armed => exact modified shown _
  | fileRemoved erased isFile =>
      change (producer.fileVideoContextMap.erase erased).find? video ≠ none
      rw [OrderedMap.find?_erase, if_neg (spared erased (.unregistering erased isFile))]
      exact present
  | cleaned serial task queued phase =>
      change (producer.fileVideoContextMap.erase task.video).find? video ≠ none
      rw [OrderedMap.find?_erase, if_neg (spared task.video (.cleaning serial task queued phase))]
      exact present

/-! ### Runs -/

theorem entriesAwait_step {producer : RtpProducer Target} {step : Step Target}
    (consistent : producer.Consistent) (entriesAwait : producer.EntriesAwait)
    (awaits : AwaitsReport producer step) : (machine.next producer step).EntriesAwait := by
  intro serial task ret queued phase
  rcases reporting_former consistent queued phase with before | ⟨present, keeps⟩
  · apply present_next (entriesAwait serial task ret before phase)
    intro erased erases
    exact awaits erased erases serial task ret before phase
  · apply present_next present
    intro erased erases
    exact absurd erases (keeps erased)

/-- An entry erased too early is missing in the next state. -/
theorem awaits_of_entriesAwait {producer : RtpProducer Target} {step : Step Target}
    (consistent : producer.Consistent) (entriesAwait : (machine.next producer step).EntriesAwait) :
    AwaitsReport producer step := by
  intro video erases serial task ret queued phase same
  cases erases with
  | unregistering video isFile =>
      have performed :
          machine.next producer (.unregisterVideo video) = producer.eraseFile video := by
        simp only [machine, perform, unregisterVideo, isFile, if_true]
      rw [performed] at entriesAwait
      apply entriesAwait serial task ret queued phase
      exact (OrderedMap.find?_erase _ _ _).trans (if_pos same)
  | cleaning number owner located cleaning =>
      have performed : machine.next producer (.cleanFile number) =
          (producer.eraseFile owner.video).endTask number := by
        simp only [machine, perform, located, cleaning, if_true, cleanFile,
          consistent.taskKey number owner located]
      rw [performed] at entriesAwait
      -- The reporting task is not the one that ends here.
      have different : serial ≠ number := by
        intro equal
        rw [equal, located] at queued
        cases queued
        rw [cleaning] at phase
        cases phase
      apply entriesAwait serial task ret _ phase
      · exact (OrderedMap.find?_erase _ _ _).trans (if_pos same)
      · exact ((OrderedMap.find?_erase _ _ _).trans (if_neg different)).trans queued

theorem entriesAwait_initial (config : ProducerConfig) :
    (initial config : RtpProducer Target).EntriesAwait := by
  intro serial task ret queued
  cases queued

/-- In every state of the run, whatever section comes next uses no missing entry and
changes none of another video, exactly when no step of the run erases an entry that
a task is still to report to. -/
theorem safe_tail_iff (config : ProducerConfig) (steps : List (Step Target)) :
    (∀ before step, before <+: steps → SafeTail (after config before) step) ↔
      machine.Along AwaitsReport (initial config) steps := by
  have judged (producer : RtpProducer Target) :
      (∀ step, SafeTail producer step) ↔ producer.EntriesAwait :=
    ⟨entriesAwait_of_safeTail, safeTail_of_entriesAwait⟩
  rw [← LabelledMachine.states_good_iff_along (fun producer => ∀ step, SafeTail producer step)
    Consistent EntriesAwait
    (fun _ step consistent => consistent_step step consistent)
    (fun _ _ consistent entries awaits => entriesAwait_step consistent entries awaits)
    (fun _ _ consistent entries => awaits_of_entriesAwait consistent entries)
    (fun producer _ => judged producer) (consistent_initial config) (entriesAwait_initial config)]
  constructor
  · intro safe before isPrefix step
    exact safe before step isPrefix
  · intro safe before step isPrefix
    exact safe before isPrefix step

/-- The probe fails to open the file; the file is unregistered before the report. -/
theorem unregistered_before_report :
    let config : ProducerConfig := ⟨"127.0.0.1:8086", 2000, 4, 0, zeroedMemory⟩
    let video : VideoRequest := { VideoRequest.unset with useFile := true, filename := "a" }
    let probe : Probe := ⟨-2, 0, 0, 0, false, 0, false, 0, "v=0", by decide, 0, false, 0⟩
    let steps : List (Step Nat) :=
      [.registerVideo video 7, .probeFile 0 probe, .unregisterVideo video]
    machine.emit (after config steps) (.reportFile 0) = [.fault .endIterator] := by
  intro config video probe steps
  decide

end Ffvms.Concrete.RtpProducer
