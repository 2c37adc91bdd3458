/-
What a failed registration leaves behind.

The service does not call `UnregisterVideo` for a video whose SDP never came, so
a registration that fails has to take its own entry out of the map.  The file
task does so in its last section, if the destructor of the context gets through:
it closes whatever the two format pointers point to, and a probe that breaks off
early has not set the second.  The invite callback and the check of the streaming
mode only report the error, and the entry stays until somebody asks for the same
camera again and is refused.
-/

import Ffvms.Concrete.RtpProducerReport

namespace Ffvms.Concrete.RtpProducer

variable {Target : Type}

structure FailsBeforeSdp (serial : Nat) (effects : List (Effect Target)) : Prop where
  told : ∃ code, .processError code ∈ outcomes serial effects
  noSdp : ∀ sdp, .processSdp sdp ∉ outcomes serial effects

/-- The process survives the step, or the step is the erase of the task with this number. -/
def Survives (serial : Nat) (producer : RtpProducer Target) (step : Step Target) : Prop :=
  step = .cleanFile serial ∨ ∀ fault, .fault fault ∉ machine.emit producer step

/-- If the step is that erase, the context it finds has no pointer that was never set. -/
def EraseSafe (serial : Nat) (producer : RtpProducer Target) (step : Step Target) : Prop :=
  step = .cleanFile serial → ∀ task, producer.fileTasks.find? serial = some task →
    task.phase = .cleaning →
      ∀ context, producer.fileVideoContextMap.find? task.video = some context → ¬context.Wild

def OwnStep (serial : Nat) : Step Target → Prop
  | .probeFile other _ => other = serial
  | .reportFile other => other = serial
  | .cleanFile other => other = serial
  | .inviteCallback other _ => other = serial
  | _ => False

def SameElsewhere (video : VideoRequest) (producer result : RtpProducer Target) : Prop :=
  ∀ other, other.cmpStr ≠ video.cmpStr →
    result.fileVideoContextMap.find? other = producer.fileVideoContextMap.find? other ∧
    result.rtpVideoContextMap.find? other = producer.rtpVideoContextMap.find? other ∧
    ∀ address, producer.rtpVideoContextMap.find? other = some address →
      result.heap.get? address = producer.heap.get? address

/-- The process lives, the video is in neither map, the call and the steps of its task have
changed no other entry, and the next `RegisterVideo` is not refused. -/
structure RolledBack (start : RtpProducer Target) (video : VideoRequest) (target : Target)
    (later : List (Step Target)) : Prop where
  survived : ∀ fault, .fault fault ∉ machine.trace start (.registerVideo video target :: later)
  absent : (machine.run start (.registerVideo video target :: later)).Unregistered video
  others : ∀ during step rest, .registerVideo video target :: later = during ++ step :: rest →
    during = [] ∨ OwnStep start.nextSerial step →
      SameElsewhere video (machine.run start during)
        (machine.next (machine.run start during) step)
  accepted : ∀ again registration, .callback registration (.processError .tooManyFilesOpen) ∉
    machine.emit (machine.run start (.registerVideo video target :: later))
      (.registerVideo video again)

/-! ### The task of a file -/

/-- What is known of a file registration in any interleaving, leftover tasks for
the same video included. -/
structure FileOwner (video : VideoRequest) (serial : Nat) (producer : RtpProducer Target) :
    Prop where
  consistent : producer.Consistent
  numbered : serial < producer.nextSerial
  uncalled : producer.invites.find? serial = none
  tasks : ∀ task, producer.fileTasks.find? serial = some task →
    task.video = video ∧ task.registration.serial = serial

section FileOwner

variable {video : VideoRequest} {serial : Nat} {producer : RtpProducer Target}

theorem FileOwner.next (owner : FileOwner video serial producer) (step : Step Target) :
    FileOwner video serial (machine.next producer step) := by
  have numbered := owner.numbered
  refine
    { consistent := consistent_step step owner.consistent
      numbered := Nat.lt_of_lt_of_le numbered (nextSerial_le_step producer step)
      uncalled := ?_
      tasks := ?_ }
  · cases calling : (machine.next producer step).invites.find? serial with
    | none => rfl
    | some invite =>
        rcases invite_former calling with older | ⟨key, _⟩
        · rw [owner.uncalled] at older
          cases older
        · omega
  · intro task queued
    rcases task_former queued with ⟨old, former, own, same, _⟩ | ⟨key, _⟩
    · rw [own, same]
      exact owner.tasks old former
    · omega

theorem FileOwner.run (owner : FileOwner video serial producer) (later : List (Step Target)) :
    FileOwner video serial (machine.run producer later) :=
  LabelledMachine.run_invariant (FileOwner video serial) (fun _ step owner => owner.next step) owner
    later

theorem FileOwner.sameElsewhere (owner : FileOwner video serial producer) (step : Step Target)
    (own : OwnStep serial step) : SameElsewhere video producer (machine.next producer step) := by
  intro other elsewhere
  have moved := transition producer step
  change (producer.perform step).producer.fileVideoContextMap.find? other = _ ∧
    (producer.perform step).producer.rtpVideoContextMap.find? other = _ ∧
    ∀ address, _ → (producer.perform step).producer.heap.get? address = _
  generalize producer.perform step = result at moved
  have mine {task : FileTask Target} {number : Nat} (here : number = serial)
      (queued : producer.fileTasks.find? number = some task) :
      other.cmpStr ≠ task.video.cmpStr := by
    rw [here] at queued
    rw [(owner.tasks task queued).1]
    exact elsewhere
  have uncalled {invite : Invite} {number : Nat} (here : number = serial)
      (calling : producer.invites.find? number = some invite) : False := by
    rw [here, owner.uncalled] at calling
    cases calling
  cases moved with
  | idle | probeLost | probeCrashed | reported | reportedNobody =>
      exact ⟨rfl, rfl, fun _ _ => rfl⟩
  | ignored | refused | fileQueued | gbUnnamed | gbInvited | fileRemoved | gbRemoved | framed
  | frameFailed | received => exact own.elim
  | probeStarted number probe task sdp context queued running found exit =>
      refine ⟨?_, rfl, fun _ _ => rfl⟩
      change (producer.fileVideoContextMap.modify task.video _).find? other = _
      rw [OrderedMap.find?_modify, if_neg (mine own queued)]
  | probeBroke number probe task ret spoken context queued running found exit =>
      refine ⟨?_, rfl, fun _ _ => rfl⟩
      change (producer.fileVideoContextMap.modify task.video _).find? other = _
      rw [OrderedMap.find?_modify, if_neg (mine own queued)]
  | cleaned number task queued running =>
      refine ⟨?_, rfl, fun _ _ => rfl⟩
      change (producer.fileVideoContextMap.erase task.video).find? other = _
      rw [OrderedMap.find?_erase, if_neg (mine own queued)]
  | inviteLost number completion invite calling dead => exact (uncalled own calling).elim
  | inviteFailed number completion invite context calling alive rejected =>
      exact (uncalled own calling).elim
  | inviteAccepted number completion invite context gb calling alive accepted =>
      exact (uncalled own calling).elim

theorem FileOwner.task_over (owner : FileOwner video serial producer) {step : Step Target}
    {task : FileTask Target} (queued : producer.fileTasks.find? serial = some task)
    (isOver : (machine.next producer step).fileTasks.find? serial = none) :
    (∃ sdp, .processSdp sdp ∈ outcomes serial (machine.emit producer step)) ∨
      (∃ fault, .fault fault ∈ machine.emit producer step) ∨
      (machine.next producer step).fileVideoContextMap.find? video = none := by
  have moved := transition producer step
  change (producer.perform step).producer.fileTasks.find? serial = none at isOver
  change (∃ sdp, _ ∈ outcomes serial (producer.perform step).effects) ∨
    (∃ fault, _ ∈ (producer.perform step).effects) ∨
    (producer.perform step).producer.fileVideoContextMap.find? video = none
  generalize producer.perform step = result at moved isOver
  have unmoved (gone : producer.fileTasks.find? serial = none) : False := by
    rw [queued] at gone
    cases gone
  have rephased {number : Nat} {phase : TaskPhase}
      (gone : (producer.fileTasks.modify number (fun task => { task with phase := phase })).find?
        serial = none) : False := by
    rw [OrderedMap.find?_modify, queued] at gone
    split_ifs at gone
    cases gone
  have ended {number : Nat} {other : FileTask Target}
      (there : producer.fileTasks.find? number = some other)
      (gone : (producer.fileTasks.erase other.registration.serial).find? serial = none) :
      other = task := by
    rw [owner.consistent.taskKey number other there, OrderedMap.find?_erase, queued] at gone
    split_ifs at gone with same
    rw [← same, queued] at there
    exact (Option.some.inj there).symm
  cases moved with
  | idle | ignored | refused | gbUnnamed | gbInvited | fileRemoved | gbRemoved | framed
  | frameFailed | inviteLost | inviteFailed | inviteAccepted | received =>
      exact (unmoved isOver).elim
  | fileQueued added target isFile free =>
      change (producer.fileTasks.insert producer.nextSerial _).find? serial = none at isOver
      rw [OrderedMap.find?_insert, if_neg (Nat.ne_of_lt owner.numbered)] at isOver
      exact (unmoved isOver).elim
  | probeLost | probeBroke | reported | reportedNobody => exact (rephased isOver).elim
  | probeStarted number probe other sdp context there running found exit =>
      have same := ended there isOver
      subst same
      refine Or.inl ⟨sdp, ?_⟩
      rw [← (owner.tasks other queued).2, outcomes_processSdp]
      exact List.mem_singleton_self _
  | probeCrashed number probe other context there running found exit =>
      exact Or.inr (Or.inl ⟨_, List.mem_singleton_self _⟩)
  | cleaned number other there running =>
      have same := ended there isOver
      subst same
      refine Or.inr (Or.inr ?_)
      change (producer.fileVideoContextMap.erase other.video).find? video = none
      rw [(owner.tasks other queued).1]
      exact OrderedMap.find?_erase_self _ _

/-- So a task that ends without SDP and without a crash ends with the entry
erased, whatever other steps there are in between. -/
theorem FileOwner.erased (owner : FileOwner video serial producer) {task : FileTask Target}
    {later : List (Step Target)} (queued : producer.fileTasks.find? serial = some task)
    (ends : FinishesAt serial producer later)
    (noSdp : ∀ sdp, .processSdp sdp ∉ outcomes serial (machine.trace producer later))
    (survived : ∀ fault, .fault fault ∉ machine.trace producer later) :
    (machine.run producer later).fileVideoContextMap.find? video = none := by
  induction later generalizing producer task with
  | nil =>
      have isOver : producer.fileTasks.find? serial = none := ends.1
      rw [queued] at isOver
      cases isOver
  | cons step rest ih =>
      rw [LabelledMachine.trace_cons] at noSdp survived
      rw [outcomes_append] at noSdp
      rw [LabelledMachine.run_cons]
      have onward := owner.next step
      cases still : (machine.next producer step).fileTasks.find? serial with
      | some onwardTask =>
          refine ih onward still ends.2 (fun sdp heard => ?_) (fun fault emitted => ?_)
          · exact noSdp sdp (List.mem_append_right _ heard)
          · exact survived fault (List.mem_append_right _ emitted)
      | none =>
          have last := eq_nil_of_finishesAt ⟨still, onward.uncalled⟩ ends.2
          subst last
          rcases owner.task_over queued still with ⟨sdp, heard⟩ | ⟨fault, emitted⟩ | erased
          · exact absurd (List.mem_append_left _ heard) (noSdp sdp)
          · exact absurd (List.mem_append_left _ emitted) (survived fault)
          · exact erased

end FileOwner

theorem Consistent.noRtp {producer : RtpProducer Target} {video : VideoRequest}
    (consistent : producer.Consistent) (isFile : video.useFile = true) :
    producer.rtpVideoContextMap.find? video = none := by
  cases located : producer.rtpVideoContextMap.find? video with
  | none => rfl
  | some address =>
      obtain ⟨context, here, key⟩ := consistent.owned.held video address located
      have noFile := (consistent.gbKind address _ here).1
      rw [VideoRequest.useFile_congr key, isFile] at noFile
      cases noFile

theorem queued_registerFile {start : RtpProducer Target} {video : VideoRequest} (target : Target)
    (isFile : video.useFile = true) (free : start.Unregistered video) :
    (machine.next start (.registerVideo video target)).fileTasks.find? start.nextSerial =
      some ⟨video, ⟨start.nextSerial, target⟩, .probing⟩ := by
  change (start.perform _).producer.fileTasks.find? _ = _
  rw [next_registerFile target isFile free.1]
  exact OrderedMap.find?_insert_self _ _ _

theorem fileOwner_registerFile {start : RtpProducer Target} {video : VideoRequest}
    (target : Target) (consistent : start.Consistent) (isFile : video.useFile = true)
    (free : start.Unregistered video) :
    FileOwner video start.nextSerial (machine.next start (.registerVideo video target)) := by
  have performed := next_registerFile target isFile free.1
  refine
    { consistent := consistent_step _ consistent
      numbered := ?_
      uncalled := ?_
      tasks := ?_ }
  · change start.nextSerial < (start.perform _).producer.nextSerial
    rw [performed]
    exact Nat.lt_succ_self _
  · change (start.perform _).producer.invites.find? _ = none
    rw [performed]
    exact consistent.fresh.2
  · intro task there
    rw [queued_registerFile target isFile free, Option.some.injEq] at there
    rw [← there]
    exact ⟨rfl, rfl⟩

theorem rolledBack_file {start : RtpProducer Target} {video : VideoRequest} {target : Target}
    {environment : Environment} {later : List (Step Target)} (consistent : start.Consistent)
    (isFile : video.useFile = true) (free : start.Unregistered video)
    (course : Course start video target environment later)
    (fails : FailsBeforeSdp start.nextSerial
      (machine.trace start (.registerVideo video target :: later)))
    (survived : ∀ fault,
      .fault fault ∉ machine.trace start (.registerVideo video target :: later)) :
    RolledBack start video target later := by
  have performed := next_registerFile target isFile free.1
  have queued := queued_registerFile target isFile free
  have owner := fileOwner_registerFile target consistent isFile free
  have consistentNow : (machine.run start (.registerVideo video target :: later)).Consistent :=
    LabelledMachine.run_invariant Consistent
      (fun _ step consistent => consistent_step step consistent) consistent _
  have noSdp := fails.noSdp
  have calm := survived
  rw [trace_registerFile target isFile free.1] at noSdp calm
  have absent : (machine.run start (.registerVideo video target :: later)).Unregistered video :=
    ⟨owner.erased queued course.2 noSdp calm, consistentNow.noRtp isFile⟩
  refine ⟨survived, absent, ?_, ?_⟩
  · intro during step rest split own
    cases during with
    | nil =>
        obtain ⟨first, _⟩ := List.cons.inj split
        subst first
        intro other elsewhere
        change (start.perform _).producer.fileVideoContextMap.find? other = _ ∧
          (start.perform _).producer.rtpVideoContextMap.find? other = _ ∧
          ∀ address, _ → (start.perform _).producer.heap.get? address = _
        rw [performed]
        refine ⟨?_, rfl, fun _ _ => rfl⟩
        change (start.fileVideoContextMap.insert video _).find? other = _
        rw [OrderedMap.find?_insert, if_neg elsewhere]
        rfl
    | cons first during =>
        obtain ⟨first, _⟩ := List.cons.inj split
        subst first
        exact (owner.run during).sameElsewhere step (own.resolve_left (List.cons_ne_nil _ _))
  · intro again registration
    change _ ∉ (RtpProducer.perform _ _).effects
    rw [next_registerFile again isFile absent.1]
    exact List.not_mem_nil

/-! ### GB videos keep their entry -/

theorem gb_held {start : RtpProducer Target} {video : VideoRequest} {target : Target}
    {environment : Environment} {later : List (Step Target)} (consistent : start.Consistent)
    (below : start.PeersBelow) (noFile : video.useFile = false) (isGb : video.useGb = true)
    (free : start.Unregistered video) (course : Course start video target environment later) :
    ∃ address, (machine.run start (.registerVideo video target :: later)).rtpVideoContextMap.find?
      video = some address := by
  rw [LabelledMachine.run_cons]
  cases mode : video.gbStreamingMode.transmission? with
  | some transmission =>
      have begun := gbCourse_start target consistent noFile isGb below free.2 mode
      exact (begun.ends course.1 course.2).held
  | none =>
      have performed := next_registerUnnamed target noFile isGb free.2 mode
      have isOver : later = [] := by
        refine eq_nil_of_finishesAt ?_ course.2
        change (start.perform _).producer.Finished start.nextSerial
        rw [performed]
        exact ⟨consistent.fresh.1, consistent.fresh.2⟩
      subst isOver
      refine ⟨start.heap.next, ?_⟩
      change (start.perform _).producer.rtpVideoContextMap.find? video = _
      rw [performed]
      exact OrderedMap.find?_insert_self _ _ _

/-! ### The erase -/

/-- The effects of the erase in its place: a fault exactly if a pointer of the context it finds
was never set. -/
theorem faultless_clean_iff {producer : RtpProducer Target} {serial : Nat}
    {task : FileTask Target} (queued : producer.fileTasks.find? serial = some task)
    (running : task.phase = .cleaning) :
    (∀ fault, .fault fault ∉ machine.emit producer (.cleanFile serial)) ↔
      ∀ context, producer.fileVideoContextMap.find? task.video = some context →
        ¬context.Wild := by
  have emitted : machine.emit producer (.cleanFile serial) = producer.destroyFile task.video :=
    congrArg Produced.effects (next_cleanFile queued running)
  rw [emitted]
  unfold destroyFile
  cases found : producer.fileVideoContextMap.find? task.video with
  | none => exact iff_of_true (fun _ => List.not_mem_nil) (fun _ other => nomatch other)
  | some context =>
      dsimp only [FileVideoContext.destroy]
      by_cases wild : context.Wild
      · rw [if_pos wild]
        refine iff_of_false (fun calm => calm _ (List.mem_singleton_self _)) (fun safe => ?_)
        exact safe context rfl wild
      · rw [if_neg wild]
        refine iff_of_true (fun _ => List.not_mem_nil) ?_
        intro other same
        cases same
        exact wild

theorem eraseSafe_iff {producer : RtpProducer Target} {serial : Nat} {step : Step Target}
    (survives : Survives serial producer step) :
    EraseSafe serial producer step ↔ ∀ fault, .fault fault ∉ machine.emit producer step := by
  constructor
  · intro safe
    rcases survives with rfl | calm
    · cases queued : producer.fileTasks.find? serial with
      | none =>
          have idle : machine.emit producer (.cleanFile serial) = [] := by
            change (producer.perform _).effects = []
            simp only [perform, queued]
          rw [idle]
          exact fun _ => List.not_mem_nil
      | some task =>
          by_cases running : task.phase = .cleaning
          · exact (faultless_clean_iff queued running).mpr (safe rfl task queued running)
          · have idle : machine.emit producer (.cleanFile serial) = [] := by
              change (producer.perform _).effects = []
              simp only [perform, queued, running, if_false]
            rw [idle]
            exact fun _ => List.not_mem_nil
    · exact calm
  · rintro calm rfl task queued running
    exact (faultless_clean_iff queued running).mp calm

theorem along_eraseSafe_iff {producer : RtpProducer Target} {serial : Nat}
    {later : List (Step Target)} (survives : machine.Along (Survives serial) producer later) :
    machine.Along (EraseSafe serial) producer later ↔
      ∀ fault, .fault fault ∉ machine.trace producer later := by
  induction later generalizing producer with
  | nil => exact iff_of_true trivial (fun _ => List.not_mem_nil)
  | cons step rest ih =>
      rw [LabelledMachine.along_cons, LabelledMachine.trace_cons, ih survives.2,
        eraseSafe_iff survives.1]
      simp only [List.mem_append, not_or]
      exact forall_and.symm

theorem formatted_wild_iff {unset : UnsetPointers} {probe : Probe}
    {context : FileVideoContext Target} (formatted : Formatted unset probe context .cleaning) :
    context.Wild ↔ ¬(unset.oFmtCtxNull = true ∨ probe.ReachesOutput) := by
  unfold FileVideoContext.Wild
  rw [formatted.1, formatted.2, or_iff_right (iFmtCtx_ne_wild probe)]
  unfold Probe.oFmtCtx Probe.ReachesOutput FormatPointer.unset
  by_cases early : probe.openInput < 0 ∨ probe.findStreamInfo < 0 ∨ probe.findBestStream < 0
  · rw [if_pos early, or_iff_left (by omega)]
    cases unset.oFmtCtxNull <;> simp
  · rw [if_neg early]
    refine iff_of_false ?_ (not_not_intro (Or.inr (by omega)))
    split_ifs
    · exact not_false
    · exact not_false

/-- With nobody else about, the context that the erase finds is the one of the registration, as
its probe left it. -/
theorem FileCourse.along_eraseSafe_iff {video : VideoRequest} {registration : Registration Target}
    {phase : TaskPhase} {producer : RtpProducer Target} {environment : Environment}
    {later : List (Step Target)}
    (course : FileCourse video registration environment.probe phase producer)
    (admissible : ∀ step ∈ later, Admissible video registration.serial environment step)
    (ends : FinishesAt registration.serial producer later)
    (survives : machine.Along (Survives registration.serial) producer later)
    (noSdp : ∀ sdp, .processSdp sdp ∉
      outcomes registration.serial (machine.trace producer later)) :
    machine.Along (EraseSafe registration.serial) producer later ↔
      (producer.config.unsetPointers registration.serial).oFmtCtxNull = true ∨
        environment.probe.ReachesOutput := by
  induction later generalizing producer phase with
  | nil =>
      have isOver : producer.fileTasks.find? registration.serial = none := ends.1
      rw [course.queued] at isOver
      cases isOver
  | cons step rest ih =>
      rw [LabelledMachine.trace_cons, outcomes_append] at noSdp
      have onwards {next : TaskPhase}
          (onward : FileCourse video registration environment.probe next
            (machine.next producer step))
          (passes : EraseSafe registration.serial producer step) :
          machine.Along (EraseSafe registration.serial) producer (step :: rest) ↔
            (producer.config.unsetPointers registration.serial).oFmtCtxNull = true ∨
              environment.probe.ReachesOutput := by
        rw [LabelledMachine.along_cons, and_iff_right passes,
          ih onward (fun other member => admissible other (List.mem_cons_of_mem _ member)) ends.2
            survives.2 (fun sdp heard => noSdp sdp (List.mem_append_right _ heard)), config_step]
      cases course.turn (admissible step List.mem_cons_self) with
      | passed onward _ other =>
          refine onwards onward ?_
          intro own task queued running
          rw [course.queued, Option.some.injEq] at queued
          subst queued
          exact absurd own (other running)
      | crashed kind emitted _ other =>
          have calm := survives.1.resolve_left other kind
          rw [emitted] at calm
          exact absurd (List.mem_singleton_self _) calm
      | started sdp context _ heard =>
          rw [heard] at noSdp
          exact absurd (List.mem_append_left _ (List.mem_singleton_self _)) (noSdp sdp)
      | broke ret spoken exit onward heard other =>
          exact onwards onward (fun own => absurd own other)
      | reported ret onward heard other => exact onwards onward (fun own => absurd own other)
      | cleaned own finished _ =>
          have last := eq_nil_of_finishesAt finished ends.2
          subst last
          obtain ⟨context, found, _, _, formatted⟩ := course.stored
          rw [LabelledMachine.along_cons, and_iff_left (LabelledMachine.along_nil _ _),
            ← not_iff_comm.mp (formatted_wild_iff formatted).symm]
          constructor
          · intro safe
            exact safe own _ course.queued rfl context found
          · intro tame _ task queued _ other located
            rw [course.queued, Option.some.injEq] at queued
            subst queued
            rw [found, Option.some.injEq] at located
            rw [← located]
            exact tame

/-! ### The main result -/

/-- A registration that fails before its SDP is rolled back if and only if it is the
registration of a file and its erase finds no pointer that was never set.  Where no other task
is for the file, that is so exactly if the memory had a null pointer there or the probe came to
set it. -/
theorem rolledBack_iff (config : ProducerConfig) (before : List (Step Target))
    (video : VideoRequest) (target : Target) (environment : Environment)
    (later : List (Step Target)) (free : (after config before).Unregistered video)
    (course : Course (after config before) video target environment later)
    (survives : machine.Along (Survives (after config before).nextSerial)
      (machine.next (after config before) (.registerVideo video target)) later)
    (fails : FailsBeforeSdp (after config before).nextSerial
      (machine.trace (after config before) (.registerVideo video target :: later))) :
    (RolledBack (after config before) video target later ↔
      video.useFile = true ∧ machine.Along (EraseSafe (after config before).nextSerial)
        (machine.next (after config before) (.registerVideo video target)) later) ∧
    (video.useFile = true → (after config before).NoLeftover video →
      (machine.Along (EraseSafe (after config before).nextSerial)
          (machine.next (after config before) (.registerVideo video target)) later ↔
        (after config before).nextMemory.oFmtCtxNull = true ∨
          environment.probe.ReachesOutput)) := by
  have consistent := consistent_after config before
  have below := peersBelow_after config before
  generalize after config before = start at free consistent below course survives fails
  refine ⟨⟨?_, ?_⟩, ?_⟩
  · intro rolledBack
    have isFile : video.useFile = true := by
      by_contra other
      have noFile : video.useFile = false := Bool.eq_false_iff.mpr other
      cases isGb : video.useGb with
      | true =>
          obtain ⟨address, located⟩ := gb_held consistent below noFile isGb free course
          rw [rolledBack.absent.2] at located
          cases located
      | false =>
          -- Such a call is ignored, so it does not fail.
          have performed := @next_registerNeither _ start _ target noFile isGb
          have isOver : later = [] := by
            refine eq_nil_of_finishesAt ?_ course.2
            change (start.perform _).producer.Finished start.nextSerial
            rw [performed]
            exact ⟨consistent.fresh.1, consistent.fresh.2⟩
          subst isOver
          obtain ⟨code, heard⟩ := fails.told
          have silent : machine.trace start [.registerVideo video target] = [] := by
            change (start.perform _).effects ++ [] = []
            rw [performed]
            rfl
          rw [silent] at heard
          cases heard
    refine ⟨isFile, (along_eraseSafe_iff survives).mpr ?_⟩
    intro fault emitted
    exact rolledBack.survived fault (List.mem_append_right _ emitted)
  · rintro ⟨isFile, safe⟩
    refine rolledBack_file consistent isFile free course fails ?_
    rw [trace_registerFile target isFile free.1]
    exact (along_eraseSafe_iff survives).mp safe
  · intro isFile alone
    have begun := fileCourse_start target consistent isFile free.1 alone environment.probe
    have noSdp : ∀ sdp, .processSdp sdp ∉ outcomes start.nextSerial
        (machine.trace (machine.next start (.registerVideo video target)) later) := by
      intro sdp heard
      apply fails.noSdp sdp
      rw [LabelledMachine.trace_cons, outcomes_append]
      exact List.mem_append_right _ heard
    rw [begun.along_eraseSafe_iff course.1 course.2 survives noSdp, config_step]
    rfl

/-- The file cannot be opened, the memory was zero, and the task runs without interruption. -/
theorem rolledBack_unopened :
    let config : ProducerConfig := ⟨"127.0.0.1:8086", 2000, 4, 0, zeroedMemory⟩
    let video : VideoRequest := { VideoRequest.unset with useFile := true, filename := "a" }
    RolledBack (after config ([] : List (Step Nat))) video 7
      [.probeFile 0 unopened, .reportFile 0, .cleanFile 0] := by
  intro config video
  let later : List (Step Nat) := [.probeFile 0 unopened, .reportFile 0, .cleanFile 0]
  have told : machine.trace (after config []) (.registerVideo video 7 :: later) =
      [.callback ⟨0, 7⟩ (.processError .invalidArgument)] := by decide +kernel
  have course : Course (after config []) video 7 ⟨unopened, .failed, false⟩ later := by
    refine ⟨?_, fun isOver => ?_, fun isOver => ?_, fun isOver => ?_, ?_, ?_⟩
    · intro step member
      simp only [later, List.mem_cons, List.not_mem_nil, or_false] at member
      rcases member with rfl | rfl | rfl
      · exact fun _ => rfl
      · trivial
      · trivial
    · exact absurd isOver.1 (by decide)
    · exact absurd isOver.1 (by decide)
    · exact absurd isOver.1 (by decide)
    · exact Option.isNone_iff_eq_none.mp (by decide +kernel)
    · exact Option.isNone_iff_eq_none.mp (by decide +kernel)
  have calm : ∀ fault, .fault fault ∉
      machine.trace (after config []) (.registerVideo video 7 :: later) := by
    intro fault emitted
    rw [told] at emitted
    cases List.mem_singleton.mp emitted
  have survives : machine.Along (Survives 0)
      (machine.next (after config []) (.registerVideo video 7)) later := by
    refine ⟨Or.inr ?_, Or.inr ?_, Or.inl rfl, trivial⟩
    · intro fault emitted
      exact calm fault (List.mem_append_right _ (List.mem_append_left _ emitted))
    · intro fault emitted
      exact calm fault (List.mem_append_right _
        (List.mem_append_right _ (List.mem_append_left _ emitted)))
  have fails : FailsBeforeSdp 0
      (machine.trace (after config []) (.registerVideo video 7 :: later)) := by
    rw [told]
    refine ⟨⟨.invalidArgument, List.mem_singleton_self _⟩, fun sdp heard => ?_⟩
    cases List.mem_singleton.mp heard
  obtain ⟨rolledBack, safe⟩ := rolledBack_iff config [] video 7 ⟨unopened, .failed, false⟩ later
    ⟨rfl, rfl⟩ course survives fails
  refine rolledBack.mpr ⟨rfl, (safe rfl ?_).mpr (Or.inl rfl)⟩
  intro serial task queued
  cases queued

/-- The invite of a camera fails: the caller is told, nothing is pending any
more, and the next registration of the camera is refused.  A file cannot be opened, over memory
that is not zero: the erase crashes. -/
theorem failed_invite_stays :
    let config : ProducerConfig := ⟨"127.0.0.1:8086", 2000, 4, 0, fun _ => ⟨true, false⟩⟩
    let video : VideoRequest := { VideoRequest.unset with useGb := true, gbid := "camera" }
    let file : VideoRequest := { VideoRequest.unset with useFile := true, filename := "a" }
    let steps : List (Step Nat) := [.registerVideo video 7, .inviteCallback 0 .failed]
    let unopenedFile : List (Step Nat) :=
      [.registerVideo file 7, .probeFile 0 unopened, .reportFile 0, .cleanFile 0]
    ((after config ([] : List (Step Nat))).Unregistered video ∧
      outcomes 0 (machine.trace (initial config) steps) = [.processError .invalidArgument] ∧
      (after config steps).Finished 0 ∧
      (after config steps).rtpVideoContextMap.find? video = some 0 ∧
      outcomes 1 (machine.emit (after config steps) (.registerVideo video 8)) =
        [.processError .tooManyFilesOpen]) ∧
    machine.trace (initial config) unopenedFile =
      [.callback ⟨0, 7⟩ (.processError .invalidArgument), .fault .wildPointer] := by
  intro config video file steps unopenedFile
  exact ⟨⟨⟨rfl, rfl⟩, by decide, ⟨rfl, rfl⟩, by decide, by decide⟩, by decide +kernel⟩

end Ffvms.Concrete.RtpProducer
