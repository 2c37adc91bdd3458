/-
Which registrations are reported exactly once.

One direction is the course of the registration, followed to its end.  For the
other a run is built that goes wrong: the task of the registration alone, where
the results are ones that the code does not report, or with the sections of a
leftover task for the same video before it.
-/

import Ffvms.Concrete.RtpProducerCourse

namespace Ffvms.Concrete.RtpProducer

variable {Target : Type}

/-! ### The call itself -/

section Start

variable {producer : RtpProducer Target} {video : VideoRequest} (target : Target)

theorem Consistent.fresh (consistent : producer.Consistent) :
    producer.Finished producer.nextSerial := by
  constructor
  · cases queued : producer.fileTasks.find? producer.nextSerial with
    | none => rfl
    | some task =>
        have numbered := consistent.below _ (.task _ task queued rfl)
        rw [consistent.taskKey _ task queued] at numbered
        exact absurd numbered (Nat.lt_irrefl _)
  · cases calling : producer.invites.find? producer.nextSerial with
    | none => rfl
    | some invite => exact absurd (consistent.callBelow _ invite calling).1 (Nat.lt_irrefl _)

theorem trace_registerFile (isFile : video.useFile = true)
    (free : producer.fileVideoContextMap.find? video = none) (later : List (Step Target)) :
    machine.trace producer (.registerVideo video target :: later) =
      machine.trace (machine.next producer (.registerVideo video target)) later := by
  have quiet : machine.emit producer (.registerVideo video target) = [] :=
    congrArg Produced.effects (next_registerFile target isFile free)
  rw [LabelledMachine.trace_cons, quiet, List.nil_append]

theorem fileCourse_start (consistent : producer.Consistent) (isFile : video.useFile = true)
    (free : producer.fileVideoContextMap.find? video = none)
    (alone : producer.NoLeftover video) (probe : Probe) :
    FileCourse video ⟨producer.nextSerial, target⟩ probe .probing
      (machine.next producer (.registerVideo video target)) := by
  have kept := consistent_step (.registerVideo video target) consistent
  change (producer.perform _).producer.Consistent at kept
  change FileCourse video _ probe .probing (producer.perform _).producer
  rw [next_registerFile target isFile free] at kept ⊢
  refine
    { consistent := kept
      uncalled := consistent.fresh.2
      queued := OrderedMap.find?_insert_self _ _ _
      stored := ⟨_, OrderedMap.find?_insert_self _ _ _, rfl, rfl, rfl, rfl⟩
      own := ?_
      alone := ?_ }
  · intro other context found same
    change (producer.fileVideoContextMap.insert video _).find? other = some context at found
    rw [OrderedMap.find?_insert] at found
    split_ifs at found with sameKey
    · exact sameKey
    · have numbered := consistent.below _ (.file other context found rfl)
      exact absurd same (Nat.ne_of_lt numbered)
  · intro serial task queued same
    change (producer.fileTasks.insert producer.nextSerial _).find? serial = some task at queued
    rw [OrderedMap.find?_insert] at queued
    split_ifs at queued with new
    · exact new
    · exact absurd same (alone serial task queued)

theorem gbCourse_start {transmission : Transmission} (consistent : producer.Consistent)
    (noFile : video.useFile = false) (isGb : video.useGb = true)
    (below : producer.PeersBelow) (free : producer.rtpVideoContextMap.find? video = none)
    (mode : video.gbStreamingMode.transmission? = some transmission) :
    GbCourse video ⟨producer.nextSerial, target⟩ producer.heap.next
      (machine.next producer (.registerVideo video target)) := by
  have kept := consistent_step (.registerVideo video target) consistent
  change (producer.perform _).producer.Consistent at kept
  change GbCourse video _ _ (producer.perform _).producer
  rw [next_registerGb target noFile isGb free mode] at kept ⊢
  refine
    { consistent := kept
      untasked := consistent.fresh.1
      calling := OrderedMap.find?_insert_self _ _ _
      located := OrderedMap.find?_insert_self _ _ _
      alive := ⟨RtpVideoContext.create video ⟨producer.nextSerial, target⟩, ?_, rfl⟩
      unhandled := fun peer handled => Nat.lt_irrefl _ (below peer _ handled) }
  change (producer.takeSerial.addRtpContext video _).heap.cell? producer.heap.next = _
  rw [cell?_addRtpContext]
  exact if_pos rfl

end Start

/-! ### Registrations that are reported -/

theorem oneOutcome_file {start : RtpProducer Target} {video : VideoRequest} {target : Target}
    {environment : Environment} {later : List (Step Target)} (consistent : start.Consistent)
    (isFile : video.useFile = true) (free : start.Unregistered video)
    (alone : start.NoLeftover video) (null : start.nextMemory.iFmtCtxNull = true)
    (reports : environment.probe.Reports)
    (course : Course start video target environment later) :
    OneOutcome video start.nextSerial environment
      (machine.run start (.registerVideo video target :: later))
      (machine.trace start (.registerVideo video target :: later)) := by
  have begun := fileCourse_start target consistent isFile free.1 alone environment.probe
  have nullThen : ((machine.next start (.registerVideo video target)).config.unsetPointers
      start.nextSerial).iFmtCtxNull = true := by
    rw [config_step]
    exact null
  have done := begun.ends course.1 nullThen reports course.2
  rw [LabelledMachine.run_cons, trace_registerFile target isFile free.1]
  exact @FileDone.oneOutcome _ video ⟨start.nextSerial, target⟩ _ _ environment done

theorem Consistent.noFile {producer : RtpProducer Target} {video : VideoRequest}
    (consistent : producer.Consistent) (noFile : video.useFile = false) :
    producer.fileVideoContextMap.find? video = none := by
  cases found : producer.fileVideoContextMap.find? video with
  | none => rfl
  | some context =>
      have isFile := consistent.fileKind video context found
      rw [noFile] at isFile
      cases isFile

theorem oneOutcome_gb_iff {start : RtpProducer Target} {video : VideoRequest} {target : Target}
    {environment : Environment} {later : List (Step Target)} (consistent : start.Consistent)
    (below : start.PeersBelow) (noFile : video.useFile = false) (isGb : video.useGb = true)
    (free : start.Unregistered video) (course : Course start video target environment later) :
    OneOutcome video start.nextSerial environment
        (machine.run start (.registerVideo video target :: later))
        (machine.trace start (.registerVideo video target :: later)) ↔
      machine.Along (StartsStream start.nextSerial environment)
        (machine.next start (.registerVideo video target)) later := by
  have consistentThen : (machine.run start (.registerVideo video target :: later)).Consistent :=
    LabelledMachine.run_invariant Consistent (fun _ step held => consistent_step step held)
      consistent _
  rw [LabelledMachine.run_cons] at consistentThen ⊢
  rw [LabelledMachine.trace_cons]
  cases mode : video.gbStreamingMode.transmission? with
  | some transmission =>
      have begun := gbCourse_start target consistent noFile isGb below free.2 mode
      have done := begun.ends course.1 course.2
      have silent : outcomes start.nextSerial (machine.emit start (.registerVideo video target)) =
          [] := by
        change outcomes start.nextSerial (start.perform _).effects = []
        rw [next_registerGb target noFile isGb free.2 mode]
        rfl
      exact (done.before silent).oneOutcome_iff (consistentThen.noFile noFile)
  | none =>
      -- The error is reported by the call itself, and there is nothing to wait for.
      have performed := next_registerUnnamed target noFile isGb free.2 mode
      have ends := course.2
      change FinishesAt start.nextSerial (start.perform _).producer later at ends
      rw [performed] at ends
      have isOver : later = [] :=
        eq_nil_of_finishesAt (by exact ⟨consistent.fresh.1, consistent.fresh.2⟩) ends
      subst isOver
      have heard : outcomes start.nextSerial
          (machine.emit start (.registerVideo video target) ++ []) =
          [.processError .invalidArgument] := by
        rw [List.append_nil]
        change outcomes start.nextSerial (start.perform _).effects = _
        rw [performed]
        exact outcomes_processError ⟨start.nextSerial, target⟩ _
      rw [LabelledMachine.trace_nil]
      refine iff_of_true ⟨by rw [heard]; rfl, fun _ => ⟨.invalidArgument, ?_⟩⟩ trivial
      rw [heard]
      exact List.mem_singleton_self _

theorem no_outcome_neither {start : RtpProducer Target} {video : VideoRequest} {target : Target}
    {environment : Environment} {later : List (Step Target)} (consistent : start.Consistent)
    (noFile : video.useFile = false) (noGb : video.useGb = false)
    (course : Course start video target environment later) :
    ¬OneOutcome video start.nextSerial environment
      (machine.run start (.registerVideo video target :: later))
      (machine.trace start (.registerVideo video target :: later)) := by
  -- The call does nothing at all, so it is over with no outcome.
  have performed := @next_registerNeither _ start _ target noFile noGb
  have isOver : later = [] := by
    refine eq_nil_of_finishesAt ?_ course.2
    change (start.perform _).producer.Finished start.nextSerial
    rw [performed]
    exact ⟨consistent.fresh.1, consistent.fresh.2⟩
  subst isOver
  intro one
  have once := one.once
  have silent : machine.trace start [.registerVideo video target] = [] := by
    change (start.perform _).effects ++ [] = []
    rw [performed]
    rfl
  rw [silent] at once
  cases once

/-! ### Runs that go wrong -/

/-- A run that ends the task or call, what its callbacks hear in it, and what
holds at its end. -/
structure Ends (serial : Nat) (final : RtpProducer Target → Prop) (heard : List Callback)
    (producer : RtpProducer Target) (later : List (Step Target)) : Prop where
  finishes : FinishesAt serial producer later
  hears : outcomes serial (machine.trace producer later) = heard
  holds : final (machine.run producer later)

section Ends

variable {serial : Nat} {final : RtpProducer Target → Prop} {heard : List Callback}
  {producer next : RtpProducer Target} {step : Step Target} {later : List (Step Target)}
  {effects : List (Effect Target)}

theorem Ends.nil (finished : producer.Finished serial) (holds : final producer) :
    Ends serial final [] producer [] :=
  ⟨finished, rfl, holds⟩

theorem Ends.cons (unfinished : ¬producer.Finished serial)
    (performed : producer.perform step = ⟨next, effects⟩)
    (rest : Ends serial final heard next later) :
    Ends serial final (outcomes serial effects ++ heard) producer (step :: later) := by
  have moved : machine.next producer step = next := by
    change (producer.perform step).producer = next
    rw [performed]
  have emitted : machine.emit producer step = effects := by
    change (producer.perform step).effects = effects
    rw [performed]
  refine ⟨⟨unfinished, ?_⟩, ?_, ?_⟩
  · rw [moved]
    exact rest.finishes
  · rw [LabelledMachine.trace_cons, outcomes_append, moved, emitted, rest.hears]
  · rw [LabelledMachine.run_cons, moved]
    exact rest.holds

theorem Ends.weaken {wider : RtpProducer Target → Prop}
    (ends : Ends serial final heard producer later)
    (implies : ∀ state, final state → wider state) : Ends serial wider heard producer later :=
  ⟨ends.finishes, ends.hears, implies _ ends.holds⟩

end Ends

/-- The registration of a file whose task is in this phase, with its context in
the map and a pointer in it that may be opened, whoever else is about. -/
structure FileStanding (video : VideoRequest) (registration : Registration Target)
    (phase : TaskPhase) (producer : RtpProducer Target) : Prop where
  uncalled : producer.invites.find? registration.serial = none
  queued : producer.fileTasks.find? registration.serial = some ⟨video, registration, phase⟩
  stored : ∃ context, producer.fileVideoContextMap.find? video = some context ∧
    context.registration = registration ∧ context.iFmtCtx ≠ .wild
  noGb : producer.rtpVideoContextMap.find? video = none

section FileStanding

variable {video : VideoRequest} {registration : Registration Target} {phase : TaskPhase}
  {producer : RtpProducer Target} {probe : Probe}

theorem unfinished_of_queued {task : FileTask Target}
    (queued : producer.fileTasks.find? registration.serial = some task) :
    ¬producer.Finished registration.serial := by
  intro finished
  have ended := finished.1
  rw [queued] at ended
  cases ended

theorem FileStanding.unfinished (standing : FileStanding video registration phase producer) :
    ¬producer.Finished registration.serial :=
  unfinished_of_queued standing.queued

theorem FileStanding.rephase (standing : FileStanding video registration phase producer)
    (next : TaskPhase) :
    FileStanding video registration next (producer.setPhase registration.serial next) := by
  refine
    { uncalled := standing.uncalled
      queued := ?_
      stored := standing.stored
      noGb := standing.noGb }
  change (producer.fileTasks.modify registration.serial _).find? registration.serial = _
  rw [OrderedMap.find?_modify, if_pos rfl, standing.queued]
  rfl

theorem iFmtCtx_ne_wild (probe : Probe) : probe.iFmtCtx ≠ .wild := by
  unfold Probe.iFmtCtx
  split_ifs
  · exact FormatPointer.noConfusion
  · exact FormatPointer.noConfusion

theorem FileStanding.setFormats (standing : FileStanding video registration phase producer)
    {other : VideoRequest} (same : video.cmpStr = other.cmpStr) (probe : Probe) :
    FileStanding video registration phase (producer.setFormats other probe) := by
  obtain ⟨context, found, mine, _set⟩ := standing.stored
  refine
    { uncalled := standing.uncalled
      queued := standing.queued
      stored := ⟨context.setFormats probe, ?_, mine, iFmtCtx_ne_wild probe⟩
      noGb := standing.noGb }
  change (producer.fileVideoContextMap.modify other _).find? video = _
  rw [OrderedMap.find?_modify, if_pos same, found]
  rfl

theorem FileStanding.next_broke (standing : FileStanding video registration .probing producer)
    {ret : Int} {spoken : Option String} (exit : probe.run = (.broke ret, spoken)) :
    producer.perform (.probeFile registration.serial probe) =
      ⟨(producer.setFormats video probe).setPhase registration.serial
          (if ret ≠ 0 then .reporting ret else .cleaning),
        (spoken.map (fun sdp => registration.invoke (.processSdp sdp))).toList⟩ := by
  obtain ⟨context, found, _mine, set⟩ := standing.stored
  rw [next_probeFile probe standing.queued rfl]
  simp only [probeFile, found, probeExit_of_set set, exit]
  rfl

theorem FileStanding.next_report {ret : Int}
    (standing : FileStanding video registration (.reporting ret) producer) :
    producer.perform (.reportFile registration.serial) =
      ⟨producer.setPhase registration.serial .cleaning,
        [registration.invoke (.processError .invalidArgument)]⟩ := by
  obtain ⟨context, found, mine, _set⟩ := standing.stored
  rw [next_reportFile standing.queued rfl]
  simp only [reportFile, found, mine]

theorem FileStanding.clean_ends (standing : FileStanding video registration .cleaning producer) :
    Ends registration.serial (fun final => ¬final.Holds video registration.serial) []
      producer [.cleanFile registration.serial] := by
  have gone : ¬((producer.eraseFile video).endTask registration.serial).Holds video
      registration.serial := by
    rintro (⟨context, found, _⟩ | ⟨address, context, located, _⟩)
    · change (producer.fileVideoContextMap.erase video).find? video = some context at found
      rw [OrderedMap.find?_erase_self] at found
      cases found
    · change producer.rtpVideoContextMap.find? video = some address at located
      rw [standing.noGb] at located
      cases located
  have isOver : ((producer.eraseFile video).endTask registration.serial).Finished
      registration.serial := ⟨OrderedMap.find?_erase_self _ _, standing.uncalled⟩
  have ends : Ends registration.serial (fun final => ¬final.Holds video registration.serial) _
      producer [.cleanFile registration.serial] :=
    .cons standing.unfinished (next_cleanFile standing.queued rfl) (.nil isOver gone)
  rw [outcomes_destroyFile, List.append_nil] at ends
  exact ends

end FileStanding

def ownOutcomes (exit : ProbeExit × Option String) : List Callback :=
  (exit.2.map Callback.processSdp).toList ++
    match exit.1 with
    | .broke ret => if ret ≠ 0 then [.processError .invalidArgument] else []
    | .started => []
    | .crashed _ => []

def ownSections (serial : Nat) (probe : Probe) : List (Step Target) :=
  match probe.run.1 with
  | .broke ret =>
      if ret ≠ 0 then [.probeFile serial probe, .reportFile serial, .cleanFile serial]
      else [.probeFile serial probe, .cleanFile serial]
  | .started => [.probeFile serial probe]
  | .crashed _ => [.probeFile serial probe]

theorem admissible_ownSections {serial : Nat} {environment : Environment} {video : VideoRequest} :
    ∀ step ∈ (ownSections serial environment.probe : List (Step Target)),
      Admissible video serial environment step := by
  intro step member
  have own : step = .probeFile serial environment.probe ∨ step = .reportFile serial ∨
      step = .cleanFile serial := by
    unfold ownSections at member
    split at member
    · split_ifs at member
      · simpa using member
      · rcases List.mem_cons.mp member with first | rest
        · exact Or.inl first
        · exact Or.inr (Or.inr (List.mem_singleton.mp rest))
    · exact Or.inl (List.mem_singleton.mp member)
    · exact Or.inl (List.mem_singleton.mp member)
  rcases own with rfl | rfl | rfl
  · exact fun _ => rfl
  · trivial
  · trivial

section OwnRun

variable {video : VideoRequest} {registration : Registration Target}
  {producer : RtpProducer Target} {probe : Probe}

/-- The sections end the task, whatever the results are, and tell the callbacks
what the exit says.  A task that does not get as far as its timer erases the
context. -/
theorem FileStanding.own_ends (standing : FileStanding video registration .probing producer) :
    Ends registration.serial
      (fun final => ∀ ret spoken, probe.run = (.broke ret, spoken) →
        ¬final.Holds video registration.serial)
      (ownOutcomes probe.run) producer (ownSections registration.serial probe) := by
  obtain ⟨context, found, mine, set⟩ := standing.stored
  have performed := next_probeFile probe standing.queued rfl
  simp only [probeFile, found, probeExit_of_set set] at performed
  rcases exit : probe.run with ⟨way, spoken⟩
  unfold ownSections ownOutcomes
  rw [exit] at performed ⊢
  cases way with
  | started =>
      have said := Probe.run_started exit
      subst said
      have isOver : ((producer.armFileEvent video).endTask registration.serial).Finished
          registration.serial := ⟨OrderedMap.find?_erase_self _ _, standing.uncalled⟩
      have ends : Ends registration.serial (fun _ => True) _ producer
          [.probeFile registration.serial probe] :=
        .cons standing.unfinished performed (.nil isOver trivial)
      rw [outcomes_spoken] at ends
      apply ends.weaken
      intro _ _ _ _ broke
      cases broke
  | crashed kind =>
      have silent := Probe.run_crashed exit
      subst silent
      have isOver : (producer.endTask registration.serial).Finished registration.serial :=
        ⟨OrderedMap.find?_erase_self _ _, standing.uncalled⟩
      have ends : Ends registration.serial (fun _ => True) _ producer
          [.probeFile registration.serial probe] :=
        .cons standing.unfinished performed (.nil isOver trivial)
      apply ends.weaken
      intro _ _ _ _ broke
      cases broke
  | broke ret =>
      have spokenFirst := outcomes_spoken registration spoken
      have left := standing.next_broke exit
      dsimp only
      by_cases nonzero : ret ≠ 0
      · rw [if_pos nonzero] at left
        rw [if_pos nonzero, if_pos nonzero]
        have reporting := (standing.setFormats rfl probe).rephase (.reporting ret)
        have ends := Ends.cons standing.unfinished left
          (.cons reporting.unfinished reporting.next_report
            (reporting.rephase .cleaning).clean_ends)
        rw [spokenFirst, outcomes_processError, List.append_nil] at ends
        apply ends.weaken
        intro _ gone _ _ _
        exact gone
      · rw [if_neg nonzero] at left
        rw [if_neg nonzero, if_neg nonzero]
        have ends := Ends.cons standing.unfinished left
          ((standing.setFormats rfl probe).rephase .cleaning).clean_ends
        rw [spokenFirst] at ends
        apply ends.weaken
        intro _ gone _ _ _
        exact gone

end OwnRun

theorem ownOutcomes_of_silent {probe : Probe} (silent : ¬probe.Reports) :
    (ownOutcomes probe.run).length ≠ 1 ∨
      ∃ ret spoken, probe.run = (.broke ret, spoken) ∧
        ∀ code, .processError code ∉ ownOutcomes probe.run := by
  rw [Probe.reports_iff] at silent
  rcases exit : probe.run with ⟨way, spoken⟩
  rw [exit] at silent
  cases way with
  | started =>
      have said := Probe.run_started exit
      subst said
      exact absurd (Or.inl rfl) silent
  | crashed kind =>
      have quiet := Probe.run_crashed exit
      subst quiet
      exact Or.inl Nat.zero_ne_one
  | broke ret =>
      unfold ownOutcomes
      by_cases nonzero : ret ≠ 0
      · cases spoken with
        | none => exact absurd (Or.inr ⟨ret, nonzero, rfl⟩) silent
        | some sdp =>
            left
            simp only [if_pos nonzero]
            exact Nat.succ_ne_self 1
      · right
        refine ⟨ret, spoken, rfl, ?_⟩
        intro code member
        simp only [if_neg nonzero, List.append_nil, Option.mem_toList,
          Option.map_eq_some_iff] at member
        obtain ⟨sdp, _, other⟩ := member
        cases other

theorem ownOutcomes_of_reports {probe : Probe} (reports : probe.Reports) :
    (ownOutcomes probe.run).length = 1 := by
  rcases (Probe.reports_iff probe).mp reports with exit | ⟨ret, nonzero, exit⟩
  · rw [exit]
    rfl
  · rw [exit]
    unfold ownOutcomes
    simp only [if_pos nonzero]
    rfl

/-! ### Leftover tasks -/

section Leftover

variable {video : VideoRequest} {registration : Registration Target} {phase : TaskPhase}
  {producer : RtpProducer Target} {serial : Nat} {task : FileTask Target}

theorem FileStanding.setPhase_other (standing : FileStanding video registration phase producer)
    (different : registration.serial ≠ serial) (next : TaskPhase) :
    FileStanding video registration phase (producer.setPhase serial next) := by
  refine
    { uncalled := standing.uncalled
      queued := ?_
      stored := standing.stored
      noGb := standing.noGb }
  change (producer.fileTasks.modify serial _).find? registration.serial = _
  rw [OrderedMap.find?_modify, if_neg different]
  exact standing.queued

/-- A leftover task that has an error to report tells it to the new registration. -/
theorem FileStanding.leftover_reports (standing : FileStanding video registration phase producer)
    {ret : Int} (queued : producer.fileTasks.find? serial = some task)
    (key : task.registration.serial = serial) (same : task.video.cmpStr = video.cmpStr)
    (running : task.phase = .reporting ret) :
    producer.perform (.reportFile serial) =
      ⟨producer.setPhase serial .cleaning,
        [registration.invoke (.processError .invalidArgument)]⟩ := by
  obtain ⟨context, found, mine, _set⟩ := standing.stored
  rw [next_reportFile queued running]
  have here : producer.fileVideoContextMap.find? task.video = some context :=
    (OrderedMap.find?_congr _ same).trans found
  simp only [reportFile, here, mine, key]

def unopened : Probe :=
  { openInput := -1
    findStreamInfo := 0
    findBestStream := 0
    allocOutputContext := 0
    newStream := true
    parametersCopy := 0
    allocIoContext := true
    sdpCreate := 0
    sdp := "v=0"
    sdpText := by decide
    writeHeader := 0
    eventNew := true
    eventAdd := 0 }

theorem FileStanding.leftover_probes (standing : FileStanding video registration phase producer)
    (queued : producer.fileTasks.find? serial = some task)
    (key : task.registration.serial = serial) (same : task.video.cmpStr = video.cmpStr)
    (running : task.phase = .probing) :
    producer.perform (.probeFile serial unopened) =
      ⟨(producer.setFormats task.video unopened).setPhase serial (.reporting (-1)), []⟩ := by
  obtain ⟨context, found, mine, set⟩ := standing.stored
  rw [next_probeFile unopened queued running]
  have here : producer.fileVideoContextMap.find? task.video = some context :=
    (OrderedMap.find?_congr _ same).trans found
  have exit : unopened.run = (.broke (-1), none) := by decide
  simp only [probeFile, here, probeExit_of_set set, exit, key]
  rfl

/-- A leftover task that is about to erase takes the new context with it, and
the task of the new registration then finds nothing to report on. -/
theorem FileStanding.leftover_erases (standing : FileStanding video registration .probing producer)
    (queued : producer.fileTasks.find? serial = some task)
    (key : task.registration.serial = serial) (same : task.video.cmpStr = video.cmpStr)
    (running : task.phase = .cleaning) (different : registration.serial ≠ serial) (probe : Probe) :
    Ends registration.serial (fun _ => True) [] producer
      [.cleanFile serial, .probeFile registration.serial probe,
        .cleanFile registration.serial] := by
  have erased := next_cleanFile queued running
  have silent := outcomes_destroyFile registration.serial producer task.video
  rw [cleanFile, key] at erased
  -- The states are named after what is left of the new registration.
  generalize stateEq : (producer.eraseFile task.video).endTask serial = bereft at erased
  have still : bereft.fileTasks.find? registration.serial =
      some ⟨video, registration, .probing⟩ := by
    rw [← stateEq]
    change (producer.fileTasks.erase serial).find? registration.serial = _
    rw [OrderedMap.find?_erase, if_neg different]
    exact standing.queued
  have missing : bereft.fileVideoContextMap.find? video = none := by
    rw [← stateEq]
    change (producer.fileVideoContextMap.erase task.video).find? video = none
    rw [OrderedMap.find?_erase, if_pos same.symm]
  have uncalled : bereft.invites.find? registration.serial = none := by
    rw [← stateEq]
    exact standing.uncalled
  have probed : bereft.perform (.probeFile registration.serial probe) =
      ⟨bereft.setPhase registration.serial .cleaning, []⟩ := by
    rw [next_probeFile probe still rfl]
    simp only [probeFile, missing]
    rfl
  have cleaning : (bereft.setPhase registration.serial .cleaning).fileTasks.find?
      registration.serial = some ⟨video, registration, .cleaning⟩ := by
    change (bereft.fileTasks.modify registration.serial _).find? registration.serial = _
    rw [OrderedMap.find?_modify, if_pos rfl, still]
    rfl
  have isOver : ((bereft.setPhase registration.serial .cleaning).eraseFile video |>.endTask
      registration.serial).Finished registration.serial :=
    ⟨OrderedMap.find?_erase_self _ _, uncalled⟩
  have ends : Ends registration.serial (fun _ => True) _ producer _ :=
    .cons standing.unfinished erased (.cons (unfinished_of_queued still) probed
      (.cons (unfinished_of_queued cleaning) (next_cleanFile cleaning rfl) (.nil isOver trivial)))
  rw [silent, outcomes_destroyFile] at ends
  exact ends

end Leftover

theorem fileStanding_start {producer : RtpProducer Target} {video : VideoRequest}
    (target : Target) (consistent : producer.Consistent) (isFile : video.useFile = true)
    (free : producer.Unregistered video) (null : producer.nextMemory.iFmtCtxNull = true) :
    FileStanding video ⟨producer.nextSerial, target⟩ .probing
      (machine.next producer (.registerVideo video target)) := by
  change FileStanding video _ .probing (producer.perform _).producer
  rw [next_registerFile target isFile free.1]
  refine
    { uncalled := consistent.fresh.2
      queued := OrderedMap.find?_insert_self _ _ _
      stored := ⟨_, OrderedMap.find?_insert_self _ _ _, rfl, ?_⟩
      noGb := free.2 }
  change FormatPointer.unset producer.nextMemory.iFmtCtxNull ≠ .wild
  rw [null]
  exact FormatPointer.noConfusion

/-- With a leftover task for the same video some interleaving goes wrong, even
if the probe of the registration itself is reported. -/
theorem leftover_goes_wrong {start : RtpProducer Target} {video : VideoRequest} {target : Target}
    {environment : Environment} {serial : Nat} {task : FileTask Target}
    (consistent : start.Consistent) (isFile : video.useFile = true)
    (free : start.Unregistered video) (null : start.nextMemory.iFmtCtxNull = true)
    (reports : environment.probe.Reports)
    (queued : start.fileTasks.find? serial = some task)
    (same : task.video.cmpStr = video.cmpStr) :
    ∃ later, Course start video target environment later ∧
      (outcomes start.nextSerial
        (machine.trace (machine.next start (.registerVideo video target)) later)).length ≠ 1 := by
  have standing := fileStanding_start target consistent isFile free null
  have key := consistent.taskKey serial task queued
  have older : start.nextSerial ≠ serial := by
    have numbered := consistent.below _ (.task serial task queued rfl)
    omega
  have queuedNow : (machine.next start (.registerVideo video target)).fileTasks.find? serial =
      some task := by
    change (start.perform _).producer.fileTasks.find? serial = _
    rw [next_registerFile target isFile free.1]
    change (start.fileTasks.insert start.nextSerial _).find? serial = _
    rw [OrderedMap.find?_insert, if_neg (Ne.symm older)]
    exact queued
  have own := @admissible_ownSections Target start.nextSerial environment video
  cases running : task.phase with
  | cleaning =>
      have ends := standing.leftover_erases queuedNow key same running older environment.probe
      refine ⟨_, ⟨?_, ends.finishes⟩, ?_⟩
      · intro step member
        simp only [List.mem_cons, List.not_mem_nil, or_false] at member
        rcases member with rfl | rfl | rfl
        · trivial
        · exact fun _ => rfl
        · trivial
      · rw [ends.hears]
        decide
  | reporting ret =>
      have ends := Ends.cons standing.unfinished
        (standing.leftover_reports queuedNow key same running)
        (@FileStanding.own_ends _ _ _ _ environment.probe
          (standing.setPhase_other older .cleaning))
      refine ⟨_, ⟨?_, ends.finishes⟩, ?_⟩
      · intro step member
        rcases List.mem_cons.mp member with rfl | later
        · trivial
        · exact own step later
      · rw [ends.hears, outcomes_processError, List.length_append,
          ownOutcomes_of_reports reports]
        decide
  | probing =>
      have failing := (standing.setFormats same.symm unopened).setPhase_other older
        (.reporting (-1))
      have queuedThen : (((machine.next start (.registerVideo video target)).setFormats task.video
          unopened).setPhase serial (.reporting (-1))).fileTasks.find? serial =
            some { task with phase := .reporting (-1) } := by
        change ((machine.next start (.registerVideo video target)).fileTasks.modify serial
          _).find? serial = _
        rw [OrderedMap.find?_modify, if_pos rfl, queuedNow]
        rfl
      have ends := Ends.cons standing.unfinished
        (standing.leftover_probes queuedNow key same running)
        (Ends.cons failing.unfinished (failing.leftover_reports queuedThen key same rfl)
          (@FileStanding.own_ends _ _ _ _ environment.probe
            (failing.setPhase_other older .cleaning)))
      refine ⟨_, ⟨?_, ends.finishes⟩, ?_⟩
      · intro step member
        simp only [List.mem_cons] at member
        rcases member with rfl | rfl | later
        · exact fun equal => absurd equal.symm older
        · trivial
        · exact own step later
      · rw [ends.hears, outcomes_nil, List.nil_append, outcomes_processError, List.length_append,
          ownOutcomes_of_reports reports]
        decide

theorem silent_goes_wrong {start : RtpProducer Target} {video : VideoRequest} {target : Target}
    {environment : Environment} (consistent : start.Consistent) (isFile : video.useFile = true)
    (free : start.Unregistered video) (null : start.nextMemory.iFmtCtxNull = true)
    (silent : ¬environment.probe.Reports) :
    ∃ later, Course start video target environment later ∧
      ¬OneOutcome video start.nextSerial environment
        (machine.run start (.registerVideo video target :: later))
        (machine.trace start (.registerVideo video target :: later)) := by
  have standing := fileStanding_start target consistent isFile free null
  have ends := @FileStanding.own_ends _ _ _ _ environment.probe standing
  refine ⟨_, ⟨admissible_ownSections, ends.finishes⟩, ?_⟩
  rw [LabelledMachine.run_cons, trace_registerFile target isFile free.1]
  intro one
  have heard : outcomes start.nextSerial (machine.trace _ _) = _ := ends.hears
  rcases ownOutcomes_of_silent silent with many | ⟨ret, spoken, exit, noError⟩
  · have once := one.once
    rw [heard] at once
    exact many once
  · obtain ⟨code, member⟩ := one.told (Or.inl (ends.holds ret spoken exit))
    rw [heard] at member
    exact noError code member

/-- A pointer that is neither null nor set ends the task in `avformat_open_input`. -/
theorem wild_goes_wrong {start : RtpProducer Target} {video : VideoRequest} {target : Target}
    {environment : Environment} (consistent : start.Consistent) (isFile : video.useFile = true)
    (free : start.Unregistered video) (wild : start.nextMemory.iFmtCtxNull = false) :
    ∃ later, Course start video target environment later ∧
      ¬OneOutcome video start.nextSerial environment
        (machine.run start (.registerVideo video target :: later))
        (machine.trace start (.registerVideo video target :: later)) := by
  have registered := next_registerFile target isFile free.1
  generalize stateEq : start.takeSerial.addFileContext video ⟨start.nextSerial, target⟩ = begun
    at registered
  have queued : begun.fileTasks.find? start.nextSerial =
      some ⟨video, ⟨start.nextSerial, target⟩, .probing⟩ := by
    rw [← stateEq]
    exact OrderedMap.find?_insert_self _ _ _
  have found : begun.fileVideoContextMap.find? video =
      some (.create video ⟨start.nextSerial, target⟩ start.nextMemory) := by
    rw [← stateEq]
    exact OrderedMap.find?_insert_self _ _ _
  have exit : probeExit (FileVideoContext.create video ⟨start.nextSerial, target⟩
      start.nextMemory) environment.probe = (.crashed .wildPointer, none) := by
    unfold probeExit FileVideoContext.create
    simp only [wild]
    rfl
  have crashed : begun.perform (.probeFile start.nextSerial environment.probe) =
      ⟨begun.endTask start.nextSerial, [.fault .wildPointer]⟩ := by
    rw [next_probeFile environment.probe queued rfl]
    simp only [probeFile, found, exit]
  have uncalled : begun.invites.find? start.nextSerial = none := by
    rw [← stateEq]
    exact consistent.fresh.2
  have ends : Ends start.nextSerial (fun _ => True) _ begun
      [.probeFile start.nextSerial environment.probe] :=
    .cons (@unfinished_of_queued _ ⟨start.nextSerial, target⟩ _ _ queued) crashed
      (.nil ⟨OrderedMap.find?_erase_self _ _, uncalled⟩ trivial)
  have moved : machine.next start (.registerVideo video target) = begun :=
    congrArg Produced.producer registered
  refine ⟨[.probeFile start.nextSerial environment.probe], ⟨?_, ?_⟩, ?_⟩
  · intro step member
    rw [List.mem_singleton.mp member]
    exact fun _ => rfl
  · rw [moved]
    exact ends.finishes
  · intro one
    have once := one.once
    rw [trace_registerFile target isFile free.1, moved, ends.hears] at once
    cases once

/-! ### The main result -/

/-- A file has exactly one first outcome in every interleaving if and only if no task for it is
left over, its memory has a null pointer to open, and the failures of its probe are reported.  A
GB video has exactly one in an interleaving if and only if its stream starts where the answer
comes; a request with neither flag has none. -/
theorem one_outcome_iff (config : ProducerConfig) (before : List (Step Target))
    (video : VideoRequest) (target : Target) (environment : Environment)
    (free : (after config before).Unregistered video) :
    (video.useFile = true →
      ((∀ later, Course (after config before) video target environment later →
          OneOutcome video (after config before).nextSerial environment
            (machine.run (after config before) (.registerVideo video target :: later))
            (machine.trace (after config before) (.registerVideo video target :: later))) ↔
        (after config before).NoLeftover video ∧
          (after config before).nextMemory.iFmtCtxNull = true ∧ environment.probe.Reports)) ∧
    (video.useFile = false →
      ∀ later, Course (after config before) video target environment later →
        (OneOutcome video (after config before).nextSerial environment
            (machine.run (after config before) (.registerVideo video target :: later))
            (machine.trace (after config before) (.registerVideo video target :: later)) ↔
          video.useGb = true ∧
            machine.Along (StartsStream (after config before).nextSerial environment)
              (machine.next (after config before) (.registerVideo video target)) later)) := by
  have consistent := consistent_after config before
  have below := peersBelow_after config before
  generalize after config before = start at free consistent below
  constructor
  · intro isFile
    constructor
    · intro always
      have null : start.nextMemory.iFmtCtxNull = true := by
        by_contra wild
        obtain ⟨later, course, wrong⟩ :=
          wild_goes_wrong consistent isFile free (Bool.eq_false_iff.mpr wild)
        exact wrong (always later course)
      have reports : environment.probe.Reports := by
        by_contra silent
        obtain ⟨later, course, wrong⟩ := silent_goes_wrong consistent isFile free null silent
        exact wrong (always later course)
      refine ⟨?_, null, reports⟩
      intro serial task queued same
      obtain ⟨later, course, wrong⟩ :=
        leftover_goes_wrong consistent isFile free null reports queued same
      have once := (always later course).once
      rw [trace_registerFile target isFile free.1] at once
      exact wrong once
    · rintro ⟨alone, null, reports⟩ later course
      exact oneOutcome_file consistent isFile free alone null reports course
  · intro noFile later course
    cases isGb : video.useGb with
    | true =>
        rw [oneOutcome_gb_iff consistent below noFile isGb free course]
        exact (and_iff_right rfl).symm
    | false =>
        have none := no_outcome_neither consistent noFile isGb course
        exact iff_of_false none (fun both => Bool.false_ne_true both.1)

/-- A file is registered in the initial state, over memory that is zero, and its probe fails at
once. -/
theorem one_outcome_unopened :
    let config : ProducerConfig := ⟨"127.0.0.1:8086", 2000, 4, 0, zeroedMemory⟩
    let video : VideoRequest := { VideoRequest.unset with useFile := true, filename := "a" }
    let environment : Environment := ⟨unopened, .failed, false⟩
    ∀ later, Course (after config []) video 7 environment later →
      OneOutcome video 0 environment
        (machine.run (after config []) (.registerVideo video 7 :: later))
        (machine.trace (after config []) (.registerVideo video 7 :: later)) := by
  intro config video environment
  refine ((one_outcome_iff config [] video 7 environment ⟨rfl, rfl⟩).1 rfl).mpr ⟨?_, rfl, ?_⟩
  · intro serial task queued
    cases queued
  · exact (Probe.reports_iff unopened).mpr (Or.inr ⟨-1, by decide, by decide⟩)

/-- `avformat_new_stream` returns a null pointer after a call that returned zero:
the caller hears nothing, and the context is gone when the task is over.  Two cameras answer
with one peer: the second caller has the SDP, and its datagrams go to the first. -/
theorem new_stream_failure_unreported :
    let config : ProducerConfig := ⟨"127.0.0.1:8086", 2000, 4, 0, zeroedMemory⟩
    let video : VideoRequest := { VideoRequest.unset with useFile := true, filename := "a" }
    let probe : Probe := { unopened with openInput := 0, newStream := false }
    let later : List (Step Nat) := [.probeFile 0 probe, .cleanFile 0]
    let final := machine.run (after config []) (.registerVideo video 7 :: later)
    let camera (gbid : String) : VideoRequest :=
      { VideoRequest.unset with useGb := true, gbid := gbid }
    let gb : GbInviteVideoResponse := ⟨"10.0.0.1:5000", 90000, 96, "H264"⟩
    let answered (inviteId : String) : Completion := .answered ⟨inviteId, some gb⟩ ⟨1, true, true⟩
    let cameras : List (Step Nat) :=
      [.registerVideo (camera "1") 1, .inviteCallback 0 (answered "i"),
        .registerVideo (camera "2") 2, .inviteCallback 1 (answered "j")]
    ((after config ([] : List (Step Nat))).Unregistered video ∧
      Course (after config []) video 7 ⟨probe, .failed, true⟩ later ∧
      outcomes 0 (machine.trace (after config []) (.registerVideo video 7 :: later)) = [] ∧
      final.fileVideoContextMap.find? video = none) ∧
    outcomes 1 (machine.trace (initial config) cameras) = [.processSdp (gbSdp (camera "2") gb)] ∧
      (after config cameras).rtpVideoContextMap.find? (camera "2") = some 1 ∧
      (after config cameras).registeredPeers.find? gb.peerInfo = some 0 := by
  intro config video probe later final camera gb answered cameras
  refine ⟨⟨⟨rfl, rfl⟩, ⟨?_, ?_⟩, by decide, by decide⟩, by decide +kernel, by decide +kernel,
    by decide +kernel⟩
  · intro step member
    simp only [later, List.mem_cons, List.not_mem_nil, or_false] at member
    rcases member with rfl | rfl
    · exact fun _ => rfl
    · trivial
  · refine ⟨fun isOver => ?_, fun isOver => ?_, rfl, rfl⟩
    · exact absurd isOver.1 (by decide)
    · exact absurd isOver.1 (by decide)

end Ffvms.Concrete.RtpProducer
