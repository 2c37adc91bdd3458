/-
Following one registration to its end.

A file registration is followed by the phase of its task and a GB registration
by its call in flight.  As long as no other task is for the same video, nobody
else touches the context or speaks to the callbacks, so the outcome is decided
by the own steps.  Where the condition fails, a run is given that shows it.
-/

import Ffvms.Concrete.RtpProducerOutcome

namespace Ffvms.Concrete.RtpProducer

variable {Target : Type}

/-! ### Files -/

def told : TaskPhase → List Callback
  | .probing => []
  | .reporting _ => []
  | .cleaning => [.processError .invalidArgument]

/-- The format pointers of a context whose task is in this phase and probes with these results. -/
def Formatted (unset : UnsetPointers) (probe : Probe) (context : FileVideoContext Target) :
    TaskPhase → Prop
  | .probing =>
      context.iFmtCtx = .unset unset.iFmtCtxNull ∧ context.oFmtCtx = .unset unset.oFmtCtxNull
  | .reporting _ | .cleaning =>
      context.iFmtCtx = probe.iFmtCtx ∧
        context.oFmtCtx = probe.oFmtCtx (.unset unset.oFmtCtxNull)

/-- The registration of a file while its task is under way. -/
structure FileCourse (video : VideoRequest) (registration : Registration Target) (probe : Probe)
    (phase : TaskPhase) (producer : RtpProducer Target) : Prop where
  consistent : producer.Consistent
  uncalled : producer.invites.find? registration.serial = none
  queued : producer.fileTasks.find? registration.serial = some ⟨video, registration, phase⟩
  stored : ∃ context, producer.fileVideoContextMap.find? video = some context ∧
    context.registration = registration ∧ context.fileEvent = false ∧
    Formatted (producer.config.unsetPointers registration.serial) probe context phase
  own : ∀ other context, producer.fileVideoContextMap.find? other = some context →
    context.registration.serial = registration.serial → other.cmpStr = video.cmpStr
  alone : ∀ serial task, producer.fileTasks.find? serial = some task →
    task.video.cmpStr = video.cmpStr → serial = registration.serial

def OwnSection (serial : Nat) : Step Target → Prop
  | .probeFile other _ => other = serial
  | .reportFile other => other = serial
  | .cleanFile other => other = serial
  | _ => False

section FileCourse

variable {video : VideoRequest} {registration : Registration Target} {probe : Probe}
  {phase : TaskPhase} {producer : RtpProducer Target} {step : Step Target}
  {environment : Environment}

theorem FileCourse.numbered (course : FileCourse video registration probe phase producer) :
    registration.serial < producer.nextSerial :=
  course.consistent.below registration (.task registration.serial _ course.queued rfl)

theorem FileCourse.context_kept (course : FileCourse video registration probe phase producer)
    (admissible : Admissible video registration.serial environment step)
    (foreign : ¬OwnSection registration.serial step) :
    (machine.next producer step).fileVideoContextMap.find? video =
      producer.fileVideoContextMap.find? video := by
  obtain ⟨context, found, _own, unarmed, _⟩ := course.stored
  have moved := transition producer step
  change (producer.perform step).producer.fileVideoContextMap.find? video = _
  generalize producer.perform step = result at moved
  have elsewhere {serial : Nat} {task : FileTask Target} (different : ¬serial = registration.serial)
      (queued : producer.fileTasks.find? serial = some task) :
      video.cmpStr ≠ task.video.cmpStr :=
    fun same => different (course.alone serial task queued same.symm)
  cases moved with
  | idle | ignored | refused | gbUnnamed | gbInvited | gbRemoved | probeLost | probeCrashed
  | reported | reportedNobody | framed | inviteLost | inviteFailed | inviteAccepted
  | received => rfl
  | fileQueued added target isFile free =>
      change (producer.fileVideoContextMap.insert added _).find? video = _
      have apart : video.cmpStr ≠ added.cmpStr := by
        intro same
        rw [OrderedMap.find?_congr _ same, free] at found
        cases found
      rw [OrderedMap.find?_insert, if_neg apart]
  | fileRemoved removed isFile =>
      change (producer.fileVideoContextMap.erase removed).find? video = _
      rw [OrderedMap.find?_erase, if_neg (Ne.symm admissible)]
  | probeStarted serial probe task sdp armed queued running located exit =>
      change (producer.fileVideoContextMap.modify task.video _).find? video = _
      rw [OrderedMap.find?_modify, if_neg (elsewhere foreign queued)]
  | probeBroke serial probe task ret spoken broken queued running located exit =>
      change (producer.fileVideoContextMap.modify task.video _).find? video = _
      rw [OrderedMap.find?_modify, if_neg (elsewhere foreign queued)]
  | cleaned serial task queued running =>
      change (producer.fileVideoContextMap.erase task.video).find? video = _
      rw [OrderedMap.find?_erase, if_neg (elsewhere foreign queued)]
  | frameFailed other packets ret failed located armed =>
      change (producer.fileVideoContextMap.modify other _).find? video = _
      have apart : video.cmpStr ≠ other.cmpStr := by
        intro same
        rw [← OrderedMap.find?_congr _ same, found, Option.some.injEq] at located
        rw [← located, unarmed] at armed
        cases armed
      rw [OrderedMap.find?_modify, if_neg apart]

theorem FileCourse.task_kept (course : FileCourse video registration probe phase producer)
    (foreign : ¬OwnSection registration.serial step) :
    (machine.next producer step).fileTasks.find? registration.serial =
      producer.fileTasks.find? registration.serial := by
  have moved := transition producer step
  change (producer.perform step).producer.fileTasks.find? registration.serial = _
  generalize producer.perform step = result at moved
  have apart {serial : Nat} {task : FileTask Target} (different : ¬serial = registration.serial)
      (queued : producer.fileTasks.find? serial = some task) :
      registration.serial ≠ task.registration.serial := by
    rw [course.consistent.taskKey serial task queued]
    exact fun same => different same.symm
  have rephased {serial : Nat} {next : TaskPhase} (different : registration.serial ≠ serial) :
      (producer.fileTasks.modify serial (fun task => { task with phase := next })).find?
        registration.serial = producer.fileTasks.find? registration.serial := by
    rw [OrderedMap.find?_modify, if_neg different]
  have ended {serial : Nat} (different : registration.serial ≠ serial) :
      (producer.endTask serial).fileTasks.find? registration.serial =
        producer.fileTasks.find? registration.serial := by
    change (producer.fileTasks.erase serial).find? registration.serial = _
    rw [OrderedMap.find?_erase, if_neg different]
  cases moved with
  | idle | ignored | refused | gbUnnamed | gbInvited | fileRemoved | gbRemoved | framed
  | frameFailed | inviteLost | inviteFailed | inviteAccepted | received => rfl
  | fileQueued added target isFile free =>
      change (producer.fileTasks.insert producer.nextSerial _).find? registration.serial = _
      rw [OrderedMap.find?_insert, if_neg (Nat.ne_of_lt course.numbered)]
  | probeLost serial probe task queued running missing => exact rephased (apart foreign queued)
  | probeBroke serial probe task ret spoken context queued running located exit =>
      exact rephased (apart foreign queued)
  | reported serial task ret context queued running located =>
      exact rephased (apart foreign queued)
  | reportedNobody serial task ret queued running missing =>
      exact rephased (apart foreign queued)
  | probeStarted serial probe task sdp context queued running located exit =>
      exact ended (apart foreign queued)
  | probeCrashed serial probe task context queued running located exit =>
      exact ended (apart foreign queued)
  | cleaned serial task queued running => exact ended (apart foreign queued)

theorem FileCourse.outcomes_kept (course : FileCourse video registration probe phase producer)
    (foreign : ¬OwnSection registration.serial step) :
    outcomes registration.serial (machine.emit producer step) = [] := by
  apply outcomes_of_others
  intro spoken said emitted
  have numbered := course.numbered
  have living {address : Nat} {context : RtpVideoContext Target}
      (alive : producer.heap.get? address = some context) :
      context.registration.serial ≠ registration.serial := by
    obtain ⟨strong, found⟩ := cell?_of_get? alive
    exact ((course.consistent.apart address _ found).2 _ _ course.queued).symm
  left
  cases speaks_of_emitted emitted with
  | newcomer other target code => exact Nat.ne_of_gt numbered
  | task serial probe task sdp queued =>
      rw [course.consistent.taskKey serial task queued]
      exact foreign
  | report serial task context queued found =>
      intro same
      exact foreign (course.alone serial task queued (course.own task.video context found same))
  | frame other packets ret context _ found armed =>
      intro same
      obtain ⟨stored, located, _own, off, _⟩ := course.stored
      rw [OrderedMap.find?_congr _ (course.own other context found same), located,
        Option.some.injEq] at found
      rw [← found, off] at armed
      cases armed
  | invite serial completion invite context _ calling alive => exact living alive
  | datagram peer data packets weak context packet registered alive => exact living alive

theorem FileCourse.foreign_step (course : FileCourse video registration probe phase producer)
    (admissible : Admissible video registration.serial environment step)
    (foreign : ¬OwnSection registration.serial step) :
    FileCourse video registration probe phase (machine.next producer step) := by
  have numbered := course.numbered
  obtain ⟨context, found, mine, unarmed, formatted⟩ := course.stored
  rw [← config_step producer step] at formatted
  refine
    { consistent := consistent_step step course.consistent
      uncalled := ?_
      queued := (course.task_kept foreign).trans course.queued
      stored :=
        ⟨context, (course.context_kept admissible foreign).trans found, mine, unarmed, formatted⟩
      own := ?_
      alone := ?_ }
  · cases calling : (machine.next producer step).invites.find? registration.serial with
    | none => rfl
    | some invite =>
        rcases invite_former calling with older | ⟨key, _⟩
        · rw [course.uncalled] at older
          cases older
        · omega
  · intro other stored located same
    rcases file_former located with ⟨old, former, sameRegistration⟩ | ⟨⟨_, _, _, opens⟩, _⟩
    · rw [sameRegistration] at same
      exact course.own other old former same
    · have new := opens.2
      omega
  · intro serial task queued same
    rcases task_former queued with ⟨old, former, _, sameVideo, _⟩ | ⟨_, _, _, free, _⟩
    · rw [sameVideo] at same
      exact course.alone serial old former same
    · rw [OrderedMap.find?_congr _ same, found] at free
      cases free

/-- The task goes on to its next section, with pointers that are as they should be there. -/
theorem FileCourse.rephase (course : FileCourse video registration probe phase producer)
    (change : FileVideoContext Target → FileVideoContext Target) {next : TaskPhase}
    {later : RtpProducer Target}
    (changed : later = { producer.setPhase registration.serial next with
      fileVideoContextMap := producer.fileVideoContextMap.modify video change })
    (left : next ≠ .probing) (keeps : ∀ context, (change context).registration =
      context.registration ∧ (change context).fileEvent = context.fileEvent)
    (formatted : ∀ context,
      Formatted (producer.config.unsetPointers registration.serial) probe context phase →
        Formatted (producer.config.unsetPointers registration.serial) probe (change context) next)
    (kept : later.Consistent) : FileCourse video registration probe next later := by
  obtain ⟨context, found, mine, unarmed, former⟩ := course.stored
  subst changed
  refine
    { consistent := kept
      uncalled := course.uncalled
      queued := ?_
      stored := ⟨change context, ?_, (keeps context).1.trans mine, (keeps context).2.trans unarmed,
        formatted context former⟩
      own := ?_
      alone := ?_ }
  · change (producer.fileTasks.modify registration.serial _).find? registration.serial = _
    rw [OrderedMap.find?_modify, if_pos rfl, course.queued]
    rfl
  · change (producer.fileVideoContextMap.modify video change).find? video = _
    rw [OrderedMap.find?_modify, if_pos rfl, found]
    rfl
  · intro other stored located same
    obtain ⟨old, oldLocated, sameRegistration⟩ :=
      file_former_of_modify change (fun context => (keeps context).1) located
    rw [sameRegistration] at same
    exact course.own other old oldLocated same
  · intro serial task queued same
    have there : (producer.setPhase registration.serial next).fileTasks.find? serial =
        some task := queued
    obtain ⟨old, oldQueued, _, sameVideo, _⟩ := task_former_of_setPhase left there
    rw [sameVideo] at same
    exact course.alone serial old oldQueued same

/-- What any step does to the course, in the terms of the registration: it passes by, or it is
the next section of the task. -/
inductive FileTurn (video : VideoRequest) (registration : Registration Target) (probe : Probe)
    (producer : RtpProducer Target) (step : Step Target) : TaskPhase → Prop
  | passed {phase : TaskPhase}
      (onward : FileCourse video registration probe phase (machine.next producer step))
      (silent : outcomes registration.serial (machine.emit producer step) = [])
      (other : phase = .cleaning → step ≠ .cleanFile registration.serial) :
      FileTurn video registration probe producer step phase
  | crashed (kind : Fault) (emitted : machine.emit producer step = [.fault kind])
      (exit : (producer.config.unsetPointers registration.serial).iFmtCtxNull = true →
        probe.run = (.crashed kind, none))
      (other : step ≠ .cleanFile registration.serial) :
      FileTurn video registration probe producer step .probing
  | started (sdp : String) (context : FileVideoContext Target)
      (finished : (machine.next producer step).Finished registration.serial)
      (heard : outcomes registration.serial (machine.emit producer step) = [.processSdp sdp])
      (found : (machine.next producer step).fileVideoContextMap.find? video = some context)
      (mine : context.registration = registration) (armed : context.fileEvent = true) :
      FileTurn video registration probe producer step .probing
  | broke (ret : Int) (spoken : Option String) (exit : probe.run = (.broke ret, spoken))
      (onward : FileCourse video registration probe
        (if ret ≠ 0 then .reporting ret else .cleaning) (machine.next producer step))
      (heard : outcomes registration.serial (machine.emit producer step) =
        (spoken.map Callback.processSdp).toList)
      (other : step ≠ .cleanFile registration.serial) :
      FileTurn video registration probe producer step .probing
  | reported (ret : Int)
      (onward : FileCourse video registration probe .cleaning (machine.next producer step))
      (heard : outcomes registration.serial (machine.emit producer step) =
        [.processError .invalidArgument])
      (other : step ≠ .cleanFile registration.serial) :
      FileTurn video registration probe producer step (.reporting ret)
  | cleaned (own : step = .cleanFile registration.serial)
      (finished : (machine.next producer step).Finished registration.serial)
      (silent : outcomes registration.serial (machine.emit producer step) = []) :
      FileTurn video registration probe producer step .cleaning

theorem outcomes_spoken (registration : Registration Target) (spoken : Option String) :
    outcomes registration.serial
        (spoken.map (fun sdp => registration.invoke (.processSdp sdp))).toList =
      (spoken.map Callback.processSdp).toList := by
  cases spoken with
  | none => rfl
  | some sdp => exact outcomes_processSdp registration sdp

theorem outcomes_destroyFile (serial : Nat) (producer : RtpProducer Target)
    (video : VideoRequest) : outcomes serial (producer.destroyFile video) = [] := by
  apply outcomes_of_others
  intro spoken said emitted
  cases mem_destroyFile emitted

theorem FileCourse.probe_turn (course : FileCourse video registration probe .probing producer) :
    FileTurn video registration probe producer (.probeFile registration.serial probe)
      .probing := by
  obtain ⟨context, found, mine, unarmed, formatted⟩ := course.stored
  have kept := consistent_step (.probeFile registration.serial probe) course.consistent
  have performed := next_probeFile probe course.queued rfl
  change (producer.perform _).producer.Consistent at kept
  rw [performed] at kept
  have moved : machine.next producer (.probeFile registration.serial probe) =
      (producer.probeFile ⟨video, registration, .probing⟩ probe).producer :=
    congrArg Produced.producer performed
  have emitted : machine.emit producer (.probeFile registration.serial probe) =
      (producer.probeFile ⟨video, registration, .probing⟩ probe).effects :=
    congrArg Produced.effects performed
  unfold probeFile at kept moved emitted
  simp only [found] at kept moved emitted
  by_cases wild : context.iFmtCtx = .wild
  · have crash : probeExit context probe = (.crashed .wildPointer, none) := if_pos wild
    rw [crash] at emitted
    refine .crashed .wildPointer emitted ?_ nofun
    intro null
    rw [formatted.1, null] at wild
    cases wild
  · rw [probeExit_of_set wild] at kept moved emitted
    rcases exit : probe.run with ⟨way, spoken⟩
    simp only [exit] at kept moved emitted
    cases way with
    | started =>
        have said := Probe.run_started exit
        subst said
        refine .started probe.sdp context.arm ?_ ?_ ?_ mine rfl
        · rw [moved]
          exact ⟨OrderedMap.find?_erase_self _ _, course.uncalled⟩
        · rw [emitted]
          exact outcomes_processSdp registration probe.sdp
        · rw [moved]
          change (producer.fileVideoContextMap.modify video _).find? video = _
          rw [OrderedMap.find?_modify, if_pos rfl, found]
          rfl
    | crashed kind =>
        have silent := Probe.run_crashed exit
        subst silent
        exact .crashed kind emitted (fun _ => exit) nofun
    | broke ret =>
        refine .broke ret spoken exit ?_ ?_ nofun
        · rw [moved]
          refine course.rephase (FileVideoContext.setFormats probe) rfl
            (leftPhase_ne_probing ret) (fun _ => ⟨rfl, rfl⟩) ?_ kept
          intro former unset
          have set : former.iFmtCtx = _ ∧ former.oFmtCtx = _ := unset
          split_ifs
          · exact ⟨rfl, congrArg probe.oFmtCtx set.2⟩
          · exact ⟨rfl, congrArg probe.oFmtCtx set.2⟩
        · rw [emitted]
          exact outcomes_spoken registration spoken

theorem FileCourse.report_turn {ret : Int}
    (course : FileCourse video registration probe (.reporting ret) producer) :
    FileTurn video registration probe producer (.reportFile registration.serial)
      (.reporting ret) := by
  obtain ⟨context, found, mine, unarmed, formatted⟩ := course.stored
  have kept := consistent_step (.reportFile registration.serial) course.consistent
  have performed := next_reportFile course.queued rfl
  simp only [reportFile, found, mine] at performed
  have moved : machine.next producer (.reportFile registration.serial) = _ :=
    congrArg Produced.producer performed
  have emitted : machine.emit producer (.reportFile registration.serial) = _ :=
    congrArg Produced.effects performed
  rw [moved] at kept
  refine .reported ret ?_ ?_ (by simp)
  · rw [moved]
    exact course.rephase id (by rw [OrderedMap.modify_id]; rfl)
      TaskPhase.noConfusion (fun _ => ⟨rfl, rfl⟩) (fun _ same => same) kept
  · rw [emitted]
    exact outcomes_processError registration .invalidArgument

theorem FileCourse.clean_turn (course : FileCourse video registration probe .cleaning producer) :
    FileTurn video registration probe producer (.cleanFile registration.serial) .cleaning := by
  have performed := next_cleanFile course.queued rfl
  have moved : machine.next producer (.cleanFile registration.serial) = _ :=
    congrArg Produced.producer performed
  have emitted : machine.emit producer (.cleanFile registration.serial) = _ :=
    congrArg Produced.effects performed
  refine .cleaned rfl ?_ ?_
  · rw [moved]
    exact ⟨OrderedMap.find?_erase_self _ _, course.uncalled⟩
  · rw [emitted]
    exact outcomes_destroyFile _ _ _

theorem FileCourse.idle_turn (course : FileCourse video registration probe phase producer)
    (idle : producer.perform step = ⟨producer, []⟩)
    (other : phase = .cleaning → step ≠ .cleanFile registration.serial) :
    FileTurn video registration probe producer step phase := by
  refine .passed ?_ ?_ other
  · change FileCourse video registration probe phase (producer.perform step).producer
    rw [idle]
    exact course
  · change outcomes registration.serial (producer.perform step).effects = []
    rw [idle]
    rfl

theorem FileCourse.turn (course : FileCourse video registration environment.probe phase producer)
    (admissible : Admissible video registration.serial environment step) :
    FileTurn video registration environment.probe producer step phase := by
  have queued := course.queued
  by_cases own : OwnSection registration.serial step
  · cases step with
    | probeFile serial probe =>
        have here : serial = registration.serial := own
        subst here
        have given : probe = environment.probe := admissible rfl
        subst given
        cases phase with
        | probing => exact course.probe_turn
        | reporting ret => exact course.idle_turn (by simp [perform, queued]) (by simp)
        | cleaning => exact course.idle_turn (by simp [perform, queued]) (by simp)
    | reportFile serial =>
        have here : serial = registration.serial := own
        subst here
        cases phase with
        | probing => exact course.idle_turn (by simp [perform, queued]) (by simp)
        | reporting ret => exact course.report_turn
        | cleaning => exact course.idle_turn (by simp [perform, queued]) (by simp)
    | cleanFile serial =>
        have here : serial = registration.serial := own
        subst here
        cases phase with
        | probing => exact course.idle_turn (by simp [perform, queued]) (by simp)
        | reporting ret => exact course.idle_turn (by simp [perform, queued]) (by simp)
        | cleaning => exact course.clean_turn
    | registerVideo | unregisterVideo | getFrame | inviteCallback | receiveDatagram =>
        exact own.elim
  · refine .passed (course.foreign_step admissible own) (course.outcomes_kept own) ?_
    rintro _ rfl
    exact own rfl

structure FileDone (video : VideoRequest) (registration : Registration Target)
    (heard : List Callback) (producer : RtpProducer Target) : Prop where
  finished : producer.Finished registration.serial
  once : (∃ sdp context, heard = [.processSdp sdp] ∧
      producer.fileVideoContextMap.find? video = some context ∧
      context.registration = registration ∧ context.fileEvent = true) ∨
    ∃ code, heard = [.processError code]

/-- Where all failures are reported, the course goes on with what its phase says was told, or
it is over. -/
theorem FileCourse.advance
    (course : FileCourse video registration environment.probe phase producer)
    (admissible : Admissible video registration.serial environment step)
    (null : (producer.config.unsetPointers registration.serial).iFmtCtxNull = true)
    (reports : environment.probe.Reports) :
    (∃ next,
        FileCourse video registration environment.probe next (machine.next producer step) ∧
        told next = told phase ++ outcomes registration.serial (machine.emit producer step)) ∨
      FileDone video registration
        (told phase ++ outcomes registration.serial (machine.emit producer step))
        (machine.next producer step) := by
  have exits := (Probe.reports_iff environment.probe).mp reports
  cases course.turn admissible with
  | passed onward silent _ =>
      rw [silent, List.append_nil]
      exact Or.inl ⟨phase, onward, rfl⟩
  | crashed kind emitted exit =>
      rw [exit null] at exits
      rcases exits with other | ⟨_, _, other⟩
      · cases other
      · cases other
  | started sdp context finished heard found mine armed =>
      rw [heard]
      exact Or.inr ⟨finished, Or.inl ⟨sdp, context, rfl, found, mine, armed⟩⟩
  | broke ret spoken exit onward heard =>
      rw [exit] at exits
      rcases exits with other | ⟨code, nonzero, same⟩
      · cases other
      · cases same
        rw [if_pos nonzero] at onward
        rw [heard]
        exact Or.inl ⟨.reporting ret, onward, rfl⟩
  | reported ret onward heard =>
      rw [heard]
      exact Or.inl ⟨.cleaning, onward, rfl⟩
  | cleaned own finished silent =>
      rw [silent]
      exact Or.inr ⟨finished, Or.inr ⟨.invalidArgument, rfl⟩⟩

end FileCourse

theorem eq_nil_of_finishesAt {producer : RtpProducer Target} {serial : Nat}
    {later : List (Step Target)} (finished : producer.Finished serial)
    (ends : FinishesAt serial producer later) : later = [] := by
  cases later with
  | nil => rfl
  | cons step rest => exact absurd finished ends.1

/-- The whole course: the induction is on the run, the invariant is the phase
of the task with what has been told in it. -/
theorem FileCourse.ends {video : VideoRequest} {registration : Registration Target}
    {phase : TaskPhase} {producer : RtpProducer Target} {environment : Environment}
    {later : List (Step Target)}
    (course : FileCourse video registration environment.probe phase producer)
    (admissible : ∀ step ∈ later, Admissible video registration.serial environment step)
    (null : (producer.config.unsetPointers registration.serial).iFmtCtxNull = true)
    (reports : environment.probe.Reports)
    (ends : FinishesAt registration.serial producer later) :
    FileDone video registration
      (told phase ++ outcomes registration.serial (machine.trace producer later))
      (machine.run producer later) := by
  induction later generalizing producer phase with
  | nil =>
      have isOver : producer.fileTasks.find? registration.serial = none := ends.1
      rw [course.queued] at isOver
      cases isOver
  | cons step rest ih =>
      have advances := course.advance (admissible step List.mem_cons_self) null reports
      rw [LabelledMachine.trace_cons, LabelledMachine.run_cons, outcomes_append,
        ← List.append_assoc]
      rcases advances with ⟨next, onward, heard⟩ | done
      · rw [← heard]
        rw [← config_step producer step] at null
        exact ih onward (fun other member => admissible other (List.mem_cons_of_mem _ member))
          null ends.2
      · have isOver := eq_nil_of_finishesAt done.finished ends.2
        subst isOver
        rw [LabelledMachine.trace_nil, outcomes_nil, List.append_nil]
        exact done

theorem FileDone.oneOutcome {video : VideoRequest} {registration : Registration Target}
    {producer : RtpProducer Target} {effects : List (Effect Target)} (environment : Environment)
    (done : FileDone video registration (outcomes registration.serial effects) producer) :
    OneOutcome video registration.serial environment producer effects := by
  rcases done.once with ⟨sdp, context, heard, found, mine, armed⟩ | ⟨code, heard⟩
  · have number : context.registration.serial = registration.serial := by rw [mine]
    refine ⟨by rw [heard]; rfl, ?_⟩
    rintro (missing | stopped)
    · exact absurd (Or.inl ⟨context, found, number⟩) missing
    · exact absurd (Or.inl ⟨context, found, number, armed⟩) stopped
  · exact ⟨by rw [heard]; rfl, fun _ => ⟨code, by rw [heard]; exact List.mem_singleton_self _⟩⟩

/-! ### GB videos -/

/-- The registration of a GB video while its call is in flight. -/
structure GbCourse (video : VideoRequest) (registration : Registration Target) (address : Nat)
    (producer : RtpProducer Target) : Prop where
  consistent : producer.Consistent
  untasked : producer.fileTasks.find? registration.serial = none
  calling : producer.invites.find? registration.serial = some ⟨video, address⟩
  located : producer.rtpVideoContextMap.find? video = some address
  alive : ∃ context, producer.heap.cell? address = some ⟨1, context⟩ ∧
    context.registration = registration
  unhandled : ∀ peer, producer.registeredPeers.find? peer ≠ some address

section GbCourse

variable {video : VideoRequest} {registration : Registration Target} {address : Nat}
  {producer : RtpProducer Target} {step : Step Target} {environment : Environment}

theorem GbCourse.numbered (course : GbCourse video registration address producer) :
    registration.serial < producer.nextSerial :=
  (course.consistent.callBelow _ _ course.calling).1

theorem GbCourse.below (course : GbCourse video registration address producer) :
    address < producer.heap.next :=
  (course.consistent.callBelow _ _ course.calling).2

theorem GbCourse.sole (course : GbCourse video registration address producer) (serial : Nat)
    (invite : Invite) (calling : producer.invites.find? serial = some invite)
    (same : invite.context = address) : serial = registration.serial := by
  obtain ⟨context, here, mine⟩ := course.alive
  rw [← same] at here
  have own := course.consistent.callOwn serial invite _ calling here
  rw [← own, mine]

theorem GbCourse.located_kept (course : GbCourse video registration address producer)
    (admissible : Admissible video registration.serial environment step) :
    (machine.next producer step).rtpVideoContextMap.find? video = some address := by
  have moved := transition producer step
  change (producer.perform step).producer.rtpVideoContextMap.find? video = _
  generalize producer.perform step = result at moved
  have located := course.located
  have taken {other : VideoRequest} (free : producer.rtpVideoContextMap.find? other = none) :
      video.cmpStr ≠ other.cmpStr := by
    intro same
    rw [OrderedMap.find?_congr _ same, free] at located
    cases located
  cases moved with
  | idle | ignored | refused | fileQueued | fileRemoved | probeLost | probeStarted | probeBroke
  | probeCrashed | reported | reportedNobody | cleaned | framed | frameFailed | inviteLost
  | inviteFailed | inviteAccepted | received => exact located
  | gbUnnamed other target noFile isGb free mode =>
      rw [find?_addRtpContext, if_neg (taken free)]
      exact located
  | gbInvited other target transmission noFile isGb free mode =>
      change (producer.takeSerial.addRtpContext other _).rtpVideoContextMap.find? video = _
      rw [find?_addRtpContext, if_neg (taken free)]
      exact located
  | gbRemoved other removed noFile isGb found =>
      change (producer.rtpVideoContextMap.erase other).find? video = _
      rw [OrderedMap.find?_erase, if_neg (Ne.symm admissible)]
      exact located

theorem GbCourse.cell_kept (course : GbCourse video registration address producer)
    (admissible : Admissible video registration.serial environment step)
    (foreign : ¬OwnCall registration.serial step) :
    (machine.next producer step).heap.cell? address = producer.heap.cell? address := by
  have moved := transition producer step
  change (producer.perform step).producer.heap.cell? address = _
  generalize producer.perform step = result at moved
  have older : address ≠ producer.heap.next := Nat.ne_of_lt course.below
  have elsewhere {serial : Nat} {invite : Invite} (different : ¬serial = registration.serial)
      (calling : producer.invites.find? serial = some invite) : address ≠ invite.context :=
    fun same => different (course.sole serial invite calling same.symm)
  cases moved with
  | idle | ignored | refused | fileQueued | fileRemoved | probeLost | probeStarted | probeBroke
  | probeCrashed | reported | reportedNobody | cleaned | framed | frameFailed | inviteLost => rfl
  | gbUnnamed other target noFile isGb free mode =>
      rw [cell?_addRtpContext]
      exact if_neg older
  | gbInvited other target transmission noFile isGb free mode =>
      change (producer.takeSerial.addRtpContext other _).heap.cell? address = _
      rw [cell?_addRtpContext]
      exact if_neg older
  | gbRemoved other removed noFile isGb found =>
      obtain ⟨context, last, key⟩ := course.consistent.owned.held other removed found
      obtain ⟨own, here, ownKey⟩ := course.consistent.owned.held video address course.located
      have apart : address ≠ removed := by
        intro same
        rw [same, last] at here
        cases here
        exact admissible (key.symm.trans ownKey)
      change (producer.heap.release removed).cell? address = _
      rw [SharedHeap.cell?_release_last last, if_neg apart]
  | inviteFailed serial completion invite context calling alive rejected =>
      rw [cell?_unlock_update, if_neg (elsewhere foreign calling)]
  | inviteAccepted serial completion invite context gb calling alive accepted =>
      change ((producer.completeCall serial).unlock _ _).heap.cell? address = _
      rw [cell?_unlock_update, if_neg (elsewhere foreign calling)]
  | received peer data packets weak context registered alive => rw [cell?_unlock]

theorem GbCourse.call_kept (course : GbCourse video registration address producer)
    (foreign : ¬OwnCall registration.serial step) :
    (machine.next producer step).invites.find? registration.serial = some ⟨video, address⟩ := by
  have moved := transition producer step
  change (producer.perform step).producer.invites.find? registration.serial = _
  generalize producer.perform step = result at moved
  have completed {serial : Nat} (different : ¬serial = registration.serial) :
      (producer.invites.erase serial).find? registration.serial = some ⟨video, address⟩ := by
    rw [OrderedMap.find?_erase, if_neg (fun same => different same.symm)]
    exact course.calling
  cases moved with
  | idle | ignored | refused | fileQueued | gbUnnamed | fileRemoved | gbRemoved | probeLost
  | probeStarted | probeBroke | probeCrashed | reported | reportedNobody | cleaned | framed
  | frameFailed | received => exact course.calling
  | gbInvited other target transmission noFile isGb free mode =>
      change (producer.invites.insert producer.nextSerial _).find? registration.serial = _
      rw [OrderedMap.find?_insert, if_neg (Nat.ne_of_lt course.numbered)]
      exact course.calling
  | inviteLost serial completion invite calling dead => exact completed foreign
  | inviteFailed serial completion invite context calling alive rejected =>
      exact completed foreign
  | inviteAccepted serial completion invite context gb calling alive accepted =>
      exact completed foreign

theorem GbCourse.foreign_step (course : GbCourse video registration address producer)
    (admissible : Admissible video registration.serial environment step)
    (foreign : ¬OwnCall registration.serial step) :
    GbCourse video registration address (machine.next producer step) := by
  have numbered := course.numbered
  have below := course.below
  obtain ⟨context, here, mine⟩ := course.alive
  refine
    { consistent := consistent_step step course.consistent
      untasked := ?_
      calling := course.call_kept foreign
      located := course.located_kept admissible
      alive := ⟨context, (course.cell_kept admissible foreign).trans here, mine⟩
      unhandled := ?_ }
  · cases queued : (machine.next producer step).fileTasks.find? registration.serial with
    | none => rfl
    | some task =>
        rcases task_former queued with ⟨old, former, _⟩ | ⟨new, _⟩
        · rw [course.untasked] at former
          cases former
        · omega
  · intro peer handled
    rcases peers_step producer step peer with same | ⟨other, accepts, _free, new⟩
    · exact course.unhandled peer (same.symm.trans handled)
    · rw [handled, Option.some.injEq] at new
      cases accepts with
      | answered serial completion gb invite other success calling alive =>
          exact foreign (course.sole serial invite calling new.symm)

theorem GbCourse.outcomes_kept (course : GbCourse video registration address producer)
    (foreign : ¬OwnCall registration.serial step) :
    outcomes registration.serial (machine.emit producer step) = [] := by
  apply outcomes_of_others
  intro spoken said emitted
  obtain ⟨context, here, mine⟩ := course.alive
  have numbered := course.numbered
  obtain ⟨files, tasks⟩ := course.consistent.apart address _ here
  rw [mine] at files tasks
  cases speaks_of_emitted emitted with
  | newcomer other target code => exact Or.inl (Nat.ne_of_gt numbered)
  | task serial probe task sdp queued => exact Or.inl (tasks serial task queued)
  | report serial task stored queued found => exact Or.inl (files task.video stored found)
  | frame other packets ret stored _ found armed => exact Or.inl (files other stored found)
  | invite serial completion invite other _ calling alive =>
      refine Or.inl (fun same => foreign ?_)
      obtain ⟨strong, found⟩ := cell?_of_get? alive
      rw [← mine] at same
      exact course.sole serial invite calling
        (course.consistent.unique invite.context address _ _ found here same)
  | datagram peer data packets weak other packet registered alive => exact Or.inr ⟨packet, rfl⟩

/-- The call is over and its caller has heard once; the entry stays in any case.  After an SDP
the acknowledgement is sent, and the peer leads to this context or to an older one. -/
structure GbDone (video : VideoRequest) (registration : Registration Target)
    (environment : Environment) (starts : Prop) (effects : List (Effect Target))
    (producer : RtpProducer Target) : Prop where
  finished : producer.Finished registration.serial
  held : ∃ address, producer.rtpVideoContextMap.find? video = some address
  once : (∃ sdp address context gb, outcomes registration.serial effects = [.processSdp sdp] ∧
      producer.rtpVideoContextMap.find? video = some address ∧
      producer.heap.get? address = some context ∧ context.registration = registration ∧
      .sendAck context.inviteId ∈ effects ∧ environment.completion.success? = some gb ∧
      (starts ↔ producer.registeredPeers.find? gb.peerInfo = some address ∧
        environment.acknowledged = true)) ∨
    ((∃ code, outcomes registration.serial effects = [.processError code]) ∧ starts)

theorem GbCourse.own_step (course : GbCourse video registration address producer)
    (environment : Environment) :
    GbDone video registration environment
      (StartsStream registration.serial environment producer
        (.inviteCallback registration.serial environment.completion))
      (machine.emit producer (.inviteCallback registration.serial environment.completion))
      (machine.next producer (.inviteCallback registration.serial environment.completion)) := by
  obtain ⟨context, here, mine⟩ := course.alive
  have living : producer.heap.get? address = some context := get?_of_cell? here
  have performed := next_inviteCallback environment.completion course.calling living
  dsimp only at performed
  rw [RtpVideoContext.accept_eq_success?] at performed
  have moved : machine.next producer (.inviteCallback registration.serial environment.completion) =
      _ := congrArg Produced.producer performed
  have emitted : machine.emit producer
      (.inviteCallback registration.serial environment.completion) = _ :=
    congrArg Produced.effects performed
  have isOver : (producer.completeCall registration.serial).Finished registration.serial :=
    ⟨course.untasked, OrderedMap.find?_erase_self _ _⟩
  cases outcome : environment.completion.success? with
  | none =>
      rw [outcome] at moved emitted
      rw [moved, emitted]
      refine ⟨isOver, ⟨address, course.located⟩, Or.inr ⟨⟨.invalidArgument, ?_⟩, ?_⟩⟩
      · rw [mine]
        exact outcomes_processError registration _
      · intro _ peer other accepts
        cases accepts with
        | answered _ _ gb invite other success calling alive =>
            rw [outcome] at success
            cases success
  | some gb =>
      have accepts : Accepts producer
          (.inviteCallback registration.serial environment.completion) gb.peerInfo address :=
        .answered _ _ gb _ context outcome course.calling living
      have handler : StartsStream registration.serial environment producer
          (.inviteCallback registration.serial environment.completion) ↔
            (machine.next producer
              (.inviteCallback registration.serial environment.completion)).registeredPeers.find?
                gb.peerInfo = some address ∧ environment.acknowledged = true := by
        constructor
        · intro starts
          obtain ⟨free, acknowledged⟩ := starts rfl gb.peerInfo address accepts
          exact ⟨peer_of_accepts accepts free, acknowledged⟩
        · intro ⟨handled, acknowledged⟩ _ peer other accepts
          refine ⟨?_, acknowledged⟩
          cases accepts with
          | answered _ _ gb' invite' other' success calling alive =>
              rw [outcome, Option.some.injEq] at success
              subst success
              -- An older handler would have stayed, and it leads somewhere else.
              cases older : producer.registeredPeers.find? gb.peerInfo with
              | none => rfl
              | some weak =>
                  have stayed := (peer_kept older).symm.trans handled
                  rw [Option.some.injEq] at stayed
                  rw [stayed] at older
                  exact absurd older (course.unhandled gb.peerInfo)
      rw [outcome] at moved emitted
      refine ⟨?_, ⟨address, ?_⟩, Or.inl ⟨gbSdp video gb, address,
        (context.accept producer.config environment.completion).1, gb, ?_, ?_, ?_, ?_, ?_,
        outcome, handler⟩⟩
      · rw [moved]
        exact isOver
      · rw [moved]
        exact course.located
      · rw [emitted, mine]
        exact outcomes_processSdp registration _
      · rw [moved]
        exact course.located
      · have stored := cell?_unlock_update (producer.completeCall registration.serial) address
          address producer.heap (context.accept producer.config environment.completion).1
        rw [if_pos rfl, here] at stored
        rw [moved]
        exact get?_of_cell? stored
      · rw [RtpVideoContext.accept_registration, mine]
      · rw [emitted]
        exact List.mem_cons_of_mem _ (List.mem_cons_of_mem _ List.mem_cons_self)

theorem GbDone.before {starts : Prop} {effects front : List (Effect Target)}
    (done : GbDone video registration environment starts effects producer)
    (silent : outcomes registration.serial front = []) :
    GbDone video registration environment starts (front ++ effects) producer := by
  refine ⟨done.finished, done.held, ?_⟩
  rw [outcomes_append, silent, List.nil_append]
  rcases done.once with ⟨sdp, held, context, gb, heard, located, alive, mine, acked, rest⟩ | failed
  · exact Or.inl ⟨sdp, held, context, gb, heard, located, alive, mine,
      List.mem_append_right _ acked, rest⟩
  · exact Or.inr failed

theorem GbCourse.ends {later : List (Step Target)}
    (course : GbCourse video registration address producer)
    (admissible : ∀ step ∈ later, Admissible video registration.serial environment step)
    (ends : FinishesAt registration.serial producer later) :
    GbDone video registration environment
      (machine.Along (StartsStream registration.serial environment) producer later)
      (machine.trace producer later) (machine.run producer later) := by
  induction later generalizing producer with
  | nil =>
      have isOver : producer.invites.find? registration.serial = none := ends.2
      rw [course.calling] at isOver
      cases isOver
  | cons step rest ih =>
      rw [LabelledMachine.trace_cons, LabelledMachine.run_cons]
      by_cases foreign : OwnCall registration.serial step
      · cases step with
        | inviteCallback serial completion =>
            have own : serial = registration.serial := foreign
            subst own
            have given : completion = environment.completion :=
              admissible _ List.mem_cons_self rfl
            subst given
            have done := course.own_step environment
            have isOver := eq_nil_of_finishesAt done.finished ends.2
            subst isOver
            rw [LabelledMachine.trace_nil, List.append_nil]
            refine ⟨done.finished, done.held, ?_⟩
            rw [LabelledMachine.along_cons, and_iff_left (LabelledMachine.along_nil _ _)]
            exact done.once
        | registerVideo | unregisterVideo | probeFile | reportFile | cleanFile | getFrame
        | receiveDatagram => exact foreign.elim
      · have onward := course.foreign_step (admissible step List.mem_cons_self) foreign
        have done := ih onward
          (fun other member => admissible other (List.mem_cons_of_mem _ member)) ends.2
        have passes : StartsStream registration.serial environment producer step :=
          fun own => absurd own foreign
        rw [LabelledMachine.along_cons, and_iff_right passes]
        exact done.before (course.outcomes_kept foreign)

end GbCourse

/-- After the end there is one outcome, as it should be, exactly when the stream starts. -/
theorem GbDone.oneOutcome_iff {video : VideoRequest} {registration : Registration Target}
    {environment : Environment} {starts : Prop} {producer : RtpProducer Target}
    {effects : List (Effect Target)}
    (done : GbDone video registration environment starts effects producer)
    (noFile : producer.fileVideoContextMap.find? video = none) :
    OneOutcome video registration.serial environment producer effects ↔ starts := by
  rcases done.once with
    ⟨sdp, address, context, gb, heard, located, alive, mine, acked, answered, starts_iff⟩ |
      ⟨⟨code, heard⟩, starts⟩
  · have number : context.registration.serial = registration.serial := by rw [mine]
    rw [starts_iff]
    constructor
    · intro one
      by_contra stopped
      have silent : ¬producer.Streams video registration.serial environment effects := by
        rintro (⟨file, found, _⟩ | ⟨other, stored, answer, found, _, _, _, went, same, handled⟩)
        · rw [noFile] at found
          cases found
        · rw [located, Option.some.injEq] at found
          rw [answered, Option.some.injEq] at same
          subst found same
          exact stopped ⟨handled, went⟩
      obtain ⟨code, member⟩ := one.told (Or.inr silent)
      rw [heard] at member
      cases List.mem_singleton.mp member
    · intro ⟨handled, went⟩
      refine ⟨by rw [heard]; rfl, ?_⟩
      rintro (missing | stopped)
      · exact absurd (Or.inr ⟨address, context, located, alive, number⟩) missing
      · exact absurd (Or.inr ⟨address, context, gb, located, alive, number, acked, went, answered,
          handled⟩) stopped
  · refine iff_of_true ⟨by rw [heard]; rfl, fun _ => ⟨code, ?_⟩⟩ starts
    rw [heard]
    exact List.mem_singleton_self _

end Ffvms.Concrete.RtpProducer
