/-
The frame callbacks and the contexts they work on.

`FFGetFrame` works on a plain pointer to the context of its timer.  An erase takes the
context out of the map and destroys it only when `event_del` has returned, which waits for
a callback that is under way.  So a callback has its context, with its timer armed, in the
map or in the hands of the one who erases it.  A context that has been destroyed does not
come back, because each registration makes one of its own.
-/

import Ffvms.Concrete.MediaThreadsInvariant

namespace Ffvms.Concrete

open LockProgram

variable {Client Thread : Type} [DecidableEq Client]

namespace MediaStage

def frame? : MediaStage Client → Option Nat
  | .framePkt context _ _ _ _ | .frameEnd context _ => some context
  | _ => none

def destroys? : MediaStage Client → Option Nat
  | .deleteEvent context _ => some context
  | _ => none

end MediaStage

namespace MediaData

def file? (data : MediaData Client) (video : VideoRequest) :
    Option (FileVideoContext (Option Nat)) :=
  data.producer.fileVideoContextMap.find? video

/-- What a section relies on: a callback on its context, and a worker under the lock of the
file contexts on the entry that it has found. -/
def Backs (data : MediaData Client) : MediaStage Client → Prop
  | .framePkt context proxy _ _ _ =>
      ∃ found ∈ data.contexts, found.registration = ⟨context, some proxy⟩ ∧
        found.fileEvent = true ∧ found.error = 0
  | .frameEnd context _ =>
      ∃ found ∈ data.contexts, found.registration.serial = context ∧ found.fileEvent = true ∧
        found.error = 0
  | .replaceEvent context task _ =>
      ∃ found, data.file? task.video = some found ∧ found.registration.serial = context
  | .service (.unregisterVideo video _) => video.useFile = false
  | _ => True

structure Alike (found kept : FileVideoContext (Option Nat)) : Prop where
  registration : kept.registration = found.registration
  fileEvent : kept.fileEvent = found.fileEvent
  error : kept.error = found.error

theorem Alike.refl (found : FileVideoContext (Option Nat)) : Alike found found :=
  ⟨rfl, rfl, rfl⟩

section Files

variable {data later : MediaData Client} {stage : MediaStage Client} {video key : VideoRequest}
  {found : FileVideoContext (Option Nat)}

/-! ### What happens to a context that plays -/

omit [DecidableEq Client] in
theorem mem_contexts_of_file (located : data.file? video = some found) : found ∈ data.contexts :=
  mem_contexts.mpr (Or.inl ⟨video, located⟩)

omit [DecidableEq Client] in
theorem mem_contexts_eraseFile (key : VideoRequest) (member : found ∈ data.contexts) :
    found ∈ (data.eraseFile key).contexts ∨ data.file? key = some found := by
  rcases mem_contexts.mp member with ⟨video, located⟩ | unlinked
  · by_cases same : video.cmpStr = key.cmpStr
    · exact Or.inr ((OrderedMap.find?_congr _ same).symm.trans located)
    · refine Or.inl (mem_contexts.mpr (Or.inl ⟨video, ?_⟩))
      change (data.producer.fileVideoContextMap.erase key).find? video = some found
      rw [OrderedMap.find?_erase, if_neg same]
      exact located
  · exact Or.inl (mem_contexts.mpr (Or.inr unlinked))

omit [DecidableEq Client] in
/-- An erase keeps the context if its timer is armed: it is the one that is unlinked. -/
theorem mem_contexts_eraseEntry {closing : Option VideoRequest}
    {rest : StageExit (MediaStage Client)} (member : found ∈ data.contexts)
    (armed : found.fileEvent = true) : found ∈ (data.eraseEntry key closing rest).1.contexts := by
  unfold eraseEntry
  split
  next context timer =>
    rcases mem_contexts_eraseFile key member with kept | own
    · refine mem_contexts.mpr ((mem_contexts.mp kept).imp_right ?_)
      exact List.mem_cons_of_mem context
    · cases (Option.filter_eq_some_iff.mp timer).1.symm.trans own
      exact mem_contexts.mpr (Or.inr List.mem_cons_self)
  next unarmed =>
    refine (mem_contexts_eraseFile _ member).resolve_right (fun own => ?_)
    have timer : data.producer.timer? key = some found :=
      Option.filter_eq_some_iff.mpr ⟨own, armed⟩
    cases unarmed.symm.trans timer

omit [DecidableEq Client] in
theorem mem_contexts_modify (change : FileVideoContext (Option Nat) → FileVideoContext (Option Nat))
    (contexts : later.producer.fileVideoContextMap =
      data.producer.fileVideoContextMap.modify key change)
    (unlinked : later.unlinked = data.unlinked) (member : found ∈ data.contexts) :
    found ∈ later.contexts ∨ (change found ∈ later.contexts ∧ data.file? key = some found) := by
  rcases mem_contexts.mp member with ⟨video, located⟩ | inHand
  · have there : later.file? video = if video.cmpStr = key.cmpStr then some (change found) else
        some found := by
      rw [file?, contexts, OrderedMap.find?_modify, located]
      rfl
    split_ifs at there with same
    · exact Or.inr ⟨mem_contexts_of_file there, (OrderedMap.find?_congr _ same).symm.trans located⟩
    · exact Or.inl (mem_contexts_of_file there)
  · exact Or.inl (mem_contexts.mpr (Or.inr (unlinked.symm ▸ inHand)))

omit [DecidableEq Client] in
theorem mem_contexts_setTimer {task : FileTask (Option Nat)} {probe : Probe}
    (member : found ∈ data.contexts) :
    found ∈ (data.setTimer task probe).contexts ∨ data.file? task.video = some found := by
  unfold setTimer
  split
  · refine (mem_contexts_modify
      (fun context => { context.setFormats probe with fileEvent := false })
      ?_ ?_ member).imp_right And.right <;> rfl
  all_goals
    refine (mem_contexts_modify FileVideoContext.arm ?_ ?_ member).imp_right And.right <;> rfl

theorem file?_registerVideo (target : Option Nat) (located : data.file? video = some found) :
    (data.registerVideo key target).file? video = some found := by
  cases isFile : key.useFile with
  | false =>
      rw [← located]
      exact congrArg (fun map => OrderedMap.find? map video)
        (sameFiles_registerVideo data.producer target isFile).contexts
  | true =>
      unfold file? registerVideo SharedData.registerVideo RtpProducer.registerVideo
        RtpProducer.registerFile
      simp only [isFile, if_true]
      split
      · exact located
      next free =>
        change (data.producer.fileVideoContextMap.insert key _).find? video = _
        rw [OrderedMap.find?_insert, if_neg]
        · exact located
        · intro same
          have there := (OrderedMap.find?_congr data.producer.fileVideoContextMap same).symm.trans
            located
          cases (free : data.producer.fileVideoContextMap.find? key = none).symm.trans there

theorem mem_contexts_registerVideo (target : Option Nat) (member : found ∈ data.contexts) :
    found ∈ (data.registerVideo key target).contexts := by
  rcases mem_contexts.mp member with ⟨video, located⟩ | unlinked
  · exact mem_contexts_of_file (file?_registerVideo target located)
  · exact mem_contexts.mpr (Or.inr unlinked)

theorem service_files {stage : ServiceStage Client} (backs : data.Backs (.service stage)) :
    (SameFiles data.producer (data.body (.service stage)).1.producer ∧
      (data.body (.service stage)).1.unlinked = data.unlinked) ∨
        ∃ key target, (data.body (.service stage)).1 = data.registerVideo key target := by
  by_cases registers : ∃ key target, stage = .registerVideo key target
  · obtain ⟨key, target, rfl⟩ := registers
    exact Or.inr ⟨key, target, rfl⟩
  · by_cases unregisters : ∃ key closing, stage = .unregisterVideo key closing
    · obtain ⟨key, closing, rfl⟩ := unregisters
      exact Or.inl ⟨sameFiles_unregisterVideo data.producer backs, rfl⟩
    · simp only [not_exists] at registers unregisters
      exact Or.inl (data.sameFiles_service registers unregisters)

theorem mem_inner_of_lock {context : Nat}
    (locks : stage.lock? = some (.event context, .exclusive)) :
    (.event context, .exclusive) ∈ mediaScopes.inner stage :=
  List.mem_append_left _ (Option.mem_toList.mpr locks)

/-- A context whose timer is armed stays as a callback sees it, unless the section has the
callback of the timer to itself. -/
theorem body_keeps (backs : data.Backs stage) (member : found ∈ data.contexts)
    (armed : found.fileEvent = true) :
    (∃ kept ∈ (data.body stage).1.contexts, Alike found kept) ∨
      (.event found.registration.serial, .exclusive) ∈ mediaScopes.inner stage := by
  have stays (there : found ∈ (data.body stage).1.contexts) :
      (∃ kept ∈ (data.body stage).1.contexts, Alike found kept) ∨
        (.event found.registration.serial, .exclusive) ∈ mediaScopes.inner stage :=
    Or.inl ⟨found, there, .refl found⟩
  cases stage with
  | service stage =>
      refine stays ?_
      rcases service_files backs with ⟨same, unlinked⟩ | ⟨key, target, same⟩
      · rw [contexts_of_sameFiles same unlinked]
        exact member
      · rw [same]
        exact mem_contexts_registerVideo target member
  | registerFile video target => exact stays (mem_contexts_registerVideo target member)
  | unregisterFile video inClose =>
      cases inClose <;> exact stays (mem_contexts_eraseEntry member armed)
  | cleanFile task => exact stays (mem_contexts_eraseEntry member armed)
  | deleteEvent context closing =>
      by_cases own : found.registration.serial = context
      · right
        subst own
        exact mem_inner_of_lock rfl
      · refine stays (mem_contexts.mpr ((mem_contexts.mp member).imp_right ?_))
        exact fun unlinked => List.mem_filter.mpr ⟨unlinked, decide_eq_true own⟩
  | eraseClosed | fileSdp | getFrame | framePkt => exact stays member
  | probeFile task probe =>
      simp only [body, probeFile] at stays ⊢
      split
      · exact Or.inl ⟨found, member, .refl found⟩
      · split
        · exact Or.inl ⟨found, member, .refl found⟩
        · exact Or.inl ⟨found, member, .refl found⟩
        · left
          -- A context that plays may be probed again.
          have probed : found ∈ MediaData.contexts
                { data with producer := data.producer.setFormats task.video probe } ∨ _ :=
            mem_contexts_modify (FileVideoContext.setFormats probe) rfl rfl member
          rcases probed with same | ⟨changed, _⟩
          · exact ⟨found, same, .refl found⟩
          · exact ⟨found.setFormats probe, changed, rfl, rfl, rfl⟩
        · exact Or.inl ⟨found, member, .refl found⟩
  | startFile task probe =>
      refine stays ?_
      simp only [body, startFile]
      split
      · exact member
      next unarmed =>
        refine (mem_contexts_setTimer member).resolve_right (fun own => ?_)
        have timer : data.producer.timer? task.video = some found :=
          Option.filter_eq_some_iff.mpr ⟨own, armed⟩
        cases unarmed.symm.trans timer
  | replaceEvent context task probe =>
      rcases mem_contexts_setTimer member with kept | own
      · exact stays kept
      · right
        obtain ⟨known, there, same⟩ := backs
        cases there.symm.trans own
        subst same
        exact mem_inner_of_lock rfl
  | reportFile task =>
      refine stays ?_
      simp only [body, reportFile]
      split <;> exact member
  | frameEnd context ret =>
      by_cases own : found.registration.serial = context
      · right
        subst own
        exact List.mem_cons_self
      · refine stays ?_
        simp only [body, frameEnd]
        split
        · exact member
        next known _ =>
          split_ifs
          · change found ∈ (data.setError context ret).contexts
            rw [contexts_setError]
            exact List.mem_map.mpr ⟨found, member, if_neg own⟩
          · exact member

/-! ### What happens to an entry of the map -/

omit [DecidableEq Client] in
theorem file?_modify (change : FileVideoContext (Option Nat) → FileVideoContext (Option Nat))
    (contexts : later.producer.fileVideoContextMap =
      data.producer.fileVideoContextMap.modify key change)
    (same : ∀ context, (change context).registration = context.registration)
    (located : data.file? video = some found) :
    ∃ kept, later.file? video = some kept ∧ kept.registration = found.registration := by
  unfold file? at located ⊢
  rw [contexts, OrderedMap.find?_modify, located]
  split_ifs
  · exact ⟨change found, rfl, same found⟩
  · exact ⟨found, rfl, rfl⟩

omit [DecidableEq Client] in
theorem file?_setTimer {task : FileTask (Option Nat)} {probe : Probe}
    (located : data.file? video = some found) :
    ∃ kept, (data.setTimer task probe).file? video = some kept ∧
      kept.registration = found.registration := by
  unfold setTimer
  split
  · exact file?_modify (fun context => { context.setFormats probe with fileEvent := false }) rfl
      (fun _ => rfl) located
  all_goals exact file?_modify FileVideoContext.arm rfl (fun _ => rfl) located

omit [DecidableEq Client] in
theorem file?_setError (context : Nat) (ret : Int) (located : data.file? video = some found) :
    ∃ kept, (data.setError context ret).file? video = some kept ∧
      kept.registration = found.registration := by
  refine ⟨_, (OrderedMap.find?_mapValues_const _ _ _).trans (congrArg _ located), ?_⟩
  dsimp only
  split_ifs <;> rfl

theorem body_keeps_file (backs : data.Backs stage) (located : data.file? video = some found) :
    (∃ kept, (data.body stage).1.file? video = some kept ∧
        kept.registration = found.registration) ∨
      (.fileContext, .exclusive) ∈ mediaScopes.inner stage := by
  cases stage with
  | service stage =>
      left
      rcases service_files backs with ⟨same, _⟩ | ⟨key, target, same⟩
      · refine ⟨found, ?_, rfl⟩
        rw [file?, same.contexts]
        exact located
      · rw [same]
        exact ⟨found, file?_registerVideo target located, rfl⟩
  | registerFile | unregisterFile | cleanFile => exact Or.inr List.mem_cons_self
  | deleteEvent => exact Or.inr (List.mem_cons_of_mem _ List.mem_cons_self)
  | eraseClosed => exact Or.inr List.mem_cons_self
  | fileSdp | getFrame | framePkt => exact Or.inl ⟨found, located, rfl⟩
  | probeFile task probe =>
      left
      simp only [body, probeFile]
      split
      · exact ⟨found, located, rfl⟩
      · split
        · exact ⟨found, located, rfl⟩
        · exact ⟨found, located, rfl⟩
        · exact file?_modify (FileVideoContext.setFormats probe) rfl (fun _ => rfl) located
        · exact ⟨found, located, rfl⟩
  | startFile task probe =>
      left
      simp only [body, startFile]
      split
      · exact ⟨found, located, rfl⟩
      · exact file?_setTimer located
  | replaceEvent context task probe => exact Or.inl (file?_setTimer located)
  | reportFile task =>
      left
      simp only [body, reportFile]
      split <;> exact ⟨found, located, rfl⟩
  | frameEnd context ret =>
      left
      simp only [body, frameEnd]
      split
      · exact ⟨found, located, rfl⟩
      · split_ifs
        · exact file?_setError context ret located
        · exact ⟨found, located, rfl⟩

/-! ### What the sections rely on -/

omit [DecidableEq Client] in
theorem enter_files {call : MediaCall Client} (enters : data.enter call = some (later, stage)) :
    later.producer.fileVideoContextMap = data.producer.fileVideoContextMap ∧
      later.unlinked = data.unlinked ∧
      later.producer.nextSerial = data.producer.nextSerial ∧ later.Backs stage := by
  cases call with
  | service call =>
      obtain ⟨⟨reached, begun⟩, found, same⟩ := Option.map_eq_some_iff.mp enters
      cases same
      cases call with
      | accept | readcb | errorcb | datagram =>
          cases found
          exact ⟨rfl, rfl, rfl, trivial⟩
      | registerVideo video =>
          simp only [SharedData.enter] at found
          split_ifs at found
          cases found
          exact ⟨rfl, rfl, rfl, trivial⟩
      | unregisterVideo video =>
          simp only [SharedData.enter] at found
          split_ifs at found with takes
          cases found
          exact ⟨rfl, rfl, rfl, takes.1⟩
      | inviteCallback serial completion =>
          obtain ⟨invite, _, same⟩ := Option.map_eq_some_iff.mp found
          cases same
          exact ⟨rfl, rfl, rfl, trivial⟩
  | registerFile video | unregisterFile video =>
      simp only [enter] at enters
      split_ifs at enters
      cases enters
      exact ⟨rfl, rfl, rfl, trivial⟩
  | frame context packets ret =>
      obtain ⟨found, _, same⟩ := Option.map_eq_some_iff.mp enters
      cases same
      exact ⟨rfl, rfl, rfl, trivial⟩
  | fileTask serial probe =>
      obtain ⟨task, _, same⟩ := Option.map_eq_some_iff.mp enters
      cases same
      refine ⟨rfl, rfl, rfl, ?_⟩
      cases task.phase <;> trivial

omit [DecidableEq Client] in
theorem Backs.of_same (backs : data.Backs stage)
    (map : later.producer.fileVideoContextMap = data.producer.fileVideoContextMap)
    (unlinked : later.unlinked = data.unlinked) : later.Backs stage := by
  have same : later.contexts = data.contexts := by rw [contexts, contexts, map, unlinked]
  cases stage with
  | service stage => cases stage <;> exact backs
  | framePkt | frameEnd =>
      simp only [Backs, same]
      exact backs
  | replaceEvent =>
      simp only [Backs, file?, map]
      exact backs
  | _ => trivial

theorem next_backs {next : MediaStage Client} (backs : data.Backs stage)
    (follows : (data.body stage).2.next? = some next) : (data.body stage).1.Backs next := by
  have steps := media_next follows
  cases steps with
  | service stage next inner =>
      cases inner with
      | unregister client video =>
          simp only [body] at follows
          split at follows
          · cases follows
          · simp only [closeMedia, embed, SharedData.closeFound] at follows
            split_ifs at follows with _ _ _ takes <;> cases follows
            exact takes.1
      | _ => trivial
  | replace task probe found armed =>
      simp only [body, startFile, armed]
      exact ⟨found, (Option.filter_eq_some_iff.mp armed).1, rfl⟩
  | packet context ret proxy packet rest found armed fine own =>
      obtain ⟨member, serial, event⟩ := mem_of_eventAt armed
      refine ⟨found, member, ?_, event, fine⟩
      rw [← own, ← serial]
  | frame context packets ret found armed fine =>
      obtain ⟨member, serial, event⟩ := mem_of_eventAt armed
      exact ⟨found, member, serial, event, fine⟩
  | more => exact backs
  | last =>
      obtain ⟨found, member, own, event, fine⟩ := backs
      exact ⟨found, member, congrArg Registration.serial own, event, fine⟩
  | _ => trivial

omit [DecidableEq Client] in
theorem Backs.frame {context : Nat} (backs : data.Backs stage)
    (frames : stage.frame? = some context) :
    ∃ found ∈ data.contexts, found.registration.serial = context ∧ found.fileEvent = true ∧
      ∀ proxy, stage.Targets proxy → found.registration.target = some proxy := by
  cases stage with
  | framePkt _ proxy =>
      cases frames
      obtain ⟨found, member, own, event, _⟩ := backs
      refine ⟨found, member, congrArg Registration.serial own, event, ?_⟩
      rintro other rfl
      exact congrArg Registration.target own
  | frameEnd =>
      cases frames
      obtain ⟨found, member, own, event, _⟩ := backs
      exact ⟨found, member, own, event, fun _ target => target.elim⟩
  | _ => cases frames

/-- A section under way keeps what another one relies on, as long as their locks keep them
apart. -/
theorem Backs.beside {other : MediaStage Client} (backs : data.Backs stage)
    (theirs : data.Backs other)
    (apart : ∀ lock mode taken, (lock, mode) ∈ mediaScopes.inner stage →
      (lock, taken) ∈ other.outer → ¬mode.Conflicts taken) :
    (data.body stage).1.Backs other := by
  have frame {context : Nat} {found : FileVideoContext (Option Nat)}
      (member : found ∈ data.contexts)
      (own : found.registration.serial = context) (armed : found.fileEvent = true)
      (held : (.event context, .exclusive) ∈ other.outer) :
      ∃ kept ∈ (data.body stage).1.contexts, Alike found kept := by
    refine (body_keeps backs member armed).resolve_right (fun mine => ?_)
    rw [own] at mine
    exact apart _ _ _ mine held (LockMode.conflicts_exclusive _)
  cases other with
  | service stage => cases stage <;> exact theirs
  | framePkt context proxy =>
      obtain ⟨found, member, own, armed, fine⟩ := theirs
      obtain ⟨kept, there, same⟩ :=
        frame member (congrArg Registration.serial own) armed (List.mem_singleton_self _)
      exact ⟨kept, there, same.registration.trans own, same.fileEvent.trans armed,
        same.error.trans fine⟩
  | frameEnd context =>
      obtain ⟨found, member, own, armed, fine⟩ := theirs
      obtain ⟨kept, there, same⟩ := frame member own armed (List.mem_singleton_self _)
      exact ⟨kept, there, (congrArg Registration.serial same.registration).trans own,
        same.fileEvent.trans armed, same.error.trans fine⟩
  | replaceEvent =>
      obtain ⟨found, there, own⟩ := theirs
      rcases body_keeps_file backs there with ⟨kept, still, same⟩ | mine
      · exact ⟨kept, still, (congrArg Registration.serial same).trans own⟩
      · exact (apart _ _ _ mine (List.mem_singleton_self _)
          (LockMode.conflicts_exclusive _).symm).elim
  | _ => trivial

/-! ### Contexts that are being destroyed -/

omit [DecidableEq Client] in
theorem unlinked_eraseEntry {closing : Option VideoRequest} {rest : StageExit (MediaStage Client)}
    (member : found ∈ (data.eraseEntry key closing rest).1.unlinked) :
    found ∈ data.unlinked ∨ ∃ next, (data.eraseEntry key closing rest).2.next? = some next ∧
      next.destroys? = some found.registration.serial := by
  unfold eraseEntry at member ⊢
  split at member
  next context timer =>
    rcases List.mem_cons.mp member with rfl | before
    · exact Or.inr ⟨_, rfl, rfl⟩
    · exact Or.inl before
  next => exact Or.inl member

/-- A context that is unlinked has been so before, and is not the one that the section
destroys, or the section goes on to destroy it. -/
theorem body_unlinked (member : found ∈ (data.body stage).1.unlinked) :
    (∃ old ∈ data.unlinked, old.registration = found.registration ∧
        stage.destroys? ≠ some found.registration.serial) ∨
      ∃ next, (data.body stage).2.next? = some next ∧
        next.destroys? = some found.registration.serial := by
  have before (idle : stage.destroys? = none) (there : found ∈ data.unlinked) :
      ∃ old ∈ data.unlinked, old.registration = found.registration ∧
        stage.destroys? ≠ some found.registration.serial :=
    ⟨found, there, rfl, by rw [idle]; exact (Option.some_ne_none _).symm⟩
  cases stage with
  | service stage =>
      refine Or.inl (before rfl ?_)
      cases stage with
      | onDescribeClients client video proxy =>
          simp only [body, describeMedia] at member
          repeat' split at member
          all_goals exact member
      | close client =>
          simp only [body, closeMedia] at member
          repeat' split at member
          all_goals exact member
      | _ => exact member
  | registerFile | eraseClosed | fileSdp | getFrame | framePkt => exact Or.inl (before rfl member)
  | unregisterFile video inClose =>
      cases inClose <;> exact (unlinked_eraseEntry member).imp_left (before rfl)
  | cleanFile task => exact (unlinked_eraseEntry member).imp_left (before rfl)
  | deleteEvent context closing =>
      obtain ⟨there, other⟩ := List.mem_filter.mp member
      refine Or.inl ⟨found, there, rfl, ?_⟩
      rintro same
      cases same
      exact of_decide_eq_true other rfl
  | probeFile task probe =>
      refine Or.inl (before rfl ?_)
      simp only [body, probeFile] at member
      repeat' split at member
      all_goals exact member
  | startFile | replaceEvent =>
      refine Or.inl (before rfl ?_)
      simp only [body, startFile, setTimer] at member
      repeat' split at member
      all_goals exact member
  | reportFile task =>
      refine Or.inl (before rfl ?_)
      simp only [body, reportFile] at member
      split at member <;> exact member
  | frameEnd context ret =>
      left
      simp only [body, frameEnd] at member
      split at member
      · exact before rfl member
      · split_ifs at member
        · obtain ⟨old, there, rfl⟩ := List.mem_map.mp member
          refine ⟨old, there, ?_, (Option.some_ne_none _).symm⟩
          split_ifs <;> rfl
        · exact before rfl member

end Files

def HasFile (data : MediaData Client) (context : Nat) : Prop :=
  ∃ entry ∈ data.producer.fileVideoContextMap.entries, entry.2.registration.serial = context

instance (data : MediaData Client) (context : Nat) : Decidable (data.HasFile context) :=
  inferInstanceAs (Decidable (∃ entry ∈ _, _))

omit [DecidableEq Client] in
theorem hasFile_iff {data : MediaData Client} {context : Nat} :
    data.HasFile context ↔
      ∃ video found, data.file? video = some found ∧ found.registration.serial = context := by
  constructor
  · rintro ⟨⟨video, found⟩, member, own⟩
    exact ⟨video, found, OrderedMap.find?_of_mem member, own⟩
  · rintro ⟨video, found, located, own⟩
    obtain ⟨stored, _, member⟩ := OrderedMap.find?_eq_some_iff.mp located
    exact ⟨(stored, found), member, own⟩

/-- The number of a context that is gone is not given out again. -/
def Retired (data : MediaData Client) (context : Nat) : Prop :=
  context < data.producer.nextSerial ∧ ∀ found ∈ data.contexts, found.registration.serial ≠ context

omit [DecidableEq Client] in
theorem ContextsFrom.retired {data later : MediaData Client} {target : Option Nat} {context : Nat}
    (grows : ContextsFrom data later target) (retired : data.Retired context) :
    later.Retired context := by
  obtain ⟨known, gone⟩ := retired
  refine ⟨Nat.lt_of_lt_of_le known grows.serial, ?_⟩
  rintro found member rfl
  rcases grows.former found member with ⟨old, there, same⟩ | ⟨new, _⟩
  · exact gone old there (congrArg Registration.serial same)
  · rw [new] at known
    exact Nat.lt_irrefl _ known

end MediaData

namespace MediaThreads

/-! ### The states of a run -/

structure Framed (data : MediaData Client) (pending : Thread → Option (MediaStage Client)) :
    Prop where
  backed : ∀ thread stage, pending thread = some stage → data.Backs stage
  fresh : ∀ found ∈ data.contexts, found.registration.serial < data.producer.nextSerial
  owned : ∀ found ∈ data.unlinked,
    Somewhere pending (fun stage => stage.destroys? = some found.registration.serial)

section States

variable {data later : MediaData Client} {pending : Thread → Option (MediaStage Client)}
  [DecidableEq Thread] {thread : Thread} {stage : MediaStage Client}

omit [DecidableEq Client] in
theorem framed_start {call : MediaCall Client} (framed : Framed data pending)
    (idle : pending thread = none) (enters : data.enter call = some (later, stage)) :
    Framed later (Function.update pending thread (some stage)) := by
  obtain ⟨map, unlinked, serial, backs⟩ := MediaData.enter_files enters
  refine ⟨?_, ?_, ?_⟩
  · intro other begun comes
    rw [Function.update_apply] at comes
    split_ifs at comes
    · cases comes
      exact backs
    · exact (framed.backed other begun comes).of_same map unlinked
  · intro found member
    rw [MediaData.contexts, map, unlinked] at member
    rw [serial]
    exact framed.fresh found member
  · intro found member
    rw [unlinked] at member
    refine (framed.owned found member).update ?_
    intro before comes _
    cases idle.symm.trans comes

theorem framed_run (framed : Framed data pending) (here : pending thread = some stage)
    (apart : mediaScopes.Apart pending thread stage) :
    Framed (data.body stage).1
      (Function.update pending thread (data.body stage).2.next?) := by
  have backs := framed.backed thread stage here
  refine ⟨?_, ?_, ?_⟩
  · intro other begun comes
    rw [Function.update_apply] at comes
    split_ifs at comes with same
    · exact MediaData.next_backs backs comes
    · exact backs.beside (framed.backed other begun comes) (apart other begun same comes)
  · intro found member
    have grows := data.body_contextsFrom stage
    have serial := grows.serial
    rcases grows.former found member with ⟨old, there, same⟩ | ⟨own, new⟩
    · rw [← same]
      exact Nat.lt_of_lt_of_le (framed.fresh old there) serial
    · rw [own]
      exact new
  · intro found member
    rcases MediaData.body_unlinked member with ⟨old, there, same, spares⟩ | ⟨next, follows, own⟩
    · refine Somewhere.update (same ▸ framed.owned old there) ?_
      intro before comes own
      cases here.symm.trans comes
      exact absurd own spares
    · exact ⟨thread, next, (Function.update_self _ _ _).trans follows, own⟩

variable [Fintype Thread] {state : MediaThreads Thread Client}
  {step : ThreadStep Thread (MediaCall Client)}

structure Framing (state : MediaThreads Thread Client) : Prop
    extends mediaProxies.Regular state where
  framed : Framed state.data (fun thread => (state.points thread).pending?)

theorem framing_step (framing : Framing state) : Framing (mediaProgram.perform state step) := by
  refine ⟨framing.toRegular.step step, pending_step Framed framing.framed ?_ ?_⟩
  · intro thread call data stage idle enters
    exact framed_start framing.framed (by rw [idle]; rfl) enters
  · intro thread stage place
    exact framed_run framing.framed (by rw [place]; rfl) (framing.toOrderly.apart place)

theorem framing_after (config : ProducerConfig)
    (steps : List (ThreadStep Thread (MediaCall Client))) : Framing (after config steps) := by
  refine LabelledMachine.run_invariant Framing (fun _ _ framing => framing_step framing) ?_ steps
  refine ⟨regular_initial config, ?_, ?_, ?_⟩
  · intro thread stage comes
    cases comes
  · intro found member
    cases member
  · intro found member
    cases member

theorem contextsFrom_step (state : MediaThreads Thread Client)
    (step : ThreadStep Thread (MediaCall Client)) : ∃ target,
      MediaData.ContextsFrom state.data (mediaProgram.perform state step).data target := by
  refine pending_step (fun later _ => ∃ target, MediaData.ContextsFrom state.data later target)
    ⟨none, .of_contexts rfl (Nat.le_refl _)⟩ ?_ ?_
  · intro thread call data stage _ enters
    obtain ⟨map, unlinked, serial, _⟩ := MediaData.enter_files enters
    refine ⟨none, .of_contexts ?_ (Nat.le_of_eq serial.symm)⟩
    rw [MediaData.contexts, MediaData.contexts, map, unlinked]
  · intro thread stage place
    exact ⟨_, state.data.body_contextsFrom stage⟩

theorem run_of_contextsFrom (inv : MediaData Client → Prop)
    (keeps : ∀ data later target, MediaData.ContextsFrom data later target → inv data → inv later)
    (holds : inv state.data) (steps : List (ThreadStep Thread (MediaCall Client))) :
    inv (machine.run state steps).data := by
  refine LabelledMachine.run_invariant (fun state : MediaThreads Thread Client => inv state.data)
    ?_ holds steps
  intro state step holds
  obtain ⟨target, grows⟩ := contextsFrom_step state step
  exact keeps _ _ target grows holds

def InFrame (state : MediaThreads Thread Client) (thread : Thread) (context : Nat) : Prop :=
  (state.points thread).pending?.bind MediaStage.frame? = some context

instance (state : MediaThreads Thread Client) (thread : Thread) (context : Nat) :
    Decidable (state.InFrame thread context) :=
  inferInstanceAs (Decidable (_ = _))

/-- The thread has taken the context out of the map and has not destroyed it yet. -/
def Destroys (state : MediaThreads Thread Client) (thread : Thread) (context : Nat) : Prop :=
  (state.points thread).pending?.bind MediaStage.destroys? = some context

instance (state : MediaThreads Thread Client) (thread : Thread) (context : Nat) :
    Decidable (state.Destroys thread context) :=
  inferInstanceAs (Decidable (_ = _))

def Calls (state : MediaThreads Thread Client) (thread : Thread) (proxy : Nat) : Prop :=
  ∃ stage, (state.points thread).pending? = some stage ∧ stage.Targets proxy

omit [DecidableEq Thread] [Fintype Thread] in
theorem hasFile_or_destroys (framing : Framing state) {found : FileVideoContext (Option Nat)}
    (member : found ∈ state.data.contexts) :
    state.data.HasFile found.registration.serial ∨
      ∃ other, state.Destroys other found.registration.serial := by
  rcases MediaData.mem_contexts.mp member with ⟨video, located⟩ | unlinked
  · exact Or.inl (MediaData.hasFile_iff.mpr ⟨video, found, located, rfl⟩)
  · obtain ⟨other, stage, comes, own⟩ := framing.framed.owned found unlinked
    exact Or.inr ⟨other, Option.bind_eq_some_iff.mpr ⟨stage, comes, own⟩⟩

def filesConfig : ProducerConfig := ⟨"127.0.0.1:5060", 200, 4, 1000, zeroedMemory⟩

theorem sdp_not_empty : "v=0" ≠ "" := by decide

def pass {Thread : Type} (thread : Thread) : List (ThreadStep Thread (MediaCall Unit)) :=
  [.request thread, .acquire thread, .run thread]

/-- The client describes a file, a worker of the pool starts it, and the first frame is
read. -/
def playing : List (ThreadStep Bool (MediaCall Unit)) :=
  let handler := false
  let worker := true
  let release (count : Nat) (thread : Bool) : List (ThreadStep Bool (MediaCall Unit)) :=
    List.replicate count (.release thread)
  let probe : Probe := ⟨0, 0, 0, 0, true, 0, true, 0, "v=0", sdp_not_empty, 0, true, 0⟩
  [[.start handler (.service (.accept ()))], pass handler, release 1 handler,
    [.start handler (.service (.readcb () (.options "file/a")))], pass handler, pass handler,
    release 2 handler,
    [.start handler (.service (.readcb () (.describe "file/a")))], pass handler, pass handler,
    pass handler, pass handler, release 4 handler,
    [.start worker (.fileTask 0 probe)], pass worker, pass worker, release 1 worker, pass worker,
    release 1 worker,
    [.start worker (.frame 0 [[0x80, 96]] 0)],
    pass worker].flatten

def unregistering : List (ThreadStep Bool (MediaCall Unit)) :=
  [.start false (.unregisterFile (VideoRequest.parseUrl "file/a"))] ++ pass false ++
    [.request false]

/-- The frame ends, `event_del` returns, and the context is destroyed. -/
def unregistered : List (ThreadStep Bool (MediaCall Unit)) :=
  unregistering ++
    [pass true, [.release true, .acquire true, .run true, .release true],
      [.acquire false, .run false, .release false, .release false]].flatten

end States

end MediaThreads

end Ffvms.Concrete
