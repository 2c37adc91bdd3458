/-
The invariant of the producer.

The only strong pointer to a GB context that outlives a step is the one in the
map, so a context lives exactly while it is mapped.  Serial numbers and
addresses are handed out once: what a task, a call or a peer handler holds names
one registration for ever.
-/

import Ffvms.Concrete.RtpProducerSteps

namespace Ffvms.Concrete

variable {Target : Type}

namespace RtpVideoContext

theorem accept_keeps (config : ProducerConfig) (context : RtpVideoContext Target)
    (completion : Completion) :
    (context.accept config completion).1.videoRequest = context.videoRequest ∧
      (context.accept config completion).1.registration = context.registration := by
  cases completion with
  | failed => exact ⟨rfl, rfl⟩
  | answered response creation =>
      simp only [accept]
      cases response.gbInviteResponse with
      | none => exact ⟨rfl, rfl⟩
      | some gb =>
          dsimp only
          split_ifs <;> exact ⟨rfl, rfl⟩

theorem accept_videoRequest (config : ProducerConfig) (context : RtpVideoContext Target)
    (completion : Completion) :
    (context.accept config completion).1.videoRequest = context.videoRequest :=
  (accept_keeps config context completion).1

theorem accept_registration (config : ProducerConfig) (context : RtpVideoContext Target)
    (completion : Completion) :
    (context.accept config completion).1.registration = context.registration :=
  (accept_keeps config context completion).2

end RtpVideoContext

namespace RtpProducer

/-! ### The heap after a step -/

theorem cell?_addRtpContext (producer : RtpProducer Target) (video : VideoRequest)
    (registration : Registration Target) (address : Nat) :
    (producer.addRtpContext video registration).heap.cell? address =
      if address = producer.heap.next then some ⟨1, RtpVideoContext.create video registration⟩
      else producer.heap.cell? address := by
  unfold addRtpContext
  dsimp only
  rw [SharedHeap.cell?_release_share, SharedHeap.cell?_makeShared]

theorem next_addRtpContext (producer : RtpProducer Target) (video : VideoRequest)
    (registration : Registration Target) :
    (producer.addRtpContext video registration).heap.next = producer.heap.next + 1 := by
  unfold addRtpContext
  dsimp only
  rw [SharedHeap.next_release, SharedHeap.next_share, SharedHeap.next_makeShared]

theorem find?_addRtpContext (producer : RtpProducer Target) (video other : VideoRequest)
    (registration : Registration Target) :
    (producer.addRtpContext video registration).rtpVideoContextMap.find? other =
      if other.cmpStr = video.cmpStr then some producer.heap.next
      else producer.rtpVideoContextMap.find? other :=
  OrderedMap.find?_insert _ _ _ _

theorem cell?_unlock_update (producer : RtpProducer Target) (address other : Nat)
    (heap : SharedHeap (RtpVideoContext Target)) (context : RtpVideoContext Target) :
    (producer.unlock ((heap.share address).update address context) address).heap.cell? other =
      if other = address then (heap.cell? other).map (fun cell => { cell with object := context })
      else heap.cell? other := by
  unfold unlock
  dsimp only
  rw [SharedHeap.cell?_release_update_share, SharedHeap.cell?_update]

theorem next_unlock_update (producer : RtpProducer Target) (address : Nat)
    (heap : SharedHeap (RtpVideoContext Target)) (context : RtpVideoContext Target) :
    (producer.unlock ((heap.share address).update address context) address).heap.next =
      heap.next := by
  unfold unlock
  dsimp only
  rw [SharedHeap.next_release, SharedHeap.next_update, SharedHeap.next_share]

theorem cell?_unlock (producer : RtpProducer Target) (address other : Nat) :
    (producer.unlock (producer.heap.share address) address).heap.cell? other =
      producer.heap.cell? other := by
  unfold unlock
  dsimp only
  rw [SharedHeap.cell?_release_share]

theorem next_unlock (producer : RtpProducer Target) (address : Nat) :
    (producer.unlock (producer.heap.share address) address).heap.next = producer.heap.next := by
  unfold unlock
  dsimp only
  rw [SharedHeap.next_release, SharedHeap.next_share]

theorem cell?_of_get? {heap : SharedHeap (RtpVideoContext Target)} {address : Nat}
    {context : RtpVideoContext Target} (alive : heap.get? address = some context) :
    ∃ strong, heap.cell? address = some ⟨strong, context⟩ := by
  obtain ⟨cell, found, rfl⟩ := Option.map_eq_some_iff.mp alive
  exact ⟨cell.strong, found⟩

theorem get?_of_cell? {heap : SharedHeap (RtpVideoContext Target)} {address : Nat}
    {cell : SharedCell (RtpVideoContext Target)} (found : heap.cell? address = some cell) :
    heap.get? address = some cell.object := by
  unfold SharedHeap.get?
  rw [found]
  rfl

theorem cell?_inviteCallback {producer : RtpProducer Target} {serial : Nat} {invite : Invite}
    (completion : Completion) (calling : producer.invites.find? serial = some invite)
    (other : Nat) :
    (machine.next producer (.inviteCallback serial completion)).heap.cell? other =
      if other = invite.context then
        (producer.heap.cell? other).map
          (fun cell => { cell with object := (cell.object.accept producer.config completion).1 })
      else producer.heap.cell? other := by
  change (producer.perform _).producer.heap.cell? other = _
  cases alive : producer.heap.get? invite.context with
  | none =>
      rw [next_inviteLost completion calling alive]
      split_ifs with same
      · unfold SharedHeap.get? at alive
        rw [← same, Option.map_eq_none_iff] at alive
        change producer.heap.cell? other = _
        rw [alive]
        rfl
      · rfl
  | some context =>
      obtain ⟨strong, found⟩ := cell?_of_get? alive
      have cells := cell?_unlock_update (producer.completeCall serial) invite.context other
        producer.heap (context.accept producer.config completion).1
      rw [next_inviteCallback completion calling alive]
      have changed : (if other = invite.context then
            (producer.heap.cell? other).map
              (fun cell => { cell with object := (context.accept producer.config completion).1 })
          else producer.heap.cell? other) =
          if other = invite.context then
            (producer.heap.cell? other).map
              (fun cell => { cell with object := (cell.object.accept producer.config completion).1 })
          else producer.heap.cell? other := by
        split_ifs with same
        · rw [same, found]
          rfl
        · rfl
      rw [← changed, ← cells]
      dsimp only
      cases (context.accept producer.config completion).2 with
      | none => rfl
      | some gb => rfl

theorem invites_inviteCallback {producer : RtpProducer Target} {serial : Nat} {invite : Invite}
    (completion : Completion) (calling : producer.invites.find? serial = some invite) :
    (machine.next producer (.inviteCallback serial completion)).invites =
      producer.invites.erase serial := by
  change (producer.perform _).producer.invites = _
  cases alive : producer.heap.get? invite.context with
  | none =>
      rw [next_inviteLost completion calling alive]
      rfl
  | some context =>
      rw [next_inviteCallback completion calling alive]
      dsimp only
      cases (context.accept producer.config completion).2 with
      | none => rfl
      | some gb => rfl

theorem find?_registerPeer (producer : RtpProducer Target) (peer other : String) (context : Nat) :
    (producer.registerPeer peer context).registeredPeers.find? other =
      if other = peer then some ((producer.registeredPeers.find? other).getD context)
      else producer.registeredPeers.find? other := by
  unfold registerPeer
  dsimp only
  by_cases same : other = peer
  · subst other
    rw [if_pos rfl]
    cases found : producer.registeredPeers.find? peer with
    | none => exact OrderedMap.find?_insert_self _ _ _
    | some kept => exact found
  · rw [if_neg same]
    cases found : producer.registeredPeers.find? peer with
    | none =>
        dsimp only
        rw [OrderedMap.find?_insert, if_neg same]
    | some kept => rfl

/-! ### Ownership -/

/-- Every mapped address holds the context of its key with one strong pointer,
and every living context is mapped. -/
structure Owned (map : RequestMap Nat) (heap : SharedHeap (RtpVideoContext Target)) : Prop where
  held : ∀ video address, map.find? video = some address →
    ∃ context, heap.cell? address = some ⟨1, context⟩ ∧
      context.videoRequest.cmpStr = video.cmpStr
  mapped : ∀ address cell, heap.cell? address = some cell →
    map.find? cell.object.videoRequest = some address

theorem owned_addRtpContext {producer : RtpProducer Target} {video : VideoRequest}
    {registration : Registration Target}
    (owned : Owned producer.rtpVideoContextMap producer.heap)
    (free : producer.rtpVideoContextMap.find? video = none) :
    Owned (producer.addRtpContext video registration).rtpVideoContextMap
      (producer.addRtpContext video registration).heap := by
  constructor
  · intro other address located
    rw [find?_addRtpContext] at located
    rw [cell?_addRtpContext]
    by_cases same : other.cmpStr = video.cmpStr
    · rw [if_pos same, Option.some.injEq] at located
      rw [if_pos located.symm]
      exact ⟨_, rfl, same.symm⟩
    · rw [if_neg same] at located
      obtain ⟨context, found, key⟩ := owned.held other address located
      have older : address ≠ producer.heap.next :=
        Nat.ne_of_lt (SharedHeap.lt_next_of_cell? found)
      rw [if_neg older]
      exact ⟨context, found, key⟩
  · intro address cell found
    rw [cell?_addRtpContext] at found
    rw [find?_addRtpContext]
    by_cases new : address = producer.heap.next
    · rw [if_pos new, Option.some.injEq] at found
      rw [← found, new]
      exact if_pos rfl
    · rw [if_neg new] at found
      have located := owned.mapped address cell found
      have apart : cell.object.videoRequest.cmpStr ≠ video.cmpStr := by
        intro same
        rw [OrderedMap.find?_congr _ same, free] at located
        cases located
      rw [if_neg apart]
      exact located

theorem owned_eraseRtp {producer : RtpProducer Target} {video : VideoRequest} {address : Nat}
    (owned : Owned producer.rtpVideoContextMap producer.heap)
    (located : producer.rtpVideoContextMap.find? video = some address) :
    Owned (producer.eraseRtp video address).rtpVideoContextMap
      (producer.eraseRtp video address).heap := by
  obtain ⟨context, last, key⟩ := owned.held video address located
  constructor
  · intro other held lookup
    change (producer.rtpVideoContextMap.erase video).find? other = some held at lookup
    rw [OrderedMap.find?_erase] at lookup
    split_ifs at lookup with same
    obtain ⟨found, cell, foundKey⟩ := owned.held other held lookup
    have apart : held ≠ address := by
      intro equal
      rw [equal, last] at cell
      cases cell
      exact same (foundKey.symm.trans key)
    refine ⟨found, ?_, foundKey⟩
    change (producer.heap.release address).cell? held = _
    rw [SharedHeap.cell?_release_last last, if_neg apart]
    exact cell
  · intro other cell found
    change (producer.heap.release address).cell? other = some cell at found
    rw [SharedHeap.cell?_release_last last] at found
    split_ifs at found with apart
    have lookup := owned.mapped other cell found
    change (producer.rtpVideoContextMap.erase video).find? _ = _
    rw [OrderedMap.find?_erase]
    have different : cell.object.videoRequest.cmpStr ≠ video.cmpStr := by
      intro same
      rw [OrderedMap.find?_congr _ same, located] at lookup
      exact apart (Option.some.inj lookup).symm
    rw [if_neg different]
    exact lookup

theorem owned_of_update {map : RequestMap Nat} {heap changed : SharedHeap (RtpVideoContext Target)}
    {address : Nat} {former context : RtpVideoContext Target} (owned : Owned map heap)
    (alive : heap.get? address = some former)
    (sameKey : context.videoRequest = former.videoRequest)
    (cells : ∀ other, changed.cell? other =
      if other = address then (heap.cell? other).map (fun cell => { cell with object := context })
      else heap.cell? other) :
    Owned map changed := by
  obtain ⟨strong, here⟩ := cell?_of_get? alive
  constructor
  · intro video held located
    obtain ⟨found, cell, key⟩ := owned.held video held located
    rw [cells]
    by_cases same : held = address
    · rw [if_pos same, cell]
      rw [same, here] at cell
      cases cell
      exact ⟨context, rfl, by rw [sameKey]; exact key⟩
    · rw [if_neg same]
      exact ⟨found, cell, key⟩
  · intro other cell found
    rw [cells] at found
    by_cases same : other = address
    · rw [if_pos same] at found
      subst other
      rw [here, Option.map_some, Option.some.injEq] at found
      rw [← found, sameKey]
      exact owned.mapped address _ here
    · rw [if_neg same] at found
      exact owned.mapped other cell found

theorem owned_of_cells {map : RequestMap Nat} {heap changed : SharedHeap (RtpVideoContext Target)}
    (owned : Owned map heap) (cells : ∀ other, changed.cell? other = heap.cell? other) :
    Owned map changed := by
  constructor
  · intro video held located
    rw [cells]
    exact owned.held video held located
  · intro other cell found
    rw [cells] at found
    exact owned.mapped other cell found

theorem owned_step {producer : RtpProducer Target} (step : Step Target)
    (owned : Owned producer.rtpVideoContextMap producer.heap) :
    Owned (machine.next producer step).rtpVideoContextMap (machine.next producer step).heap := by
  have moved := transition producer step
  change Owned (producer.perform step).producer.rtpVideoContextMap
    (producer.perform step).producer.heap
  generalize producer.perform step = result at moved
  cases moved with
  | idle | ignored | refused | fileQueued | fileRemoved | probeLost | probeStarted | probeBroke
  | probeCrashed | reported | reportedNobody | cleaned | framed | frameFailed | inviteLost =>
      exact owned
  | gbUnnamed video target noFile isGb free mode =>
      exact @owned_addRtpContext _ producer.takeSerial video _ owned free
  | gbInvited video target transmission noFile isGb free mode =>
      exact @owned_addRtpContext _ producer.takeSerial video _ owned free
  | gbRemoved video address noFile isGb located => exact owned_eraseRtp owned located
  | inviteFailed serial completion invite context calling alive rejected =>
      exact owned_of_update owned alive
        (RtpVideoContext.accept_videoRequest producer.config context completion)
        (fun other => cell?_unlock_update _ _ _ _ _)
  | inviteAccepted serial completion invite context gb calling alive accepted =>
      exact owned_of_update owned alive
        (RtpVideoContext.accept_videoRequest producer.config context completion)
        (fun other => cell?_unlock_update (producer.completeCall serial) _ _ _ _)
  | received peer data packets weak context registered alive =>
      exact owned_of_cells owned (fun other => cell?_unlock producer weak other)

/-! ### Where the things of the next state come from -/

def TookSerial (producer next : RtpProducer Target) : Prop :=
  next.nextSerial = producer.nextSerial + 1

def AddedRtp (producer next : RtpProducer Target) : Prop :=
  TookSerial producer next ∧ next.fileVideoContextMap = producer.fileVideoContextMap ∧
    next.fileTasks = producer.fileTasks

theorem nextSerial_le_step (producer : RtpProducer Target) (step : Step Target) :
    producer.nextSerial ≤ (machine.next producer step).nextSerial := by
  have moved := transition producer step
  change producer.nextSerial ≤ (producer.perform step).producer.nextSerial
  generalize producer.perform step = result at moved
  cases moved with
  | ignored | refused | fileQueued | gbUnnamed | gbInvited => exact Nat.le_succ _
  | idle | fileRemoved | gbRemoved | probeLost | probeStarted | probeBroke | probeCrashed
  | reported | reportedNobody | cleaned | framed | frameFailed | inviteLost | inviteFailed
  | inviteAccepted | received => exact Nat.le_refl _

theorem config_step (producer : RtpProducer Target) (step : Step Target) :
    (machine.next producer step).config = producer.config := by
  have moved := transition producer step
  change (producer.perform step).producer.config = producer.config
  generalize producer.perform step = result at moved
  cases moved with
  | idle | ignored | refused | fileQueued | gbUnnamed | gbInvited | fileRemoved | gbRemoved
  | probeLost | probeStarted | probeBroke | probeCrashed | reported | reportedNobody | cleaned
  | framed | frameFailed | inviteLost | inviteFailed | inviteAccepted | received => rfl

theorem heapNext_le_step (producer : RtpProducer Target) (step : Step Target) :
    producer.heap.next ≤ (machine.next producer step).heap.next := by
  have moved := transition producer step
  change producer.heap.next ≤ (producer.perform step).producer.heap.next
  generalize producer.perform step = result at moved
  cases moved with
  | gbUnnamed video target noFile isGb free mode =>
      rw [next_addRtpContext]
      exact Nat.le_succ _
  | gbInvited video target transmission noFile isGb free mode =>
      change _ ≤ (producer.takeSerial.addRtpContext video _).heap.next
      rw [next_addRtpContext]
      exact Nat.le_succ _
  | gbRemoved video address noFile isGb located =>
      change _ ≤ (producer.heap.release address).next
      rw [SharedHeap.next_release]
  | inviteFailed serial completion invite context calling alive rejected =>
      rw [next_unlock_update]
  | inviteAccepted serial completion invite context gb calling alive accepted =>
      change _ ≤ ((producer.completeCall serial).unlock _ _).heap.next
      rw [next_unlock_update]
  | received peer data packets weak context registered alive => rw [next_unlock]
  | idle | ignored | refused | fileQueued | fileRemoved | probeLost | probeStarted | probeBroke
  | probeCrashed | reported | reportedNobody | cleaned | framed | frameFailed | inviteLost =>
      exact Nat.le_refl _

theorem cell_former_of_update {heap changed : SharedHeap (RtpVideoContext Target)}
    {address other : Nat} {former context : RtpVideoContext Target}
    {cell : SharedCell (RtpVideoContext Target)}
    (alive : heap.get? address = some former)
    (sameVideo : context.videoRequest = former.videoRequest)
    (sameRegistration : context.registration = former.registration)
    (cells : changed.cell? other =
      if other = address then (heap.cell? other).map (fun cell => { cell with object := context })
      else heap.cell? other)
    (found : changed.cell? other = some cell) :
    ∃ old, heap.cell? other = some old ∧ cell.object.registration = old.object.registration ∧
      cell.object.videoRequest = old.object.videoRequest := by
  rw [cells] at found
  split_ifs at found with same
  · obtain ⟨strong, here⟩ := cell?_of_get? alive
    subst other
    rw [here, Option.map_some, Option.some.injEq] at found
    refine ⟨_, here, ?_, ?_⟩
    · rw [← found, sameRegistration]
    · rw [← found, sameVideo]
  · exact ⟨cell, found, rfl, rfl⟩

def Opens (producer : RtpProducer Target) (step : Step Target) (video : VideoRequest)
    (registration : Registration Target) : Prop :=
  step = .registerVideo video registration.target ∧ registration.serial = producer.nextSerial

theorem cell_former {producer : RtpProducer Target} {step : Step Target} {address : Nat}
    {cell : SharedCell (RtpVideoContext Target)}
    (owned : Owned producer.rtpVideoContextMap producer.heap)
    (found : (machine.next producer step).heap.cell? address = some cell) :
    (∃ old, producer.heap.cell? address = some old ∧
        cell.object.registration = old.object.registration ∧
        cell.object.videoRequest = old.object.videoRequest) ∨
      (address = producer.heap.next ∧
        Opens producer step cell.object.videoRequest cell.object.registration ∧
        (cell.object.videoRequest.useFile = false ∧ cell.object.videoRequest.useGb = true) ∧
        AddedRtp producer (machine.next producer step)) := by
  have moved := transition producer step
  change (producer.perform step).producer.heap.cell? address = some cell at found
  change _ ∨ (_ ∧ _ ∧ _ ∧ AddedRtp producer (producer.perform step).producer)
  generalize producer.perform step = result at moved found
  have added {video : VideoRequest} {target : Target} (noFile : video.useFile = false)
      (isGb : video.useGb = true)
      (here : (producer.takeSerial.addRtpContext video ⟨producer.nextSerial, target⟩).heap.cell?
        address = some cell) :
      (∃ old, producer.heap.cell? address = some old ∧
        cell.object.registration = old.object.registration ∧
        cell.object.videoRequest = old.object.videoRequest) ∨
      (address = producer.heap.next ∧
        Opens producer (.registerVideo video target) cell.object.videoRequest
          cell.object.registration ∧
        cell.object.videoRequest.useFile = false ∧ cell.object.videoRequest.useGb = true) := by
    rw [cell?_addRtpContext] at here
    split_ifs at here with new
    · rw [← Option.some.inj here]
      exact Or.inr ⟨new, ⟨rfl, rfl⟩, noFile, isGb⟩
    · exact Or.inl ⟨cell, here, rfl, rfl⟩
  cases moved with
  | idle | ignored | refused | fileQueued | fileRemoved | probeLost | probeStarted | probeBroke
  | probeCrashed | reported | reportedNobody | cleaned | framed | frameFailed | inviteLost =>
      exact Or.inl ⟨cell, found, rfl, rfl⟩
  | gbUnnamed video target noFile isGb free mode =>
      exact (added noFile isGb found).imp id
        (fun fresh => ⟨fresh.1, fresh.2.1, fresh.2.2, rfl, rfl, rfl⟩)
  | gbInvited video target transmission noFile isGb free mode =>
      exact (added noFile isGb found).imp id
        (fun fresh => ⟨fresh.1, fresh.2.1, fresh.2.2, rfl, rfl, rfl⟩)
  | gbRemoved video removed noFile isGb located =>
      obtain ⟨context, last, _key⟩ := owned.held video removed located
      change (producer.heap.release removed).cell? address = some cell at found
      rw [SharedHeap.cell?_release_last last] at found
      split_ifs at found
      exact Or.inl ⟨cell, found, rfl, rfl⟩
  | inviteFailed serial completion invite context calling alive rejected =>
      exact Or.inl (cell_former_of_update alive
        (RtpVideoContext.accept_videoRequest producer.config context completion)
        (RtpVideoContext.accept_registration producer.config context completion)
        (cell?_unlock_update (producer.completeCall serial) _ _ _ _) found)
  | inviteAccepted serial completion invite context gb calling alive accepted =>
      exact Or.inl (cell_former_of_update alive
        (RtpVideoContext.accept_videoRequest producer.config context completion)
        (RtpVideoContext.accept_registration producer.config context completion)
        (cell?_unlock_update (producer.completeCall serial) _ _ _ _) found)
  | received peer data packets weak context registered alive =>
      rw [cell?_unlock] at found
      exact Or.inl ⟨cell, found, rfl, rfl⟩

theorem file_former_of_modify {map : RequestMap (FileVideoContext Target)}
    {video other : VideoRequest} {context : FileVideoContext Target}
    (change : FileVideoContext Target → FileVideoContext Target)
    (keeps : ∀ old, (change old).registration = old.registration)
    (found : (map.modify video change).find? other = some context) :
    ∃ old, map.find? other = some old ∧ context.registration = old.registration := by
  rw [OrderedMap.find?_modify] at found
  split_ifs at found
  · obtain ⟨old, located, rfl⟩ := Option.map_eq_some_iff.mp found
    exact ⟨old, located, keeps old⟩
  · exact ⟨context, found, rfl⟩

theorem file_former {producer : RtpProducer Target} {step : Step Target} {video : VideoRequest}
    {context : FileVideoContext Target}
    (found : (machine.next producer step).fileVideoContextMap.find? video = some context) :
    (∃ old, producer.fileVideoContextMap.find? video = some old ∧
        context.registration = old.registration) ∨
      ((∃ added, added.cmpStr = video.cmpStr ∧ added.useFile = true ∧
          Opens producer step added context.registration) ∧
        TookSerial producer (machine.next producer step)) := by
  have moved := transition producer step
  change (producer.perform step).producer.fileVideoContextMap.find? video = some context at found
  change _ ∨ (_ ∧ TookSerial producer (producer.perform step).producer)
  generalize producer.perform step = result at moved found
  cases moved with
  | idle | ignored | refused | gbUnnamed | gbInvited | gbRemoved | probeLost | probeCrashed
  | reported | reportedNobody | framed | inviteLost | inviteFailed | inviteAccepted
  | received => exact Or.inl ⟨context, found, rfl⟩
  | fileQueued added target isFile free =>
      change (producer.fileVideoContextMap.insert added _).find? video = some context at found
      rw [OrderedMap.find?_insert] at found
      split_ifs at found with same
      · rw [← Option.some.inj found]
        exact Or.inr ⟨⟨added, same.symm, isFile, rfl, rfl⟩, rfl⟩
      · exact Or.inl ⟨context, found, rfl⟩
  | fileRemoved removed isFile =>
      change (producer.fileVideoContextMap.erase removed).find? video = some context at found
      rw [OrderedMap.find?_erase] at found
      split_ifs at found
      exact Or.inl ⟨context, found, rfl⟩
  | probeStarted serial probe task sdp armed queued phase located exit =>
      exact Or.inl (file_former_of_modify FileVideoContext.arm (fun _ => rfl) found)
  | probeBroke serial probe task ret spoken broken queued phase located exit =>
      exact Or.inl (file_former_of_modify (FileVideoContext.setFormats probe) (fun _ => rfl) found)
  | cleaned serial task queued phase =>
      change (producer.fileVideoContextMap.erase task.video).find? video = some context at found
      rw [OrderedMap.find?_erase] at found
      split_ifs at found
      exact Or.inl ⟨context, found, rfl⟩
  | frameFailed other packets ret failed located armed =>
      exact Or.inl (file_former_of_modify (fun old => { old with error := ret })
        (fun _ => rfl) found)

theorem task_former_of_setPhase {producer : RtpProducer Target} {serial other : Nat}
    {phase : TaskPhase} {task : FileTask Target} (left : phase ≠ .probing)
    (found : (producer.setPhase serial phase).fileTasks.find? other = some task) :
    ∃ old, producer.fileTasks.find? other = some old ∧ task.registration = old.registration ∧
      task.video = old.video ∧ (task.phase = .probing → old.phase = .probing) := by
  change (producer.fileTasks.modify serial _).find? other = some task at found
  rw [OrderedMap.find?_modify] at found
  split_ifs at found
  · obtain ⟨old, located, rfl⟩ := Option.map_eq_some_iff.mp found
    exact ⟨old, located, rfl, rfl, fun probing => absurd probing left⟩
  · exact ⟨task, found, rfl, rfl, id⟩

theorem leftPhase_ne_probing (ret : Int) :
    (if ret ≠ 0 then TaskPhase.reporting ret else .cleaning) ≠ .probing := by
  split_ifs
  · exact TaskPhase.noConfusion
  · exact TaskPhase.noConfusion

theorem task_former_of_endTask {producer : RtpProducer Target} {serial other : Nat}
    {task : FileTask Target}
    (found : (producer.endTask serial).fileTasks.find? other = some task) :
    producer.fileTasks.find? other = some task := by
  change (producer.fileTasks.erase serial).find? other = some task at found
  rw [OrderedMap.find?_erase] at found
  split_ifs at found
  exact found

theorem task_former {producer : RtpProducer Target} {step : Step Target} {serial : Nat}
    {task : FileTask Target}
    (found : (machine.next producer step).fileTasks.find? serial = some task) :
    (∃ old, producer.fileTasks.find? serial = some old ∧
        task.registration = old.registration ∧ task.video = old.video ∧
        (task.phase = .probing → old.phase = .probing)) ∨
      (serial = producer.nextSerial ∧ Opens producer step task.video task.registration ∧
        task.video.useFile = true ∧ producer.fileVideoContextMap.find? task.video = none ∧
        TookSerial producer (machine.next producer step)) := by
  have moved := transition producer step
  change (producer.perform step).producer.fileTasks.find? serial = some task at found
  change _ ∨ (_ ∧ _ ∧ _ ∧ _ ∧ TookSerial producer (producer.perform step).producer)
  generalize producer.perform step = result at moved found
  cases moved with
  | idle | ignored | refused | gbUnnamed | gbInvited | fileRemoved | gbRemoved | framed
  | frameFailed | inviteLost | inviteFailed | inviteAccepted | received =>
      exact Or.inl ⟨task, found, rfl, rfl, id⟩
  | fileQueued video target isFile free =>
      change (producer.fileTasks.insert producer.nextSerial _).find? serial = some task at found
      rw [OrderedMap.find?_insert] at found
      split_ifs at found with new
      · rw [← Option.some.inj found]
        exact Or.inr ⟨new, ⟨rfl, rfl⟩, isFile, free, rfl⟩
      · exact Or.inl ⟨task, found, rfl, rfl, id⟩
  | probeLost ended probe lost queued phase missing =>
      exact Or.inl (task_former_of_setPhase (leftPhase_ne_probing 0) found)
  | probeBroke ended probe broken ret spoken context queued phase located exit =>
      exact Or.inl (task_former_of_setPhase (leftPhase_ne_probing ret) found)
  | reported ended failed ret context queued phase located =>
      exact Or.inl (task_former_of_setPhase TaskPhase.noConfusion found)
  | reportedNobody ended failed ret queued phase missing =>
      exact Or.inl (task_former_of_setPhase TaskPhase.noConfusion found)
  | probeStarted ended probe started sdp context queued phase located exit =>
      exact Or.inl ⟨task, task_former_of_endTask found, rfl, rfl, id⟩
  | probeCrashed ended probe crashed context queued phase located exit =>
      exact Or.inl ⟨task, task_former_of_endTask found, rfl, rfl, id⟩
  | cleaned ended done queued phase =>
      exact Or.inl ⟨task, task_former_of_endTask found, rfl, rfl, id⟩

theorem invite_former {producer : RtpProducer Target} {step : Step Target} {serial : Nat}
    {invite : Invite}
    (found : (machine.next producer step).invites.find? serial = some invite) :
    producer.invites.find? serial = some invite ∨
      (serial = producer.nextSerial ∧ invite.context = producer.heap.next ∧
        TookSerial producer (machine.next producer step) ∧
        (machine.next producer step).heap.next = producer.heap.next + 1) := by
  have moved := transition producer step
  change (producer.perform step).producer.invites.find? serial = some invite at found
  change _ ∨ (_ ∧ _ ∧ TookSerial producer (producer.perform step).producer ∧
    (producer.perform step).producer.heap.next = _)
  generalize producer.perform step = result at moved found
  have completed {ended : Nat} (later : (producer.invites.erase ended).find? serial = some invite) :
      producer.invites.find? serial = some invite := by
    rw [OrderedMap.find?_erase] at later
    split_ifs at later
    exact later
  cases moved with
  | idle | ignored | refused | fileQueued | gbUnnamed | fileRemoved | gbRemoved | probeLost
  | probeStarted | probeBroke | probeCrashed | reported | reportedNobody | cleaned | framed
  | frameFailed | received => exact Or.inl found
  | gbInvited video target transmission noFile isGb free mode =>
      change (producer.invites.insert producer.nextSerial _).find? serial = some invite at found
      rw [OrderedMap.find?_insert] at found
      split_ifs at found with new
      · rw [← Option.some.inj found]
        exact Or.inr ⟨new, rfl, rfl, next_addRtpContext _ _ _⟩
      · exact Or.inl found
  | inviteLost => exact Or.inl (completed found)
  | inviteFailed => exact Or.inl (completed found)
  | inviteAccepted => exact Or.inl (completed found)

/-! ### Registrations -/

/-- The callbacks of the registration are still stored in the producer. -/
inductive Registered (producer : RtpProducer Target) (registration : Registration Target) : Prop
  | file (video : VideoRequest) (context : FileVideoContext Target)
      (found : producer.fileVideoContextMap.find? video = some context)
      (own : context.registration = registration)
  | task (serial : Nat) (task : FileTask Target)
      (queued : producer.fileTasks.find? serial = some task)
      (own : task.registration = registration)
  | rtp (address : Nat) (cell : SharedCell (RtpVideoContext Target))
      (found : producer.heap.cell? address = some cell)
      (own : cell.object.registration = registration)

/-- Nothing but a `RegisterVideo` call brings callbacks into the producer, and
those are its own. -/
theorem registered_former {producer : RtpProducer Target} {step : Step Target}
    {registration : Registration Target}
    (owned : Owned producer.rtpVideoContextMap producer.heap)
    (registered : (machine.next producer step).Registered registration) :
    producer.Registered registration ∨
      (registration.serial = producer.nextSerial ∧
        TookSerial producer (machine.next producer step)) := by
  cases registered with
  | file video context found own =>
      rcases file_former found with ⟨old, located, same⟩ | ⟨⟨added, _, _, opens⟩, took⟩
      · exact Or.inl (.file video old located (same.symm.trans own))
      · rw [own] at opens
        exact Or.inr ⟨opens.2, took⟩
  | task serial task queued own =>
      rcases task_former queued with ⟨old, located, same, _⟩ | ⟨_, opens, _, _, took⟩
      · exact Or.inl (.task serial old located (same.symm.trans own))
      · rw [own] at opens
        exact Or.inr ⟨opens.2, took⟩
  | rtp address cell found own =>
      rcases cell_former owned found with ⟨old, located, same, _⟩ | ⟨_, opens, _, added⟩
      · exact Or.inl (.rtp address old located (same.symm.trans own))
      · rw [own] at opens
        exact Or.inr ⟨opens.2, added.1⟩

/-- A callback that a step invokes is one of those stored, or belongs to the
`RegisterVideo` call that the step is. -/
theorem Speaks.registered {producer : RtpProducer Target} {step : Step Target}
    {registration : Registration Target} {call : Callback}
    (speaks : Speaks producer step registration call) :
    producer.Registered registration ∨ ∃ video, Opens producer step video registration := by
  cases speaks with
  | newcomer video target code => exact Or.inr ⟨video, rfl, rfl⟩
  | task serial probe task sdp queued => exact Or.inl (.task serial task queued rfl)
  | report serial task context queued found => exact Or.inl (.file task.video context found rfl)
  | frame video packets ret context _ found armed => exact Or.inl (.file video context found rfl)
  | invite serial completion invite context _ calling alive =>
      obtain ⟨strong, found⟩ := cell?_of_get? alive
      exact Or.inl (.rtp invite.context _ found rfl)
  | datagram peer data packets weak context packet handler alive =>
      obtain ⟨strong, found⟩ := cell?_of_get? alive
      exact Or.inl (.rtp weak _ found rfl)

/-! ### The invariant -/

/-- A serial number below the next one names one registration, a GB context
shares its number with nothing but its own call, and each map holds its kind. -/
structure Consistent (producer : RtpProducer Target) : Prop where
  owned : Owned producer.rtpVideoContextMap producer.heap
  below : ∀ registration, producer.Registered registration →
    registration.serial < producer.nextSerial
  taskKey : ∀ serial task, producer.fileTasks.find? serial = some task →
    task.registration.serial = serial
  callBelow : ∀ serial invite, producer.invites.find? serial = some invite →
    serial < producer.nextSerial ∧ invite.context < producer.heap.next
  unique : ∀ first second firstCell secondCell, producer.heap.cell? first = some firstCell →
    producer.heap.cell? second = some secondCell →
    firstCell.object.registration.serial = secondCell.object.registration.serial → first = second
  apart : ∀ address cell, producer.heap.cell? address = some cell →
    (∀ video context, producer.fileVideoContextMap.find? video = some context →
      context.registration.serial ≠ cell.object.registration.serial) ∧
    ∀ serial task, producer.fileTasks.find? serial = some task →
      task.registration.serial ≠ cell.object.registration.serial
  callOwn : ∀ serial invite cell, producer.invites.find? serial = some invite →
    producer.heap.cell? invite.context = some cell → cell.object.registration.serial = serial
  fileKind : ∀ video context, producer.fileVideoContextMap.find? video = some context →
    video.useFile = true
  taskKind : ∀ serial task, producer.fileTasks.find? serial = some task →
    task.video.useFile = true
  gbKind : ∀ address cell, producer.heap.cell? address = some cell →
    cell.object.videoRequest.useFile = false ∧ cell.object.videoRequest.useGb = true

theorem consistent_initial (config : ProducerConfig) :
    (initial config : RtpProducer Target).Consistent := by
  refine
    { owned := ⟨(fun _ _ located => nomatch located), (fun _ _ found => nomatch found)⟩
      below := ?_
      taskKey := fun _ _ queued => nomatch queued
      callBelow := fun _ _ calling => nomatch calling
      unique := fun _ _ _ _ found => nomatch found
      apart := fun _ _ found => nomatch found
      callOwn := fun _ _ _ calling => nomatch calling
      fileKind := fun _ _ found => nomatch found
      taskKind := fun _ _ queued => nomatch queued
      gbKind := fun _ _ found => nomatch found }
  intro registration registered
  cases registered with
  | file video context found own => cases found
  | task serial task queued own => cases queued
  | rtp address cell found own => cases found

theorem consistent_step {producer : RtpProducer Target} (step : Step Target)
    (consistent : producer.Consistent) : (machine.next producer step).Consistent := by
  have cellBelow {address : Nat} {cell : SharedCell (RtpVideoContext Target)}
      (found : producer.heap.cell? address = some cell) :
      cell.object.registration.serial < producer.nextSerial :=
    consistent.below _ (.rtp address cell found rfl)
  refine
    { owned := owned_step step consistent.owned
      below := ?_
      taskKey := ?_
      callBelow := ?_
      unique := ?_
      apart := ?_
      callOwn := ?_
      fileKind := ?_
      taskKind := ?_
      gbKind := ?_ }
  · intro registration registered
    rcases registered_former consistent.owned registered with older | ⟨new, took⟩
    · exact Nat.lt_of_lt_of_le (consistent.below registration older)
        (nextSerial_le_step producer step)
    · rw [took, new]
      exact Nat.lt_succ_self _
  · intro serial task queued
    rcases task_former queued with ⟨old, located, same, _⟩ | ⟨key, opens, _⟩
    · rw [same]
      exact consistent.taskKey serial old located
    · rw [key, opens.2]
  · intro serial invite calling
    rcases invite_former calling with older | ⟨key, made, took, grown⟩
    · obtain ⟨past, below⟩ := consistent.callBelow serial invite older
      exact ⟨Nat.lt_of_lt_of_le past (nextSerial_le_step producer step),
        Nat.lt_of_lt_of_le below (heapNext_le_step producer step)⟩
    · rw [key, made, took, grown]
      exact ⟨Nat.lt_succ_self _, Nat.lt_succ_self _⟩
  · intro first second firstCell secondCell inFirst inSecond same
    rcases cell_former consistent.owned inFirst with ⟨old, found, own, _⟩ | ⟨at1, opens, _⟩
    · rcases cell_former consistent.owned inSecond with ⟨old', found', own', _⟩ | ⟨_, opens', _⟩
      · rw [own, own'] at same
        exact consistent.unique first second old old' found found' same
      · have bound := cellBelow found
        rw [← own, same, opens'.2] at bound
        exact absurd bound (Nat.lt_irrefl _)
    · rcases cell_former consistent.owned inSecond with ⟨old', found', own', _⟩ | ⟨at2, _, _⟩
      · have bound := cellBelow found'
        rw [← own', ← same, opens.2] at bound
        exact absurd bound (Nat.lt_irrefl _)
      · rw [at1, at2]
  · intro address cell found
    rcases cell_former consistent.owned found with ⟨old, located, own, _⟩ | ⟨_, opens, _, added⟩
    · have bound := cellBelow located
      obtain ⟨files, tasks⟩ := consistent.apart address old located
      rw [own]
      constructor
      · intro video context stored
        rcases file_former stored with ⟨former, lookup, same⟩ | ⟨⟨_, _, _, fresh⟩, _⟩
        · rw [same]
          exact files video former lookup
        · have numbered := fresh.2
          omega
      · intro serial task queued
        rcases task_former queued with ⟨former, lookup, same, _⟩ | ⟨_, fresh, _⟩
        · rw [same]
          exact tasks serial former lookup
        · have numbered := fresh.2
          omega
    · obtain ⟨_took, sameFiles, sameTasks⟩ := added
      rw [sameFiles, sameTasks, opens.2]
      constructor
      · intro video context stored
        exact Nat.ne_of_lt (consistent.below _ (.file video context stored rfl))
      · intro serial task queued
        exact Nat.ne_of_lt (consistent.below _ (.task serial task queued rfl))
  · intro serial invite cell calling found
    rcases cell_former consistent.owned found with ⟨old, located, own, _⟩ | ⟨place, opens, _⟩
    · rcases invite_former calling with older | ⟨_, made, _⟩
      · rw [own]
        exact consistent.callOwn serial invite old older located
      · have below := SharedHeap.lt_next_of_cell? located
        omega
    · rcases invite_former calling with older | ⟨key, _⟩
      · have below := (consistent.callBelow serial invite older).2
        omega
      · rw [key, opens.2]
  · intro video context found
    rcases file_former found with ⟨old, located, _⟩ | ⟨⟨added, same, isFile, _⟩, _⟩
    · exact consistent.fileKind video old located
    · exact (VideoRequest.useFile_congr same).symm.trans isFile
  · intro serial task queued
    rcases task_former queued with ⟨old, located, _, same, _⟩ | ⟨_, _, isFile, _⟩
    · rw [same]
      exact consistent.taskKind serial old located
    · exact isFile
  · intro address cell found
    rcases cell_former consistent.owned found with ⟨old, located, _, same⟩ | ⟨_, _, kind, _⟩
    · rw [same]
      exact consistent.gbKind address old located
    · exact kind

theorem consistent_after (config : ProducerConfig) (steps : List (Step Target)) :
    (after config steps).Consistent :=
  LabelledMachine.run_invariant Consistent
    (fun _ step consistent => consistent_step step consistent) (consistent_initial config) steps

end RtpProducer

end Ffvms.Concrete
