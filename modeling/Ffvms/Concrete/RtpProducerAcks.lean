/-
The order of acknowledgements and tear-downs.

An identifier enters the producer with the response to an `InviteVideo` call.
The callback of that response is the only place that acknowledges it, and only
`UnregisterVideo` tears it down, when the context that keeps it is erased.  The
main result follows every identifier through the history of a run.
-/

import Ffvms.Concrete.GbProtocol

namespace Ffvms.Concrete

inductive Event (Target : Type) where
  | response (serial : Nat) (inviteId : String)
  | effect (effect : Effect Target)

namespace Event

variable {Target : Type}

def responseId? : Event Target → Option String
  | .response _ inviteId => some inviteId
  | .effect _ => none

def effect? : Event Target → Option (Effect Target)
  | .response _ _ => none
  | .effect sent => some sent

def Neutral : Event Target → Prop
  | .response _ _ | .effect (.sendAck _) | .effect (.tearDown _) => False
  | _ => True

/-- What has to come before an acknowledgement and before a tear-down, and what
must not. -/
def InOrder (front : List (Event Target)) : Event Target → Prop
  | .effect (.sendAck inviteId) =>
      (∃ registration sdp, .response registration.serial inviteId ∈ front ∧
        .effect (.callback registration (.processSdp sdp)) ∈ front) ∧
      .effect (.sendAck inviteId) ∉ front ∧ .effect (.tearDown inviteId) ∉ front
  | .effect (.tearDown inviteId) =>
      (∃ serial, .response serial inviteId ∈ front) ∧ .effect (.tearDown inviteId) ∉ front
  | _ => True

theorem Neutral.inOrder {event : Event Target} (neutral : event.Neutral)
    (front : List (Event Target)) : event.InOrder front := by
  cases event with
  | response serial inviteId => trivial
  | effect effect =>
      cases effect with
      | sendAck | tearDown => exact neutral.elim
      | callback | inviteVideo | registerPeer | demuxerInput | fault => trivial

end Event

namespace RtpProducer

variable {Target : Type}

def responses (producer : RtpProducer Target) : Step Target → List (Event Target)
  | .inviteCallback serial (.answered response _) =>
      match producer.invites.find? serial with
      | some _ => [.response serial response.inviteId]
      | none => []
  | _ => []

def events (producer : RtpProducer Target) (step : Step Target) : List (Event Target) :=
  producer.responses step ++ (machine.emit producer step).map .effect

def historian : LabelledMachine (RtpProducer Target) (Step Target) (Event Target) :=
  { next := machine.next
    emit := events }

def history (config : ProducerConfig) (steps : List (Step Target)) : List (Event Target) :=
  historian.trace (initial config) steps

/-- Each response carries an identifier of its own, which is not the empty text. -/
def FreshIds (history : List (Event Target)) : Prop :=
  (history.filterMap Event.responseId?).Nodup ∧ "" ∉ history.filterMap Event.responseId?

instance (history : List (Event Target)) : Decidable (FreshIds history) :=
  inferInstanceAs (Decidable (_ ∧ _))

theorem FreshIds.front {first second : List (Event Target)} (fresh : FreshIds (first ++ second)) :
    FreshIds first := by
  unfold FreshIds at fresh ⊢
  rw [List.filterMap_append] at fresh
  exact ⟨(List.nodup_append.mp fresh.1).1, fun empty => fresh.2 (List.mem_append_left _ empty)⟩

theorem FreshIds.text {history : List (Event Target)} {serial : Nat} {inviteId : String}
    (fresh : FreshIds history) (member : .response serial inviteId ∈ history) : inviteId ≠ "" := by
  rintro rfl
  exact fresh.2 (List.mem_filterMap.mpr ⟨_, member, rfl⟩)

theorem FreshIds.new {history later : List (Event Target)} {serial other : Nat} {inviteId : String}
    (fresh : FreshIds (history ++ .response serial inviteId :: later)) :
    .response other inviteId ∉ history := by
  intro member
  have nodup := fresh.1
  rw [List.filterMap_append] at nodup
  have known : inviteId ∈ history.filterMap Event.responseId? :=
    List.mem_filterMap.mpr ⟨_, member, rfl⟩
  exact (List.nodup_append.mp nodup).2.2 _ known inviteId List.mem_cons_self rfl

theorem FreshIds.serial_eq {history : List (Event Target)} {first second : Nat} {inviteId : String}
    (fresh : FreshIds history) (inFirst : .response first inviteId ∈ history)
    (inSecond : .response second inviteId ∈ history) : first = second := by
  obtain ⟨front, back, rfl⟩ := List.append_of_mem inFirst
  rcases List.mem_append.mp inSecond with earlier | later
  · exact absurd earlier fresh.new
  · rcases List.mem_cons.mp later with same | behind
    · cases same
      rfl
    · have nodup := fresh.1
      rw [List.filterMap_append] at nodup
      have tail := (List.nodup_append.mp nodup).2.1
      have known : inviteId ∈ back.filterMap Event.responseId? :=
        List.mem_filterMap.mpr ⟨_, behind, rfl⟩
      exact absurd known (List.nodup_cons.mp tail).1

/-! ### One step -/

section Step

variable {producer : RtpProducer Target}

/-- The identifier of a context was there before, or comes with the step. -/
theorem cell_named {step : Step Target} (consistent : producer.Consistent) {address : Nat}
    {cell : SharedCell (RtpVideoContext Target)}
    (found : (machine.next producer step).heap.cell? address = some cell)
    (named : cell.object.inviteId ≠ "") :
    (∃ old, producer.heap.cell? address = some old ∧
        old.object.registration = cell.object.registration ∧
        old.object.inviteId = cell.object.inviteId) ∨
      .response cell.object.registration.serial cell.object.inviteId ∈ producer.responses step := by
  by_cases noAnswer : NoAnswer step
  · rcases cell_of_call consistent noAnswer found with older | unnamed
    · exact Or.inl ⟨cell, older, rfl, rfl⟩
    · exact absurd unnamed named
  · cases step with
    | registerVideo | unregisterVideo | probeFile | reportFile | cleanFile | getFrame
    | receiveDatagram => exact absurd trivial noAnswer
    | inviteCallback serial completion =>
        cases calling : producer.invites.find? serial with
        | none =>
            change (producer.perform (.inviteCallback serial completion)).producer.heap.cell? address
              = some cell at found
            simp only [perform, calling] at found
            exact Or.inl ⟨cell, found, rfl, rfl⟩
        | some invite =>
            rw [cell?_inviteCallback completion calling] at found
            split_ifs at found with here
            · obtain ⟨old, located, rfl⟩ := Option.map_eq_some_iff.mp found
              have own := consistent.callOwn serial invite old calling (here ▸ located)
              dsimp only
              rw [RtpVideoContext.accept_registration, RtpVideoContext.accept_inviteId]
              cases completion with
              | failed => exact Or.inl ⟨old, located, rfl, rfl⟩
              | answered response creation =>
                  cases body : response.gbInviteResponse with
                  | none =>
                      exact Or.inl ⟨old, located, rfl, by simp [Completion.inviteId?, body]⟩
                  | some gb =>
                      right
                      simp [responses, calling, Completion.inviteId?, body, own]
            · exact Or.inl ⟨cell, found, rfl, rfl⟩

/-- What a step adds to the history, as far as identifiers are concerned. -/
inductive Adds (producer : RtpProducer Target) (step : Step Target) : List (Event Target) → Prop
  | neutral (events : List (Event Target)) (each : ∀ event ∈ events, event.Neutral) :
      Adds producer step events
  | tornDown (address : Nat) (context : RtpVideoContext Target)
      (alive : producer.heap.get? address = some context) (named : context.inviteId ≠ "")
      (gone : (machine.next producer step).heap.cell? address = none)
      (silent : producer.responses step = []) :
      Adds producer step [.effect (.tearDown context.inviteId)]
  | answered (serial : Nat) (inviteId : String) (events : List (Event Target))
      (each : ∀ event ∈ events, event.Neutral) :
      Adds producer step (.response serial inviteId :: events)
  | acknowledged (registration : Registration Target) (inviteId sdp peer : String) (context : Nat) :
      Adds producer step
        [.response registration.serial inviteId,
          .effect (.callback registration (.processSdp sdp)),
          .effect (.registerPeer peer context), .effect (.sendAck inviteId)]

theorem responses_cases (producer : RtpProducer Target) (step : Step Target) :
    producer.responses step = [] ∨
      ∃ serial inviteId, producer.responses step = [.response serial inviteId] := by
  cases step with
  | registerVideo | unregisterVideo | probeFile | reportFile | cleanFile | getFrame
  | receiveDatagram => exact Or.inl rfl
  | inviteCallback serial completion =>
      cases completion with
      | failed => exact Or.inl rfl
      | answered response creation =>
          cases calling : producer.invites.find? serial with
          | none => exact Or.inl (by simp only [responses, calling])
          | some invite => exact Or.inr ⟨serial, response.inviteId, by simp only [responses, calling]⟩

/-- Without the responses, the history is the trace of the producer. -/
theorem history_effects (config : ProducerConfig) (steps : List (Step Target)) :
    (history config steps).filterMap Event.effect? = machine.trace (initial config) steps := by
  unfold history
  generalize initial config = producer
  induction steps generalizing producer with
  | nil => rfl
  | cons step rest ih =>
      have none : (producer.responses step).filterMap Event.effect? = [] := by
        rcases responses_cases producer step with none | ⟨serial, inviteId, one⟩
        · rw [none]
          rfl
        · rw [one]
          rfl
      rw [LabelledMachine.trace_cons, LabelledMachine.trace_cons, List.filterMap_append, ih]
      simp only [historian, events, List.filterMap_append, none, List.nil_append,
        List.filterMap_map]
      exact congrArg (· ++ _) (List.filterMap_some)

theorem adds_of_neutral (step : Step Target) {effects : List (Effect Target)}
    (each : ∀ effect ∈ effects, (Event.effect effect).Neutral) :
    Adds producer step (producer.responses step ++ effects.map .effect) := by
  have events : ∀ event ∈ effects.map Event.effect, event.Neutral := by
    intro event member
    obtain ⟨effect, inside, rfl⟩ := List.mem_map.mp member
    exact each effect inside
  rcases responses_cases producer step with none | ⟨serial, inviteId, one⟩
  · rw [none]
    exact .neutral _ events
  · rw [one]
    exact .answered serial inviteId _ events

theorem adds_unregister {video : VideoRequest} {address : Nat} (consistent : producer.Consistent)
    (located : producer.rtpVideoContextMap.find? video = some address)
    (removed : machine.next producer (.unregisterVideo video) = producer.eraseRtp video address) :
    Adds producer (.unregisterVideo video) ((producer.tearDownOf address).map .effect) := by
  obtain ⟨context, last, _key⟩ := consistent.owned.held video address located
  have alive := get?_of_cell? last
  unfold tearDownOf
  rw [alive]
  dsimp only
  split_ifs with unnamed
  · exact .neutral [] (List.forall_mem_nil _)
  · refine .tornDown address context alive unnamed ?_ rfl
    rw [removed]
    change (producer.heap.release address).cell? address = none
    rw [SharedHeap.cell?_release_last last, if_pos rfl]

theorem adds_accepted {serial : Nat} {completion : Completion} {invite : Invite}
    {context : RtpVideoContext Target} {gb : GbInviteVideoResponse} {sdp peer : String}
    (consistent : producer.Consistent) (calling : producer.invites.find? serial = some invite)
    (alive : producer.heap.get? invite.context = some context)
    (accepted : (context.accept producer.config completion).2 = some gb) :
    Adds producer (.inviteCallback serial completion)
      (producer.responses (.inviteCallback serial completion) ++
        [.effect (.callback context.registration (.processSdp sdp)),
          .effect (.registerPeer peer invite.context),
          .effect (.sendAck (context.accept producer.config completion).1.inviteId)]) := by
  obtain ⟨strong, located⟩ := cell?_of_get? alive
  have own : context.registration.serial = serial :=
    consistent.callOwn serial invite _ calling located
  cases completion with
  | failed => cases accepted
  | answered response creation =>
      cases body : response.gbInviteResponse with
      | none => simp [RtpVideoContext.accept, body] at accepted
      | some carried =>
          rw [RtpVideoContext.accept_inviteId]
          simp only [Completion.inviteId?, body, Option.map_some, Option.getD_some, responses,
            calling]
          rw [← own]
          exact .acknowledged context.registration response.inviteId sdp peer invite.context

/-- Every step adds to the history in one of these ways. -/
theorem adds_events (consistent : producer.Consistent) (step : Step Target) :
    Adds producer step (producer.events step) := by
  have moved := transition producer step
  change Adds producer step
    (producer.responses step ++ (producer.perform step).effects.map .effect)
  generalize performed : producer.perform step = result at moved
  cases moved with
  | idle | ignored | fileQueued | probeLost | inviteLost =>
      exact adds_of_neutral _ (List.forall_mem_nil _)
  | fileRemoved | cleaned =>
      refine adds_of_neutral _ ?_
      intro effect member
      rw [mem_destroyFile member]
      trivial
  | refused | gbUnnamed | gbInvited | probeStarted | probeCrashed | reported | reportedNobody
  | inviteFailed =>
      refine adds_of_neutral _ ?_
      simp [Event.Neutral, Registration.invoke]
  | framed | frameFailed | received =>
      refine adds_of_neutral _ ?_
      simp +contextual [Event.Neutral, Registration.invoke, or_imp]
  | probeBroke serial probe task ret spoken context queued phase found exit =>
      refine adds_of_neutral _ ?_
      cases spoken <;> simp [Event.Neutral, Registration.invoke]
  | gbRemoved video address noFile isGb located =>
      have removed : machine.next producer (.unregisterVideo video) =
          producer.eraseRtp video address := congrArg Produced.producer performed
      exact adds_unregister consistent located removed
  | inviteAccepted serial completion invite context gb calling alive accepted =>
      exact adds_accepted consistent calling alive accepted

end Step

/-! ### Runs -/

/-- What the identifiers of the contexts and those sent so far have to do with the
responses. -/
structure Traced (producer : RtpProducer Target) (history : List (Event Target)) : Prop where
  consistent : producer.Consistent
  named : ∀ address cell, producer.heap.cell? address = some cell → cell.object.inviteId ≠ "" →
    .response cell.object.registration.serial cell.object.inviteId ∈ history
  acked : ∀ inviteId, .effect (.sendAck inviteId) ∈ history →
    ∃ serial, .response serial inviteId ∈ history
  torn : ∀ inviteId, .effect (.tearDown inviteId) ∈ history →
    (∃ serial, .response serial inviteId ∈ history) ∧
      ∀ address cell, producer.heap.cell? address = some cell → cell.object.inviteId ≠ inviteId
  inOrder : EachAfter Event.InOrder history

theorem traced_initial (config : ProducerConfig) : (initial config : RtpProducer Target).Traced [] :=
  { consistent := consistent_initial config
    named := fun _ _ found => nomatch found
    acked := fun _ member => nomatch member
    torn := fun _ member => nomatch member
    inOrder := EachAfter.nil }

section Traced

variable {producer : RtpProducer Target} {history : List (Event Target)} {step : Step Target}

theorem named_step (traced : producer.Traced history) {address : Nat}
    {cell : SharedCell (RtpVideoContext Target)}
    (found : (machine.next producer step).heap.cell? address = some cell)
    (named : cell.object.inviteId ≠ "") :
    .response cell.object.registration.serial cell.object.inviteId ∈
      history ++ producer.events step := by
  rcases cell_named traced.consistent found named with ⟨old, located, same, sameId⟩ | new
  · rw [← sameId] at named ⊢
    rw [← same]
    exact List.mem_append_left _ (traced.named address old located named)
  · exact List.mem_append_right _ (List.mem_append_left _ new)

theorem torn_stays (traced : producer.Traced history)
    (fresh : FreshIds (history ++ producer.events step)) {inviteId : String}
    (member : .effect (.tearDown inviteId) ∈ history) {address : Nat}
    {cell : SharedCell (RtpVideoContext Target)}
    (found : (machine.next producer step).heap.cell? address = some cell) :
    cell.object.inviteId ≠ inviteId := by
  obtain ⟨⟨serial, received⟩, nowhere⟩ := traced.torn inviteId member
  rintro rfl
  have text := fresh.front.text received
  rcases cell_named traced.consistent found text with ⟨old, located, _, sameId⟩ | new
  · exact nowhere address old located sameId
  · obtain ⟨front, back, split⟩ := List.append_of_mem new
    have again : FreshIds (history ++ front ++ .response cell.object.registration.serial
        cell.object.inviteId :: (back ++ (machine.emit producer step).map .effect)) := by
      have whole := fresh
      unfold events at whole
      rw [split] at whole
      simpa using whole
    exact again.new (List.mem_append_left front received)

theorem torn_new (traced : producer.Traced history)
    (fresh : FreshIds (history ++ producer.events step)) {address : Nat}
    {context : RtpVideoContext Target} (alive : producer.heap.get? address = some context)
    (named : context.inviteId ≠ "") (gone : (machine.next producer step).heap.cell? address = none)
    (quiet : producer.responses step = []) {other : Nat}
    {cell : SharedCell (RtpVideoContext Target)}
    (found : (machine.next producer step).heap.cell? other = some cell) :
    cell.object.inviteId ≠ context.inviteId := by
  intro same
  obtain ⟨strong, here⟩ := cell?_of_get? alive
  rcases cell_named traced.consistent found (same ▸ named) with ⟨old, located, _, sameId⟩ | new
  · have oldId := sameId.trans same
    have first := traced.named address _ here named
    have second := traced.named other old located (oldId ▸ named)
    rw [oldId] at second
    have equal := traced.consistent.unique address other _ old here located
      (fresh.front.serial_eq first second)
    rw [← equal, gone] at found
    cases found
  · rw [quiet] at new
    cases new

theorem Adds.acked {added : List (Event Target)} (adds : Adds producer step added)
    {inviteId : String} (sent : .effect (.sendAck inviteId) ∈ added) :
    ∃ serial, .response serial inviteId ∈ added := by
  cases adds with
  | neutral events each => exact (each _ sent).elim
  | tornDown => cases List.mem_singleton.mp sent
  | answered serial given events each =>
      rcases List.mem_cons.mp sent with same | inside
      · cases same
      · exact (each _ inside).elim
  | acknowledged registration given sdp peer context =>
      have same : inviteId = given := by simpa using sent
      rw [same]
      exact ⟨registration.serial, List.mem_cons_self⟩

theorem Adds.torn {added : List (Event Target)} (adds : Adds producer step added)
    {inviteId : String} (sent : .effect (.tearDown inviteId) ∈ added) :
    ∃ address context, producer.heap.get? address = some context ∧ context.inviteId ≠ "" ∧
      (machine.next producer step).heap.cell? address = none ∧ producer.responses step = [] ∧
      context.inviteId = inviteId := by
  cases adds with
  | neutral events each => exact (each _ sent).elim
  | tornDown address context alive named gone silent =>
      cases List.mem_singleton.mp sent
      exact ⟨address, context, alive, named, gone, silent, rfl⟩
  | answered serial given events each =>
      rcases List.mem_cons.mp sent with same | inside
      · cases same
      · exact (each _ inside).elim
  | acknowledged => simp at sent

theorem inOrder_step (traced : producer.Traced history) {added : List (Event Target)}
    (adds : Adds producer step added) (fresh : FreshIds (history ++ added)) :
    EachAfter Event.InOrder (history ++ added) := by
  apply traced.inOrder.append
  cases adds with
  | neutral events each =>
      exact EachAfter.of_forall (fun event member _ => (each event member).inOrder _)
  | answered serial given events each =>
      refine EachAfter.cons trivial ?_
      exact EachAfter.of_forall (fun event member _ => (each event member).inOrder _)
  | tornDown address context alive text gone silent =>
      obtain ⟨strong, here⟩ := cell?_of_get? alive
      refine EachAfter.cons ?_ EachAfter.nil
      rw [List.append_nil]
      refine ⟨⟨_, traced.named address _ here text⟩, ?_⟩
      intro before
      exact (traced.torn _ before).2 address _ here rfl
  | acknowledged registration given sdp peer context =>
      -- The identifier is new, so nothing was sent for it.
      have unknown {serial : Nat} : .response serial given ∉ history := fresh.new
      refine EachAfter.cons trivial (EachAfter.cons trivial (EachAfter.cons trivial
        (EachAfter.cons ?_ EachAfter.nil)))
      refine ⟨⟨registration, sdp, by simp, by simp⟩, ?_, ?_⟩
      · intro again
        have before : .effect (.sendAck given) ∈ history := by simpa using again
        obtain ⟨serial, received⟩ := traced.acked given before
        exact unknown received
      · intro again
        have before : .effect (.tearDown given) ∈ history := by simpa using again
        obtain ⟨⟨serial, received⟩, _⟩ := traced.torn given before
        exact unknown received

theorem traced_step (traced : producer.Traced history)
    (fresh : FreshIds (history ++ producer.events step)) :
    (machine.next producer step).Traced (history ++ producer.events step) := by
  have adds := adds_events traced.consistent step
  refine
    { consistent := consistent_step step traced.consistent
      named := fun address cell => named_step traced
      acked := ?_
      torn := ?_
      inOrder := inOrder_step traced adds fresh }
  · intro inviteId member
    rcases List.mem_append.mp member with before | new
    · obtain ⟨serial, received⟩ := traced.acked inviteId before
      exact ⟨serial, List.mem_append_left _ received⟩
    · obtain ⟨serial, received⟩ := adds.acked new
      exact ⟨serial, List.mem_append_right _ received⟩
  · intro inviteId member
    rcases List.mem_append.mp member with before | new
    · obtain ⟨⟨serial, received⟩, _⟩ := traced.torn inviteId before
      exact ⟨⟨serial, List.mem_append_left _ received⟩,
        fun address cell => torn_stays traced fresh before⟩
    · obtain ⟨address, context, alive, text, gone, silent, rfl⟩ := adds.torn new
      obtain ⟨strong, here⟩ := cell?_of_get? alive
      exact ⟨⟨_, List.mem_append_left _ (traced.named address _ here text)⟩,
        fun other cell => torn_new traced fresh alive text gone silent⟩

end Traced

/-- In the history of every run in which each response carries an identifier of its
own, each acknowledgement comes after the response and after the SDP callback of
the registration that was answered, each tear-down comes after the response, no
acknowledgement and no tear-down is repeated, and no acknowledgement comes after
a tear-down. -/
theorem acks_and_tearDowns_in_order (config : ProducerConfig) (steps : List (Step Target))
    (fresh : FreshIds (history config steps)) :
    EachAfter Event.InOrder (history config steps) := by
  have traced : FreshIds ([] ++ history config steps) →
      (historian.run (initial config) steps).Traced ([] ++ history config steps) :=
    historian.trace_invariant (fun state events => FreshIds events → Traced state events)
      (fun _ _ _ inv later => traced_step (inv later.front) later)
      (fun _ => traced_initial config) steps
  exact (traced fresh).inOrder

/-- A camera is invited, torn down and invited again. -/
theorem acks_and_tearDowns_of_two_invites :
    let config : ProducerConfig := ⟨"127.0.0.1:8086", 2000, 4, 0, zeroedMemory⟩
    let video : VideoRequest := { VideoRequest.unset with useGb := true, gbid := "camera" }
    let answer (inviteId : String) : Completion :=
      .answered ⟨inviteId, some ⟨"10.0.0.1:5060", 90000, 96, "H264"⟩⟩ ⟨1, true, true⟩
    let steps : List (Step Nat) :=
      [.registerVideo video 7, .inviteCallback 0 (answer "first"), .unregisterVideo video,
        .registerVideo video 8, .inviteCallback 1 (answer "second"), .unregisterVideo video]
    FreshIds (history config steps) ∧ EachAfter Event.InOrder (history config steps) := by
  intro config video answer steps
  have fresh : FreshIds (history config steps) := by decide
  exact ⟨fresh, acks_and_tearDowns_in_order config steps fresh⟩

end RtpProducer

end Ffvms.Concrete
