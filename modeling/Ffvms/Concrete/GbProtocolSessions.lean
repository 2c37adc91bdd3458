/-
Sessions of the GB28181 protocol.

An identifier that the service has returned is in an answer in flight, in a
context, or torn down, and it never comes back to an earlier of these places.
An answer that is not heeded loses its identifier for good.  So the sessions
that are leaked can be counted at the answers, and a state without messages in
flight has leaked none if and only if every answer so far was heeded.
-/

import Ffvms.Concrete.GbProtocol

namespace Ffvms.Concrete.GbProtocol

variable {Target : Type}

/-! ### Sending -/

section Send

variable (protocol : GbProtocol Target) (effects : List (Effect Target))

theorem producer_send : (effects.foldl send protocol).producer = protocol.producer := by
  induction effects generalizing protocol with
  | nil => rfl
  | cons effect rest ih =>
      rw [List.foldl_cons, ih]
      cases effect <;> rfl

theorem responses_send : (effects.foldl send protocol).responses = protocol.responses := by
  induction effects generalizing protocol with
  | nil => rfl
  | cons effect rest ih =>
      rw [List.foldl_cons, ih]
      cases effect <;> rfl

theorem accepted_send : (effects.foldl send protocol).accepted = protocol.accepted := by
  induction effects generalizing protocol with
  | nil => rfl
  | cons effect rest ih =>
      rw [List.foldl_cons, ih]
      cases effect <;> rfl

theorem mem_tornDown_send {inviteId : String} :
    inviteId ∈ (effects.foldl send protocol).tornDown ↔
      inviteId ∈ protocol.tornDown ∨ .tearDown inviteId ∈ effects := by
  induction effects generalizing protocol with
  | nil => simp
  | cons effect rest ih =>
      rw [List.foldl_cons, ih, List.mem_cons]
      cases effect with
      | tearDown other =>
          simp only [send, List.mem_cons, Effect.tearDown.injEq]
          rw [or_assoc, or_left_comm]
      | callback | inviteVideo | sendAck | registerPeer | demuxerInput | fault => simp [send]

theorem requests_send {serial : Nat} {request : GbInviteRequest}
    (sent : (effects.foldl send protocol).requests.find? serial = some request) :
    protocol.requests.find? serial = some request ∨
      ∃ timeout, .inviteVideo serial request timeout ∈ effects := by
  induction effects generalizing protocol with
  | nil => exact Or.inl sent
  | cons effect rest ih =>
      rcases ih (protocol.send effect) sent with here | ⟨timeout, later⟩
      · cases effect with
        | inviteVideo other body timeout =>
            change (protocol.requests.insert other body).find? serial = some request at here
            rw [OrderedMap.find?_insert] at here
            split_ifs at here with same
            · have same : serial = other := same
              rw [same, Option.some.inj here]
              exact Or.inr ⟨timeout, List.mem_cons_self⟩
            · exact Or.inl here
        | callback | tearDown | sendAck | registerPeer | demuxerInput | fault => exact Or.inl here
      · exact Or.inr ⟨timeout, List.mem_cons_of_mem _ later⟩

end Send

/-! ### The invariant -/

def Named (protocol : GbProtocol Target) (inviteId : String) : Prop :=
  ∃ address cell, protocol.producer.heap.cell? address = some cell ∧
    cell.object.inviteId = inviteId

def InFlight (protocol : GbProtocol Target) (inviteId : String) : Prop :=
  ∃ serial response, protocol.responses.find? serial = some (some response) ∧
    response.inviteId = inviteId

structure Sound (protocol : GbProtocol Target) : Prop where
  consistent : protocol.producer.Consistent
  requested : ∀ serial request, protocol.requests.find? serial = some request →
    (∃ invite, protocol.producer.invites.find? serial = some invite) ∧
      protocol.responses.find? serial = none
  answered : ∀ serial answer, protocol.responses.find? serial = some answer →
    ∃ invite, protocol.producer.invites.find? serial = some invite
  unset : ∀ serial invite cell, protocol.producer.invites.find? serial = some invite →
    protocol.producer.heap.cell? invite.context = some cell → cell.object.inviteId = ""
  text : "" ∉ protocol.accepted
  named : ∀ inviteId, protocol.Named inviteId → inviteId = "" ∨ inviteId ∈ protocol.accepted
  torn : ∀ inviteId ∈ protocol.tornDown, inviteId ∈ protocol.accepted
  flying : ∀ inviteId, protocol.InFlight inviteId → inviteId ∈ protocol.accepted ∧
    inviteId ∉ protocol.tornDown ∧ ¬protocol.Named inviteId
  once : ∀ first second response other, protocol.responses.find? first = some (some response) →
    protocol.responses.find? second = some (some other) → response.inviteId = other.inviteId →
      first = second

theorem holds_iff {protocol : GbProtocol Target} (sound : protocol.Sound) (inviteId : String) :
    protocol.Holds inviteId ↔ protocol.Named inviteId := by
  constructor
  · rintro ⟨video, address, context, _located, alive, same⟩
    obtain ⟨strong, found⟩ := RtpProducer.cell?_of_get? alive
    exact ⟨address, _, found, same⟩
  · rintro ⟨address, cell, found, same⟩
    exact ⟨cell.object.videoRequest, address, cell.object,
      sound.consistent.owned.mapped address cell found, RtpProducer.get?_of_cell? found, same⟩

theorem sound_initial (config : ProducerConfig) : (initial config : GbProtocol Target).Sound :=
  { consistent := RtpProducer.consistent_initial config
    requested := fun _ _ found => nomatch found
    answered := fun _ _ found => nomatch found
    unset := fun _ _ _ found => nomatch found
    text := List.not_mem_nil
    named := by
      rintro inviteId ⟨address, cell, found, _⟩
      cases found
    torn := fun _ member => absurd member List.not_mem_nil
    flying := by
      rintro inviteId ⟨serial, response, found, _⟩
      cases found
    once := fun _ _ _ _ found => nomatch found }

/-! ### Calls of the producer -/

section Call

variable {protocol : GbProtocol Target} {step : RtpProducer.Step Target}

theorem producer_react (protocol : GbProtocol Target) (step : RtpProducer.Step Target) :
    (protocol.react step).producer = RtpProducer.machine.next protocol.producer step :=
  producer_send _ _

theorem responses_react (protocol : GbProtocol Target) (step : RtpProducer.Step Target) :
    (protocol.react step).responses = protocol.responses :=
  responses_send _ _

theorem accepted_react (protocol : GbProtocol Target) (step : RtpProducer.Step Target) :
    (protocol.react step).accepted = protocol.accepted :=
  accepted_send _ _

theorem mem_tornDown_react {inviteId : String} :
    inviteId ∈ (protocol.react step).tornDown ↔
      inviteId ∈ protocol.tornDown ∨
        .tearDown inviteId ∈ RtpProducer.machine.emit protocol.producer step :=
  mem_tornDown_send _ _

theorem requests_react {serial : Nat} {request : GbInviteRequest}
    (sent : (protocol.react step).requests.find? serial = some request) :
    protocol.requests.find? serial = some request ∨
      ∃ timeout, .inviteVideo serial request timeout ∈
        RtpProducer.machine.emit protocol.producer step :=
  requests_send
    { protocol with producer := RtpProducer.machine.next protocol.producer step } _ sent

theorem inFlight_react {inviteId : String} :
    (protocol.react step).InFlight inviteId ↔ protocol.InFlight inviteId := by
  unfold InFlight
  rw [responses_react]

theorem named_of_react (sound : protocol.Sound) (noAnswer : RtpProducer.NoAnswer step)
    {inviteId : String} (text : inviteId ≠ "") (named : (protocol.react step).Named inviteId) :
    protocol.Named inviteId := by
  obtain ⟨address, cell, found, same⟩ := named
  rw [producer_react] at found
  rcases RtpProducer.cell_of_call sound.consistent noAnswer found with older | unnamed
  · exact ⟨address, cell, older, same⟩
  · exact absurd (same.symm.trans unnamed) text

theorem named_of_tearDown {inviteId : String}
    (sent : .tearDown inviteId ∈ RtpProducer.machine.emit protocol.producer step) :
    protocol.Named inviteId ∧ inviteId ≠ "" := by
  cases RtpProducer.signals_of_emitted sent (fun _ _ => nofun) with
  | tearingDown video address context located alive named =>
      obtain ⟨strong, found⟩ := RtpProducer.cell?_of_get? alive
      exact ⟨⟨address, _, found, rfl⟩, named⟩

theorem named_react (sound : protocol.Sound) (noAnswer : RtpProducer.NoAnswer step)
    {inviteId : String} (text : inviteId ≠ "") (named : protocol.Named inviteId) :
    (protocol.react step).Named inviteId ∨ inviteId ∈ (protocol.react step).tornDown := by
  obtain ⟨address, cell, found, same⟩ := named
  rw [← same] at text ⊢
  rcases RtpProducer.cell_kept_or_tornDown sound.consistent noAnswer found text with kept | sent
  · refine Or.inl ⟨address, cell, ?_, rfl⟩
    rw [producer_react]
    exact kept
  · exact Or.inr (mem_tornDown_react.mpr (Or.inr sent))

theorem sound_call (sound : protocol.Sound) (noAnswer : RtpProducer.NoAnswer step) :
    (protocol.react step).Sound := by
  have calls {serial : Nat} {invite : Invite}
      (calling : protocol.producer.invites.find? serial = some invite) :
      ∃ invite, (protocol.react step).producer.invites.find? serial = some invite := by
    rw [producer_react]
    exact ⟨invite, RtpProducer.call_kept noAnswer sound.consistent calling⟩
  refine
    { consistent := ?_
      requested := ?_
      answered := ?_
      unset := ?_
      text := by rw [accepted_react]; exact sound.text
      named := ?_
      torn := ?_
      flying := ?_
      once := by rw [responses_react]; exact sound.once }
  · rw [producer_react]
    exact RtpProducer.consistent_step step sound.consistent
  · intro serial request sent
    rw [responses_react]
    rcases requests_react sent with older | ⟨timeout, new⟩
    · obtain ⟨⟨invite, calling⟩, unanswered⟩ := sound.requested serial request older
      exact ⟨calls calling, unanswered⟩
    · cases RtpProducer.signals_of_emitted new (fun _ _ => nofun) with
      | inviting video target transmission noFile isGb free mode =>
          constructor
          · rw [producer_react]
            change ∃ invite, (RtpProducer.perform _ _).producer.invites.find? _ = some invite
            rw [RtpProducer.next_registerGb target noFile isGb free mode]
            exact ⟨_, OrderedMap.find?_insert_self _ _ _⟩
          · cases answer : protocol.responses.find? protocol.producer.nextSerial with
            | none => rfl
            | some early =>
                obtain ⟨invite, calling⟩ := sound.answered _ _ answer
                have below := (sound.consistent.callBelow _ _ calling).1
                exact absurd below (Nat.lt_irrefl _)
  · intro serial answer found
    rw [responses_react] at found
    obtain ⟨invite, calling⟩ := sound.answered serial answer found
    exact calls calling
  · intro serial invite cell calling found
    rw [producer_react] at calling found
    rcases RtpProducer.cell_of_call sound.consistent noAnswer found with older | unnamed
    · rcases RtpProducer.invite_former calling with before | ⟨_, made, _⟩
      · exact sound.unset serial invite cell before older
      · have below := SharedHeap.lt_next_of_cell? older
        omega
    · exact unnamed
  · intro inviteId named
    rw [accepted_react]
    by_cases text : inviteId = ""
    · exact Or.inl text
    · exact sound.named inviteId (named_of_react sound noAnswer text named)
  · intro inviteId member
    rw [accepted_react]
    rcases mem_tornDown_react.mp member with older | sent
    · exact sound.torn inviteId older
    · obtain ⟨named, text⟩ := named_of_tearDown sent
      exact (sound.named inviteId named).resolve_left text
  · intro inviteId flying
    rw [accepted_react]
    obtain ⟨known, unsent, unnamed⟩ := sound.flying inviteId (inFlight_react.mp flying)
    refine ⟨known, fun member => ?_, fun named => ?_⟩
    · rcases mem_tornDown_react.mp member with older | sent
      · exact unsent older
      · exact unnamed (named_of_tearDown sent).1
    · have text : inviteId ≠ "" := fun empty => sound.text (empty ▸ known)
      exact unnamed (named_of_react sound noAnswer text named)

end Call

/-! ### Deliveries to the service -/

section Request

variable {protocol : GbProtocol Target} {serial : Nat}

def answerWith (protocol : GbProtocol Target) (serial : Nat) (answer : Option InviteVideoResponse)
    (accepted : List String) : GbProtocol Target :=
  { protocol with
    requests := protocol.requests.erase serial
    responses := protocol.responses.insert serial answer
    accepted := accepted }

theorem responses_answerWith (protocol : GbProtocol Target) (serial other : Nat)
    (answer : Option InviteVideoResponse) (accepted : List String) :
    (protocol.answerWith serial answer accepted).responses.find? other =
      if other = serial then some answer else protocol.responses.find? other :=
  OrderedMap.find?_insert _ _ _ _

theorem response_former {other : Nat} {answer : Option InviteVideoResponse}
    {response : InviteVideoResponse} {accepted : List String}
    (found : (protocol.answerWith serial answer accepted).responses.find? other =
      some (some response)) :
    (other = serial ∧ answer = some response) ∨
      protocol.responses.find? other = some (some response) := by
  rw [responses_answerWith] at found
  split_ifs at found with same
  · exact Or.inl ⟨same, Option.some.inj found⟩
  · exact Or.inr found

/-- A delivered request changes nothing, or is refused, or is accepted under a
new identifier. -/
theorem takeRequest_cases (protocol : GbProtocol Target) (serial : Nat)
    (answer : Option InviteVideoResponse) :
    protocol.takeRequest serial answer = protocol ∨
      ∃ request, protocol.requests.find? serial = some request ∧
        (protocol.takeRequest serial answer =
            protocol.answerWith serial none protocol.accepted ∨
          ∃ response, response.inviteId ≠ "" ∧ response.inviteId ∉ protocol.accepted ∧
            protocol.takeRequest serial answer = protocol.answerWith serial (some response)
              (response.inviteId :: protocol.accepted)) := by
  unfold takeRequest
  cases sent : protocol.requests.find? serial with
  | none => exact Or.inl rfl
  | some request =>
      cases answer with
      | none => exact Or.inr ⟨request, rfl, Or.inl rfl⟩
      | some response =>
          dsimp only
          split_ifs with taken
          · exact Or.inl rfl
          · rw [not_or] at taken
            exact Or.inr ⟨request, rfl, Or.inr ⟨response, taken.1, taken.2, rfl⟩⟩

theorem sound_answerWith (sound : protocol.Sound) {request : GbInviteRequest}
    (sent : protocol.requests.find? serial = some request) {answer : Option InviteVideoResponse}
    {accepted : List String} (text : "" ∉ accepted)
    (grows : ∀ inviteId ∈ protocol.accepted, inviteId ∈ accepted)
    (new : ∀ response, answer = some response →
      response.inviteId ∈ accepted ∧ response.inviteId ∉ protocol.accepted) :
    (protocol.answerWith serial answer accepted).Sound := by
  obtain ⟨pending, unanswered⟩ := sound.requested serial request sent
  refine
    { consistent := sound.consistent
      requested := ?_
      answered := ?_
      unset := sound.unset
      text := text
      named := fun inviteId named => (sound.named inviteId named).imp id (grows inviteId)
      torn := fun inviteId member => grows inviteId (sound.torn inviteId member)
      flying := ?_
      once := ?_ }
  · intro other body found
    change (protocol.requests.erase serial).find? other = some body at found
    rw [OrderedMap.find?_erase] at found
    split_ifs at found with same
    obtain ⟨calling, none⟩ := sound.requested other body found
    refine ⟨calling, ?_⟩
    rw [responses_answerWith, if_neg same]
    exact none
  · intro other reply found
    rw [responses_answerWith] at found
    split_ifs at found with same
    · rw [same]
      exact pending
    · exact sound.answered other reply found
  · rintro inviteId ⟨other, response, found, same⟩
    rcases response_former found with ⟨_, fresh⟩ | older
    · -- A new identifier has been nowhere so far.
      obtain ⟨known, unknown⟩ := new response fresh
      rw [same] at known unknown
      refine ⟨known, fun member => unknown (sound.torn inviteId member), fun named => ?_⟩
      rcases sound.named inviteId named with empty | member
      · exact text (empty ▸ known)
      · exact unknown member
    · obtain ⟨known, unsent, unnamed⟩ := sound.flying inviteId ⟨other, response, older, same⟩
      exact ⟨grows inviteId known, unsent, unnamed⟩
  · intro first second response other inFirst inSecond same
    have known {number : Nat} {reply : InviteVideoResponse}
        (older : protocol.responses.find? number = some (some reply)) :
        reply.inviteId ∈ protocol.accepted :=
      (sound.flying reply.inviteId ⟨number, reply, older, rfl⟩).1
    rcases response_former inFirst with ⟨firstHere, firstNew⟩ | firstOlder
    · rcases response_former inSecond with ⟨secondHere, _⟩ | secondOlder
      · rw [firstHere, secondHere]
      · exact absurd (same ▸ known secondOlder) (new response firstNew).2
    · rcases response_former inSecond with ⟨_, secondNew⟩ | secondOlder
      · exact absurd (same ▸ known firstOlder) (new other secondNew).2
      · exact sound.once first second response other firstOlder secondOlder same

theorem sound_takeRequest (sound : protocol.Sound) (serial : Nat)
    (answer : Option InviteVideoResponse) : (protocol.takeRequest serial answer).Sound := by
  rcases takeRequest_cases protocol serial answer with
    same | ⟨request, sent, refused | ⟨response, text, fresh, granted⟩⟩
  · rw [same]
    exact sound
  · rw [refused]
    exact sound_answerWith sound sent sound.text (fun _ member => member) nofun
  · rw [granted]
    refine sound_answerWith sound sent ?_ (fun _ member => List.mem_cons_of_mem _ member) ?_
    · intro empty
      rcases List.mem_cons.mp empty with same | member
      · exact text same.symm
      · exact sound.text member
    · intro other same
      cases same
      exact ⟨List.mem_cons_self, fresh⟩

end Request

/-! ### Answers -/

section Response

variable {protocol : GbProtocol Target} {serial : Nat} {answer : Option InviteVideoResponse}
  {invite : Invite} (creation : Creation)

theorem takeResponse_eq (found : protocol.responses.find? serial = some answer) :
    protocol.takeResponse serial creation =
      { protocol with responses := protocol.responses.erase serial }.react
        (.inviteCallback serial (completionOf creation answer)) := by
  simp only [takeResponse, found]

theorem producer_takeResponse (found : protocol.responses.find? serial = some answer) :
    (protocol.takeResponse serial creation).producer =
      RtpProducer.machine.next protocol.producer
        (.inviteCallback serial (completionOf creation answer)) := by
  rw [takeResponse_eq creation found, producer_react]

theorem accepted_takeResponse (found : protocol.responses.find? serial = some answer) :
    (protocol.takeResponse serial creation).accepted = protocol.accepted := by
  rw [takeResponse_eq creation found, accepted_react]

theorem responses_takeResponse (found : protocol.responses.find? serial = some answer)
    (other : Nat) :
    (protocol.takeResponse serial creation).responses.find? other =
      if other = serial then none else protocol.responses.find? other := by
  rw [takeResponse_eq creation found, responses_react]
  exact OrderedMap.find?_erase _ _ _

theorem invites_takeResponse (found : protocol.responses.find? serial = some answer)
    (calling : protocol.producer.invites.find? serial = some invite) (other : Nat) :
    (protocol.takeResponse serial creation).producer.invites.find? other =
      if other = serial then none else protocol.producer.invites.find? other := by
  rw [producer_takeResponse creation found, RtpProducer.invites_inviteCallback _ calling]
  exact OrderedMap.find?_erase _ _ _

theorem mem_tornDown_takeResponse (found : protocol.responses.find? serial = some answer)
    {inviteId : String} :
    inviteId ∈ (protocol.takeResponse serial creation).tornDown ↔ inviteId ∈ protocol.tornDown := by
  rw [takeResponse_eq creation found, mem_tornDown_react]
  refine or_iff_left ?_
  intro sent
  nomatch RtpProducer.signals_of_emitted sent (fun _ _ => nofun)

theorem requests_takeResponse (found : protocol.responses.find? serial = some answer)
    {other : Nat} {request : GbInviteRequest}
    (sent : (protocol.takeResponse serial creation).requests.find? other = some request) :
    protocol.requests.find? other = some request := by
  rw [takeResponse_eq creation found] at sent
  rcases requests_react sent with older | ⟨timeout, new⟩
  · exact older
  · nomatch RtpProducer.signals_of_emitted new (fun _ _ => nofun)

theorem inFlight_of_takeResponse (found : protocol.responses.find? serial = some answer)
    {inviteId : String} (flying : (protocol.takeResponse serial creation).InFlight inviteId) :
    ∃ other response, other ≠ serial ∧ protocol.responses.find? other = some (some response) ∧
      response.inviteId = inviteId := by
  obtain ⟨other, response, there, same⟩ := flying
  rw [responses_takeResponse creation found] at there
  split_ifs at there with here
  exact ⟨other, response, here, there, same⟩

theorem named_of_takeResponse (found : protocol.responses.find? serial = some answer)
    (calling : protocol.producer.invites.find? serial = some invite) {inviteId : String}
    (named : (protocol.takeResponse serial creation).Named inviteId) :
    protocol.Named inviteId ∨ ∃ response context, answer = some response ∧
      response.inviteId = inviteId ∧ response.gbInviteResponse ≠ none ∧
      protocol.producer.heap.get? invite.context = some context := by
  obtain ⟨address, cell, there, same⟩ := named
  rw [producer_takeResponse creation found, RtpProducer.cell?_inviteCallback _ calling] at there
  split_ifs at there with here
  · obtain ⟨old, former, changed⟩ := Option.map_eq_some_iff.mp there
    rw [← changed] at same
    dsimp only at same
    rw [RtpVideoContext.accept_inviteId] at same
    cases answer with
    | none => exact Or.inl ⟨address, old, former, same⟩
    | some response =>
        cases body : response.gbInviteResponse with
        | none =>
            simp only [completionOf, Completion.inviteId?, body, Option.map_none,
              Option.getD_none] at same
            exact Or.inl ⟨address, old, former, same⟩
        | some gb =>
            simp only [completionOf, Completion.inviteId?, body, Option.map_some,
              Option.getD_some] at same
            refine Or.inr ⟨response, old.object, rfl, same, by simp [body], ?_⟩
            rw [← here]
            exact RtpProducer.get?_of_cell? former
  · exact Or.inl ⟨address, cell, there, same⟩

theorem named_takeResponse (sound : protocol.Sound)
    (found : protocol.responses.find? serial = some answer) {inviteId : String}
    (text : inviteId ≠ "") (named : protocol.Named inviteId) :
    (protocol.takeResponse serial creation).Named inviteId := by
  obtain ⟨address, cell, there, same⟩ := named
  obtain ⟨invite, calling⟩ := sound.answered serial answer found
  refine ⟨address, cell, ?_, same⟩
  rw [producer_takeResponse creation found, RtpProducer.cell?_inviteCallback _ calling, if_neg]
  · exact there
  · intro here
    rw [here] at there
    exact text (same.symm.trans (sound.unset serial invite cell calling there))

theorem named_of_heeded (found : protocol.responses.find? serial = some answer)
    (calling : protocol.producer.invites.find? serial = some invite)
    {response : InviteVideoResponse} {context : RtpVideoContext Target}
    (positive : answer = some response) (body : response.gbInviteResponse ≠ none)
    (alive : protocol.producer.heap.get? invite.context = some context) :
    (protocol.takeResponse serial creation).Named response.inviteId := by
  obtain ⟨strong, there⟩ := RtpProducer.cell?_of_get? alive
  obtain ⟨gb, carried⟩ := Option.ne_none_iff_exists'.mp body
  refine ⟨invite.context, ⟨strong, (context.accept protocol.producer.config
    (completionOf creation answer)).1⟩, ?_, ?_⟩
  · rw [producer_takeResponse creation found, RtpProducer.cell?_inviteCallback _ calling,
      if_pos rfl, there]
    rfl
  · rw [RtpVideoContext.accept_inviteId, positive]
    simp only [completionOf, Completion.inviteId?, carried, Option.map_some, Option.getD_some]

theorem sound_takeResponse (sound : protocol.Sound) (serial : Nat) (creation : Creation) :
    (protocol.takeResponse serial creation).Sound := by
  cases found : protocol.responses.find? serial with
  | none =>
      simp only [takeResponse, found]
      exact sound
  | some answer =>
      obtain ⟨invite, calling⟩ := sound.answered serial answer found
      have calls {other : Nat} {pending : Invite} (different : other ≠ serial)
          (there : protocol.producer.invites.find? other = some pending) :
          ∃ pending, (protocol.takeResponse serial creation).producer.invites.find? other =
            some pending := by
        rw [invites_takeResponse creation found calling, if_neg different]
        exact ⟨pending, there⟩
      have once {other : Nat} {reply response : InviteVideoResponse} (different : other ≠ serial)
          (there : protocol.responses.find? other = some (some reply))
          (positive : answer = some response) : response.inviteId ≠ reply.inviteId := by
        rw [positive] at found
        exact fun same => different (sound.once serial other response reply found there same).symm
      refine
        { consistent := ?_
          requested := ?_
          answered := ?_
          unset := ?_
          text := by rw [accepted_takeResponse creation found]; exact sound.text
          named := ?_
          torn := ?_
          flying := ?_
          once := ?_ }
      · rw [producer_takeResponse creation found]
        exact RtpProducer.consistent_step _ sound.consistent
      · intro other request sent
        obtain ⟨⟨pending, there⟩, unanswered⟩ :=
          sound.requested other request (requests_takeResponse creation found sent)
        have different : other ≠ serial := by
          intro same
          rw [same, found] at unanswered
          cases unanswered
        refine ⟨calls different there, ?_⟩
        rw [responses_takeResponse creation found, if_neg different]
        exact unanswered
      · intro other reply there
        rw [responses_takeResponse creation found] at there
        split_ifs at there with different
        obtain ⟨pending, waiting⟩ := sound.answered other reply there
        exact calls different waiting
      · intro other pending cell waiting there
        rw [invites_takeResponse creation found calling] at waiting
        split_ifs at waiting with different
        rw [producer_takeResponse creation found, RtpProducer.cell?_inviteCallback _ calling]
          at there
        split_ifs at there with here
        · -- Two calls for one context would have one number.
          obtain ⟨old, former, _changed⟩ := Option.map_eq_some_iff.mp there
          have own := sound.consistent.callOwn other pending old waiting former
          rw [here] at former
          have mine := sound.consistent.callOwn serial invite old calling former
          exact absurd (own.symm.trans mine) different
        · exact sound.unset other pending cell waiting there
      · intro inviteId named
        rw [accepted_takeResponse creation found]
        rcases named_of_takeResponse creation found calling named with
          older | ⟨response, _context, positive, same, _, _⟩
        · exact sound.named inviteId older
        · rw [positive] at found
          exact Or.inr (sound.flying inviteId ⟨serial, response, found, same⟩).1
      · intro inviteId member
        rw [accepted_takeResponse creation found]
        exact sound.torn inviteId ((mem_tornDown_takeResponse creation found).mp member)
      · intro inviteId flying
        obtain ⟨other, reply, different, there, same⟩ :=
          inFlight_of_takeResponse creation found flying
        obtain ⟨known, unsent, unnamed⟩ := sound.flying inviteId ⟨other, reply, there, same⟩
        rw [accepted_takeResponse creation found, mem_tornDown_takeResponse creation found]
        refine ⟨known, unsent, fun named => ?_⟩
        rcases named_of_takeResponse creation found calling named with
          older | ⟨response, _context, positive, mine, _, _⟩
        · exact unnamed older
        · exact once different there positive (mine.trans same.symm)
      · intro first second response other inFirst inSecond same
        rw [responses_takeResponse creation found] at inFirst inSecond
        split_ifs at inFirst inSecond
        exact sound.once first second response other inFirst inSecond same

end Response

/-! ### Whole runs -/

theorem perform_call (protocol : GbProtocol Target) (step : RtpProducer.Step Target) :
    protocol.perform (.call step) = protocol ∨
      (RtpProducer.NoAnswer step ∧ protocol.perform (.call step) = protocol.react step) := by
  cases step with
  | inviteCallback serial completion => exact Or.inl rfl
  | registerVideo | unregisterVideo | probeFile | reportFile | cleanFile | getFrame
  | receiveDatagram => exact Or.inr ⟨trivial, rfl⟩

theorem sound_step {protocol : GbProtocol Target} (step : Step Target)
    (sound : protocol.Sound) : (machine.next protocol step).Sound := by
  cases step with
  | call step =>
      change (protocol.perform (.call step)).Sound
      rcases perform_call protocol step with same | ⟨noAnswer, reacts⟩
      · rw [same]
        exact sound
      · rw [reacts]
        exact sound_call sound noAnswer
  | deliverRequest serial answer => exact sound_takeRequest sound serial answer
  | deliverResponse serial creation => exact sound_takeResponse sound serial creation
  | deliverAck inviteId =>
      exact ⟨sound.consistent, sound.requested, sound.answered, sound.unset, sound.text,
        sound.named, sound.torn, sound.flying, sound.once⟩
  | deliverTearDown inviteId =>
      exact ⟨sound.consistent, sound.requested, sound.answered, sound.unset, sound.text,
        sound.named, sound.torn, sound.flying, sound.once⟩

theorem sound_after (config : ProducerConfig) (steps : List (Step Target)) :
    (after config steps).Sound :=
  LabelledMachine.run_invariant Sound (fun _ step sound => sound_step step sound)
    (sound_initial config) steps

/-! ### Where an identifier is -/

def Accounted (protocol : GbProtocol Target) : Prop :=
  ∀ inviteId ∈ protocol.accepted, protocol.InFlight inviteId ∨ protocol.Named inviteId ∨
    inviteId ∈ protocol.tornDown

structure Lost (inviteId : String) (protocol : GbProtocol Target) : Prop where
  known : inviteId ∈ protocol.accepted
  landed : ¬protocol.InFlight inviteId
  unnamed : ¬protocol.Named inviteId
  unsent : inviteId ∉ protocol.tornDown

theorem Sound.ne_empty {protocol : GbProtocol Target} (sound : protocol.Sound) {inviteId : String}
    (known : inviteId ∈ protocol.accepted) : inviteId ≠ "" := by
  intro empty
  rw [empty] at known
  exact sound.text known

theorem accounted_call {protocol : GbProtocol Target} {step : RtpProducer.Step Target}
    (sound : protocol.Sound) (accounted : protocol.Accounted)
    (noAnswer : RtpProducer.NoAnswer step) : (protocol.react step).Accounted := by
  intro inviteId known
  rw [accepted_react] at known
  rcases accounted inviteId known with flying | named | sent
  · exact Or.inl (inFlight_react.mpr flying)
  · exact Or.inr (named_react sound noAnswer (sound.ne_empty known) named)
  · exact Or.inr (Or.inr (mem_tornDown_react.mpr (Or.inl sent)))

theorem accounted_takeRequest {protocol : GbProtocol Target} (sound : protocol.Sound)
    (accounted : protocol.Accounted) (serial : Nat) (answer : Option InviteVideoResponse) :
    (protocol.takeRequest serial answer).Accounted := by
  have kept {request : GbInviteRequest} {reply : Option InviteVideoResponse}
      {accepted : List String} (sent : protocol.requests.find? serial = some request)
      {inviteId : String} (known : inviteId ∈ protocol.accepted) :
      (protocol.answerWith serial reply accepted).InFlight inviteId ∨
        (protocol.answerWith serial reply accepted).Named inviteId ∨
        inviteId ∈ (protocol.answerWith serial reply accepted).tornDown := by
    obtain ⟨_pending, unanswered⟩ := sound.requested serial request sent
    refine (accounted inviteId known).imp ?_ id
    intro flying
    obtain ⟨other, response, there, same⟩ := flying
    refine ⟨other, response, ?_, same⟩
    have different : other ≠ serial := by
      intro here
      rw [here, unanswered] at there
      cases there
    rw [responses_answerWith, if_neg different]
    exact there
  intro inviteId known
  rcases takeRequest_cases protocol serial answer with
    same | ⟨request, sent, refused | ⟨response, text, fresh, granted⟩⟩
  · rw [same] at known ⊢
    exact accounted inviteId known
  · rw [refused] at known ⊢
    exact kept sent known
  · rw [granted] at known ⊢
    rcases List.mem_cons.mp known with new | older
    · exact Or.inl ⟨serial, response, OrderedMap.find?_insert_self _ _ _, new.symm⟩
    · exact kept sent older

theorem accounted_takeResponse {protocol : GbProtocol Target} (sound : protocol.Sound)
    (accounted : protocol.Accounted) (serial : Nat) (creation : Creation)
    (heeded : protocol.Heeded (.deliverResponse serial creation)) :
    (protocol.takeResponse serial creation).Accounted := by
  cases found : protocol.responses.find? serial with
  | none =>
      simp only [takeResponse, found]
      exact accounted
  | some answer =>
      intro inviteId known
      rw [accepted_takeResponse creation found] at known
      rcases accounted inviteId known with ⟨other, response, there, same⟩ | named | sent
      · by_cases here : other = serial
        · rw [here] at there
          obtain ⟨body, invite, context, calling, alive⟩ := heeded response there
          rw [found, Option.some.injEq] at there
          rw [← same]
          exact Or.inr (Or.inl (named_of_heeded creation found calling there body alive))
        · refine Or.inl ⟨other, response, ?_, same⟩
          rw [responses_takeResponse creation found, if_neg here]
          exact there
      · exact Or.inr (Or.inl (named_takeResponse creation sound found (sound.ne_empty known) named))
      · exact Or.inr (Or.inr ((mem_tornDown_takeResponse creation found).mpr sent))

theorem accounted_step {protocol : GbProtocol Target} {step : Step Target}
    (sound : protocol.Sound) (accounted : protocol.Accounted) (heeded : protocol.Heeded step) :
    (machine.next protocol step).Accounted := by
  cases step with
  | call step =>
      change (protocol.perform (.call step)).Accounted
      rcases perform_call protocol step with same | ⟨noAnswer, reacts⟩
      · rw [same]
        exact accounted
      · rw [reacts]
        exact accounted_call sound accounted noAnswer
  | deliverRequest serial answer => exact accounted_takeRequest sound accounted serial answer
  | deliverResponse serial creation =>
      exact accounted_takeResponse sound accounted serial creation heeded
  | deliverAck inviteId => exact accounted
  | deliverTearDown inviteId => exact accounted

/-- What is lost stays lost, since the service never hands out an identifier
twice. -/
theorem lost_step {protocol : GbProtocol Target} {inviteId : String} (step : Step Target)
    (sound : protocol.Sound) (lost : Lost inviteId protocol) :
    Lost inviteId (machine.next protocol step) := by
  have text := sound.ne_empty lost.known
  cases step with
  | call step =>
      change Lost inviteId (protocol.perform (.call step))
      rcases perform_call protocol step with same | ⟨noAnswer, reacts⟩
      · rw [same]
        exact lost
      · rw [reacts]
        refine ⟨?_, ?_, ?_, ?_⟩
        · rw [accepted_react]
          exact lost.known
        · exact fun flying => lost.landed (inFlight_react.mp flying)
        · exact fun named => lost.unnamed (named_of_react sound noAnswer text named)
        · intro member
          rcases mem_tornDown_react.mp member with older | sent
          · exact lost.unsent older
          · exact lost.unnamed (named_of_tearDown sent).1
  | deliverRequest serial answer =>
      change Lost inviteId (protocol.takeRequest serial answer)
      have landed {reply : Option InviteVideoResponse} {accepted : List String}
          (new : ∀ response, reply = some response → response.inviteId ≠ inviteId) :
          ¬(protocol.answerWith serial reply accepted).InFlight inviteId := by
        rintro ⟨other, response, there, same⟩
        rcases response_former there with ⟨_, fresh⟩ | older
        · exact new response fresh same
        · exact lost.landed ⟨other, response, older, same⟩
      rcases takeRequest_cases protocol serial answer with
        same | ⟨request, _sent, refused | ⟨response, _text, fresh, granted⟩⟩
      · rw [same]
        exact lost
      · rw [refused]
        exact ⟨lost.known, landed nofun, lost.unnamed, lost.unsent⟩
      · rw [granted]
        refine ⟨List.mem_cons_of_mem _ lost.known, landed ?_, lost.unnamed, lost.unsent⟩
        intro other same again
        cases same
        rw [again] at fresh
        exact fresh lost.known
  | deliverResponse serial creation =>
      change Lost inviteId (protocol.takeResponse serial creation)
      cases found : protocol.responses.find? serial with
      | none =>
          simp only [takeResponse, found]
          exact lost
      | some answer =>
          obtain ⟨invite, calling⟩ := sound.answered serial answer found
          refine ⟨?_, ?_, ?_, ?_⟩
          · rw [accepted_takeResponse creation found]
            exact lost.known
          · intro flying
            obtain ⟨other, response, _different, there, same⟩ :=
              inFlight_of_takeResponse creation found flying
            exact lost.landed ⟨other, response, there, same⟩
          · intro named
            rcases named_of_takeResponse creation found calling named with
              older | ⟨response, _context, positive, same, _, _⟩
            · exact lost.unnamed older
            · rw [positive] at found
              exact lost.landed ⟨serial, response, found, same⟩
          · rw [mem_tornDown_takeResponse creation found]
            exact lost.unsent
  | deliverAck other => exact ⟨lost.known, lost.landed, lost.unnamed, lost.unsent⟩
  | deliverTearDown other => exact ⟨lost.known, lost.landed, lost.unnamed, lost.unsent⟩

theorem lost_of_unheeded {protocol : GbProtocol Target} {step : Step Target}
    (sound : protocol.Sound) (unheeded : ¬protocol.Heeded step) :
    ∃ inviteId, Lost inviteId (machine.next protocol step) := by
  cases step with
  | call | deliverRequest | deliverAck | deliverTearDown => exact absurd trivial unheeded
  | deliverResponse serial creation =>
      simp only [Heeded, not_forall] at unheeded
      obtain ⟨response, found, unheeded⟩ := unheeded
      obtain ⟨invite, calling⟩ := sound.answered serial _ found
      obtain ⟨known, unsent, unnamed⟩ :=
        sound.flying response.inviteId ⟨serial, response, found, rfl⟩
      refine ⟨response.inviteId, ?_⟩
      change Lost _ (protocol.takeResponse serial creation)
      refine ⟨?_, ?_, ?_, ?_⟩
      · rw [accepted_takeResponse creation found]
        exact known
      · intro flying
        obtain ⟨other, reply, different, there, same⟩ :=
          inFlight_of_takeResponse creation found flying
        exact different (sound.once other serial reply response there found same)
      · intro named
        rcases named_of_takeResponse creation found calling named with
          older | ⟨reply, context, positive, _same, body, alive⟩
        · exact unnamed older
        · cases positive
          exact unheeded ⟨body, invite, context, calling, alive⟩
      · rw [mem_tornDown_takeResponse creation found]
        exact unsent

/-! ### The main result -/

/-- A state with no message in flight has leaked no session if and only if every
answer of the run was heeded. -/
theorem no_leak_iff (config : ProducerConfig) (steps : List (Step Target))
    (quiet : (after config steps).Quiescent) :
    (after config steps).NoLeak ↔ machine.Along Heeded (initial config) steps := by
  have sound := sound_after config steps
  constructor
  · intro noLeak
    apply LabelledMachine.Along.of_steps
    intro before step rest split
    by_contra unheeded
    have soundBefore := sound_after config before
    obtain ⟨inviteId, lost⟩ := lost_of_unheeded soundBefore unheeded
    have still := LabelledMachine.run_invariant
      (fun protocol => protocol.Sound ∧ Lost inviteId protocol)
      (fun _ step both => ⟨sound_step step both.1, lost_step step both.1 both.2⟩)
      ⟨sound_step step soundBefore, lost⟩ rest
    have reached : after config steps =
        machine.run (machine.next (after config before) step) rest := by
      rw [split]
      exact LabelledMachine.run_append _ _ _
    have final : Lost inviteId (after config steps) := by
      rw [reached]
      exact still.2
    rcases noLeak inviteId final.known with held | sent
    · exact final.unnamed ((holds_iff sound inviteId).mp held)
    · exact final.unsent sent
  · intro heeded inviteId known
    have both := heeded.invariant (fun protocol => protocol.Sound ∧ protocol.Accounted)
      (fun _ step both heeded => ⟨sound_step step both.1, accounted_step both.1 both.2 heeded⟩)
      ⟨sound_initial config, fun _ member => absurd member List.not_mem_nil⟩
    rcases both.2 inviteId known with ⟨serial, response, there, _same⟩ | named | sent
    · -- An answer in flight is what the state does not have.
      obtain ⟨stored, _rank, member⟩ := OrderedMap.find?_eq_some_iff.mp there
      have empty : (after config steps).responses.entries = [] := quiet.2.1
      change (stored, some response) ∈ (after config steps).responses.entries at member
      rw [empty] at member
      cases member
    · exact Or.inl ((holds_iff sound inviteId).mpr named)
    · exact Or.inr sent

/-- One camera is invited and acknowledged. -/
theorem no_leak_acknowledged :
    let config : ProducerConfig := ⟨"127.0.0.1:8086", 2000, 4, 0, zeroedMemory⟩
    let video : VideoRequest := { VideoRequest.unset with useGb := true, gbid := "camera" }
    let response : InviteVideoResponse :=
      ⟨"session", some ⟨"10.0.0.1:5060", 90000, 96, "H264"⟩⟩
    let steps : List (Step Nat) := [.call (.registerVideo video 7),
      .deliverRequest 0 (some response), .deliverResponse 0 ⟨1, true, true⟩,
      .deliverAck "session"]
    (after config steps).Quiescent ∧ (after config steps).accepted = ["session"] ∧
      (after config steps).NoLeak := by
  intro config video response steps
  have quiet : (after config steps).Quiescent :=
    ⟨by decide, by decide, by decide, by decide⟩
  refine ⟨quiet, by decide,
    (no_leak_iff config steps quiet).mpr ⟨trivial, trivial, ?_, trivial, trivial⟩⟩
  intro answer found
  cases found
  exact ⟨nofun, _, _, rfl, rfl⟩

/-- The camera is unregistered before the answer arrives: nobody holds the
session, and nobody will tear it down. -/
theorem unregistered_invite_leaked :
    let config : ProducerConfig := ⟨"127.0.0.1:8086", 2000, 4, 0, zeroedMemory⟩
    let video : VideoRequest := { VideoRequest.unset with useGb := true, gbid := "camera" }
    let response : InviteVideoResponse :=
      ⟨"session", some ⟨"10.0.0.1:5060", 90000, 96, "H264"⟩⟩
    let final : GbProtocol Nat := after config [.call (.registerVideo video 7),
      .deliverRequest 0 (some response), .call (.unregisterVideo video),
      .deliverResponse 0 ⟨1, true, true⟩]
    final.Quiescent ∧ final.accepted = ["session"] ∧ final.tornDown = [] ∧
      final.producer.rtpVideoContextMap.entries = [] := by
  intro config video response final
  exact ⟨⟨by decide, by decide, by decide, by decide⟩, by decide, by decide, by decide⟩

end Ffvms.Concrete.GbProtocol
