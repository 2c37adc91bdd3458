/-
The GB28181 protocol between the producer and the sipper service.

The producer asks for a camera with `InviteVideo`, acknowledges the answer with
`SendAck` and ends the session with `TearDown`.  Messages are in flight until
they are delivered, in any order.  The service gives every accepted invite an
identifier of its own.  The main result says when no session is leaked: when
every positive answer finds the context of its call still there and carries the
GB part of the response.
-/

import Ffvms.Concrete.RtpProducerInvariant

namespace Ffvms.Concrete

variable {Target : Type}

/-- The messages in flight are keyed by the number of their call, an answer that
is not OK being `none`.  `accepted` lists the identifiers that the service has
returned in OK answers, `tornDown` those that the producer has sent a `TearDown`
for. -/
structure GbProtocol (Target : Type) where
  producer : RtpProducer Target
  requests : OrderedMap (fun serial : Nat => serial) GbInviteRequest
  responses : OrderedMap (fun serial : Nat => serial) (Option InviteVideoResponse)
  acks : List String
  tearDowns : List String
  accepted : List String
  tornDown : List String

namespace GbProtocol

/-- A call or a task of the producer, or the delivery of a message.  A call that
ends without an OK answer, for whatever reason, is one that the service refuses. -/
inductive Step (Target : Type) where
  | call (step : RtpProducer.Step Target)
  | deliverRequest (serial : Nat) (answer : Option InviteVideoResponse)
  | deliverResponse (serial : Nat) (creation : Creation)
  | deliverAck (inviteId : String)
  | deliverTearDown (inviteId : String)

def initial (config : ProducerConfig) : GbProtocol Target :=
  { producer := RtpProducer.initial config
    requests := OrderedMap.empty
    responses := OrderedMap.empty
    acks := []
    tearDowns := []
    accepted := []
    tornDown := [] }

def send (protocol : GbProtocol Target) : Effect Target → GbProtocol Target
  | .inviteVideo serial request _ =>
      { protocol with requests := protocol.requests.insert serial request }
  | .sendAck inviteId => { protocol with acks := inviteId :: protocol.acks }
  | .tearDown inviteId =>
      { protocol with
        tearDowns := inviteId :: protocol.tearDowns
        tornDown := inviteId :: protocol.tornDown }
  | _ => protocol

def react (protocol : GbProtocol Target) (step : RtpProducer.Step Target) : GbProtocol Target :=
  let produced := protocol.producer.perform step
  produced.effects.foldl send { protocol with producer := produced.producer }

/-- The service takes an invite request.  If it accepts, the identifier is a new
one and not the empty text. -/
def takeRequest (protocol : GbProtocol Target) (serial : Nat)
    (answer : Option InviteVideoResponse) : GbProtocol Target :=
  match protocol.requests.find? serial, answer with
  | none, _ => protocol
  | some _, none =>
      { protocol with
        requests := protocol.requests.erase serial
        responses := protocol.responses.insert serial none }
  | some _, some response =>
      if response.inviteId = "" ∨ response.inviteId ∈ protocol.accepted then protocol
      else
        { protocol with
          requests := protocol.requests.erase serial
          responses := protocol.responses.insert serial (some response)
          accepted := response.inviteId :: protocol.accepted }

def completionOf (creation : Creation) : Option InviteVideoResponse → Completion
  | none => .failed
  | some response => .answered response creation

def takeResponse (protocol : GbProtocol Target) (serial : Nat) (creation : Creation) :
    GbProtocol Target :=
  match protocol.responses.find? serial with
  | none => protocol
  | some answer =>
      { protocol with responses := protocol.responses.erase serial }.react
        (.inviteCallback serial (completionOf creation answer))

def perform (protocol : GbProtocol Target) : Step Target → GbProtocol Target
  | .call (.inviteCallback _ _) => protocol
  | .call step => protocol.react step
  | .deliverRequest serial answer => protocol.takeRequest serial answer
  | .deliverResponse serial creation => protocol.takeResponse serial creation
  | .deliverAck inviteId => { protocol with acks := protocol.acks.erase inviteId }
  | .deliverTearDown inviteId => { protocol with tearDowns := protocol.tearDowns.erase inviteId }

def machine : LabelledMachine (GbProtocol Target) (Step Target) Unit :=
  { next := perform
    emit := fun _ _ => [] }

def after (config : ProducerConfig) (steps : List (Step Target)) : GbProtocol Target :=
  machine.run (initial config) steps

def Quiescent (protocol : GbProtocol Target) : Prop :=
  protocol.requests.entries = [] ∧ protocol.responses.entries = [] ∧ protocol.acks = [] ∧
    protocol.tearDowns = []

def Holds (protocol : GbProtocol Target) (inviteId : String) : Prop :=
  ∃ video address context, protocol.producer.rtpVideoContextMap.find? video = some address ∧
    protocol.producer.heap.get? address = some context ∧ context.inviteId = inviteId

def NoLeak (protocol : GbProtocol Target) : Prop :=
  ∀ inviteId ∈ protocol.accepted, protocol.Holds inviteId ∨ inviteId ∈ protocol.tornDown

/-- An OK answer carries the GB response, and the context of its call has not
been erased in the meantime. -/
def Heeded (protocol : GbProtocol Target) : Step Target → Prop
  | .deliverResponse serial _ => ∀ response,
      protocol.responses.find? serial = some (some response) →
      response.gbInviteResponse ≠ none ∧ ∃ invite context,
        protocol.producer.invites.find? serial = some invite ∧
        protocol.producer.heap.get? invite.context = some context
  | _ => True

end GbProtocol

/-! ### Invite identifiers in the producer -/

def Completion.inviteId? : Completion → Option String
  | .failed => none
  | .answered response _ => response.gbInviteResponse.map (fun _ => response.inviteId)

theorem RtpVideoContext.accept_inviteId (config : ProducerConfig)
    (context : RtpVideoContext Target) (completion : Completion) :
    (context.accept config completion).1.inviteId =
      completion.inviteId?.getD context.inviteId := by
  cases completion with
  | failed => rfl
  | answered response creation =>
      cases body : response.gbInviteResponse with
      | none => simp [accept, Completion.inviteId?, body]
      | some gb =>
          cases demuxer : creation.demuxer <;> cases encoder : creation.payloadEncoder <;>
            simp [accept, Completion.inviteId?, body, demuxer, encoder]

namespace RtpProducer

def NoAnswer : Step Target → Prop
  | .inviteCallback _ _ => False
  | _ => True

section Calls

variable {producer : RtpProducer Target} {step : Step Target}

/-- Any other step leaves the contexts alone, except that it may make a new one,
without identifier, or erase one. -/
theorem cell_of_call (consistent : producer.Consistent) (noAnswer : NoAnswer step) {address : Nat}
    {cell : SharedCell (RtpVideoContext Target)}
    (found : (machine.next producer step).heap.cell? address = some cell) :
    producer.heap.cell? address = some cell ∨ cell.object.inviteId = "" := by
  have moved := transition producer step
  change (producer.perform step).producer.heap.cell? address = some cell at found
  generalize producer.perform step = result at moved found
  have added {video : VideoRequest} {target : Target}
      (here : (producer.takeSerial.addRtpContext video ⟨producer.nextSerial, target⟩).heap.cell?
        address = some cell) :
      producer.heap.cell? address = some cell ∨ cell.object.inviteId = "" := by
    rw [cell?_addRtpContext] at here
    split_ifs at here with new
    · rw [← Option.some.inj here]
      exact Or.inr rfl
    · exact Or.inl here
  cases moved with
  | idle | ignored | refused | fileQueued | fileRemoved | probeLost | probeStarted | probeBroke
  | probeCrashed | reported | reportedNobody | cleaned | framed | frameFailed => exact Or.inl found
  | inviteLost | inviteFailed | inviteAccepted => exact noAnswer.elim
  | gbUnnamed video target noFile isGb free mode => exact added found
  | gbInvited video target transmission noFile isGb free mode => exact added found
  | gbRemoved video removed noFile isGb located =>
      obtain ⟨context, last, _key⟩ := consistent.owned.held video removed located
      change (producer.heap.release removed).cell? address = some cell at found
      rw [SharedHeap.cell?_release_last last] at found
      split_ifs at found
      exact Or.inl found
  | received peer data packets weak context registered alive =>
      rw [cell?_unlock] at found
      exact Or.inl found

/-- A context with an identifier goes only with a `TearDown` for it. -/
theorem cell_kept_or_tornDown (consistent : producer.Consistent) (noAnswer : NoAnswer step)
    {address : Nat} {cell : SharedCell (RtpVideoContext Target)}
    (found : producer.heap.cell? address = some cell) (named : cell.object.inviteId ≠ "") :
    (machine.next producer step).heap.cell? address = some cell ∨
      .tearDown cell.object.inviteId ∈ machine.emit producer step := by
  have moved := transition producer step
  change (producer.perform step).producer.heap.cell? address = some cell ∨
    _ ∈ (producer.perform step).effects
  generalize producer.perform step = result at moved
  have older : address ≠ producer.heap.next := Nat.ne_of_lt (SharedHeap.lt_next_of_cell? found)
  cases moved with
  | idle | ignored | refused | fileQueued | fileRemoved | probeLost | probeStarted | probeBroke
  | probeCrashed | reported | reportedNobody | cleaned | framed | frameFailed => exact Or.inl found
  | inviteLost | inviteFailed | inviteAccepted => exact noAnswer.elim
  | gbUnnamed video target noFile isGb free mode =>
      left
      rw [cell?_addRtpContext, ← found]
      exact if_neg older
  | gbInvited video target transmission noFile isGb free mode =>
      left
      change (producer.takeSerial.addRtpContext video _).heap.cell? address = _
      rw [cell?_addRtpContext, ← found]
      exact if_neg older
  | gbRemoved video removed noFile isGb located =>
      obtain ⟨context, last, _key⟩ := consistent.owned.held video removed located
      change (producer.heap.release removed).cell? address = _ ∨ _ ∈ producer.tearDownOf removed
      rw [SharedHeap.cell?_release_last last]
      split_ifs with same
      · right
        rw [same, last, Option.some.injEq] at found
        rw [← found] at named ⊢
        simp only [tearDownOf, get?_of_cell? last, if_neg named]
        exact List.mem_singleton_self _
      · exact Or.inl found
  | received peer data packets weak context registered alive =>
      left
      rw [cell?_unlock]
      exact found

theorem call_kept (noAnswer : NoAnswer step) {serial : Nat} {invite : Invite}
    (consistent : producer.Consistent) (calling : producer.invites.find? serial = some invite) :
    (machine.next producer step).invites.find? serial = some invite := by
  have moved := transition producer step
  change (producer.perform step).producer.invites.find? serial = some invite
  generalize producer.perform step = result at moved
  cases moved with
  | idle | ignored | refused | fileQueued | gbUnnamed | fileRemoved | gbRemoved | probeLost
  | probeStarted | probeBroke | probeCrashed | reported | reportedNobody | cleaned | framed
  | frameFailed | received => exact calling
  | inviteLost | inviteFailed | inviteAccepted => exact noAnswer.elim
  | gbInvited video target transmission noFile isGb free mode =>
      have older := (consistent.callBelow serial invite calling).1
      change (producer.invites.insert producer.nextSerial _).find? serial = _
      rw [OrderedMap.find?_insert, if_neg (Nat.ne_of_lt older)]
      exact calling

end Calls

end RtpProducer

end Ffvms.Concrete
