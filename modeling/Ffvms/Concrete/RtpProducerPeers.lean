/-
Datagrams of a camera that was invited again.

A successful invite registers a handler for the peer in the network server, and
the handler holds a weak pointer to the context.  `UnregisterVideo` erases the
context but not the handler, and the network server keeps the first handler of
a peer.  So a camera whose peer was used before sends to a dead context: the
main result says that datagrams reach the context of their peer in every run in
which no peer comes back, and only in those.
-/

import Ffvms.Concrete.RtpProducerInvariant

namespace Ffvms.Concrete

variable {Target : Type}

/-- The answer of a call that ends well: the service accepted a GB invite, and
the demuxer and the payload encoder could be created. -/
def Completion.success? : Completion → Option GbInviteVideoResponse
  | .failed => none
  | .answered response creation =>
      if creation.demuxer = true ∧ creation.payloadEncoder = true then response.gbInviteResponse
      else none

theorem RtpVideoContext.accept_eq_success? (config : ProducerConfig)
    (context : RtpVideoContext Target) (completion : Completion) :
    (context.accept config completion).2 = completion.success? := by
  cases completion with
  | failed => rfl
  | answered response creation =>
      cases body : response.gbInviteResponse with
      | none => simp [accept, Completion.success?, body]
      | some gb =>
          cases demuxer : creation.demuxer <;> cases encoder : creation.payloadEncoder <;>
            simp [accept, Completion.success?, body, demuxer, encoder]

namespace RtpProducer

/-- The step is a successful answer, with this peer, to the call for the living
context at this address. -/
inductive Accepts (producer : RtpProducer Target) : Step Target → String → Nat → Prop
  | answered (serial : Nat) (completion : Completion) (gb : GbInviteVideoResponse)
      (invite : Invite) (context : RtpVideoContext Target)
      (success : completion.success? = some gb)
      (calling : producer.invites.find? serial = some invite)
      (alive : producer.heap.get? invite.context = some context) :
      Accepts producer (.inviteCallback serial completion) gb.peerInfo invite.context

def InvitedAs (config : ProducerConfig) (steps : List (Step Target)) (peer : String)
    (address : Nat) : Prop :=
  .registerPeer peer address ∈ machine.trace (initial config) steps

/-- A service hands out the peer of a video again only after that video has been
unregistered. -/
def PeersReleased (config : ProducerConfig) (steps : List (Step Target)) : Prop :=
  ∀ before step rest, steps = before ++ step :: rest →
    ∀ peer address, Accepts (after config before) step peer address →
      ∀ other, InvitedAs config before peer other → (after config before).heap.get? other = none

/-- A context in the map that is the only living one with its peer gets the
datagrams of the peer. -/
def PeersReceived (config : ProducerConfig) (steps : List (Step Target)) : Prop :=
  ∀ video address peer, (after config steps).rtpVideoContextMap.find? video = some address →
    InvitedAs config steps peer address →
    (∀ other, other ≠ address → InvitedAs config steps peer other →
      (after config steps).heap.get? other = none) →
    ∀ data packets, .demuxerInput address data ∈
      machine.emit (after config steps) (.receiveDatagram peer data packets)

/-- The peer of a successful answer has no handler in the network server yet. -/
def FreshPeer (producer : RtpProducer Target) (step : Step Target) : Prop :=
  ∀ peer address, Accepts producer step peer address → producer.registeredPeers.find? peer = none

/-! ### One step -/

section Step

variable {producer : RtpProducer Target} {step : Step Target} {peer : String} {address : Nat}

theorem registerPeer_mem_emit_iff :
    .registerPeer peer address ∈ machine.emit producer step ↔
      Accepts producer step peer address := by
  constructor
  · intro emitted
    cases signals_of_emitted emitted (fun _ _ => nofun) with
    | registering serial completion invite context gb calling alive accepted =>
        rw [RtpVideoContext.accept_eq_success?] at accepted
        exact .answered serial completion gb invite context accepted calling alive
  · intro accepts
    cases accepts with
    | answered serial completion gb invite context success calling alive =>
        change _ ∈ (producer.perform _).effects
        rw [next_inviteCallback completion calling alive]
        dsimp only
        rw [RtpVideoContext.accept_eq_success?, success]
        exact List.mem_cons_of_mem _ List.mem_cons_self

theorem Accepts.alive (accepts : Accepts producer step peer address) :
    ∃ context, producer.heap.get? address = some context := by
  cases accepts with
  | answered serial completion gb invite context success calling alive => exact ⟨context, alive⟩

theorem Accepts.unique {other : Nat} (accepts : Accepts producer step peer address)
    (again : Accepts producer step peer other) : other = address := by
  cases accepts with
  | answered serial completion gb invite context success calling alive =>
      generalize gb.peerInfo = named at again
      cases again with
      | answered serial completion gb' invite' context' success' calling' alive' =>
          rw [calling, Option.some.injEq] at calling'
          rw [calling']

/-- The table after a step: the handlers that were there, and the one of an
answer whose peer had none. -/
theorem peers_step (producer : RtpProducer Target) (step : Step Target) (peer : String) :
    (machine.next producer step).registeredPeers.find? peer =
        producer.registeredPeers.find? peer ∨
      ∃ address, Accepts producer step peer address ∧
        producer.registeredPeers.find? peer = none ∧
        (machine.next producer step).registeredPeers.find? peer = some address := by
  have moved := transition producer step
  change (producer.perform step).producer.registeredPeers.find? peer = _ ∨
    ∃ address, _ ∧ _ ∧ (producer.perform step).producer.registeredPeers.find? peer = _
  generalize producer.perform step = result at moved
  cases moved with
  | idle | ignored | refused | fileQueued | gbUnnamed | gbInvited | fileRemoved | gbRemoved
  | probeLost | probeStarted | probeBroke | probeCrashed | reported | reportedNobody | cleaned
  | framed | frameFailed | inviteLost | inviteFailed | received => exact Or.inl rfl
  | inviteAccepted serial completion invite context gb calling alive accepted =>
      rw [RtpVideoContext.accept_eq_success?] at accepted
      rw [find?_registerPeer]
      change (if peer = gb.peerInfo then
          some ((producer.registeredPeers.find? peer).getD invite.context)
        else producer.registeredPeers.find? peer) = _ ∨ ∃ address, _ ∧ _ ∧ _ = _
      by_cases same : peer = gb.peerInfo
      · rw [if_pos same]
        cases handled : producer.registeredPeers.find? peer with
        | some former => exact Or.inl rfl
        | none =>
            refine Or.inr ⟨invite.context, ?_, rfl, ?_⟩
            · rw [same]
              exact .answered serial completion gb invite context accepted calling alive
            · rw [if_pos same]
              change some ((producer.registeredPeers.find? peer).getD invite.context) = _
              rw [handled]
              rfl
      · rw [if_neg same]
        exact Or.inl rfl

theorem peer_kept (handled : producer.registeredPeers.find? peer = some address) :
    (machine.next producer step).registeredPeers.find? peer = some address := by
  rcases peers_step producer step peer with same | ⟨other, _accepts, free, _⟩
  · exact same.trans handled
  · rw [handled] at free
    cases free

theorem peer_of_accepts (accepts : Accepts producer step peer address)
    (free : producer.registeredPeers.find? peer = none) :
    (machine.next producer step).registeredPeers.find? peer = some address := by
  cases accepts with
  | answered serial completion gb invite context success calling alive =>
      change (producer.perform _).producer.registeredPeers.find? _ = _
      rw [next_inviteCallback completion calling alive]
      dsimp only
      rw [RtpVideoContext.accept_eq_success?, success]
      dsimp only
      rw [find?_registerPeer, if_pos rfl]
      change some ((producer.registeredPeers.find? gb.peerInfo).getD invite.context) = _
      rw [free]
      rfl

theorem dead_iff_of_accepts (accepts : Accepts producer step peer address) (other : Nat) :
    (machine.next producer step).heap.get? other = none ↔ producer.heap.get? other = none := by
  cases accepts with
  | answered serial completion gb invite context success calling alive =>
      unfold SharedHeap.get?
      rw [Option.map_eq_none_iff, Option.map_eq_none_iff, cell?_inviteCallback completion calling]
      split_ifs
      · exact Option.map_eq_none_iff
      · exact Iff.rfl

end Step

/-! ### Runs -/

def PeersBelow (producer : RtpProducer Target) : Prop :=
  ∀ peer address, producer.registeredPeers.find? peer = some address →
    address < producer.heap.next

theorem peersBelow_step {producer : RtpProducer Target} (step : Step Target)
    (below : producer.PeersBelow) : (machine.next producer step).PeersBelow := by
  intro peer address handled
  apply Nat.lt_of_lt_of_le _ (heapNext_le_step producer step)
  rcases peers_step producer step peer with same | ⟨other, accepts, _free, new⟩
  · exact below peer address (same.symm.trans handled)
  · rw [handled, Option.some.injEq] at new
    obtain ⟨context, alive⟩ := accepts.alive
    obtain ⟨strong, found⟩ := cell?_of_get? alive
    rw [new]
    exact SharedHeap.lt_next_of_cell? found

theorem peersBelow_after (config : ProducerConfig) (steps : List (Step Target)) :
    (after config steps).PeersBelow := by
  refine LabelledMachine.run_invariant PeersBelow
    (fun _ step below => peersBelow_step step below) ?_ steps
  intro peer address handled
  cases handled

theorem invited_of_peer {state : RtpProducer Target}
    {steps : List (Step Target)} {peer : String} {address : Nat}
    (handled : (machine.run state steps).registeredPeers.find? peer = some address) :
    state.registeredPeers.find? peer = some address ∨
      .registerPeer peer address ∈ machine.trace state steps := by
  induction steps generalizing state with
  | nil => exact Or.inl handled
  | cons step rest ih =>
      rw [LabelledMachine.trace_cons]
      rcases ih handled with first | later
      · rcases peers_step state step peer with same | ⟨other, accepts, _free, new⟩
        · exact Or.inl (same.symm.trans first)
        · rw [first, Option.some.injEq] at new
          subst new
          exact Or.inr (List.mem_append_left _ (registerPeer_mem_emit_iff.mpr accepts))
      · exact Or.inr (List.mem_append_right _ later)

theorem peer_kept_run {state : RtpProducer Target} {peer : String} {address : Nat}
    (handled : state.registeredPeers.find? peer = some address) (steps : List (Step Target)) :
    (machine.run state steps).registeredPeers.find? peer = some address :=
  LabelledMachine.run_invariant
    (fun producer : RtpProducer Target => producer.registeredPeers.find? peer = some address)
    (fun _ _ here => peer_kept here) handled steps

/-- Where no peer comes back, every answer leaves its handler in the table. -/
theorem peer_of_invited {state : RtpProducer Target} {steps : List (Step Target)} {peer : String}
    {address : Nat} (fresh : machine.Along FreshPeer state steps)
    (invited : .registerPeer peer address ∈ machine.trace state steps) :
    (machine.run state steps).registeredPeers.find? peer = some address := by
  induction steps generalizing state with
  | nil => cases invited
  | cons step rest ih =>
      rcases List.mem_append.mp invited with here | later
      · have accepts := registerPeer_mem_emit_iff.mp here
        exact peer_kept_run (peer_of_accepts accepts (fresh.1 peer address accepts)) rest
      · exact ih fresh.2 later

theorem emit_receiveDatagram {producer : RtpProducer Target} {peer : String} {weak : Nat}
    (handled : producer.registeredPeers.find? peer = some weak) (data : List UInt8)
    (packets : List (List UInt8)) :
    ∀ address, .demuxerInput address data ∈
        machine.emit producer (.receiveDatagram peer data packets) ↔
      address = weak ∧ ∃ context, producer.heap.get? weak = some context := by
  intro address
  constructor
  · intro emitted
    cases signals_of_emitted emitted (fun _ _ => nofun) with
    | feeding peer data packets other context registered alive =>
        rw [handled, Option.some.injEq] at registered
        subst registered
        exact ⟨rfl, context, alive⟩
  · intro alive
    obtain ⟨same, context, alive⟩ := alive
    subst same
    change _ ∈ (producer.receiveDatagram peer data packets).effects
    simp only [receiveDatagram, handled, lock_eq producer.heap alive]
    exact List.mem_cons_self

theorem freshPeer_of_received {config : ProducerConfig} {before : List (Step Target)}
    {step : Step Target}
    (released : ∀ peer address, Accepts (after config before) step peer address →
      ∀ other, InvitedAs config before peer other → (after config before).heap.get? other = none)
    (received : PeersReceived config (before ++ [step])) :
    FreshPeer (after config before) step := by
  intro peer address accepts
  have reached : after config (before ++ [step]) = machine.next (after config before) step :=
    LabelledMachine.run_append _ _ _
  have invited_iff (other : Nat) : InvitedAs config (before ++ [step]) peer other ↔
      InvitedAs config before peer other ∨ Accepts (after config before) step peer other := by
    unfold InvitedAs
    rw [LabelledMachine.trace_append, List.mem_append, LabelledMachine.trace_cons,
      LabelledMachine.trace_nil, List.append_nil, registerPeer_mem_emit_iff]
    exact Iff.rfl
  have dead_iff := dead_iff_of_accepts accepts
  rw [← reached] at dead_iff
  cases handled : (after config before).registeredPeers.find? peer with
  | none => rfl
  | some former =>
      -- The handler belongs to a context that is dead by now, and stays.
      have dead := released peer address accepts former
        ((invited_of_peer handled).resolve_left nofun)
      have still : (after config (before ++ [step])).registeredPeers.find? peer = some former := by
        rw [reached]
        exact peer_kept handled
      obtain ⟨context, alive⟩ : ∃ context,
          (after config (before ++ [step])).heap.get? address = some context := by
        apply Option.ne_none_iff_exists'.mp
        intro gone
        obtain ⟨context, alive⟩ := accepts.alive
        rw [(dead_iff address).mp gone] at alive
        cases alive
      obtain ⟨strong, cell⟩ := cell?_of_get? alive
      have located := (consistent_after config (before ++ [step])).owned.mapped address _ cell
      have fed := received _ address peer located ((invited_iff address).mpr (Or.inr accepts)) ?_
        [] []
      · obtain ⟨_same, other, living⟩ := (emit_receiveDatagram still [] [] address).mp fed
        rw [(dead_iff former).mpr dead] at living
        cases living
      · intro other different sharing
        apply (dead_iff other).mpr
        rcases (invited_iff other).mp sharing with earlier | now
        · exact released peer address accepts other earlier
        · exact absurd (accepts.unique now) different

/-! ### The main result -/

/-- In a run in which peers are handed out again only after their video has been
unregistered, every camera is received if and only if no peer comes back. -/
theorem peers_received_iff (config : ProducerConfig) (steps : List (Step Target))
    (released : PeersReleased config steps) :
    (∀ before, before <+: steps → PeersReceived config before) ↔
      machine.Along FreshPeer (initial config) steps := by
  constructor
  · intro received
    apply LabelledMachine.Along.of_steps
    intro before step rest split
    apply freshPeer_of_received (released before step rest split)
    apply received
    exact ⟨rest, by rw [split, List.append_assoc, List.singleton_append]⟩
  · intro fresh before isPrefix video address peer located invited _alone data packets
    have handled := peer_of_invited (fresh.take_prefix isPrefix) invited
    obtain ⟨context, alive, _key⟩ :=
      (consistent_after config before).owned.held video address located
    exact (emit_receiveDatagram handled data packets address).mpr
      ⟨rfl, context, get?_of_cell? alive⟩

/-- One camera is invited, and no peer comes back. -/
theorem peers_received_once :
    let config : ProducerConfig := ⟨"127.0.0.1:8086", 2000, 4, 0, zeroedMemory⟩
    let video : VideoRequest := { VideoRequest.unset with useGb := true, gbid := "camera" }
    let answer : Completion := .answered ⟨"invite", some ⟨"10.0.0.1:5060", 90000, 96, "H264"⟩⟩
      ⟨1, true, true⟩
    let steps : List (Step Nat) := [.registerVideo video 7, .inviteCallback 0 answer]
    ∀ before, before <+: steps → PeersReceived config before := by
  intro config video answer steps
  have only {peer : String} {address : Nat}
      (accepts : Accepts (after config ([] : List (Step Nat))) (.registerVideo video 7) peer
        address) : False := nomatch accepts
  refine (peers_received_iff config steps ?_).mpr ?_
  · intro before step rest split peer address accepts other invited
    cases before with
    | nil => cases invited
    | cons first during =>
        obtain ⟨same, tail⟩ := List.cons.inj split
        subst same
        cases during with
        | nil => cases List.mem_singleton.mp invited
        | cons second during =>
            have empty : during ++ step :: rest = [] := (List.cons.inj tail).2.symm
            exact absurd empty (List.append_ne_nil_of_right_ne_nil _ (List.cons_ne_nil _ _))
  · exact ⟨fun _ _ accepts => (only accepts).elim, fun _ _ _ => rfl, trivial⟩

/-- The camera is unregistered and invited again with its old peer: its context
is in the map and alone, and its datagram reaches no demuxer. -/
theorem reinvited_camera_unheard :
    let config : ProducerConfig := ⟨"127.0.0.1:8086", 2000, 4, 0, zeroedMemory⟩
    let video : VideoRequest := { VideoRequest.unset with useGb := true, gbid := "camera" }
    let answer : Completion := .answered ⟨"invite", some ⟨"10.0.0.1:5060", 90000, 96, "H264"⟩⟩
      ⟨1, true, true⟩
    let steps : List (Step Nat) := [.registerVideo video 7, .inviteCallback 0 answer,
      .unregisterVideo video, .registerVideo video 8, .inviteCallback 1 answer]
    (after config steps).rtpVideoContextMap.find? video = some 1 ∧
      InvitedAs config steps "10.0.0.1:5060" 1 ∧
      ((after config steps).heap.get? 0).isNone = true ∧
      machine.emit (after config steps) (.receiveDatagram "10.0.0.1:5060" [0] []) = [] := by
  intro config video answer steps
  unfold InvitedAs
  decide

end RtpProducer

end Ffvms.Concrete
