/-
The producer keeps what the invariant of the service asks of it: each registration
delivers one SDP at most, and never the empty text.

A registration owes its SDP until its file task leaves the probe, or its
`InviteVideo` call completes or loses its context.  While it owes one, the proxy it
is bound to is among those that wait, and no second registration owes the same proxy
one.  This holds in every run of service and producer, also when a `Close` has
erased the proxy of a running registration.
-/

import Ffvms.Concrete.ServiceProducerAgreement

namespace Ffvms.Concrete

variable {Client : Type} [DecidableEq Client]

namespace RtpProducer

variable {Target : Type}

/-! ### Who still owes an SDP -/

inductive Owes (producer : RtpProducer Target) (registration : Registration Target) : Prop
  | task (task : FileTask Target)
      (queued : producer.fileTasks.find? registration.serial = some task)
      (phase : task.phase = .probing) (own : task.registration = registration)
  | invite (invite : Invite) (cell : SharedCell (RtpVideoContext Target))
      (calling : producer.invites.find? registration.serial = some invite)
      (found : producer.heap.cell? invite.context = some cell)
      (own : cell.object.registration = registration)

theorem owes_former {producer : RtpProducer Target} {step : Step Target}
    {registration : Registration Target} (consistent : producer.Consistent)
    (owes : (machine.next producer step).Owes registration) :
    producer.Owes registration ∨ ∃ video, Opens producer step video registration := by
  cases owes with
  | task task queued phase own =>
      rcases task_former queued with ⟨old, located, same, _, probing⟩ | ⟨_, opens, _⟩
      · exact Or.inl (.task old located (probing phase) (same.symm.trans own))
      · rw [own] at opens
        exact Or.inr ⟨_, opens⟩
  | invite invite cell calling found own =>
      rcases cell_former consistent.owned found with ⟨old, located, same, _⟩ | ⟨_, opens, _⟩
      · rcases invite_former calling with older | ⟨_, made, _⟩
        · exact Or.inl (.invite invite old older located (same.symm.trans own))
        · -- A call that has just begun has a context that was not there before.
          have below := SharedHeap.lt_next_of_cell? located
          omega
      · rw [own] at opens
        exact Or.inr ⟨_, opens⟩

def Mute (effects : List (Effect Target)) : Prop :=
  ∀ registration sdp, .callback registration (.processSdp sdp) ∉ effects

theorem mute_nil : Mute ([] : List (Effect Target)) := by
  intro registration sdp member
  cases member

theorem mute_registerVideo (producer : RtpProducer Target) (video : VideoRequest)
    (target : Target) :
    Mute (machine.emit producer (.registerVideo video target)) := by
  intro registration sdp member
  cases speaks_of_emitted member

/-- One SDP is delivered, before anything else, and its registration then owes none. -/
structure Delivers (producer : RtpProducer Target) (result : Produced Target)
    (registration : Registration Target) : Prop where
  owed : producer.Owes registration
  settled : ¬result.producer.Owes registration
  first : ∃ sdp rest,
    result.effects = .callback registration (.processSdp sdp) :: rest ∧ Mute rest

/-- A task that has left the probe owes nothing: no call has its number. -/
theorem delivers_task {producer : RtpProducer Target} {result : Produced Target} {serial : Nat}
    {task : FileTask Target} {sdp : String} (consistent : producer.Consistent)
    (queued : producer.fileTasks.find? serial = some task) (phase : task.phase = .probing)
    (sameHeap : result.producer.heap = producer.heap)
    (left : ∀ later, result.producer.fileTasks.find? task.registration.serial = some later →
      later.phase ≠ .probing)
    (said : result.effects = [task.registration.invoke (.processSdp sdp)]) :
    Delivers producer result task.registration := by
  have key : task.registration.serial = serial := consistent.taskKey serial task queued
  refine ⟨.task task (key ▸ queued) phase rfl, ?_, sdp, [], said, mute_nil⟩
  intro owes
  cases owes with
  | task later again probing _ => exact left later again probing
  | invite invite cell _ found own =>
      rw [sameHeap] at found
      apply (consistent.apart invite.context cell found).2 serial task queued
      rw [own]

theorem delivers_invite {producer : RtpProducer Target} {result : Produced Target} {serial : Nat}
    {invite : Invite} {context : RtpVideoContext Target} {sdp : String}
    {rest : List (Effect Target)} (consistent : producer.Consistent)
    (calling : producer.invites.find? serial = some invite)
    (alive : producer.heap.get? invite.context = some context)
    (sameTasks : result.producer.fileTasks = producer.fileTasks)
    (completed : result.producer.invites = producer.invites.erase serial)
    (said : result.effects = context.registration.invoke (.processSdp sdp) :: rest)
    (mute : Mute rest) : Delivers producer result context.registration := by
  obtain ⟨strong, found⟩ := cell?_of_get? alive
  have key : context.registration.serial = serial :=
    consistent.callOwn serial invite _ calling found
  refine ⟨.invite invite _ (key ▸ calling) found rfl, ?_, sdp, rest, said, mute⟩
  intro owes
  cases owes with
  | task task queued _ own =>
      rw [sameTasks] at queued
      apply (consistent.apart invite.context _ found).2 _ task queued
      rw [own]
  | invite other cell again _ _ =>
      rw [completed, key, OrderedMap.find?_erase_self] at again
      cases again

theorem mute_or_delivers {producer : RtpProducer Target} (consistent : producer.Consistent)
    (step : Step Target) :
    Mute (machine.emit producer step) ∨
      ∃ registration, Delivers producer (producer.perform step) registration := by
  have moved := transition producer step
  change Mute (producer.perform step).effects ∨ _
  generalize producer.perform step = result at moved
  cases moved with
  | idle | ignored | fileQueued | probeLost | inviteLost => exact Or.inl mute_nil
  | gbInvited | probeCrashed | reportedNobody | refused | gbUnnamed | reported | framed
  | frameFailed | inviteFailed | received =>
      refine Or.inl ?_
      intro registration sdp member
      simp [Registration.invoke] at member
  | fileRemoved | cleaned =>
      refine Or.inl ?_
      intro registration sdp member
      cases mem_destroyFile member
  | gbRemoved video address noFile isGb located =>
      refine Or.inl ?_
      intro registration sdp member
      obtain ⟨context, _alive, _named, same⟩ := mem_tearDownOf member
      cases same
  | probeStarted serial probe task sdp context queued phase found exit set =>
      refine Or.inr ⟨task.registration, delivers_task consistent queued phase rfl ?_ rfl⟩
      intro later again
      change (producer.fileTasks.erase task.registration.serial).find? _ = some later at again
      rw [OrderedMap.find?_erase_self] at again
      cases again
  | probeBroke serial probe task ret spoken context queued phase found exit set =>
      cases spoken with
      | none => exact Or.inl mute_nil
      | some sdp =>
          refine Or.inr ⟨task.registration, delivers_task consistent queued phase rfl ?_ rfl⟩
          intro later again
          change (producer.fileTasks.modify task.registration.serial _).find? _ =
            some later at again
          rw [OrderedMap.find?_modify, if_pos rfl] at again
          obtain ⟨old, _, rfl⟩ := Option.map_eq_some_iff.mp again
          exact leftPhase_ne_probing ret
  | inviteAccepted serial completion invite context gb calling alive accepted =>
      refine Or.inr ⟨context.registration,
        delivers_invite consistent calling alive ?_ ?_ rfl ?_⟩
      · rfl
      · rfl
      · intro registration sdp member
        simp at member

end RtpProducer

namespace RtspService

/-! ### The callbacks as steps of the service -/

def callbackStep? : Effect Nat → Option (Step Client)
  | .callback registration (.processSdp sdp) => some (.processSdp registration.target sdp)
  | .callback registration (.consumePkt data) => some (.consumePkt registration.target data)
  | .callback registration (.processError _) => some (.processError registration.target)
  | _ => none

theorem run_callbackSteps (service : RtspService Client) (effects : List (Effect Nat)) :
    machine.run service (effects.filterMap callbackStep?) = service.deliver effects := by
  induction effects generalizing service with
  | nil => rfl
  | cons effect rest ih =>
      cases effect with
      | callback registration call => cases call <;> exact ih _
      | _ => exact ih _

theorem along_of_mute (service : RtspService Client) {effects : List (Effect Nat)}
    (mute : RtpProducer.Mute effects) :
    machine.Along SdpDelivered service (effects.filterMap callbackStep?) ∧
      (service.deliver effects).pendingSdp = service.pendingSdp := by
  induction effects generalizing service with
  | nil => exact ⟨trivial, rfl⟩
  | cons effect rest ih =>
      have later := ih (service.callback effect)
        (fun registration sdp member => mute registration sdp (List.mem_cons_of_mem effect member))
      cases effect with
      | callback registration call =>
          cases call with
          | processSdp sdp => exact absurd List.mem_cons_self (mute registration sdp)
          | consumePkt data => exact ⟨⟨trivial, later.1⟩, later.2⟩
          | processError code => exact ⟨⟨trivial, later.1⟩, later.2⟩
      | _ => exact later

end RtspService

namespace ServiceProducer

/-! ### The debts of a state -/

/-- A proxy that a registration owes its SDP waits for it, and for no other one. -/
structure Owing (service : RtspService Client) (producer : RtpProducer Nat) : Prop where
  proxies : service.Consistent
  registrations : producer.Consistent
  awaited : ∀ registration, producer.Owes registration →
    registration.target ∈ service.pendingSdp
  single : ∀ first second, producer.Owes first → producer.Owes second →
    first.target = second.target → first = second

omit [DecidableEq Client] in
theorem owing_initial (config : ProducerConfig) :
    Owing (initial config : ServiceProducer Client).service
      (initial config : ServiceProducer Client).producer := by
  have nobody (registration : Registration Nat) :
      ¬(RtpProducer.initial config).Owes registration := by
    intro owes
    cases owes with
    | task task queued _ _ => cases queued
    | invite invite cell calling _ _ => cases calling
  exact
    { proxies := RtspService.consistent_initial
      registrations := RtpProducer.consistent_initial config
      awaited := fun registration owes => absurd owes (nobody registration)
      single := fun first _ owes => absurd owes (nobody first) }

omit [DecidableEq Client] in
theorem Owing.handled {service later : RtspService Client} {producer : RtpProducer Nat}
    (owing : Owing service producer) (kept : later.Consistent)
    (pending : later.pendingSdp = service.pendingSdp) : Owing later producer :=
  { proxies := kept
    registrations := owing.registrations
    awaited := by
      rw [pending]
      exact owing.awaited
    single := owing.single }

theorem worded_emit (producer : RtpProducer Nat) (call : RtpProducer.Step Nat) :
    RtspService.Worded (RtpProducer.machine.emit producer call) :=
  fun _ _ emitted => RtpProducer.sdp_ne_empty emitted

/-- A section that opens no registration: an SDP it delivers was owed to a proxy that
waits for it. -/
theorem Owing.runs {service : RtspService Client} {producer : RtpProducer Nat}
    {call : RtpProducer.Step Nat} (owing : Owing service producer)
    (old : ∀ video registration, ¬RtpProducer.Opens producer call video registration) :
    RtspService.machine.Along RtspService.SdpDelivered service
        ((RtpProducer.machine.emit producer call).filterMap RtspService.callbackStep?) ∧
      Owing (service.deliver (RtpProducer.machine.emit producer call))
        (RtpProducer.machine.next producer call) := by
  have worded := worded_emit producer call
  have kept := RtspService.consistent_deliver owing.proxies worded
  have former {registration : Registration Nat}
      (owes : (RtpProducer.machine.next producer call).Owes registration) :
      producer.Owes registration := by
    rcases RtpProducer.owes_former owing.registrations owes with older | ⟨video, opens⟩
    · exact older
    · exact absurd opens (old video registration)
  have single : ∀ first second, (RtpProducer.machine.next producer call).Owes first →
      (RtpProducer.machine.next producer call).Owes second →
      first.target = second.target → first = second :=
    fun first second owes owes' => owing.single first second (former owes) (former owes')
  rcases RtpProducer.mute_or_delivers owing.registrations call with mute | ⟨registration, delivers⟩
  · obtain ⟨along, pending⟩ := RtspService.along_of_mute service mute
    refine ⟨along, kept, RtpProducer.consistent_step call owing.registrations, ?_, single⟩
    intro registration owes
    rw [pending]
    exact owing.awaited registration (former owes)
  · obtain ⟨sdp, rest, split, mute⟩ := delivers.first
    change RtpProducer.machine.emit producer call = _ at split
    rw [split] at worded kept ⊢
    obtain ⟨along, pending⟩ := RtspService.along_of_mute
      (service.processSdpFunction registration.target sdp) mute
    refine ⟨⟨⟨worded registration sdp List.mem_cons_self, owing.awaited _ delivers.owed⟩, along⟩,
      kept, RtpProducer.consistent_step call owing.registrations, ?_, single⟩
    intro other owes
    change other.target ∈
      ((service.processSdpFunction registration.target sdp).deliver rest).pendingSdp
    rw [pending]
    refine (List.mem_erase_of_ne ?_).mpr (owing.awaited other (former owes))
    intro same
    rw [owing.single other registration (former owes) delivers.owed same] at owes
    exact delivers.settled owes

theorem Owing.registers {service later : RtspService Client} {producer : RtpProducer Nat}
    {target : Nat} (video : VideoRequest) (owing : Owing service producer)
    (kept : later.Consistent) (unbound : target ∉ service.pendingSdp)
    (pending : later.pendingSdp = target :: service.pendingSdp) :
    RtspService.machine.Along RtspService.SdpDelivered later
        ((RtpProducer.machine.emit producer (.registerVideo video target)).filterMap
          RtspService.callbackStep?) ∧
      Owing (later.deliver (RtpProducer.machine.emit producer (.registerVideo video target)))
        (RtpProducer.machine.next producer (.registerVideo video target)) := by
  have mute := RtpProducer.mute_registerVideo producer video target
  obtain ⟨along, unchanged⟩ := RtspService.along_of_mute later mute
  have former {registration : Registration Nat}
      (owes : (RtpProducer.machine.next producer (.registerVideo video target)).Owes registration) :
      producer.Owes registration ∨ registration = ⟨producer.nextSerial, target⟩ := by
    rcases RtpProducer.owes_former owing.registrations owes with older | ⟨_, opens⟩
    · exact Or.inl older
    · obtain ⟨_, own⟩ := RtpProducer.Step.registerVideo.inj opens.1
      refine Or.inr ?_
      rw [own, ← opens.2]
  have apart {registration : Registration Nat} (owes : producer.Owes registration) :
      registration.target ≠ target :=
    fun same => unbound (same ▸ owing.awaited registration owes)
  refine ⟨along,
    { proxies := RtspService.consistent_deliver kept (worded_emit producer _)
      registrations := RtpProducer.consistent_step _ owing.registrations
      awaited := ?_
      single := ?_ }⟩
  · intro registration owes
    rw [unchanged, pending]
    rcases former owes with older | rfl
    · exact List.mem_cons_of_mem _ (owing.awaited registration older)
    · exact List.mem_cons_self
  · intro first second owes owes' same
    rcases former owes with older | rfl
    · rcases former owes' with older' | rfl
      · exact owing.single first second older older' same
      · exact absurd same (apart older)
    · rcases former owes' with older' | rfl
      · exact absurd same.symm (apart older')
      · rfl

/-! ### One step -/

def requests : Step Client → List (RtspService.Step Client)
  | .request step => if IsRequest step then [step] else []
  | .work _ => []

/-- What the service sees of a step: the request, then the callbacks. -/
def moves (system : ServiceProducer Client) (step : Step Client) : List (RtspService.Step Client) :=
  requests step ++ (system.effects step).filterMap RtspService.callbackStep?

theorem run_requests (system : ServiceProducer Client) (step : Step Client) :
    RtspService.machine.run system.service (requests step) = system.handled step := by
  cases step with
  | work step => rfl
  | request step => cases step <;> rfl

theorem along_requests (service : RtspService Client) (step : Step Client) :
    RtspService.machine.Along RtspService.SdpDelivered service (requests step) := by
  cases step with
  | work step => trivial
  | request step => cases step <;> trivial

theorem run_moves (system : ServiceProducer Client) (step : Step Client) :
    RtspService.machine.run system.service (system.moves step) =
      (machine.next system step).service := by
  unfold moves
  rw [LabelledMachine.run_append, run_requests]
  exact RtspService.run_callbackSteps _ _

def Honoured (system : ServiceProducer Client) (step : Step Client) : Prop :=
  RtspService.machine.Along RtspService.SdpDelivered (system.handled step)
      ((system.effects step).filterMap RtspService.callbackStep?) ∧
    Owing (machine.next system step).service (machine.next system step).producer

theorem honoured_of_silent {system : ServiceProducer Client} {step : Step Client}
    (silent : system.calls step = []) (owing : Owing (system.handled step) system.producer) :
    system.Honoured step := by
  unfold Honoured
  simp only [machine, effects_of_silent silent, silent]
  exact ⟨trivial, owing⟩

theorem honoured_of_single {system : ServiceProducer Client} {step : Step Client}
    {call : RtpProducer.Step Nat} (single : system.calls step = [call])
    (ran : RtspService.machine.Along RtspService.SdpDelivered (system.handled step)
        ((RtpProducer.machine.emit system.producer call).filterMap RtspService.callbackStep?) ∧
      Owing ((system.handled step).deliver (RtpProducer.machine.emit system.producer call))
        (RtpProducer.machine.next system.producer call)) :
    system.Honoured step := by
  unfold Honoured
  simp only [machine, effects_of_single single, single]
  exact ran

theorem honoured_describe {system : ServiceProducer Client}
    (owing : Owing system.service system.producer) (client : Client) (uri : String) :
    system.Honoured (.request (.describe client uri)) := by
  have kept := RtspService.consistent_describe owing.proxies client uri
  cases located : system.service.proxies.find? (VideoRequest.parseUrl uri) with
  | none =>
      refine honoured_of_silent (calls_describe_of_none client located) (owing.handled kept ?_)
      change (system.service.onDescribe client uri).service.pendingSdp = _
      rw [RtspService.onDescribe_of_none located]
  | some found =>
      have single := calls_describe client located
      have pending := RtspService.onDescribe_pendingSdp client located
      by_cases registers : found.sourceSdp = "" ∧ found.waitingSdpClients = ∅
      · rw [if_pos registers] at single pending
        refine honoured_of_single single (owing.registers _ kept ?_ pending)
        intro member
        have waiting := (owing.proxies.sound _ found located).waits member
        rw [registers.2] at waiting
        exact Finset.not_nonempty_empty waiting
      · rw [if_neg registers] at single pending
        exact honoured_of_silent single (owing.handled kept pending)

theorem honoured_close {system : ServiceProducer Client}
    (owing : Owing system.service system.producer) (client : Client) :
    system.Honoured (.request (.close client)) := by
  have left := owing.handled (RtspService.consistent_close owing.proxies client)
    (RtspService.close_unchanged system.service client).2
  by_cases erases : ∃ video proxy, system.service.holder client = some (video, proxy) ∧
      proxy.Unattended client
  · obtain ⟨video, proxy, held, unattended⟩ := erases
    have single := calls_close held unattended
    cases flag : proxy.registered with
    | false =>
        simp only [flag, Bool.false_eq_true, if_false] at single
        exact honoured_of_silent single left
    | true =>
        simp only [flag, if_true] at single
        exact honoured_of_single single (left.runs (fun _ _ opens => nomatch opens.1))
  · refine honoured_of_silent (calls_close_of_attended ?_) left
    exact fun video proxy held unattended => erases ⟨video, proxy, held, unattended⟩

theorem honoured_step {system : ServiceProducer Client}
    (owing : Owing system.service system.producer) (step : Step Client) :
    system.Honoured step := by
  cases step with
  | work step =>
      by_cases work : IsWork step
      · refine honoured_of_single (if_pos work) (owing.runs ?_)
        intro video registration opens
        rw [opens.1] at work
        exact work
      · exact honoured_of_silent (if_neg work) owing
  | request step =>
      cases step with
      | options client uri =>
          exact honoured_of_silent (system.calls_options client uri) (owing.handled
            (RtspService.consistent_options owing.proxies client uri)
            (RtspService.onOptions_pendingSdp system.service client uri))
      | describe client uri => exact honoured_describe owing client uri
      | play client uri npt =>
          exact honoured_of_silent (system.calls_play client uri npt) (owing.handled
            (RtspService.consistent_play owing.proxies client uri npt)
            (RtspService.onPlay_unchanged system.service client uri npt).2)
      | close client => exact honoured_close owing client
      | processSdp | consumePkt | processError => exact honoured_of_silent rfl owing

/-! ### Runs -/

def movesOf (system : ServiceProducer Client) :
    List (Step Client) → List (RtspService.Step Client)
  | [] => []
  | step :: rest => system.moves step ++ movesOf (machine.next system step) rest

theorem Owing.run {system : ServiceProducer Client}
    (owing : Owing system.service system.producer) (steps : List (Step Client)) :
    RtspService.machine.run system.service (system.movesOf steps) =
        (machine.run system steps).service ∧
      RtspService.machine.Along RtspService.SdpDelivered system.service
        (system.movesOf steps) := by
  induction steps generalizing system with
  | nil => exact ⟨rfl, trivial⟩
  | cons step rest ih =>
      obtain ⟨along, later⟩ := honoured_step owing step
      obtain ⟨reached, delivered⟩ := ih later
      unfold movesOf
      rw [LabelledMachine.run_append, LabelledMachine.along_append, run_moves]
      refine ⟨reached, ?_, delivered⟩
      unfold moves
      rw [LabelledMachine.along_append, run_requests]
      exact ⟨along_requests system.service step, along⟩

/-- Every run of service and producer is for the service a run in which each
registration delivers one SDP at most, and never the empty text. -/
theorem service_meets_sdpDelivered (config : ProducerConfig) (steps : List (Step Client)) :
    RtspService.after ((initial config).movesOf steps) = (after config steps).service ∧
      RtspService.machine.Along RtspService.SdpDelivered RtspService.initial
        ((initial config : ServiceProducer Client).movesOf steps) :=
  Owing.run (owing_initial config) steps

end ServiceProducer

end Ffvms.Concrete
