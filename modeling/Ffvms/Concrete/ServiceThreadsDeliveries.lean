/-
The SDP of a registration is delivered once.

A description that registers its proxy hands `processSdpFunc` to the producer, and from then
on one courier has it: the thread that is about to register, the invite in flight, or the
thread that runs the callback of the invite.  No proxy has two couriers, and as long as it
has one its SDP is awaited.
-/

import Ffvms.Concrete.ServiceThreadsInvariant

namespace Ffvms.Concrete

open LockProgram

variable {Client Thread : Type} [DecidableEq Client]

namespace SharedData

def boundProxy? (data : SharedData Client) (context : Nat) : Option Nat :=
  (data.producer.heap.get? context).bind (fun found => found.registration.target)

omit [DecidableEq Client] in
theorem contextFor_of_boundProxy? {data : SharedData Client} {context proxy : Nat}
    (bound : data.boundProxy? context = some proxy) : data.ContextFor proxy := by
  obtain ⟨found, alive, own⟩ := Option.bind_eq_some_iff.mp bound
  exact contextFor_of_get? alive own

omit [DecidableEq Client] in
theorem boundProxy?_of_cell {data later : SharedData Client} {context proxy : Nat}
    (former : ∀ cell, later.producer.heap.cell? context = some cell →
      ∃ old, data.producer.heap.cell? context = some old ∧
        cell.object.registration = old.object.registration)
    (bound : later.boundProxy? context = some proxy) : data.boundProxy? context = some proxy := by
  obtain ⟨found, alive, own⟩ := Option.bind_eq_some_iff.mp bound
  obtain ⟨strong, located⟩ := RtpProducer.cell?_of_get? alive
  obtain ⟨old, there, same⟩ := former _ located
  refine Option.bind_eq_some_iff.mpr ⟨old.object, ?_, ?_⟩
  · rw [SharedHeap.get?, there]
    rfl
  · rw [← same]
    exact own

theorem callErrors_sockets (service : RtspService Client) (effects : List (Effect (Option Nat))) :
    ∃ sockets, callErrors service effects = { service with closedSockets := sockets } := by
  induction effects generalizing service with
  | nil => exact ⟨service.closedSockets, rfl⟩
  | cons effect rest ih =>
      have single : ∃ sockets,
          callErrors service [effect] = { service with closedSockets := sockets } := by
        simp only [callErrors, List.foldl_cons, List.foldl_nil]
        split
        · exact ⟨_, rfl⟩
        · exact ⟨service.closedSockets, rfl⟩
      obtain ⟨first, changed⟩ := single
      obtain ⟨sockets, later⟩ := ih (callErrors service [effect])
      refine ⟨sockets, ?_⟩
      change callErrors (callErrors service [effect]) rest = _
      rw [later, changed]

end SharedData

namespace ServiceStage

def delivers? (data : SharedData Client) : ServiceStage Client → Option Nat
  | .registerVideo _ target => target
  | .inviteCallback invite _ => data.boundProxy? invite.context
  | .processSdp proxy _ _ _ => some proxy
  | _ => none

end ServiceStage

inductive Courier (Thread : Type) where
  | thread (thread : Thread)
  | call (serial : Nat)

namespace ServiceThreads

section Deliveries

variable {data later : SharedData Client} {pending next : Thread → Option (ServiceStage Client)}

def Carries (data : SharedData Client) (pending : Thread → Option (ServiceStage Client)) :
    Courier Thread → Nat → Prop
  | .thread thread, proxy =>
      ∃ stage, pending thread = some stage ∧ stage.delivers? data = some proxy
  | .call serial, proxy =>
      ∃ invite, data.producer.invites.find? serial = some invite ∧
        data.boundProxy? invite.context = some proxy

/-- One courier for each proxy, and only while the SDP is awaited. -/
structure Deliveries (data : SharedData Client) (pending : Thread → Option (ServiceStage Client)) :
    Prop where
  single : ∀ courier other proxy, Carries data pending courier proxy →
    Carries data pending other proxy → courier = other
  awaited : ∀ courier proxy, Carries data pending courier proxy →
    proxy ∈ data.service.pendingSdp

/-- The numbers of the invites and the addresses of their contexts have been handed out. -/
structure Issued (data : SharedData Client) (pending : Thread → Option (ServiceStage Client)) :
    Prop where
  serial : ∀ serial invite, data.producer.invites.find? serial = some invite →
    serial < data.producer.nextSerial
  context : ∀ serial invite, data.producer.invites.find? serial = some invite →
    invite.context < data.producer.heap.next
  callback : ∀ thread invite completion,
    pending thread = some (.inviteCallback invite completion) →
      invite.context < data.producer.heap.next

omit [DecidableEq Client] in
theorem Deliveries.of_carried (deliveries : Deliveries data pending)
    (carried : ∀ courier proxy, Carries later next courier proxy →
      Carries data pending courier proxy)
    (awaited : ∀ courier proxy, Carries later next courier proxy →
      proxy ∈ later.service.pendingSdp) : Deliveries later next := by
  refine ⟨?_, awaited⟩
  intro courier other proxy here there
  exact deliveries.single courier other proxy (carried courier proxy here)
    (carried other proxy there)

omit [DecidableEq Client] in
theorem Deliveries.hand_over (deliveries : Deliveries data pending)
    (giver taker : Courier Thread)
    (carried : ∀ courier proxy, Carries later next courier proxy →
      Carries data pending courier proxy ∨
        (courier = taker ∧ Carries data pending giver proxy))
    (done : ∀ proxy, ¬Carries later next giver proxy)
    (awaited : later.service.pendingSdp = data.service.pendingSdp) : Deliveries later next := by
  refine ⟨?_, ?_⟩
  · intro courier other proxy first second
    rcases carried courier proxy first with before | ⟨new, before⟩ <;>
      rcases carried other proxy second with beforeToo | ⟨newToo, beforeToo⟩
    · exact deliveries.single courier other proxy before beforeToo
    · cases deliveries.single _ _ proxy before beforeToo
      exact absurd first (done proxy)
    · cases deliveries.single _ _ proxy beforeToo before
      exact absurd second (done proxy)
    · exact new.trans newToo.symm
  · intro courier proxy carries
    rw [awaited]
    rcases carried courier proxy carries with before | ⟨_, before⟩
    · exact deliveries.awaited _ proxy before
    · exact deliveries.awaited _ proxy before

theorem involved_of_carries {courier : Courier Thread} {proxy : Nat}
    (carries : Carries data pending courier proxy) :
    serviceProxies.Registers pending proxy ∨ serviceProxies.Bound data pending proxy := by
  cases courier with
  | call serial =>
      obtain ⟨invite, _, bound⟩ := carries
      exact Or.inr (Or.inl (SharedData.contextFor_of_boundProxy? bound))
  | thread thread =>
      obtain ⟨stage, comes, delivers⟩ := carries
      cases stage with
      | registerVideo video target => exact Or.inl ⟨thread, _, comes, delivers⟩
      | inviteCallback invite completion =>
          exact Or.inr (Or.inl (SharedData.contextFor_of_boundProxy? delivers))
      | processSdp pointer video gb context =>
          exact Or.inr (Or.inr ⟨thread, _, comes, delivers⟩)
      | _ => cases delivers

/-- Of a proxy that a description finds without an SDP and without a client waiting for one,
nobody has the `processSdpFunc`. -/
theorem uninvolved_of_describe {thread : Thread} {client : Client} {video : VideoRequest}
    {proxy : Nat} {found : ProxyInfo Client} (settled : serviceProxies.Settled data pending)
    (here : pending thread = some (.onDescribeClients client video proxy))
    (apart : serviceScopes.Apart pending thread (.onDescribeClients client video proxy))
    (located : data.service.proxyAt? proxy = some found) (silent : ¬found.Asked) :
    ¬(serviceProxies.Registers pending proxy ∨ serviceProxies.Bound data pending proxy) := by
  intro involved
  obtain ⟨key, there, same⟩ := RtspService.proxyAt?_eq_some located
  rcases settled.asked key found there (same ▸ involved) with asked | closing
  · exact silent asked
  · -- `Close` would hold the lock of the servers alone.
    obtain ⟨other, erasing, comes, _, closes, _⟩ := closing
    have different : other ≠ thread := by
      rintro rfl
      cases here.symm.trans comes
      cases closes
    exact apart other erasing different comes .rtspServer .shared .exclusive
      (by simp [Scopes.inner, serviceScopes, ServiceStage.outer])
      (ServiceStage.outer_of_closes closes) (LockMode.conflicts_exclusive _)

/-! ### Sections that move no delivery -/

/-- The invites stay, no context is bound anew and no SDP is delivered. -/
structure Calm (data later : SharedData Client) : Prop where
  invites : later.producer.invites = data.producer.invites
  nextSerial : data.producer.nextSerial ≤ later.producer.nextSerial
  heapNext : later.producer.heap.next = data.producer.heap.next
  bound : ∀ context proxy, later.boundProxy? context = some proxy →
    data.boundProxy? context = some proxy
  awaited : ∀ proxy ∈ data.service.pendingSdp, proxy ∈ later.service.pendingSdp

omit [DecidableEq Client] in
theorem Calm.of_producer (producer : later.producer = data.producer)
    (pendingSdp : later.service.pendingSdp = data.service.pendingSdp) : Calm data later :=
  { invites := by rw [producer]
    nextSerial := by rw [producer]
    heapNext := by rw [producer]
    bound := by
      intro context proxy bound
      rw [SharedData.boundProxy?, producer] at bound
      exact bound
    awaited := by rw [pendingSdp]; exact fun _ => id }

omit [DecidableEq Client] in
theorem calm_unregisterVideo (data : SharedData Client) (video : VideoRequest) :
    Calm data (data.unregisterVideo video) := by
  have kept : (data.producer.unregisterVideo video).producer.invites = data.producer.invites ∧
      (data.producer.unregisterVideo video).producer.nextSerial = data.producer.nextSerial ∧
      (data.producer.unregisterVideo video).producer.heap.next = data.producer.heap.next := by
    unfold RtpProducer.unregisterVideo
    split_ifs
    · exact ⟨rfl, rfl, rfl⟩
    · split
      · exact ⟨rfl, rfl, rfl⟩
      · exact ⟨rfl, rfl, SharedHeap.next_release _ _⟩
    · exact ⟨rfl, rfl, rfl⟩
  refine ⟨kept.1, Nat.le_of_eq kept.2.1.symm, kept.2.2, ?_, fun _ => id⟩
  intro context proxy
  refine SharedData.boundProxy?_of_cell ?_
  intro cell found
  obtain ⟨old, there, same⟩ := RtpProducer.cell?_unregisterVideo found
  exact ⟨old, there, by rw [same]⟩

/-! ### What a registration does -/

omit [DecidableEq Client] in
theorem registerVideo_invites {producer : RtpProducer (Option Nat)} {video : VideoRequest}
    {target : Option Nat} {serial : Nat} {invite : Invite}
    (found : (producer.registerVideo video target).producer.invites.find? serial = some invite) :
    producer.invites.find? serial = some invite ∨
      (serial = producer.nextSerial ∧ invite.context = producer.heap.next ∧
        producer.heap.next < (producer.registerVideo video target).producer.heap.next) := by
  unfold RtpProducer.registerVideo at found ⊢
  split_ifs at found ⊢ with isFile isGb
  · unfold RtpProducer.registerFile at found
    split at found <;> exact Or.inl found
  · unfold RtpProducer.registerGb at found ⊢
    split at found
    · exact Or.inl found
    · split at found
      · exact Or.inl found
      · change (producer.invites.insert producer.nextSerial _).find? serial = _ at found
        rw [OrderedMap.find?_insert] at found
        split_ifs at found with same
        · cases found
          refine Or.inr ⟨same, rfl, ?_⟩
          change _ < (producer.takeSerial.addRtpContext video _).heap.next
          rw [RtpProducer.next_addRtpContext]
          exact Nat.lt_succ_self _
        · exact Or.inl found
  · exact Or.inl found

omit [DecidableEq Client] in
theorem registerVideo_counters (producer : RtpProducer (Option Nat)) (video : VideoRequest)
    (target : Option Nat) :
    (producer.registerVideo video target).producer.nextSerial = producer.nextSerial + 1 ∧
      producer.heap.next ≤ (producer.registerVideo video target).producer.heap.next := by
  unfold RtpProducer.registerVideo
  split_ifs
  · unfold RtpProducer.registerFile
    split <;> exact ⟨rfl, Nat.le_refl _⟩
  · unfold RtpProducer.registerGb
    split
    · exact ⟨rfl, Nat.le_refl _⟩
    · have grown (registration : Registration (Option Nat)) : producer.heap.next ≤
          (producer.takeSerial.addRtpContext video registration).heap.next := by
        rw [RtpProducer.next_addRtpContext]
        exact Nat.le_succ _
      split <;> exact ⟨rfl, grown _⟩
  · exact ⟨rfl, Nat.le_refl _⟩

omit [DecidableEq Client] in
theorem registerVideo_cell {producer : RtpProducer (Option Nat)} {video : VideoRequest}
    {target : Option Nat} {address : Nat} {cell : SharedCell (RtpVideoContext (Option Nat))}
    (found : (producer.registerVideo video target).producer.heap.cell? address = some cell) :
    producer.heap.cell? address = some cell ∨
      (address = producer.heap.next ∧ cell.object.registration.target = target) := by
  by_cases takes : video.TakesContextLock
  · obtain ⟨noFile, isGb⟩ := takes
    simp only [RtpProducer.registerVideo, noFile, isGb, Bool.false_eq_true, if_false, if_true,
      RtpProducer.registerGb] at found
    split at found
    · exact Or.inl found
    · have added : (producer.takeSerial.addRtpContext video
          ⟨producer.nextSerial, target⟩).heap.cell? address = some cell := by
        split at found <;> exact found
      rw [RtpProducer.cell?_addRtpContext] at added
      split_ifs at added with here
      · cases added
        exact Or.inr ⟨here, rfl⟩
      · exact Or.inl added
  · rw [RtpProducer.heap_registerVideo_of_not producer target takes] at found
    exact Or.inl found

theorem boundProxy?_registerVideo {data : SharedData Client} {video : VideoRequest}
    {target : Option Nat} {context proxy : Nat}
    (bound : (data.registerVideo video target).boundProxy? context = some proxy) :
    data.boundProxy? context = some proxy ∨
      (context = data.producer.heap.next ∧ target = some proxy) := by
  obtain ⟨found, alive, own⟩ := Option.bind_eq_some_iff.mp bound
  obtain ⟨strong, located⟩ := RtpProducer.cell?_of_get? alive
  rcases registerVideo_cell located with before | ⟨here, new⟩
  · refine Or.inl (Option.bind_eq_some_iff.mpr ⟨found, ?_, own⟩)
    rw [SharedHeap.get?, before]
    rfl
  · exact Or.inr ⟨here, new.symm.trans own⟩

theorem calm_registerVideo (data : SharedData Client) {video : VideoRequest}
    (target : Option Nat) (other : ¬video.TakesContextLock) :
    Calm data (data.registerVideo video target) := by
  obtain ⟨sockets, service⟩ := SharedData.callErrors_sockets data.service
    (data.producer.registerVideo video target).effects
  have counters := registerVideo_counters data.producer video target
  have heap : (data.registerVideo video target).producer.heap = data.producer.heap :=
    RtpProducer.heap_registerVideo_of_not _ _ other
  refine ⟨?_, ?_, by rw [heap], ?_, ?_⟩
  · change (data.producer.registerVideo video target).producer.invites = _
    unfold RtpProducer.registerVideo
    split_ifs with isFile isGb
    · unfold RtpProducer.registerFile
      split <;> rfl
    · exact absurd ⟨Bool.eq_false_iff.mpr isFile, isGb⟩ other
    · rfl
  · exact Nat.le_of_lt (counters.1 ▸ Nat.lt_succ_self _)
  · intro context proxy bound
    rw [SharedData.boundProxy?, heap] at bound
    exact bound
  · intro proxy member
    change proxy ∈ (SharedData.callErrors _ _).pendingSdp
    rw [service]
    exact member

/-! ### The sections -/

omit [DecidableEq Client] in
theorem Calm.trans {middle : SharedData Client} (first : Calm data middle)
    (second : Calm middle later) : Calm data later :=
  { invites := second.invites.trans first.invites
    nextSerial := first.nextSerial.trans second.nextSerial
    heapNext := second.heapNext.trans first.heapNext
    bound := fun context proxy bound => first.bound context proxy (second.bound context proxy bound)
    awaited := fun proxy member => second.awaited proxy (first.awaited proxy member) }

theorem calm_describeFound (data : SharedData Client) (client : Client) (video : VideoRequest)
    (proxy : Nat) (found : ProxyInfo Client) :
    Calm data (data.describeFound client video proxy found).1 := by
  have waiting (service : RtspService Client)
      (pendingSdp : service.pendingSdp = proxy :: data.service.pendingSdp) :
      Calm data { data with service := service } :=
    { invites := rfl
      nextSerial := Nat.le_refl _
      heapNext := rfl
      bound := fun _ _ => id
      awaited := by
        change ∀ other ∈ data.service.pendingSdp, other ∈ service.pendingSdp
        rw [pendingSdp]
        exact fun _ member => List.mem_cons_of_mem _ member }
  unfold SharedData.describeFound
  dsimp only
  split_ifs with registers takes answered
  · exact waiting _ rfl
  · exact (waiting _ rfl).trans (calm_registerVideo _ _ takes)
  · exact Calm.of_producer rfl rfl
  · exact Calm.of_producer rfl rfl

theorem calm_closeFound (data : SharedData Client) (video : VideoRequest)
    (left : ProxyInfo Client) : Calm data (data.closeFound video left).1 := by
  have stored : Calm data { data with service := data.service.storeProxy video left } :=
    Calm.of_producer rfl rfl
  unfold SharedData.closeFound
  dsimp only
  split_ifs
  · exact stored
  · exact stored.trans (calm_unregisterVideo _ _)
  · exact stored
  · exact stored

theorem calm_acceptInvite {data : SharedData Client} {invite : Invite} {completion : Completion}
    {locked : SharedHeap (RtpVideoContext (Option Nat))}
    {context : RtpVideoContext (Option Nat)}
    (locks : data.producer.heap.lock invite.context = some (locked, context)) :
    Calm data (data.acceptInvite invite completion locked context).1 := by
  obtain ⟨object, alive, same⟩ := Option.map_eq_some_iff.mp locks
  cases same
  obtain ⟨strong, located⟩ := RtpProducer.cell?_of_get? alive
  have changed : Calm data { data with
      producer := data.producer.unlock ((data.producer.heap.share invite.context).update
        invite.context (context.accept data.producer.config completion).1) invite.context } := by
    refine ⟨rfl, Nat.le_refl _, RtpProducer.next_unlock_update _ _ _ _, ?_, fun _ => id⟩
    intro address proxy
    refine SharedData.boundProxy?_of_cell ?_
    intro cell found
    rw [RtpProducer.cell?_unlock_update] at found
    split_ifs at found with here
    · rw [here, located] at found
      cases found
      rw [here]
      exact ⟨_, located, RtpVideoContext.accept_registration _ _ _⟩
    · exact ⟨cell, found, rfl⟩
  unfold SharedData.acceptInvite
  dsimp only
  split
  · obtain ⟨sockets, service⟩ := SharedData.callErrors_sockets data.service
      [context.registration.invoke (.processError .invalidArgument)]
    refine changed.trans (Calm.of_producer rfl ?_)
    change (SharedData.callErrors data.service _).pendingSdp = _
    rw [service]
  · exact changed
  · exact changed

theorem body_calm (data : SharedData Client) {stage : ServiceStage Client}
    (registers : ∀ video target, stage ≠ .registerVideo video target)
    (delivers : ∀ proxy video gb context, stage ≠ .processSdp proxy video gb context) :
    Calm data (data.body stage).1 := by
  have same : Calm data data := Calm.of_producer rfl rfl
  cases stage with
  | registerVideo video target => exact absurd rfl (registers video target)
  | processSdp proxy video gb context => exact absurd rfl (delivers proxy video gb context)
  | accept | onOptionsClients | eraseProxy | consumePkt => exact Calm.of_producer rfl rfl
  | registerPeer =>
      exact
        { invites := rfl
          nextSerial := Nat.le_refl _
          heapNext := rfl
          bound := fun _ _ => id
          awaited := fun _ => id }
  | readcb client request =>
      simp only [SharedData.body]
      split_ifs
      · cases request <;> exact same
      · exact same
  | errorcb =>
      simp only [SharedData.body]
      split_ifs
      · exact Calm.of_producer rfl rfl
      · exact same
  | onOptions client uri =>
      simp only [SharedData.body]
      split
      · exact Calm.of_producer rfl (RtspService.onOptions_pendingSdp _ client uri)
      · exact same
  | onDescribe | onPlay | datagram =>
      simp only [SharedData.body]
      split <;> exact same
  | handlePacket =>
      simp only [SharedData.body]
      repeat' split
      all_goals exact same
  | onPlayClients =>
      simp only [SharedData.body]
      split
      · exact same
      · split_ifs
        · exact Calm.of_producer rfl rfl
        · exact Calm.of_producer rfl rfl
  | onDescribeClients client video proxy =>
      simp only [SharedData.body]
      split
      · exact same
      next found _ => exact calm_describeFound data client video proxy found
  | close client =>
      simp only [SharedData.body]
      split
      · exact same
      next video left _ => exact calm_closeFound data video left
  | unregisterVideo video closing => exact calm_unregisterVideo data video
  | inviteCallback invite completion =>
      simp only [SharedData.body]
      split
      · exact same
      next locked context locks => exact calm_acceptInvite locks

/-- A section that delivers follows one that did, or the description that registers. -/
theorem next_delivers {data : SharedData Client} {stage next : ServiceStage Client} {proxy : Nat}
    (follows : (data.body stage).2.next? = some next)
    (delivers : next.delivers? (data.body stage).1 = some proxy) :
    stage.delivers? data = some proxy ∨ ∃ client video found,
      stage = .onDescribeClients client video proxy ∧
        data.service.proxyAt? proxy = some found ∧ ¬found.Asked := by
  cases stage with
  | inviteCallback invite completion =>
      left
      simp only [SharedData.body] at follows
      split at follows
      · cases follows
      next locked context locks =>
        obtain ⟨object, alive, same⟩ := Option.map_eq_some_iff.mp locks
        cases same
        unfold SharedData.acceptInvite at follows
        dsimp only at follows
        split at follows <;> cases follows
        · cases delivers
        next own =>
          cases delivers
          exact Option.bind_eq_some_iff.mpr ⟨context, alive, own⟩
  | onDescribeClients client video pointer =>
      right
      cases SharedData.next_stage follows with
      | register _ _ _ found located silent =>
          cases delivers
          exact ⟨client, video, found, rfl, located, silent⟩
  | _ =>
      cases SharedData.next_stage follows
      all_goals cases delivers

theorem awaited_of_describe {data : SharedData Client} {client : Client} {video : VideoRequest}
    {proxy : Nat} {next : ServiceStage Client}
    (follows : (data.body (.onDescribeClients client video proxy)).2.next? = some next) :
    proxy ∈ (data.body (.onDescribeClients client video proxy)).1.service.pendingSdp := by
  simp only [SharedData.body] at follows ⊢
  cases located : data.service.proxyAt? proxy with
  | none =>
      rw [located] at follows
      cases follows
  | some found =>
      simp only [located, SharedData.describeFound] at follows ⊢
      split_ifs at follows ⊢ <;> cases follows
      exact List.mem_cons_self

end Deliveries

/-! ### Steps of the threads -/

section Steps

variable [DecidableEq Thread] {data later : SharedData Client}
  {pending : Thread → Option (ServiceStage Client)} {thread : Thread}
  {stage : ServiceStage Client}

theorem next_not_callback {next : ServiceStage Client}
    (follows : (data.body stage).2.next? = some next) (invite : Invite)
    (completion : Completion) : next ≠ .inviteCallback invite completion := by
  rintro rfl
  cases SharedData.next_stage follows

theorem issued_run (issued : Issued data pending) :
    Issued (data.body stage).1
      (Function.update pending thread (data.body stage).2.next?) := by
  -- Addresses are handed out in order, so that old ones stay below the next.
  have advance (heapNext : data.producer.heap.next ≤ (data.body stage).1.producer.heap.next)
      (invites : ∀ serial invite, (data.body stage).1.producer.invites.find? serial = some invite →
        serial < (data.body stage).1.producer.nextSerial ∧
          invite.context < (data.body stage).1.producer.heap.next) :
      Issued (data.body stage).1
        (Function.update pending thread (data.body stage).2.next?) := by
    refine ⟨fun serial invite found => (invites serial invite found).1,
      fun serial invite found => (invites serial invite found).2, ?_⟩
    intro other invite completion comes
    by_cases here : other = thread
    · subst here
      rw [Function.update_self] at comes
      exact absurd rfl (next_not_callback comes invite completion)
    · rw [Function.update_of_ne here] at comes
      exact Nat.lt_of_lt_of_le (issued.callback other invite completion comes) heapNext
  have calm (same : Calm data (data.body stage).1) : Issued (data.body stage).1
      (Function.update pending thread (data.body stage).2.next?) := by
    refine advance (Nat.le_of_eq same.heapNext.symm) ?_
    intro serial invite found
    rw [same.invites] at found
    rw [same.heapNext]
    exact ⟨Nat.lt_of_lt_of_le (issued.serial serial invite found) same.nextSerial,
      issued.context serial invite found⟩
  cases stage with
  | registerVideo video target =>
      obtain ⟨serials, heapNext⟩ := registerVideo_counters data.producer video target
      refine advance heapNext ?_
      intro serial invite found
      change serial < (data.producer.registerVideo video target).producer.nextSerial ∧
        invite.context < (data.producer.registerVideo video target).producer.heap.next
      rw [serials]
      rcases registerVideo_invites found with old | ⟨same, address, grown⟩
      · exact ⟨Nat.lt_succ_of_lt (issued.serial serial invite old),
          Nat.lt_of_lt_of_le (issued.context serial invite old) heapNext⟩
      · exact ⟨same ▸ Nat.lt_succ_self _, address ▸ grown⟩
  | processSdp proxy video gb context =>
      refine advance (Nat.le_refl _) ?_
      exact fun serial invite found =>
        ⟨issued.serial serial invite found, issued.context serial invite found⟩
  | _ => exact calm (body_calm data (by simp) (by simp))

omit [DecidableEq Client] in
theorem carries_other {other : Thread} {next : Option (ServiceStage Client)} {proxy : Nat}
    (different : other ≠ thread)
    (bound : ∀ invite completion, pending other = some (.inviteCallback invite completion) →
      later.boundProxy? invite.context = some proxy → data.boundProxy? invite.context = some proxy)
    (carries : Carries later (Function.update pending thread next) (.thread other) proxy) :
    Carries data pending (.thread other) proxy := by
  obtain ⟨found, comes, delivers⟩ := carries
  rw [Function.update_of_ne different] at comes
  refine ⟨found, comes, ?_⟩
  cases found with
  | inviteCallback invite completion => exact bound invite completion comes delivers
  | _ => exact delivers

theorem deliveries_calm (deliveries : Deliveries data pending)
    (settled : serviceProxies.Settled data pending) (here : pending thread = some stage)
    (apart : serviceScopes.Apart pending thread stage) (calm : Calm data (data.body stage).1) :
    Deliveries (data.body stage).1
      (Function.update pending thread (data.body stage).2.next?) := by
  have carried (courier : Courier Thread) (proxy : Nat)
      (carries : Carries (data.body stage).1
        (Function.update pending thread (data.body stage).2.next?) courier proxy) :
      Carries data pending courier proxy ∨
        (courier = .thread thread ∧ proxy ∈ (data.body stage).1.service.pendingSdp ∧
          ¬(serviceProxies.Registers pending proxy ∨ serviceProxies.Bound data pending proxy)) := by
    cases courier with
    | call serial =>
        obtain ⟨invite, found, bound⟩ := carries
        rw [calm.invites] at found
        exact Or.inl ⟨invite, found, calm.bound _ _ bound⟩
    | thread other =>
        by_cases own : other = thread
        · subst own
          obtain ⟨next, comes, delivers⟩ := carries
          rw [Function.update_self] at comes
          rcases next_delivers comes delivers with
            before | ⟨client, video, found, rfl, located, silent⟩
          · exact Or.inl ⟨stage, here, before⟩
          · refine Or.inr ⟨rfl, ?_, uninvolved_of_describe settled here apart located silent⟩
            exact awaited_of_describe comes
        · exact Or.inl (carries_other own (fun _ _ _ => calm.bound _ _) carries)
  refine ⟨?_, ?_⟩
  · intro courier other proxy first second
    rcases carried courier proxy first with before | ⟨own, _, uninvolved⟩ <;>
      rcases carried other proxy second with beforeToo | ⟨ownToo, _, uninvolvedToo⟩
    · exact deliveries.single courier other proxy before beforeToo
    · exact absurd (involved_of_carries before) uninvolvedToo
    · exact absurd (involved_of_carries beforeToo) uninvolved
    · exact own.trans ownToo.symm
  · intro courier proxy carries
    rcases carried courier proxy carries with before | ⟨_, awaited, _⟩
    · exact calm.awaited proxy (deliveries.awaited courier proxy before)
    · exact awaited

theorem deliveries_registerVideo {video : VideoRequest} {target : Option Nat}
    (deliveries : Deliveries data pending) (issued : Issued data pending)
    (here : pending thread = some (.registerVideo video target)) :
    Deliveries (data.registerVideo video target) (Function.update pending thread none) := by
  obtain ⟨sockets, service⟩ := SharedData.callErrors_sockets data.service
    (data.producer.registerVideo video target).effects
  have done (proxy : Nat) : ¬Carries (data.registerVideo video target)
      (Function.update pending thread none) (.thread thread) proxy := by
    rintro ⟨stage, comes, _⟩
    rw [Function.update_self] at comes
    cases comes
  refine deliveries.hand_over (.thread thread) (.call data.producer.nextSerial) ?_ done (by
    change (SharedData.callErrors _ _).pendingSdp = _
    rw [service])
  intro courier proxy carries
  cases courier with
  | call serial =>
      obtain ⟨invite, found, bound⟩ := carries
      rcases registerVideo_invites found with old | ⟨rfl, address, _⟩
      · have older := issued.context serial invite old
        rcases boundProxy?_registerVideo bound with before | ⟨new, _⟩
        · exact Or.inl ⟨invite, old, before⟩
        · exact absurd older (new ▸ Nat.lt_irrefl _)
      · rcases boundProxy?_registerVideo bound with before | ⟨_, own⟩
        · -- The address was free until now.
          obtain ⟨context, alive, _⟩ := Option.bind_eq_some_iff.mp before
          obtain ⟨strong, located⟩ := RtpProducer.cell?_of_get? alive
          exact absurd (SharedHeap.lt_next_of_cell? located) (address ▸ Nat.lt_irrefl _)
        · exact Or.inr ⟨rfl, _, here, own⟩
  | thread other =>
      have different : other ≠ thread := by
        rintro rfl
        exact done proxy carries
      refine Or.inl (carries_other different ?_ carries)
      intro invite completion comes bound
      have older := issued.callback other invite completion comes
      rcases boundProxy?_registerVideo bound with before | ⟨new, _⟩
      · exact before
      · exact absurd older (new ▸ Nat.lt_irrefl _)

/-- The SDP that is delivered is no longer awaited, and nobody else has it. -/
theorem deliveries_processSdp {proxy context : Nat} {video : VideoRequest}
    {gb : GbInviteVideoResponse} (deliveries : Deliveries data pending)
    (here : pending thread = some (.processSdp proxy video gb context)) :
    Deliveries (data.body (.processSdp proxy video gb context)).1
      (Function.update pending thread (some (.registerPeer gb.peerInfo context))) := by
  have own : Carries data pending (.thread thread) proxy := ⟨_, here, rfl⟩
  have carried (courier : Courier Thread) (other : Nat)
      (carries : Carries (data.body (.processSdp proxy video gb context)).1
        (Function.update pending thread (some (.registerPeer gb.peerInfo context))) courier other) :
      Carries data pending courier other ∧ courier ≠ .thread thread := by
    cases courier with
    | call serial =>
        obtain ⟨invite, found, bound⟩ := carries
        exact ⟨⟨invite, found, bound⟩, by simp⟩
    | thread elsewhere =>
        have different : elsewhere ≠ thread := by
          rintro rfl
          obtain ⟨stage, comes, delivers⟩ := carries
          rw [Function.update_self] at comes
          cases comes
          cases delivers
        refine ⟨carries_other different (fun _ _ _ => id) carries, ?_⟩
        rintro ⟨⟩
        exact different rfl
  refine deliveries.of_carried
    (fun courier other carries => (carried courier other carries).1) ?_
  intro courier other carries
  obtain ⟨before, elsewhere⟩ := carried courier other carries
  refine (List.mem_erase_of_ne ?_).mpr (deliveries.awaited courier other before)
  rintro rfl
  exact elsewhere (deliveries.single courier _ other before own)

theorem deliveries_run (deliveries : Deliveries data pending) (issued : Issued data pending)
    (settled : serviceProxies.Settled data pending) (here : pending thread = some stage)
    (apart : serviceScopes.Apart pending thread stage) :
    Deliveries (data.body stage).1
      (Function.update pending thread (data.body stage).2.next?) := by
  cases stage with
  | registerVideo video target => exact deliveries_registerVideo deliveries issued here
  | processSdp proxy video gb context => exact deliveries_processSdp deliveries here
  | _ => exact deliveries_calm deliveries settled here apart (body_calm data (by simp) (by simp))

omit [DecidableEq Client] in
theorem deliveries_start {call : ThreadCall Client} (deliveries : Deliveries data pending)
    (issued : Issued data pending) (idle : pending thread = none)
    (enters : data.enter call = some (later, stage)) :
    Deliveries later (Function.update pending thread (some stage)) ∧
      Issued later (Function.update pending thread (some stage)) := by
  -- Most calls begin with a section that delivers nothing.
  have plain (same : later = data) (none : ∀ proxy, stage.delivers? data ≠ some proxy)
      (callback : ∀ invite completion, stage ≠ .inviteCallback invite completion) :
      Deliveries later (Function.update pending thread (some stage)) ∧
        Issued later (Function.update pending thread (some stage)) := by
    subst same
    have carried (courier : Courier Thread) (proxy : Nat) (carries : Carries later
        (Function.update pending thread (some stage)) courier proxy) :
        Carries later pending courier proxy := by
      cases courier with
      | call serial => exact carries
      | thread other =>
          by_cases here : other = thread
          · subst here
            obtain ⟨found, comes, delivers⟩ := carries
            rw [Function.update_self] at comes
            cases comes
            exact absurd delivers (none proxy)
          · exact carries_other here (fun _ _ _ => id) carries
    refine ⟨deliveries.of_carried carried (fun courier proxy carries =>
      deliveries.awaited courier proxy (carried courier proxy carries)), issued.serial,
      issued.context, ?_⟩
    intro other invite completion comes
    by_cases here : other = thread
    · subst here
      rw [Function.update_self] at comes
      exact absurd (Option.some.inj comes) (callback invite completion)
    · rw [Function.update_of_ne here] at comes
      exact issued.callback other invite completion comes
  cases call with
  | accept | readcb | errorcb | datagram =>
      cases enters
      exact plain rfl (by simp [ServiceStage.delivers?]) (by simp)
  | registerVideo video | unregisterVideo video =>
      simp only [SharedData.enter] at enters
      split_ifs at enters
      cases enters
      exact plain rfl (by simp [ServiceStage.delivers?]) (by simp)
  | inviteCallback serial completion =>
      obtain ⟨invite, calling, same⟩ := Option.map_eq_some_iff.mp enters
      cases same
      have erased (other : Nat) (found : Invite)
          (still : (data.producer.completeCall serial).invites.find? other = some found) :
          other ≠ serial ∧ data.producer.invites.find? other = some found := by
        change (data.producer.invites.erase serial).find? other = some found at still
        rw [OrderedMap.find?_erase] at still
        split_ifs at still with gone
        exact ⟨gone, still⟩
      refine ⟨deliveries.hand_over (.call serial) (.thread thread) ?_ ?_ rfl, ?_⟩
      · intro courier proxy carries
        cases courier with
        | call other =>
            obtain ⟨found, still, bound⟩ := carries
            exact Or.inl ⟨found, (erased other found still).2, bound⟩
        | thread other =>
            by_cases here : other = thread
            · subst here
              obtain ⟨found, comes, delivers⟩ := carries
              rw [Function.update_self] at comes
              cases comes
              exact Or.inr ⟨rfl, invite, calling, delivers⟩
            · exact Or.inl (carries_other here (fun _ _ _ => id) carries)
      · rintro proxy ⟨found, still, _⟩
        exact (erased serial found still).1 rfl
      · refine ⟨?_, ?_, ?_⟩
        · exact fun other found still => issued.serial other found (erased other found still).2
        · exact fun other found still => issued.context other found (erased other found still).2
        · intro other found ending comes
          by_cases here : other = thread
          · subst here
            rw [Function.update_self] at comes
            cases comes
            exact issued.context serial invite calling
          · rw [Function.update_of_ne here] at comes
            exact issued.callback other found ending comes

end Steps

section Runs

variable [Fintype Thread] [DecidableEq Thread]

structure Delivering (state : ServiceThreads Thread Client) : Prop where
  regular : Regular state
  deliveries : Deliveries state.data (fun thread => (state.points thread).pending?)
  issued : Issued state.data (fun thread => (state.points thread).pending?)

omit [Fintype Thread] [DecidableEq Thread] in
theorem delivering_initial (config : ProducerConfig) :
    Delivering (initial config : ServiceThreads Thread Client) := by
  have nothing (courier : Courier Thread) (proxy : Nat) :
      ¬Carries (SharedData.initial config : SharedData Client) (fun _ => none) courier proxy := by
    cases courier with
    | thread thread =>
        rintro ⟨stage, comes, _⟩
        cases comes
    | call serial =>
        rintro ⟨invite, found, _⟩
        cases found
  refine ⟨regular_initial config, ⟨?_, ?_⟩, ⟨?_, ?_, ?_⟩⟩
  · exact fun courier _ proxy carries => absurd carries (nothing courier proxy)
  · exact fun courier proxy carries => absurd carries (nothing courier proxy)
  · intro serial invite found
    cases found
  · intro serial invite found
    cases found
  · intro thread invite completion comes
    cases comes

theorem delivering_step {state : ServiceThreads Thread Client}
    {step : ThreadStep Thread (ThreadCall Client)} (delivering : Delivering state) :
    Delivering (serviceProgram.perform state step) := by
  obtain ⟨regular, deliveries, issued⟩ := delivering
  have both : Deliveries (serviceProgram.perform state step).data
        (fun thread => ((serviceProgram.perform state step).points thread).pending?) ∧
      Issued (serviceProgram.perform state step).data
        (fun thread => ((serviceProgram.perform state step).points thread).pending?) := by
    refine pending_step (fun data pending => Deliveries data pending ∧ Issued data pending)
      ⟨deliveries, issued⟩ ?_ ?_
    · intro thread call data stage idle enters
      exact deliveries_start deliveries issued (by rw [idle]; rfl) enters
    · intro thread stage place
      have here : (state.points thread).pending? = some stage := by rw [place]; rfl
      exact ⟨deliveries_run deliveries issued regular.settled here
        (regular.toOrderly.apart place), issued_run issued⟩
  exact ⟨regular_step regular, both.1, both.2⟩

/-- However the threads take turns, the `processSdpFunc` of a proxy is with one of them at most,
and only while the SDP is awaited. -/
theorem delivering_after (config : ProducerConfig)
    (steps : List (ThreadStep Thread (ThreadCall Client))) : Delivering (after config steps) :=
  LabelledMachine.run_invariant Delivering (fun _ _ delivering => delivering_step delivering)
    (delivering_initial config) steps

end Runs

end ServiceThreads

end Ffvms.Concrete
