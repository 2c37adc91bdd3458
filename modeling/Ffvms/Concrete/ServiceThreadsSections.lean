/-
What the sections of the threads do.

The locks that a thread holds follow from the section it is in.  Of the map, a
section keeps every proxy under its key unless it is the last one of `Close`; of
the contexts, only a registration adds one.  What comes after a section, and what
the section has found, is said once.
-/

import Ffvms.Concrete.ServiceThreads
import Ffvms.Concrete.ServiceProducerAgreement

namespace Ffvms.Concrete

variable {Client : Type} [DecidableEq Client]

/-! ### Scopes -/

def ServiceStage.outer : ServiceStage Client → List (ServiceLock × LockMode)
  | .accept _ | .readcb _ _ | .errorcb _ | .inviteCallback _ _ | .datagram _ _
  | .registerVideo _ none | .unregisterVideo _ false => []
  | .onOptions _ _ | .onDescribe _ _ | .onPlay _ _ _ | .onPlayClients _ _ _ =>
      [(.rtspServer, .shared)]
  | .onOptionsClients _ _ | .onDescribeClients _ _ _ =>
      [(.proxyInfo, .exclusive), (.rtspServer, .shared)]
  | .registerVideo _ (some proxy) =>
      [(.client proxy, .exclusive), (.proxyInfo, .exclusive), (.rtspServer, .shared)]
  | .close _ => [(.rtspServer, .exclusive)]
  | .eraseProxy _ | .unregisterVideo _ true =>
      [(.proxyInfo, .exclusive), (.rtspServer, .exclusive)]
  | .processSdp _ _ _ _ | .registerPeer _ _ => [(.rtpContext, .shared)]
  | .handlePacket _ _ => [(.network, .shared)]
  | .consumePkt _ _ _ => [(.rtpContext, .shared), (.network, .shared)]

namespace SharedData

omit [DecidableEq Client] in
theorem outer_enter {data later : SharedData Client} {call : ThreadCall Client}
    {stage : ServiceStage Client} (enters : data.enter call = some (later, stage)) :
    stage.outer = [] := by
  cases call with
  | accept | readcb | errorcb | datagram =>
      cases enters
      rfl
  | registerVideo video | unregisterVideo video =>
      simp only [enter] at enters
      split_ifs at enters
      cases enters
      rfl
  | inviteCallback serial completion =>
      obtain ⟨invite, _, same⟩ := Option.map_eq_some_iff.mp enters
      cases same
      rfl

/-- A nested section begins with the locks of the one around it, and the section
after a scope with the locks that the scope began with. -/
def Follows (stage : ServiceStage Client) : StageExit (ServiceStage Client) → Prop
  | .nest next => next.outer = stage.lock?.toList ++ stage.outer
  | .leave next => next.outer = stage.outer ∧ stage.lock?.isSome
  | .finish => True

theorem body_follows (data : SharedData Client) (stage : ServiceStage Client) :
    Follows stage (data.body stage).2 := by
  cases stage with
  | accept | registerPeer | onOptionsClients | eraseProxy | registerVideo => trivial
  | readcb client request =>
      simp only [body]
      split_ifs
      · cases request <;> trivial
      · trivial
  | errorcb =>
      simp only [body]
      split_ifs <;> trivial
  | onOptions | onDescribe | onPlay | onPlayClients | datagram | handlePacket =>
      simp only [body]
      repeat' split
      all_goals trivial
  | onDescribeClients =>
      simp only [body, describeFound]
      repeat' split
      all_goals trivial
  | close =>
      simp only [body, closeFound]
      repeat' split
      all_goals trivial
  | inviteCallback =>
      simp only [body, acceptInvite]
      repeat' split
      all_goals trivial
  | unregisterVideo video closing =>
      cases closing
      · trivial
      · exact ⟨rfl, rfl⟩
  | processSdp => exact ⟨rfl, rfl⟩
  | consumePkt proxy packet rest =>
      cases rest
      · trivial
      · exact ⟨rfl, rfl⟩

end SharedData

def serviceScopes : (@serviceProgram Client _).Scopes :=
  { outer := ServiceStage.outer
    outer_enter := SharedData.outer_enter
    outer_nest := by
      intro data stage next way
      have follows := data.body_follows stage
      change (data.body stage).2 = _ at way
      rw [way] at follows
      exact follows
    outer_leave := by
      intro data stage next way
      have follows := data.body_follows stage
      change (data.body stage).2 = _ at way
      rw [way] at follows
      exact follows }

/-! ### What a section does to the map -/

namespace RtspService

omit [DecidableEq Client] in
theorem writeProxy_find? (service : RtspService Client) (identity : Nat)
    (change : ProxyInfo Client → ProxyInfo Client) (video : VideoRequest) :
    (service.writeProxy identity change).proxies.find? video =
      (service.proxies.find? video).map
        (fun info => if info.identity = identity then change info else info) :=
  OrderedMap.find?_mapValues_const _ _ _

omit [DecidableEq Client] in
theorem proxyAt?_eq_some {service : RtspService Client} {identity : Nat}
    {proxy : ProxyInfo Client} (located : service.proxyAt? identity = some proxy) :
    ∃ video, service.proxies.find? video = some proxy ∧ proxy.identity = identity := by
  obtain ⟨entry, found, rfl⟩ := Option.map_eq_some_iff.mp located
  have same := List.find?_some found
  exact ⟨entry.1, OrderedMap.find?_of_mem (List.mem_of_find?_eq_some found),
    of_decide_eq_true same⟩

/-- A proxy stays under its key, with its identity and its SDP; the proxies under
the `lost` keys are erased, those under the `excused` ones may be left by everyone
who has asked for the SDP. -/
structure Succeeds (service later : RtspService Client) (excused lost : VideoRequest → Prop) :
    Prop where
  former : ∀ video proxy, later.proxies.find? video = some proxy →
    (∃ old, service.proxies.find? video = some old ∧ old.identity = proxy.identity ∧
      (old.Speaks → proxy.Speaks ∧ (old.Asked → proxy.Asked ∨ excused video))) ∨
    (proxy.Speaks ∧ proxy.identity = service.nextIdentity ∧
      service.nextIdentity < later.nextIdentity)
  kept : ∀ video old, service.proxies.find? video = some old → ¬lost video →
    ∃ proxy, later.proxies.find? video = some proxy ∧ proxy.identity = old.identity
  erased : ∀ video, lost video → later.proxies.find? video = none
  grows : service.nextIdentity ≤ later.nextIdentity

omit [DecidableEq Client] in
theorem Succeeds.congr {service later result : RtspService Client}
    {excused lost : VideoRequest → Prop} (succeeds : Succeeds service later excused lost)
    (proxies : result.proxies = later.proxies)
    (nextIdentity : result.nextIdentity = later.nextIdentity) :
    Succeeds service result excused lost :=
  { former := by rw [proxies, nextIdentity]; exact succeeds.former
    kept := by rw [proxies]; exact succeeds.kept
    erased := by rw [proxies]; exact succeeds.erased
    grows := nextIdentity ▸ succeeds.grows }

omit [DecidableEq Client] in
theorem Succeeds.refl (service : RtspService Client) {excused lost : VideoRequest → Prop}
    (spares : ∀ video, ¬lost video) : Succeeds service service excused lost :=
  { former := fun _ proxy located => Or.inl ⟨proxy, located, rfl, fun speaks => ⟨speaks, Or.inl⟩⟩
    kept := fun _ old located _ => ⟨old, located, rfl⟩
    erased := fun video gone => absurd gone (spares video)
    grows := Nat.le_refl _ }

omit [DecidableEq Client] in
/-- Assignment through a pointer of something that keeps the identity, and forgets
neither the SDP nor the wait for it. -/
theorem succeeds_writeProxy (service : RtspService Client) (identity : Nat)
    {change : ProxyInfo Client → ProxyInfo Client} {excused lost : VideoRequest → Prop}
    (same : ∀ info, (change info).identity = info.identity)
    (keeps : ∀ info, info.Speaks → (change info).Speaks ∧ (info.Asked → (change info).Asked))
    (spares : ∀ video, ¬lost video) :
    Succeeds service (service.writeProxy identity change) excused lost := by
  refine
    { former := ?_
      kept := ?_
      erased := fun video gone => absurd gone (spares video)
      grows := Nat.le_refl _ }
  · intro video proxy located
    rw [writeProxy_find?] at located
    obtain ⟨old, found, rfl⟩ := Option.map_eq_some_iff.mp located
    refine Or.inl ⟨old, found, ?_⟩
    split_ifs
    · refine ⟨(same old).symm, fun speaks => ⟨(keeps old speaks).1, fun asked => ?_⟩⟩
      exact Or.inl ((keeps old speaks).2 asked)
    · exact ⟨rfl, fun speaks => ⟨speaks, Or.inl⟩⟩
  · intro video old located _
    refine ⟨_, (writeProxy_find? service identity change video).trans
      (congrArg (Option.map _) located), ?_⟩
    dsimp only
    split_ifs
    · exact same old
    · rfl

theorem succeeds_create {service : RtspService Client} {client : Client} {uri : String}
    {excused lost : VideoRequest → Prop}
    (absent : service.proxies.find? (VideoRequest.parseUrl uri) = none)
    (spares : ∀ video, ¬lost video) :
    Succeeds service (service.onOptions client uri).service excused lost := by
  have evolves := onOptions_evolves service client uri
  refine
    { former := ?_
      kept := ?_
      erased := fun video gone => absurd gone (spares video)
      grows := evolves.grows }
  · intro video proxy located
    rcases onOptions_former located with ⟨former, found, changed⟩ | ⟨_, created, counter⟩
    · refine Or.inl ⟨former, found, ?_⟩
      rw [changed]
      split_ifs
      · exact ⟨(ProxyInfo.identity_insertClient _ _ _).symm, fun speaks => ⟨speaks, Or.inl⟩⟩
      · exact ⟨rfl, fun speaks => ⟨speaks, Or.inl⟩⟩
    · refine Or.inr ⟨?_, ?_, by omega⟩
      · rw [created]
        exact ProxyInfo.speaks_create service.nextIdentity
      · rw [created, ProxyInfo.identity_insertClient]
        rfl
  · intro video old located _
    have other : video.cmpStr ≠ keyOf uri := by
      intro same
      rw [OrderedMap.find?_congr _ same, absent] at located
      cases located
    rw [onOptions_find?, if_neg other]
    exact ⟨old, located, rfl⟩

theorem succeeds_leave {service : RtspService Client} {client : Client} {video : VideoRequest}
    {left : ProxyInfo Client} {excused lost : VideoRequest → Prop}
    (scan : service.closeScan client = some (video, left))
    (excuses : left.needUnregistered → ∀ other, video.cmpStr = other.cmpStr → excused other)
    (spares : ∀ video, ¬lost video) :
    Succeeds service (service.storeProxy video left) excused lost := by
  obtain ⟨proxy, located, leaves⟩ : ∃ proxy, service.proxies.find? video = some proxy ∧
      proxy.leave client = some left := by
    obtain ⟨entry, member, found⟩ := List.exists_of_findSome?_eq_some scan
    obtain ⟨changed, leaves, same⟩ := Option.map_eq_some_iff.mp found
    cases same
    exact ⟨entry.2, OrderedMap.find?_of_mem member, leaves⟩
  have identity : left.identity = proxy.identity := by
    obtain ⟨phase, _held, leftEq, _first⟩ := ProxyInfo.leave_eq_some leaves
    rw [leftEq, ProxyInfo.identity_eraseClient]
  refine
    { former := ?_
      kept := ?_
      erased := fun video gone => absurd gone (spares video)
      grows := Nat.le_refl _ }
  · intro other changed found
    rw [storeProxy_find? service video other proxy left located] at found
    split_ifs at found with same
    · cases found
      refine Or.inl ⟨proxy, (OrderedMap.find?_congr _ same).trans located, identity.symm, ?_⟩
      intro speaks
      refine ⟨speaks.left leaves, fun _ => ?_⟩
      by_cases needed : left.needUnregistered
      · exact Or.inr (excuses needed other same.symm)
      · exact Or.inl ((speaks.left leaves).asked needed)
    · exact Or.inl ⟨changed, found, rfl, fun speaks => ⟨speaks, Or.inl⟩⟩
  · intro other old found _
    rw [storeProxy_find? service video other proxy left located]
    split_ifs with same
    · rw [OrderedMap.find?_congr _ same, located] at found
      cases found
      exact ⟨left, rfl, identity⟩
    · exact ⟨old, found, rfl⟩

omit [DecidableEq Client] in
theorem succeeds_erase (service : RtspService Client) {video : VideoRequest}
    {excused lost : VideoRequest → Prop}
    (own : ∀ other, lost other ↔ other.cmpStr = video.cmpStr) :
    Succeeds service { service with proxies := service.proxies.erase video } excused lost := by
  refine
    { former := ?_
      kept := ?_
      erased := ?_
      grows := Nat.le_refl _ }
  · intro other proxy located
    rw [OrderedMap.find?_erase] at located
    split_ifs at located
    exact Or.inl ⟨proxy, located, rfl, fun speaks => ⟨speaks, Or.inl⟩⟩
  · intro other old located different
    rw [OrderedMap.find?_erase, if_neg (fun same => different ((own other).mpr same))]
    exact ⟨old, located, rfl⟩
  · intro other gone
    rw [OrderedMap.find?_erase, if_pos ((own other).mp gone)]

end RtspService

namespace ServiceStage

def registers? : ServiceStage Client → Option Nat
  | .registerVideo _ target => target
  | _ => none

def target? : ServiceStage Client → Option Nat
  | .processSdp proxy _ _ _ | .consumePkt proxy _ _ => some proxy
  | _ => none

def closes? : ServiceStage Client → Option VideoRequest
  | .eraseProxy video | .unregisterVideo video true => some video
  | _ => none

def searches? : ServiceStage Client → Option String
  | .onOptions _ uri | .onDescribe _ uri | .onPlay _ uri _ => some uri
  | _ => none

def found? : ServiceStage Client → Option Nat
  | .onOptionsClients _ proxy | .onDescribeClients _ _ proxy | .onPlayClients _ proxy _ =>
      some proxy
  | .registerVideo _ target => target
  | _ => none

def erases? : ServiceStage Client → Option VideoRequest
  | .eraseProxy video => some video
  | _ => none

def Erases (stage : ServiceStage Client) (video : VideoRequest) : Prop :=
  ∃ key, stage.erases? = some key ∧ video.cmpStr = key.cmpStr

omit [DecidableEq Client] in
theorem not_erases {stage : ServiceStage Client} (none : stage.erases? = none)
    (video : VideoRequest) : ¬stage.Erases video := by
  rintro ⟨key, own, _⟩
  cases none.symm.trans own

def Closes (stage : ServiceStage Client) (video : VideoRequest) : Prop :=
  ∃ key, stage.closes? = some key ∧ key.cmpStr = video.cmpStr

end ServiceStage

namespace SharedData

theorem callErrors_unchanged (service : RtspService Client) (effects : List (Effect (Option Nat))) :
    (callErrors service effects).proxies = service.proxies ∧
      (callErrors service effects).nextIdentity = service.nextIdentity := by
  induction effects generalizing service with
  | nil => exact ⟨rfl, rfl⟩
  | cons effect rest ih =>
      obtain ⟨proxies, nextIdentity⟩ := ih (callErrors service [effect])
      have single : (callErrors service [effect]).proxies = service.proxies ∧
          (callErrors service [effect]).nextIdentity = service.nextIdentity := by
        simp only [callErrors, List.foldl_cons, List.foldl_nil]
        split <;> exact ⟨rfl, rfl⟩
      exact ⟨proxies.trans single.1, nextIdentity.trans single.2⟩

open RtspService

theorem describeFound_succeeds (data : SharedData Client) (client : Client)
    (video : VideoRequest) (proxy : Nat) (found : ProxyInfo Client)
    {excused lost : VideoRequest → Prop} (spares : ∀ video, ¬lost video) :
    Succeeds data.service (data.describeFound client video proxy found).1.service excused
      lost := by
  have stored : Succeeds data.service
      (data.service.writeProxy proxy (fun info => info.described client)) excused lost :=
    succeeds_writeProxy data.service proxy (fun info => info.identity_described client)
      (fun info speaks => ⟨speaks.described client, fun _ => info.asked_described client⟩) spares
  unfold describeFound
  dsimp only
  split_ifs
  · exact stored.congr rfl rfl
  · exact stored.congr (callErrors_unchanged _ _).1 (callErrors_unchanged _ _).2
  · exact stored.congr rfl rfl
  · exact stored

theorem closeFound_succeeds {data : SharedData Client} {client : Client} {video : VideoRequest}
    {left : ProxyInfo Client} {lost : VideoRequest → Prop}
    (scan : data.service.closeScan client = some (video, left)) (spares : ∀ video, ¬lost video) :
    Succeeds data.service (data.closeFound video left).1.service
      (fun other => ∃ next, (data.closeFound video left).2.next? = some next ∧
        next.Closes other) lost := by
  have stored {excused : VideoRequest → Prop}
      (excuses : left.needUnregistered → ∀ other, video.cmpStr = other.cmpStr → excused other) :=
    succeeds_leave scan excuses spares
  unfold closeFound
  dsimp only
  split_ifs with needed registered takes
  · exact stored (fun _ _ same => ⟨_, rfl, video, rfl, same⟩)
  · exact (stored (fun _ _ same => ⟨_, rfl, video, rfl, same⟩)).congr rfl rfl
  · exact stored (fun _ _ same => ⟨_, rfl, video, rfl, same⟩)
  · exact stored (fun impossible => absurd impossible needed)

theorem acceptInvite_proxies (data : SharedData Client) (invite : Invite)
    (completion : Completion) (locked : SharedHeap (RtpVideoContext (Option Nat)))
    (context : RtpVideoContext (Option Nat)) :
    (data.acceptInvite invite completion locked context).1.service.proxies =
        data.service.proxies ∧
      (data.acceptInvite invite completion locked context).1.service.nextIdentity =
        data.service.nextIdentity := by
  unfold acceptInvite
  dsimp only
  split
  · exact callErrors_unchanged _ _
  · exact ⟨rfl, rfl⟩
  · exact ⟨rfl, rfl⟩

/-- What the body of a section does to the map: only `Close` erases a proxy, and
the section that follows says which proxy everyone has left. -/
theorem body_succeeds (data : SharedData Client) (stage : ServiceStage Client) :
    Succeeds data.service (data.body stage).1.service
      (fun video => ∃ next, (data.body stage).2.next? = some next ∧ next.Closes video)
      stage.Erases := by
  -- Most sections leave the map and the counter alone.
  have same {stage : ServiceStage Client} {later : RtspService Client}
      {excused : VideoRequest → Prop} (none : stage.erases? = none)
      (proxies : later.proxies = data.service.proxies)
      (nextIdentity : later.nextIdentity = data.service.nextIdentity) :
      Succeeds data.service later excused stage.Erases :=
    (Succeeds.refl data.service (ServiceStage.not_erases none)).congr proxies nextIdentity
  cases stage with
  | eraseProxy video =>
      refine succeeds_erase data.service (fun other => ?_)
      constructor
      · rintro ⟨key, own, sameKey⟩
        cases own
        exact sameKey
      · exact fun sameKey => ⟨video, rfl, sameKey⟩
  | accept | registerPeer | unregisterVideo | consumePkt =>
      exact same rfl rfl rfl
  | readcb client request =>
      have unchanged : (data.body (.readcb client request)).1 = data := by
        simp only [body]
        split_ifs
        · cases request <;> rfl
        · rfl
      rw [unchanged]
      exact same rfl rfl rfl
  | onDescribe | onPlay | datagram =>
      simp only [body]
      split <;> exact same rfl rfl rfl
  | handlePacket =>
      simp only [body]
      repeat' split
      all_goals exact same rfl rfl rfl
  | errorcb =>
      simp only [body]
      split_ifs <;> exact same rfl rfl rfl
  | onOptions client uri =>
      simp only [body]
      split
      next absent => exact succeeds_create absent (ServiceStage.not_erases rfl)
      next => exact same rfl rfl rfl
  | onOptionsClients client proxy =>
      have joined {excused lost : VideoRequest → Prop} (spares : ∀ video, ¬lost video) :
          Succeeds data.service (data.service.writeProxy proxy
            (fun info => info.insertClient client .beforeDescribe)) excused lost :=
        succeeds_writeProxy data.service proxy (fun info => info.identity_insertClient client _)
          (fun info speaks => ⟨speaks, id⟩) spares
      exact (joined (ServiceStage.not_erases rfl)).congr rfl rfl
  | onDescribeClients client video proxy =>
      simp only [body]
      split
      next => exact same rfl rfl rfl
      next found _ =>
        exact data.describeFound_succeeds client video proxy found (ServiceStage.not_erases rfl)
  | onPlayClients client proxy npt =>
      have stored {excused lost : VideoRequest → Prop} (spares : ∀ video, ¬lost video) :
          Succeeds data.service (data.service.writeProxy proxy (fun info => info.played client))
            excused lost :=
        succeeds_writeProxy data.service proxy (fun info => info.identity_played client)
          (fun info speaks => ⟨speaks.played client, fun asked => asked.played client⟩) spares
      simp only [body]
      split
      next => exact same rfl rfl rfl
      next found _ =>
        split_ifs
        · exact (stored (ServiceStage.not_erases rfl)).congr rfl rfl
        · exact same rfl rfl rfl
  | close client =>
      simp only [body]
      split
      next => exact same rfl rfl rfl
      next video left scan => exact closeFound_succeeds scan (ServiceStage.not_erases rfl)
  | registerVideo video target =>
      exact same rfl (callErrors_unchanged _ _).1 (callErrors_unchanged _ _).2
  | inviteCallback invite completion =>
      simp only [body]
      split
      next => exact same rfl rfl rfl
      next locked context _ =>
        obtain ⟨proxies, nextIdentity⟩ :=
          data.acceptInvite_proxies invite completion locked context
        exact same rfl proxies nextIdentity
  | processSdp proxy video gb context =>
      have text := RtpProducer.gbSdp_ne_empty video gb
      have told {excused lost : VideoRequest → Prop} (spares : ∀ video, ¬lost video) :
          Succeeds data.service (data.service.writeProxy proxy
            (fun info => info.acceptSdp (gbSdp video gb))) excused lost :=
        succeeds_writeProxy data.service proxy (fun _ => rfl)
          (fun info _ => ⟨fun _ _ => text, fun _ => Or.inr text⟩) spares
      exact (told (ServiceStage.not_erases rfl)).congr rfl rfl

/-! ### What a section does to the contexts -/

def ContextFor (data : SharedData Client) (proxy : Nat) : Prop :=
  ∃ address cell, data.producer.heap.cell? address = some cell ∧
    cell.object.registration.target = some proxy

omit [DecidableEq Client] in
theorem ContextFor.of_same {data later : SharedData Client} {proxy : Nat}
    (served : later.ContextFor proxy) (heap : later.producer.heap = data.producer.heap) :
    data.ContextFor proxy := by
  unfold ContextFor at served ⊢
  rwa [heap] at served

end SharedData

namespace RtpProducer

variable {Target : Type}

theorem heap_registerVideo_of_not (producer : RtpProducer Target) {video : VideoRequest}
    (target : Target) (other : ¬video.TakesContextLock) :
    (producer.registerVideo video target).producer.heap = producer.heap := by
  unfold registerVideo
  split_ifs with isFile isGb
  · unfold registerFile
    split <;> rfl
  · exact absurd ⟨Bool.eq_false_of_not_eq_true isFile, isGb⟩ other
  · rfl

theorem cell?_registerVideo {producer : RtpProducer Target} {video : VideoRequest}
    {target : Target} {address : Nat} {cell : SharedCell (RtpVideoContext Target)}
    (found : (producer.registerVideo video target).producer.heap.cell? address = some cell) :
    producer.heap.cell? address = some cell ∨ cell.object.registration.target = target := by
  by_cases takes : video.TakesContextLock
  · obtain ⟨noFile, isGb⟩ := takes
    simp only [registerVideo, noFile, isGb, Bool.false_eq_true, if_false, if_true, registerGb]
      at found
    split at found
    next => exact Or.inl found
    next =>
      have added : (producer.takeSerial.addRtpContext video ⟨producer.nextSerial, target⟩).heap.cell?
          address = some cell := by
        split at found <;> exact found
      rw [cell?_addRtpContext] at added
      split_ifs at added
      · cases added
        exact Or.inr rfl
      · exact Or.inl added
  · rw [heap_registerVideo_of_not producer target takes] at found
    exact Or.inl found

theorem cell?_unregisterVideo {producer : RtpProducer Target} {video : VideoRequest}
    {address : Nat} {cell : SharedCell (RtpVideoContext Target)}
    (found : (producer.unregisterVideo video).producer.heap.cell? address = some cell) :
    ∃ old, producer.heap.cell? address = some old ∧ cell.object = old.object := by
  unfold unregisterVideo at found
  split_ifs at found
  · exact ⟨cell, found, rfl⟩
  · split at found
    next => exact ⟨cell, found, rfl⟩
    next removed _ =>
      change (producer.heap.release removed).cell? address = some cell at found
      rw [SharedHeap.cell?_release] at found
      split_ifs at found
      · obtain ⟨old, located, kept⟩ := Option.bind_eq_some_iff.mp found
        split_ifs at kept
        cases kept
        exact ⟨old, located, rfl⟩
      · exact ⟨cell, found, rfl⟩
  · exact ⟨cell, found, rfl⟩

end RtpProducer

namespace SharedData

theorem heap_describeFound (data : SharedData Client) (client : Client) (video : VideoRequest)
    (proxy : Nat) (found : ProxyInfo Client) :
    (data.describeFound client video proxy found).1.producer.heap = data.producer.heap := by
  unfold describeFound
  dsimp only
  split_ifs with _ takes
  · rfl
  · exact RtpProducer.heap_registerVideo_of_not _ _ takes
  · rfl
  · rfl

omit [DecidableEq Client] in
theorem contextFor_of_unregisterVideo {data : SharedData Client} {video : VideoRequest}
    {proxy : Nat} (bound : (data.unregisterVideo video).ContextFor proxy) :
    data.ContextFor proxy := by
  obtain ⟨address, cell, found, own⟩ := bound
  obtain ⟨old, located, object⟩ := RtpProducer.cell?_unregisterVideo found
  exact ⟨address, old, located, object ▸ own⟩

theorem contextFor_of_closeFound {data : SharedData Client} {video : VideoRequest}
    {left : ProxyInfo Client} {proxy : Nat}
    (bound : (data.closeFound video left).1.ContextFor proxy) : data.ContextFor proxy := by
  unfold closeFound at bound
  dsimp only at bound
  split_ifs at bound
  · exact bound
  · exact contextFor_of_unregisterVideo bound
  · exact bound
  · exact bound

theorem contextFor_of_acceptInvite {data : SharedData Client} {invite : Invite}
    {completion : Completion} {locked : SharedHeap (RtpVideoContext (Option Nat))}
    {context : RtpVideoContext (Option Nat)} {proxy : Nat}
    (locks : data.producer.heap.lock invite.context = some (locked, context))
    (bound : (data.acceptInvite invite completion locked context).1.ContextFor proxy) :
    data.ContextFor proxy := by
  obtain ⟨object, alive, same⟩ := Option.map_eq_some_iff.mp locks
  cases same
  obtain ⟨strong, located⟩ := RtpProducer.cell?_of_get? alive
  obtain ⟨address, cell, found, own⟩ := bound
  have changed : (data.producer.unlock ((data.producer.heap.share invite.context).update
      invite.context (context.accept data.producer.config completion).1)
        invite.context).heap.cell? address = some cell := by
    unfold acceptInvite at found
    dsimp only at found
    split at found <;> exact found
  rw [RtpProducer.cell?_unlock_update] at changed
  split_ifs at changed with here
  · rw [here, located] at changed
    cases changed
    rw [RtpVideoContext.accept_registration] at own
    exact ⟨invite.context, _, located, own⟩
  · exact ⟨address, cell, changed, own⟩

theorem body_contextFor {data : SharedData Client} {stage : ServiceStage Client} {proxy : Nat}
    (bound : (data.body stage).1.ContextFor proxy) :
    data.ContextFor proxy ∨ stage.registers? = some proxy := by
  have same {later : SharedData Client} (heap : later.producer.heap = data.producer.heap)
      (found : later.ContextFor proxy) : data.ContextFor proxy := by
    unfold ContextFor at found ⊢
    rwa [heap] at found
  cases stage with
  | accept | onOptionsClients | eraseProxy | registerPeer | processSdp | consumePkt =>
      exact Or.inl (same rfl bound)
  | readcb client request =>
      left
      simp only [body] at bound
      split_ifs at bound
      · cases request <;> exact same rfl bound
      · exact same rfl bound
  | errorcb =>
      left
      simp only [body] at bound
      split_ifs at bound <;> exact same rfl bound
  | onOptions | onDescribe | onPlay | onPlayClients | datagram | handlePacket =>
      left
      simp only [body] at bound
      repeat' split at bound
      all_goals exact same rfl bound
  | close client =>
      left
      simp only [body] at bound
      split at bound
      next => exact bound
      next video left _ => exact contextFor_of_closeFound bound
  | onDescribeClients client video pointer =>
      left
      simp only [body] at bound
      split at bound
      next => exact bound
      next found _ => exact same (heap_describeFound data client video pointer found) bound
  | registerVideo video target =>
      obtain ⟨address, cell, found, own⟩ := bound
      rcases RtpProducer.cell?_registerVideo found with old | new
      · exact Or.inl ⟨address, cell, old, own⟩
      · exact Or.inr (new.symm.trans own)
  | unregisterVideo video closing => exact Or.inl (contextFor_of_unregisterVideo bound)
  | inviteCallback invite completion =>
      left
      simp only [body] at bound
      split at bound
      next => exact bound
      next locked context locks => exact contextFor_of_acceptInvite locks bound

/-! ### What follows a section -/

inductive NextStage (data : SharedData Client) : ServiceStage Client → ServiceStage Client → Prop
  | options (client : Client) (uri : String) :
      NextStage data (.readcb client (.options uri)) (.onOptions client uri)
  | describe (client : Client) (uri : String) :
      NextStage data (.readcb client (.describe uri)) (.onDescribe client uri)
  | play (client : Client) (uri : String) (npt : Option Int) :
      NextStage data (.readcb client (.play uri npt)) (.onPlay client uri npt)
  | join (client : Client) (uri : String) (found : ProxyInfo Client)
      (located : data.service.proxies.find? (VideoRequest.parseUrl uri) = some found) :
      NextStage data (.onOptions client uri) (.onOptionsClients client found.identity)
  | ask (client : Client) (uri : String) (found : ProxyInfo Client)
      (located : data.service.proxies.find? (VideoRequest.parseUrl uri) = some found) :
      NextStage data (.onDescribe client uri)
        (.onDescribeClients client (VideoRequest.parseUrl uri) found.identity)
  | stream (client : Client) (uri : String) (npt : Option Int) (found : ProxyInfo Client)
      (located : data.service.proxies.find? (VideoRequest.parseUrl uri) = some found) :
      NextStage data (.onPlay client uri npt) (.onPlayClients client found.identity npt)
  | register (client : Client) (video : VideoRequest) (proxy : Nat) (found : ProxyInfo Client)
      (located : data.service.proxyAt? proxy = some found) (silent : ¬found.Asked) :
      NextStage data (.onDescribeClients client video proxy) (.registerVideo video (some proxy))
  | close (client : Client) : NextStage data (.errorcb client) (.close client)
  | unregister (client : Client) (video : VideoRequest) :
      NextStage data (.close client) (.unregisterVideo video true)
  | erase (client : Client) (video : VideoRequest) :
      NextStage data (.close client) (.eraseProxy video)
  | unregistered (video : VideoRequest) :
      NextStage data (.unregisterVideo video true) (.eraseProxy video)
  | foreign (invite : Invite) (completion : Completion) (gb : GbInviteVideoResponse) :
      NextStage data (.inviteCallback invite completion)
        (.registerPeer gb.peerInfo invite.context)
  | sdp (invite : Invite) (completion : Completion) (gb : GbInviteVideoResponse) (proxy : Nat)
      (bound : data.ContextFor proxy) :
      NextStage data (.inviteCallback invite completion)
        (.processSdp proxy invite.video gb invite.context)
  | peer (proxy : Nat) (video : VideoRequest) (gb : GbInviteVideoResponse) (context : Nat) :
      NextStage data (.processSdp proxy video gb context) (.registerPeer gb.peerInfo context)
  | handle (peer : String) (packets : List (List UInt8)) (context : Nat) :
      NextStage data (.datagram peer packets) (.handlePacket context packets)
  | consume (context : Nat) (packet : List UInt8) (rest : List (List UInt8)) (proxy : Nat)
      (bound : data.ContextFor proxy) :
      NextStage data (.handlePacket context (packet :: rest)) (.consumePkt proxy packet rest)
  | more (proxy : Nat) (packet next : List UInt8) (later : List (List UInt8)) :
      NextStage data (.consumePkt proxy packet (next :: later)) (.consumePkt proxy next later)

omit [DecidableEq Client] in
theorem contextFor_of_get? {data : SharedData Client} {address : Nat} {proxy : Nat}
    {context : RtpVideoContext (Option Nat)}
    (alive : data.producer.heap.get? address = some context)
    (own : context.registration.target = some proxy) : data.ContextFor proxy := by
  obtain ⟨strong, located⟩ := RtpProducer.cell?_of_get? alive
  exact ⟨address, _, located, own⟩

theorem next_stage {data : SharedData Client} {stage next : ServiceStage Client}
    (follows : (data.body stage).2.next? = some next) : NextStage data stage next := by
  cases stage with
  | accept | onOptionsClients | eraseProxy | registerVideo | registerPeer => cases follows
  | readcb client request =>
      simp only [body] at follows
      split_ifs at follows
      · cases request <;> cases follows <;> constructor
      · cases follows
  | errorcb client =>
      simp only [body] at follows
      split_ifs at follows <;> cases follows
      exact .close client
  | onOptions client uri =>
      simp only [body] at follows
      split at follows <;> cases follows
      next found located => exact .join client uri found located
  | onDescribe client uri =>
      simp only [body] at follows
      split at follows <;> cases follows
      next found located => exact .ask client uri found located
  | onPlay client uri npt =>
      simp only [body] at follows
      split at follows <;> cases follows
      next found located => exact .stream client uri npt found located
  | onPlayClients =>
      simp only [body] at follows
      repeat' split at follows
      all_goals cases follows
  | onDescribeClients client video proxy =>
      simp only [body] at follows
      split at follows
      next => cases follows
      next found located =>
        unfold describeFound at follows
        dsimp only at follows
        split_ifs at follows with registers <;> cases follows
        refine .register client video proxy found located ?_
        rintro (waiting | heard)
        · exact waiting.ne_empty registers.2
        · exact heard registers.1
  | close client =>
      simp only [body] at follows
      split at follows
      next => cases follows
      next video left _ =>
        unfold closeFound at follows
        dsimp only at follows
        split_ifs at follows <;> cases follows
        all_goals constructor
  | unregisterVideo video closing =>
      cases closing <;> cases follows
      exact .unregistered video
  | inviteCallback invite completion =>
      simp only [body] at follows
      split at follows
      next => cases follows
      next locked context locks =>
        obtain ⟨object, alive, same⟩ := Option.map_eq_some_iff.mp locks
        cases same
        unfold acceptInvite at follows
        dsimp only at follows
        split at follows <;> cases follows
        · exact .foreign invite completion _
        next gb proxy _ own =>
          exact .sdp invite completion gb proxy (contextFor_of_get? alive own)
  | processSdp proxy video gb context =>
      cases follows
      exact .peer proxy video gb context
  | datagram peer packets =>
      simp only [body] at follows
      split at follows <;> cases follows
      exact .handle peer packets _
  | handlePacket context packets =>
      simp only [body] at follows
      split at follows
      next found packet rest alive =>
        split at follows <;> cases follows
        next proxy own =>
          exact .consume context packet rest proxy (contextFor_of_get? alive own)
      next => cases follows
  | consumePkt proxy packet rest =>
      cases rest with
      | nil => cases follows
      | cons next later =>
          cases follows
          exact .more proxy packet next later

omit [DecidableEq Client] in
theorem NextStage.registers {data : SharedData Client} {stage next : ServiceStage Client}
    {proxy : Nat} (follows : NextStage data stage next)
    (registers : next.registers? = some proxy) :
    ∃ client video found, stage = .onDescribeClients client video proxy ∧
      data.service.proxyAt? proxy = some found ∧ ¬found.Asked := by
  cases follows with
  | register client video pointer found located silent =>
      cases registers
      exact ⟨client, video, found, rfl, located, silent⟩
  | _ => cases registers

omit [DecidableEq Client] in
theorem NextStage.target {data : SharedData Client} {stage next : ServiceStage Client}
    {proxy : Nat} (follows : NextStage data stage next) (target : next.target? = some proxy) :
    data.ContextFor proxy ∨ stage.target? = some proxy := by
  cases follows with
  | sdp invite completion gb pointer bound =>
      cases target
      exact Or.inl bound
  | consume context packet rest pointer bound =>
      cases target
      exact Or.inl bound
  | more pointer packet next later =>
      cases target
      exact Or.inr rfl
  | _ => cases target

omit [DecidableEq Client] in
theorem NextStage.found {data : SharedData Client} {stage next : ServiceStage Client}
    {proxy : Nat} (follows : NextStage data stage next) (found : next.found? = some proxy) :
    data.service.Live proxy := by
  have live {video : VideoRequest} {info : ProxyInfo Client}
      (located : data.service.proxies.find? video = some info) : data.service.Live info.identity :=
    RtspService.live_iff.mpr ⟨video, info, located, rfl⟩
  cases follows with
  | join client uri info located | ask client uri info located
  | stream client uri npt info located =>
      cases found
      exact live located
  | register client video pointer info located silent =>
      cases found
      obtain ⟨key, there, own⟩ := RtspService.proxyAt?_eq_some located
      exact own ▸ live there
  | _ => cases found

omit [DecidableEq Client] in
theorem NextStage.keeps {data : SharedData Client} {stage next : ServiceStage Client}
    {proxy : Nat} (follows : NextStage data stage next) (found : stage.found? = some proxy) :
    next.found? = some proxy := by
  cases follows with
  | register => exact found
  | _ => cases found

theorem next_closes {data : SharedData Client} {stage : ServiceStage Client}
    {key : VideoRequest} (closes : stage.closes? = some key) :
    (∃ next, (data.body stage).2.next? = some next ∧ next.closes? = some key) ∨
      stage.erases? = some key := by
  cases stage with
  | eraseProxy video =>
      cases closes
      exact Or.inr rfl
  | unregisterVideo video closing =>
      cases closing
      · cases closes
      · cases closes
        exact Or.inl ⟨_, rfl, rfl⟩
  | _ => cases closes

end SharedData

end Ffvms.Concrete
