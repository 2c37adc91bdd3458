/-
States of the service that agree, and proxies that are spent.

Two states agree if they differ in the closed sockets only; nothing reads those.  A proxy that
nobody waits for may be erased early without a callback noticing, and a proxy whose SDP has
come gets no other one.
-/

import Ffvms.Concrete.ServiceThreadsSections

namespace Ffvms.Concrete

variable {Client : Type} [DecidableEq Client]

namespace RtspService

def withSockets (service : RtspService Client) (sockets : Finset Client) : RtspService Client :=
  { service with closedSockets := sockets }

def without (service : RtspService Client) (video : VideoRequest) : RtspService Client :=
  { service with proxies := service.proxies.erase video }

/-! ### Agreement apart from the sockets -/

def Agrees (service other : RtspService Client) : Prop :=
  ∃ sockets, other = service.withSockets sockets

section Agreement

variable {service other : RtspService Client}

omit [DecidableEq Client] in
theorem Agrees.refl (service : RtspService Client) : service.Agrees service :=
  ⟨service.closedSockets, rfl⟩

omit [DecidableEq Client] in
theorem Agrees.symm (agrees : service.Agrees other) : other.Agrees service := by
  obtain ⟨sockets, rfl⟩ := agrees
  exact ⟨service.closedSockets, rfl⟩

omit [DecidableEq Client] in
theorem Agrees.trans {third : RtspService Client} (first : service.Agrees other)
    (second : other.Agrees third) : service.Agrees third := by
  obtain ⟨sockets, rfl⟩ := first
  obtain ⟨closed, rfl⟩ := second
  exact ⟨closed, rfl⟩

omit [DecidableEq Client] in
theorem Agrees.proxies (agrees : service.Agrees other) : other.proxies = service.proxies := by
  obtain ⟨sockets, rfl⟩ := agrees
  rfl

omit [DecidableEq Client] in
theorem Agrees.without (agrees : service.Agrees other) (video : VideoRequest) :
    (service.without video).Agrees (other.without video) := by
  obtain ⟨sockets, rfl⟩ := agrees
  exact ⟨sockets, rfl⟩

omit [DecidableEq Client] in
theorem Agrees.consistent (agrees : service.Agrees other) (consistent : service.Consistent) :
    other.Consistent := by
  obtain ⟨sockets, rfl⟩ := agrees
  exact ⟨consistent.sound, consistent.distinct, consistent.fresh, consistent.pendingFresh,
    consistent.pendingNodup⟩

theorem Agrees.next (agrees : service.Agrees other) (step : Step Client) :
    (machine.next service step).Agrees (machine.next other step) := by
  obtain ⟨sockets, rfl⟩ := agrees
  cases step with
  | options client uri =>
      refine ⟨sockets, ?_⟩
      simp only [machine, perform, onOptions, withSockets]
      split <;> rfl
  | describe client uri =>
      refine ⟨sockets, ?_⟩
      simp only [machine, perform, onDescribe, withSockets]
      split
      · rfl
      · split_ifs <;> rfl
  | play client uri npt =>
      refine ⟨sockets, ?_⟩
      simp only [machine, perform, onPlay, withSockets]
      split
      · rfl
      · split_ifs <;> rfl
  | close client =>
      refine ⟨sockets, ?_⟩
      simp only [machine, perform, close, closeScan, withSockets]
      split
      · rfl
      · split_ifs <;> rfl
  | processSdp proxy sdp => exact ⟨sockets, rfl⟩
  | consumePkt proxy data => exact ⟨sockets, rfl⟩
  | processError proxy => exact ⟨_, rfl⟩

theorem Agrees.run (agrees : service.Agrees other) (moves : List (Step Client)) :
    (machine.run service moves).Agrees (machine.run other moves) := by
  induction moves generalizing service other with
  | nil => exact agrees
  | cons move rest ih => exact ih (agrees.next move)

theorem Agrees.along (agrees : service.Agrees other) {moves : List (Step Client)}
    (delivered : machine.Along SdpDelivered service moves) :
    machine.Along SdpDelivered other moves := by
  induction moves generalizing service other with
  | nil => trivial
  | cons move rest ih =>
      refine ⟨?_, ih (agrees.next move) delivered.2⟩
      obtain ⟨sockets, rfl⟩ := agrees
      cases move with
      | processSdp proxy sdp => exact delivered.1
      | options | describe | play | close | consumePkt | processError => trivial

end Agreement

/-! ### Pointers and keys -/

omit [DecidableEq Client] in
/-- In a consistent map a pointer and a key lead to one proxy. -/
theorem identity_iff {service : RtspService Client} (consistent : service.Consistent)
    {video : VideoRequest} {info : ProxyInfo Client}
    (located : service.proxies.find? video = some info) {entry : VideoRequest × ProxyInfo Client}
    (member : entry ∈ service.proxies.entries) :
    entry.2.identity = info.identity ↔ entry.1.cmpStr = video.cmpStr := by
  have found := OrderedMap.find?_of_mem member
  constructor
  · exact consistent.distinct entry.1 video entry.2 info found located
  · intro same
    rw [OrderedMap.find?_congr _ same, located] at found
    rw [Option.some.inj found]

omit [DecidableEq Client] in
theorem writeProxy_eq_storeProxy {service : RtspService Client} (consistent : service.Consistent)
    {video : VideoRequest} {info : ProxyInfo Client}
    (located : service.proxies.find? video = some info)
    (change : ProxyInfo Client → ProxyInfo Client) :
    service.writeProxy info.identity change = service.storeProxy video (change info) := by
  have same : service.proxies.mapValues
        (fun _ proxy => if proxy.identity = info.identity then change proxy else proxy) =
      service.proxies.modify video (fun _ => change info) := by
    refine OrderedMap.mapValues_congr ?_
    intro entry member
    have found := OrderedMap.find?_of_mem member
    by_cases here : entry.1.cmpStr = video.cmpStr
    · rw [if_pos ((identity_iff consistent located member).mpr here), if_pos here]
      rw [OrderedMap.find?_congr _ here, located] at found
      rw [Option.some.inj found]
    · rw [if_neg (fun own => here ((identity_iff consistent located member).mp own)), if_neg here]
  unfold writeProxy storeProxy
  rw [same]

omit [DecidableEq Client] in
theorem proxyAt?_of_find? {service : RtspService Client} (consistent : service.Consistent)
    {video : VideoRequest} {info : ProxyInfo Client}
    (located : service.proxies.find? video = some info) :
    service.proxyAt? info.identity = some info := by
  cases place : service.proxyAt? info.identity with
  | none =>
      obtain ⟨stored, _, member⟩ := OrderedMap.find?_eq_some_iff.mp located
      have absent := List.find?_eq_none.mp (Option.map_eq_none_iff.mp place) _ member
      exact absurd (decide_eq_true rfl) absent
  | some found =>
      obtain ⟨key, there, own⟩ := proxyAt?_eq_some place
      have same := consistent.distinct key video found info there located own
      rw [OrderedMap.find?_congr _ same, located] at there
      exact there.symm

/-! ### Proxies that nobody waits for -/

def Deserted (service : RtspService Client) (video : VideoRequest) : Prop :=
  ∀ info, service.proxies.find? video = some info → info.needUnregistered

/-- The callbacks do not see whether a deserted proxy has been erased. -/
theorem boundTo_without {service : RtspService Client} {video : VideoRequest}
    (deserted : service.Deserted video) (phase : Phase) (later : phase ≠ .beforeDescribe)
    (proxy : Nat) (client : Client) :
    (service.without video).boundTo proxy phase client = service.boundTo proxy phase client := by
  rw [Bool.eq_iff_iff]
  simp only [boundTo, List.any_eq_true, decide_eq_true_eq]
  constructor
  · rintro ⟨entry, member, own⟩
    exact ⟨entry, (List.mem_filter.mp member).1, own⟩
  · rintro ⟨entry, member, own, held⟩
    refine ⟨entry, List.mem_filter.mpr ⟨member, decide_eq_true ?_⟩, own, held⟩
    intro same
    have located := OrderedMap.find?_of_mem member
    rw [OrderedMap.find?_congr _ same] at located
    obtain ⟨waiting, ready, playing⟩ := deserted entry.2 located
    cases phase with
    | beforeDescribe => exact later rfl
    | waitingSdp => exact Finset.notMem_empty client (waiting ▸ held)
    | beforePlay => exact Finset.notMem_empty client (ready ▸ held)
    | playing => exact Finset.notMem_empty client (playing ▸ held)

theorem processSdp_without {service : RtspService Client} {video : VideoRequest}
    (deserted : service.Deserted video) (proxy : Nat) (sdp : String) :
    (service.without video).processSdpFunction proxy sdp =
      (service.processSdpFunction proxy sdp).without video := by
  have bound := boundTo_without deserted .waitingSdp (by simp) proxy
  simp only [processSdpFunction, bound]
  simp only [without, OrderedMap.erase_mapValues]

theorem consumePkt_without {service : RtspService Client} {video : VideoRequest}
    (deserted : service.Deserted video) (proxy : Nat) (data : List UInt8) :
    (service.without video).consumePktFunction proxy data =
      (service.consumePktFunction proxy data).without video := by
  have bound := boundTo_without deserted .playing (by simp) proxy
  simp only [consumePktFunction, bound]
  rfl

theorem deserted_processSdp {service : RtspService Client} {video : VideoRequest}
    (deserted : service.Deserted video) (proxy : Nat) (sdp : String) :
    (service.processSdpFunction proxy sdp).Deserted video := by
  intro info located
  change (service.proxies.mapValues _).find? video = some info at located
  rw [OrderedMap.find?_mapValues_const] at located
  obtain ⟨old, found, rfl⟩ := Option.map_eq_some_iff.mp located
  obtain ⟨waiting, ready, playing⟩ := deserted old found
  split_ifs
  · refine ⟨rfl, ?_, playing⟩
    change old.beforePlayClients ∪ old.waitingSdpClients = ∅
    rw [waiting, ready, Finset.union_empty]
  · exact ⟨waiting, ready, playing⟩

/-! ### The SDP of a proxy comes once -/

/-- The SDP of the proxy has come, and no other one will. -/
structure Spent (service : RtspService Client) (proxy : Nat) : Prop where
  delivered : proxy ∉ service.pendingSdp
  issued : proxy < service.nextIdentity
  speaks : ∀ video info, service.proxies.find? video = some info → info.identity = proxy →
    info.sourceSdp ≠ ""

omit [DecidableEq Client] in
theorem Spent.of_former {service later : RtspService Client} {proxy : Nat}
    (spent : service.Spent proxy) (delivered : proxy ∉ later.pendingSdp)
    (grows : service.nextIdentity ≤ later.nextIdentity)
    (former : ∀ video info, later.proxies.find? video = some info →
      (∃ old, service.proxies.find? video = some old ∧ info.identity = old.identity ∧
        (old.sourceSdp ≠ "" → info.sourceSdp ≠ "")) ∨ info.identity = service.nextIdentity) :
    later.Spent proxy := by
  refine ⟨delivered, Nat.lt_of_lt_of_le spent.issued grows, ?_⟩
  intro video info located own
  rcases former video info located with ⟨old, found, same, keeps⟩ | new
  · exact keeps (spent.speaks video old found (same.symm.trans own))
  · have issued := spent.issued
    omega

theorem Spent.describe {service : RtspService Client} {proxy : Nat} (spent : service.Spent proxy)
    (client : Client) (uri : String) : (service.onDescribe client uri).service.Spent proxy := by
  refine spent.of_former ?_ (onDescribe_evolves service client uri).grows ?_
  · cases located : service.proxies.find? (VideoRequest.parseUrl uri) with
    | none =>
        rw [onDescribe_of_none located]
        exact spent.delivered
    | some found =>
        rw [onDescribe_pendingSdp client located]
        split_ifs with registers
        · -- A description registers a proxy that has no SDP yet.
          rw [List.mem_cons, not_or]
          refine ⟨?_, spent.delivered⟩
          intro own
          exact spent.speaks _ found located own.symm registers.1
        · exact spent.delivered
  · intro video info located
    obtain ⟨old, found, rfl⟩ := onDescribe_former located
    refine Or.inl ⟨old, found, ?_⟩
    split_ifs
    · exact ⟨old.identity_described client, by rw [ProxyInfo.sourceSdp_described]; exact id⟩
    · exact ⟨rfl, id⟩

theorem Spent.next {service : RtspService Client} {proxy : Nat} (spent : service.Spent proxy)
    {step : Step Client} (delivered : service.SdpDelivered step) :
    (machine.next service step).Spent proxy := by
  cases step with
  | describe client uri => exact spent.describe client uri
  | consumePkt | processError => exact ⟨spent.delivered, spent.issued, spent.speaks⟩
  | options client uri =>
      refine spent.of_former ?_ (onOptions_evolves service client uri).grows ?_
      · change proxy ∉ (service.onOptions client uri).service.pendingSdp
        rw [onOptions_pendingSdp]
        exact spent.delivered
      · intro video info located
        rcases onOptions_former located with ⟨old, found, rfl⟩ | ⟨_, rfl, _⟩
        · refine Or.inl ⟨old, found, ?_⟩
          split_ifs <;> exact ⟨rfl, id⟩
        · exact Or.inr rfl
  | play client uri npt =>
      refine spent.of_former ?_ (onPlay_evolves service client uri npt).grows ?_
      · change proxy ∉ (service.onPlay client uri npt).service.pendingSdp
        rw [(onPlay_unchanged service client uri npt).2]
        exact spent.delivered
      · intro video info located
        obtain ⟨old, found, rfl⟩ := onPlay_former located
        refine Or.inl ⟨old, found, ?_⟩
        unfold ProxyInfo.played
        split_ifs <;> exact ⟨rfl, id⟩
  | close client =>
      refine spent.of_former ?_ (close_evolves service client).grows ?_
      · change proxy ∉ (service.close client).service.pendingSdp
        rw [(close_unchanged service client).2]
        exact spent.delivered
      · intro video info located
        obtain ⟨old, found, rfl | ⟨leaves, _⟩⟩ := close_former located
        · exact Or.inl ⟨info, found, rfl, id⟩
        · refine Or.inl ⟨old, found, ?_, ?_⟩
          · obtain ⟨phase, _, leftEq, _⟩ := ProxyInfo.leave_eq_some leaves
            rw [leftEq, ProxyInfo.identity_eraseClient]
          · rw [ProxyInfo.sourceSdp_leave leaves]
            exact id
  | processSdp other sdp =>
      refine spent.of_former (fun member => spent.delivered (List.mem_of_mem_erase member))
        (Nat.le_refl _) ?_
      intro video info located
      obtain ⟨old, found, rfl⟩ := processSdp_former located
      refine Or.inl ⟨old, found, ?_⟩
      split_ifs
      · exact ⟨rfl, fun _ => delivered.1⟩
      · exact ⟨rfl, id⟩

theorem spent_of_processSdp {service : RtspService Client} {proxy : Nat} {sdp : String}
    (consistent : service.Consistent) (delivered : service.SdpDelivered (.processSdp proxy sdp)) :
    (machine.next service (.processSdp proxy sdp)).Spent proxy := by
  refine ⟨consistent.pendingNodup.not_mem_erase, consistent.pendingFresh proxy delivered.2, ?_⟩
  intro video info located own
  obtain ⟨old, found, rfl⟩ := processSdp_former located
  split_ifs at own ⊢ with same
  · exact delivered.1
  · exact absurd own same

end RtspService

end Ffvms.Concrete
